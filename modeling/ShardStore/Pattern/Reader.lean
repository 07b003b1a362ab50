import ShardStore.Pattern.Escape
import ShardStore.Text.Alphanumeric

/-!
# Reading a pattern

A pattern as its tokens. What a character means depends on the sets that are open, and on whether blanks are skipped, which
a group can change for its inside or for the rest of itself.
-/

namespace ShardStore

/-! ## Groups -/

/-- Whether a character can be in the name of a group, behind the first one. -/
def isGroupNameSign (c : Char) : Bool := "_.[]".toList.contains c || isAlphanumeric c

/-- Reads the name of a group and the angle bracket behind it. -/
def readGroupName (text : List Char) : Option (PatternToken × List Char) :=
  let name := text.takeWhile (· != '>')
  match name, text.drop name.length with
  | first :: more, _ :: rest =>
    if (first == '_' || isAlphabetic first) && more.all isGroupNameSign then
      some (.openGroup (String.ofList name) {}, rest)
    else none
  | _, _ => none

/-- Reads a change of switches: for a group that begins behind a colon, or for the rest of the one around it, up to the
closing parenthesis. That needs something to change. -/
def readSwitches (text : List Char) : Option (PatternToken × List Char) := do
  let signs := text.takeWhile fun c => c != ':' && c != ')'
  let change ← SwitchChange.ofSigns? signs
  match text.drop signs.length with
  | ':' :: rest => return (.openGroup none change, rest)
  | ')' :: rest => if signs.isEmpty then none else return (.switch change, rest)
  | _ => none

/-- Reads the start of a group behind its parenthesis. What looks ahead or back cannot be read. -/
def readGroupStart (spaced : Bool) (text : List Char) : Option (PatternToken × List Char) :=
  match skipGap spaced text with
  | '?' :: 'P' :: '<' :: rest => readGroupName rest
  | '?' :: '<' :: rest => readGroupName rest
  | '?' :: rest => readSwitches rest
  | rest => some (.openGroup none {}, rest)

/-! ## Sets -/

/-- The names of sets. -/
def setNames : List String :=
  ["alnum", "alpha", "ascii", "blank", "cntrl", "digit", "graph", "lower", "print", "punct", "space", "upper", "word",
    "xdigit"]

/-- Reads a named set behind its bracket: a name between colons and a bracket. A caret in front negates it. -/
def readNamedSet : List Char → Option (PatternToken × List Char)
  | ':' :: text =>
    let (negated, text) := match text with
      | '^' :: rest => (true, rest)
      | _ => (false, text)
    let name := text.takeWhile (· != ':')
    match text.drop name.length with
    | ':' :: ']' :: rest =>
      if setNames.contains (String.ofList name) then some (.namedSet negated, rest) else none
    | _ => none
  | _ => none

/-- Reads a member of a set, or an end of a range. -/
def readMemberAtom (spaced : Bool) : List Char → Option (PatternAtom × List Char)
  | [] => none
  | '\\' :: rest => readEscape spaced rest
  | c :: rest => some (.char c false, rest)

/-- The character that decides whether a dash in front of it makes a range. Where blanks are skipped it is the one behind
the blanks and one hash sign among them; if nothing is there it is the one behind the dash. -/
def rangeSign (spaced : Bool) (text : List Char) : Option Char :=
  let behind := text.dropWhile isSpace
  let behind := match behind with
    | '#' :: rest => rest.dropWhile isSpace
    | _ => behind
  if spaced then behind.head?.or text.head? else text.head?

/-- Whether an atom can be a member of a set. -/
def PatternAtom.isMember : PatternAtom → Bool
  | .edge _ => false
  | _ => true

/-- Whether two atoms are the ends of a range. -/
def PatternAtom.isRange : PatternAtom → PatternAtom → Bool
  | .char first _, .char last _ => first ≤ last
  | _, _ => false

/-- Reads a member of a set, or a range. -/
def readMember (spaced : Bool) (text : List Char) : Option (PatternToken × List Char) := do
  let (first, rest) ← readMemberAtom spaced text
  match skipGap spaced rest with
  | '-' :: behind =>
    if [some ']', some '-'].contains (rangeSign spaced behind) then
      if first.isMember then return (.member first, '-' :: behind) else none
    else
      let (last, rest) ← readMemberAtom spaced (skipGap spaced behind)
      if first.isRange last then return (.range first last, rest) else none
  | rest => if first.isMember then return (.member first, rest) else none

/-! ## Tokens -/

/-- What was read of the set that is open. -/
inductive SetPlace where
  /-- Nothing: a dash or a closing bracket is a member. -/
  | start
  /-- Dashes only: one more is a member. -/
  | dashes
  | inside
deriving DecidableEq

/-- What the meaning of the next character depends on. -/
structure PatternPlace where
  /-- Whether blanks are skipped. -/
  spaced : Bool := false
  /-- Whether blanks are skipped in the groups around, the innermost first. -/
  around : List Bool := []
  /-- The number of open sets. -/
  sets : Nat := 0
  set : SetPlace := .inside

namespace PatternPlace

/-- Reads the start of a set behind its bracket. -/
def openSet (p : PatternPlace) (text : List Char) : PatternToken × PatternPlace × List Char :=
  let p := { p with sets := p.sets + 1, set := .start }
  match skipGap p.spaced text with
  | '^' :: rest => (.openSet true, p, rest)
  | rest => (.openSet false, p, rest)

/-- Reads a token inside of a set. -/
def readInSet (p : PatternPlace) (text : List Char) : Option (PatternToken × PatternPlace × List Char) :=
  let inside := { p with set := .inside }
  match p.set, text with
  | .start, '-' :: rest | .dashes, '-' :: rest => some (.member (.char '-' false), { p with set := .dashes }, rest)
  | .start, ']' :: rest => some (.member (.char ']' false), inside, rest)
  | _, '[' :: rest =>
    match readNamedSet rest with
    | some (token, rest) => some (token, inside, rest)
    | none => some (inside.openSet rest)
  | _, ']' :: rest => some (.closeSet, { inside with sets := p.sets - 1 }, rest)
  | _, '&' :: '&' :: rest | _, '-' :: '-' :: rest | _, '~' :: '~' :: rest => some (.setOperator, inside, rest)
  | _, text => (readMember p.spaced text).map fun (token, rest) => (token, inside, rest)

/-- Reads a token outside of sets. A brace would count repetitions, which would need a closing brace. -/
def readOutside (p : PatternPlace) (text : List Char) : Option (PatternToken × PatternPlace × List Char) :=
  match text with
  | '(' :: rest => do
    let (token, rest) ← readGroupStart p.spaced rest
    let p := match token with
      | .openGroup _ change => { p with spaced := change.apply 'x' p.spaced, around := p.spaced :: p.around }
      | .switch change => { p with spaced := change.apply 'x' p.spaced }
      | _ => p
    return (token, p, rest)
  | ')' :: rest => some (.closeGroup, { p with spaced := p.around.headD p.spaced, around := p.around.tail }, rest)
  | '|' :: rest => some (.either, p, rest)
  | '[' :: rest => some (p.openSet rest)
  | '\\' :: rest => (readEscape p.spaced rest).map fun (a, rest) => (.atom a, p, rest)
  | '{' :: _ => none
  | c :: rest =>
    if "*+?".toList.contains c then some (.repetition, p, if rest.head? == some '?' then rest.tail else rest)
    else if c == '.' then some (.atom .any, p, rest)
    else if c == '^' || c == '$' then some (.atom (.edge false), p, rest)
    else some (.atom (.char c false), p, rest)
  | [] => none

/-- Reads tokens up to the end of a text, where no set may be open; at most one for each of the characters `bound`. -/
def readAll (p : PatternPlace) : List Char → List Char → Option (List PatternToken)
  | [], _ => none
  | _ :: bound, text =>
    match skipGap p.spaced text with
    | [] => if p.sets = 0 then some [] else none
    | text => do
      let (token, p, rest) ← if p.sets = 0 then p.readOutside text else p.readInSet text
      return token :: (← p.readAll bound rest)

end PatternPlace

/-- The tokens of a pattern. Every token takes a character, so one step more than there are characters is enough. -/
def patternTokens? (text : List Char) : Option (List PatternToken) := PatternPlace.readAll {} (' ' :: text) text

end ShardStore
