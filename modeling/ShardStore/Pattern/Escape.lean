import ShardStore.Pattern.Token
import ShardStore.Text.Escape
import ShardStore.Text.Spaces

/-!
# Escapes in a pattern

What can stand behind a backslash, and the blanks that a pattern may have between its parts.
-/

namespace ShardStore

/-! ## Blanks -/

/-- What follows the blanks and comments in front. A comment goes from a hash sign to the end of its line. -/
def skipSpaces (inComment : Bool) : List Char → List Char
  | [] => []
  | c :: rest =>
    if inComment then skipSpaces (c != '\n') rest
    else if c == '#' then skipSpaces true rest
    else if isSpace c then skipSpaces false rest
    else c :: rest

/-- What follows the blanks in front, where blanks are skipped. -/
def skipGap (spaced : Bool) (text : List Char) : List Char := if spaced then skipSpaces false text else text

/-! ## Escapes -/

/-- The control characters that have a letter. -/
def controlLetters : List (Char × Char) :=
  [('a', '\x07'), ('f', '\x0c'), ('t', '\t'), ('n', '\n'), ('r', '\r'), ('v', '\x0b')]

/-- Reads so many digits behind the digits of `number`, with blanks in front of each where blanks are skipped. -/
def readCode (spaced : Bool) : Nat → Nat → List Char → Option (Nat × List Char)
  | 0, number, text => some (number, text)
  | more + 1, number, text =>
    match skipGap spaced text with
    | [] => none
    | c :: rest => do readCode spaced more (number * 16 + (← digitValue? c)) rest

/-- Reads what stands behind a backslash: a character by its number, a class, a place, a control character, or a sign that
stands for itself. A brace behind the edge of a word would name a kind of edge, which would need a closing brace. -/
def readEscape (spaced : Bool) : List Char → Option (PatternAtom × List Char)
  | [] => none
  | c :: rest =>
    match escapeWidth? c, controlLetters.lookup c with
    | some width, _ => do
      let (number, rest) ← readCode spaced width 0 rest
      return (.char (← charOfNumber? number) (width == 2), rest)
    | none, some control => some (.char control false, rest)
    | none, none =>
      if "dsw".toList.contains c then some (.kind false, rest)
      else if "DSW".toList.contains c then some (.kind true, rest)
      else if "Az".toList.contains c then some (.edge false, rest)
      else if c == 'b' && rest.head? == some '{' then none
      else if "bB<>".toList.contains c then some (.edge true, rest)
      else if c.toNat < 128 && !c.isAlphanum then some (.char c false, rest)
      else none

end ShardStore
