import ShardStore.Log.FieldValue
import ShardStore.Text.Alphanumeric
import ShardStore.Text.Spaces

/-!
# Log directives

The rules that a log filter is made of, and how one is written: a level; or a target, a span in brackets that may ask for
a field in braces, or both, with a level behind an equals sign.
-/

namespace ShardStore

/-! ## Rules -/

/-- A field that a directive asks for. -/
structure FieldDemand where
  name : String
  /-- Whether the field has to have a certain value. -/
  valued : Bool
deriving DecidableEq

/-- A rule of a filter. -/
structure Directive where
  /-- The beginning of the targets that it speaks about; empty for all targets. -/
  target : String := ""
  /-- The span inside which it holds. -/
  span : Option String := none
  field : Option FieldDemand := none
  /-- How much passes: events up to this verbosity. -/
  verbosity : Nat := 5
deriving DecidableEq

/-- Why a piece of a filter is no directive. -/
inductive DirectiveFault where
  /-- It is not built like one. -/
  | shape
  /-- What stands in the place of the level is none. -/
  | level
  /-- What is asked of a field is no pattern. -/
  | pattern (fault : PatternFault)
deriving DecidableEq

/-- Why a text is no pattern, in words. -/
def PatternFault.message : PatternFault → String
  | .malformed => "error building NFA"
  | .wordEdge =>
    "unsupported regex feature for DFAs: cannot build DFAs for regexes with Unicode word boundaries; switch to ASCII " ++
      "word boundaries, or heuristically enable Unicode word boundaries or use a different regex engine"

/-- Why a piece of a filter is no directive, in words. -/
def DirectiveFault.message : DirectiveFault → String
  | .shape => "invalid filter directive"
  | .level =>
    "error parsing level filter: expected one of \"off\", \"error\", \"warn\", \"info\", \"debug\", \"trace\", " ++
      "or a number 0-5"
  | .pattern fault => "invalid field filter: " ++ fault.message

/-! ## Levels -/

/-- The names of levels; the place of a name is its verbosity. -/
def verbosityNames : List String := ["off", "error", "warn", "info", "debug", "trace"]

/-- The verbosity that a word stands for: its name in any case, or its number. -/
def verbosityOf? (word : String) : Option Nat :=
  let digits := match word.toList with
    | '+' :: digits => digits
    | digits => digits
  if !digits.isEmpty && digits.all Char.isDigit then
    (digitsValue? 10 digits).filter (· < verbosityNames.length)
  else verbosityNames.idxOf? (word.map Char.toLower)

/-! ## Reading -/

namespace Directive

/-- The characters of a text, each with the number of bytes in front of it, which is `start` for the first. -/
def placed (start : Nat) : List Char → List (Nat × Char)
  | [] => []
  | c :: rest => (start, c) :: placed (start + c.utf8Size) rest

/-- The part of a text between two places, counted in bytes. -/
def slice (text : String) (start stop : Nat) : String :=
  (String.fromUTF8? (text.toUTF8.extract start stop)).getD ""

/-- The place of the next character, or the end of the text. -/
def nextPlace (text : String) (rest : List (Nat × Char)) : Nat := rest.head?.elim text.utf8ByteSize (·.1)

/-- Whether a directive can begin with a character, brackets apart. -/
def canBegin (c : Char) : Bool := c == '-' || c == ':' || c == '_' || isAlphanumeric c

/-- Reads the level behind everything else. Without one all events pass. -/
def readLevel (text : String) (d : Directive) : List (Nat × Char) → Except DirectiveFault Directive
  | [] => .ok d
  | (place, '=') :: _ =>
    let word := slice text (place + 1) text.utf8ByteSize
    if word.isEmpty then .ok d
    else match verbosityOf? word with
      | some verbosity => .ok { d with verbosity }
      | none => .error .level
  | _ => .error .shape

/-- Reads what is asked of a field: to be there, or to have the value behind an equals sign, up to the next one. -/
def readField (text : List Char) : Except DirectiveFault FieldDemand :=
  let name := text.takeWhile (· != '=')
  match text.drop name.length with
  | [] => if name.isEmpty then .error .shape else .ok ⟨String.ofList name, false⟩
  | _ :: rest =>
    match fieldValueFault? (rest.takeWhile (· != '=')) with
    | none => .ok ⟨String.ofList name, true⟩
    | some fault => .error (.pattern fault)

/-- Reads a span behind its opening bracket, and the level. -/
def readSpan (text : String) (d : Directive) (inside : List (Nat × Char)) : Except DirectiveFault Directive := do
  let after := inside.dropWhile fun (_, c) => c != ']' && c != '{'
  let span := slice text (nextPlace text inside) (nextPlace text after)
  match after with
  | (_, ']') :: rest => readLevel text { d with span := some span } rest
  | (_, '{') :: inside =>
    let after := inside.dropWhile fun (_, c) => c != '}'
    let field := slice text (nextPlace text inside) (nextPlace text after)
    match after with
    | (_, '}') :: rest =>
      let field ← readField field.toList
      match rest with
      | (_, ']') :: rest =>
        readLevel text { d with span := if span.isEmpty then none else some span, field := some field } rest
      | _ => throw .shape
    | _ => throw .shape
  | _ => throw .shape

/-- Reads a directive. A word alone is a level if it can be one, and else a target. The blanks around a directive are not
looked at, but its parts are taken from the text with the blanks in front, where they are so many bytes from the start:
such blanks become part of the first name, and move every other part. -/
def read (text : String) : Except DirectiveFault Directive :=
  match placed 0 (trimSpaces text.toList) with
  | [] => .error .shape
  | (_, '[') :: inside => readSpan text {} inside
  | (start, c) :: more =>
    if canBegin c then
      let rest := more.dropWhile fun (_, c) => c != '=' && c != '['
      let target := slice text start (nextPlace text rest)
      match rest with
      | [] =>
        match verbosityOf? target with
        | some verbosity => .ok { verbosity }
        | none => .ok { target }
      | (_, '[') :: inside => readSpan text { target } inside
      | rest => readLevel text { target } rest
    else .error .shape

end Directive

end ShardStore
