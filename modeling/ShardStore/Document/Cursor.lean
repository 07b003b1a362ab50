/-!
# Places in a text

A cursor is what is left to read of a text together with its place: how many bytes are before it, and its line and
column. Loops over a text are runs of single steps, bounded by the number of characters that are left.
-/

namespace ShardStore

/-- A place in a text. Everything is counted from zero. -/
structure Position where
  /-- The number of bytes in front of it. -/
  offset : Nat
  line : Nat
  /-- The number of characters in front of it on its line. -/
  column : Nat
deriving DecidableEq, Inhabited

/-- A text is no document; `place` is where that was noticed. -/
structure Malformed where
  place : Position
deriving DecidableEq

/-- What is left of a text, and where that is. -/
structure Cursor where
  rest : List Char
  pos : Position

/-- Spaces and tabs. -/
def isBlank (c : Char) : Bool := c == ' ' || c == '\t'

/-- The characters that end a line. -/
def isBreak (c : Char) : Bool :=
  c == '\n' || c == '\r' || c == '\u0085' || c == '\u2028' || c == '\u2029'

/-- The characters of names: letters, digits, `_` and `-`. -/
def isNameChar (c : Char) : Bool := c.isAlphanum || c == '_' || c == '-'

/-- Whether a line ends here. -/
def lineEnds : List Char → Bool
  | [] => true
  | c :: _ => isBreak c

/-- Whether a word ends here: before a blank, a line break or the end. -/
def wordEnds : List Char → Bool
  | [] => true
  | c :: _ => isBlank c || isBreak c

/-- How many bytes characters take. -/
def byteCount (chars : List Char) : Nat := chars.foldl (fun n c => n + c.utf8Size) 0

namespace Cursor

/-- The start of a text. -/
def start (text : List Char) : Cursor := ⟨text, ⟨0, 0, 0⟩⟩

/-- Whether the next character is of some kind. -/
def nextIs (c : Cursor) (p : Char → Bool) : Bool := c.rest.head?.any p

/-- Skips characters of the current line. -/
def skip (c : Cursor) (n : Nat) : Cursor :=
  ⟨c.rest.drop n, { c.pos with offset := c.pos.offset + byteCount (c.rest.take n), column := c.pos.column + n }⟩

/-- The longest run of characters of some kind, all on the current line, and what follows it. -/
def takeWhile (c : Cursor) (p : Char → Bool) : List Char × Cursor :=
  let run := c.rest.takeWhile p
  (run, c.skip run.length)

/-- Skips a run of characters of some kind. -/
def skipWhile (c : Cursor) (p : Char → Bool) : Cursor := (c.takeWhile p).2

/-- Skips to the end of the line. -/
def skipLine (c : Cursor) : Cursor := c.skipWhile (!isBreak ·)

/-- Goes past a line break of so many characters. -/
private def nextLine (c : Cursor) (width : Nat) : Cursor :=
  ⟨c.rest.drop width, ⟨c.pos.offset + byteCount (c.rest.take width), c.pos.line + 1, 0⟩⟩

/-- Reads a line break. All kinds read as a newline but for the two separators, which stand for themselves. -/
def takeBreak? (c : Cursor) : Option (Char × Cursor) :=
  match c.rest with
  | '\r' :: '\n' :: _ => some ('\n', c.nextLine 2)
  | b :: _ =>
    if b == '\u2028' || b == '\u2029' then some (b, c.nextLine 1)
    else if isBreak b then some ('\n', c.nextLine 1)
    else none
  | [] => none

/-- Skips a line break, if there is one. -/
def skipBreak (c : Cursor) : Cursor := c.takeBreak?.elim c Prod.snd

/-- Whether a line that marks the start or the end of a document begins here. -/
def atDocumentMark (c : Cursor) : Bool :=
  c.pos.column == 0 &&
    match c.rest with
    | '-' :: '-' :: '-' :: after => wordEnds after
    | '.' :: '.' :: '.' :: after => wordEnds after
    | _ => false

/-- Refuses the text here. -/
def fail {α : Type} (c : Cursor) : Except Malformed α := .error ⟨c.pos⟩

/-- The outcome of one step of a loop: a state to go on with, or a result. -/
inductive Step (σ α : Type) where
  | more (state : σ) (c : Cursor)
  | done (result : α) (c : Cursor)

/-- Repeats a step until it is done, at most once for each of the characters `bound`. -/
def repeatStep {σ α : Type} (step : σ → Cursor → Except Malformed (Step σ α)) :
    List Char → σ → Cursor → Except Malformed (α × Cursor)
  | [], _, c => c.fail
  | _ :: bound, state, c =>
    match step state c with
    | .error e => .error e
    | .ok (.more state c) => repeatStep step bound state c
    | .ok (.done result c) => .ok (result, c)

/-- Repeats a step until it is done. Every step but the last reads a character, so one step more than there are characters
left is enough. -/
def loop {σ α : Type} (c : Cursor) (state : σ) (step : σ → Cursor → Except Malformed (Step σ α)) :
    Except Malformed (α × Cursor) :=
  repeatStep step (' ' :: c.rest) state c

end Cursor

end ShardStore
