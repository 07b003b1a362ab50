import ShardStore.Document.Scalar.Folding
import ShardStore.Document.Token

/-!
# Plain scalars

Scalars without quotes. They end before a comment, before a colon that ends a word and, inside brackets, before any
bracket or comma; in a block they may go on over lines that are indented deeper than their parent.
-/

namespace ShardStore

/-- The characters that end a plain scalar inside brackets. -/
def isFlowIndicator (c : Char) : Bool := c == ',' || c == '[' || c == ']' || c == '{' || c == '}'

/-- Whether a plain scalar ends before these characters; inside brackets some colons are not allowed. -/
def plainEnds (inFlow : Bool) : List Char → Option Bool
  | [] => some true
  | c :: after =>
    if isBlank c || isBreak c then some true
    else if inFlow && c == ':' && after.head?.any (fun n => isFlowIndicator n || n == '?') then none
    else some ((c == ':' && wordEnds after) || (inFlow && isFlowIndicator c))

/-- Reads a word of a plain scalar. -/
def Cursor.takePlainWord (c : Cursor) (inFlow : Bool) : Except Malformed (List Char × Cursor) :=
  c.loop [] fun word c =>
    match c.rest, plainEnds inFlow c.rest with
    | char :: _, some false => .ok (.more (char :: word) (c.skip 1))
    | _, some _ => .ok (.done word.reverse c)
    | _, none => c.fail

/-- A plain scalar as far as it was read. -/
structure PlainSoFar where
  text : String := ""
  /-- The gap behind the text. -/
  gap : Gap := {}

/-- Reads a plain scalar whose lines after the first are indented to the column `indent`. Answers also whether a line
break follows it. -/
def Cursor.takePlain (c : Cursor) (inFlow : Bool) (indent : Nat) : Except Malformed ((String × Bool) × Cursor) :=
  c.loop ({} : PlainSoFar) fun read c =>
    let result (read : PlainSoFar) : String × Bool := (read.text, read.gap.broken)
    if c.atDocumentMark || c.nextIs (· == '#') then .ok (.done (result read) c)
    else do
      let (word, c) ← c.takePlainWord inFlow
      if word.isEmpty then return .done (result read) c
      let (gap, after) ← c.takeGap {} indent
      let read : PlainSoFar := { text := read.text ++ String.ofList (read.gap.text ++ word), gap }
      if after.pos.offset = c.pos.offset || (!inFlow && after.pos.column < indent) then
        return .done (result read) after
      return .more read after

end ShardStore
