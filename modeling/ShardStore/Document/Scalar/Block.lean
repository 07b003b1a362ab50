import ShardStore.Document.Cursor
import ShardStore.Document.Token

/-!
# Block scalars

Scalars written as indented lines below a header. The header gives the style, what becomes of the line breaks at the end,
and perhaps the indentation; without it the first line with text decides. Folded lines are joined by a space unless one
of them starts with a blank.
-/

namespace ShardStore

/-- What becomes of the line breaks at the end of a block scalar. -/
inductive Chomping where
  /-- All are dropped. -/
  | strip
  /-- The first stays. -/
  | clip
  /-- All stay. -/
  | keep
deriving DecidableEq

/-- The header of a block scalar. -/
structure BlockHeader where
  chomping : Chomping := .clip
  /-- How much deeper than their parent the lines are indented, where that is given. -/
  increment : Option Nat := none

/-- The chomping that an indicator stands for. -/
private def chompingOf? : Char → Option Chomping
  | '-' => some .strip
  | '+' => some .keep
  | _ => none

/-- Reads the indicators of a header, in either order. An indentation of zero is refused. -/
def Cursor.takeIndicators (c : Cursor) : Except Malformed (BlockHeader × Cursor) :=
  let depth (c : Cursor) : Except Malformed (Option Nat × Cursor) :=
    match c.rest with
    | d :: _ =>
      if d == '0' then c.fail
      else if d.isDigit then .ok (some (d.toNat - '0'.toNat), c.skip 1)
      else .ok (none, c)
    | [] => .ok (none, c)
  match c.rest.head?.bind chompingOf? with
  | some chomping => do
    let (increment, c) ← depth (c.skip 1)
    return ({ chomping, increment }, c)
  | none => do
    let (increment, c) ← depth c
    match increment, c.rest.head?.bind chompingOf? with
    | some _, some chomping => return ({ chomping, increment }, c.skip 1)
    | _, _ => return ({ increment }, c)

/-- Reads a header with the comment behind it, and the line break. -/
def Cursor.takeBlockHeader (c : Cursor) : Except Malformed (BlockHeader × Cursor) := do
  let (header, c) ← c.takeIndicators
  let c := c.skipWhile isBlank
  let c := if c.nextIs (· == '#') then c.skipLine else c
  if lineEnds c.rest then return (header, c.skipBreak) else c.fail

/-- Blank lines in front of a line of a block scalar. -/
structure BlankLines where
  breaks : List Char := []
  /-- The deepest column that their blanks reach. -/
  deepest : Nat := 0

/-- Skips indentation up to the column `indent` (as far as it goes where none is given) and reads the line breaks in it. A
tab may not be part of it. -/
def Cursor.takeBlankLines (c : Cursor) (indent : Option Nat) : Except Malformed (BlankLines × Cursor) :=
  c.loop ({} : BlankLines) fun read c =>
    let spaces := (c.rest.takeWhile (· == ' ')).length
    let c := c.skip (indent.elim spaces fun column => min spaces (column - c.pos.column))
    let read := { read with deepest := max read.deepest c.pos.column }
    if c.nextIs (· == '\t') && indent.all (c.pos.column < ·) then c.fail
    else
      match c.takeBreak? with
      | some (b, c) => .ok (.more { read with breaks := read.breaks ++ [b] } c)
      | none => .ok (.done read c)

/-- A block scalar as far as it was read. -/
structure BlockSoFar where
  text : String := ""
  /-- The break that ended the last line. -/
  lineBreak : List Char := []
  /-- The blank lines after it. -/
  blankLines : BlankLines
  /-- Whether the last line began with a blank. -/
  afterBlank : Bool := false

/-- The text of a block scalar with one more line; the line break before it may be folded into a space. -/
def BlockSoFar.append (read : BlockSoFar) (style : ScalarStyle) (line : List Char) : String :=
  let beforeBlank := line.head?.any isBlank
  let joint :=
    if style == .folded && read.lineBreak == ['\n'] && !read.afterBlank && !beforeBlank then
      if read.blankLines.breaks.isEmpty then [' '] else []
    else read.lineBreak
  read.text ++ String.ofList (joint ++ read.blankLines.breaks ++ line)

/-- The whole text, with the line breaks at the end as the header wants them. -/
def BlockSoFar.finish (read : BlockSoFar) (chomping : Chomping) : String :=
  match chomping with
  | .strip => read.text
  | .clip => read.text ++ String.ofList read.lineBreak
  | .keep => read.text ++ String.ofList (read.lineBreak ++ read.blankLines.breaks)

/-- Reads a block scalar; the cursor stands behind its first character. `parent` is the column of the block around it, if
there is one. -/
def Cursor.takeBlock (c : Cursor) (style : ScalarStyle) (parent : Option Nat) :
    Except Malformed (String × Cursor) := do
  let (header, c) ← c.takeBlockHeader
  let given := header.increment.map (parent.getD 0 + ·)
  let (blankLines, c) ← c.takeBlankLines given
  let indent := given.getD (max 1 (max blankLines.deepest (parent.elim 0 (· + 1))))
  c.loop { blankLines : BlockSoFar } fun read c =>
    if c.pos.column ≠ indent || c.rest.isEmpty then
      return .done (read.finish header.chomping) c
    else do
      let (line, c) := c.takeWhile (!isBreak ·)
      let lineBreak := (c.takeBreak?.map (·.1)).toList
      let (blankLines, c) ← c.skipBreak.takeBlankLines (some indent)
      let read : BlockSoFar :=
        { text := read.append style line, lineBreak, blankLines, afterBlank := line.head?.any isBlank }
      return .more read c

end ShardStore
