import ShardStore.Document.Name
import ShardStore.Document.Scalar.Block
import ShardStore.Document.Scalar.Plain
import ShardStore.Document.Scalar.Quoted

/-!
# Layout

Cutting a text into tokens. Indentation becomes tokens that start and end block collections. Whether a node is a key is
known only when the colon after it is met: until then its place among the tokens is remembered, and the colon puts the key
token, and the start of a block mapping if one starts there, in front of it.
-/

namespace ShardStore

/-- A node that may turn out to be a key. -/
structure KeyCandidate where
  /-- The number of tokens before the node. -/
  before : Nat
  pos : Position
  /-- Whether it stands where only a key may stand. -/
  required : Bool

/-- What was cut off so far, and what the next token depends on. -/
structure Layout where
  cursor : Cursor
  tokens : Array Token := #[]
  /-- The columns of the open block collections, innermost first. -/
  columns : List Nat := []
  /-- The candidate at the current level of brackets. -/
  candidate : Option KeyCandidate := none
  /-- The candidates at the levels around it, innermost first. -/
  outer : List (Option KeyCandidate) := []
  /-- Whether a key may start here. -/
  keyAllowed : Bool := true

namespace Layout

/-- Whether the cursor stands inside brackets. -/
def inFlow (s : Layout) : Bool := !s.outer.isEmpty

/-- The column that the lines of a scalar have to reach here: behind that of the innermost block. -/
def scalarIndent (s : Layout) : Nat := s.columns.head?.elim 0 (· + 1)

/-- Adds a token that ends where the cursor goes on. -/
def push (s : Layout) (kind : TokenKind) (cursor : Cursor) : Layout :=
  { s with cursor, tokens := s.tokens.push ⟨kind, s.cursor.pos, cursor.pos⟩ }

/-- Adds a token without characters. -/
def mark (s : Layout) (kind : TokenKind) : Layout := s.push kind s.cursor

/-- Refuses the text here. -/
def fail {α : Type} (s : Layout) : Except Malformed α := s.cursor.fail

/-! ## Keys -/

/-- Gives up the candidate; one that had to become a key is an error. -/
def dropCandidate (s : Layout) : Except Malformed Layout :=
  if s.candidate.any (·.required) then s.fail else .ok { s with candidate := none }

/-- Makes the node that starts here a candidate where keys are allowed. -/
def noteCandidate (s : Layout) : Except Malformed Layout :=
  if s.keyAllowed then do
    let s ← s.dropCandidate
    let required := !s.inFlow && s.columns.head? == some s.cursor.pos.column
    return { s with candidate := some ⟨s.tokens.size, s.cursor.pos, required⟩ }
  else .ok s

/-- Whether a candidate is too far back to become a key: on an earlier line, or more than 1024 bytes away. -/
def isStale (s : Layout) (k : KeyCandidate) : Bool :=
  k.pos.line < s.cursor.pos.line || k.pos.offset + 1024 < s.cursor.pos.offset

/-- Gives up the candidates of all levels that are too far back. -/
def dropStale (s : Layout) : Except Malformed Layout := do
  let fresh (k : Option KeyCandidate) : Except Malformed (Option KeyCandidate) :=
    match k with
    | some k => if s.isStale k then (if k.required then s.fail else .ok none) else .ok (some k)
    | none => .ok none
  let outer ← s.outer.mapM fresh
  let candidate ← fresh s.candidate
  return { s with outer, candidate }

/-! ## Indentation -/

/-- Opens a block collection at a column, unless one is open there. -/
def openBlock (s : Layout) (kind : TokenKind) (column : Nat) : Layout :=
  if s.inFlow || s.columns.head?.any (column ≤ ·) then s
  else { s.mark kind with columns := column :: s.columns }

/-- Closes block collections, innermost first, as long as their columns are behind the given one (all of them where none
is given). -/
def closeBlocks (s : Layout) (column : Option Nat) : Layout :=
  if s.inFlow then s
  else
    let closed := s.columns.takeWhile fun opened => column.all (· < opened)
    let ends := closed.map fun _ => ⟨TokenKind.blockEnd, s.cursor.pos, s.cursor.pos⟩
    { s with columns := s.columns.drop closed.length, tokens := s.tokens ++ ends.toArray }

/-! ## What stands between tokens -/

/-- Skips blanks, comments and line breaks. A tab may not stand where a key may. A byte order mark at the start of a line
takes up a column. -/
def skipToToken (s : Layout) : Except Malformed Layout := do
  let (keyAllowed, cursor) ← s.cursor.loop s.keyAllowed fun keyAllowed c =>
    let c := if c.pos.column = 0 && c.nextIs (· == '\ufeff') then c.skip 1 else c
    let c := c.skipWhile fun b => b == ' ' || (b == '\t' && (s.inFlow || !keyAllowed))
    let c := if c.nextIs (· == '#') then c.skipLine else c
    match c.takeBreak? with
    | some (_, c) => .ok (.more (keyAllowed || !s.inFlow) c)
    | none => .ok (.done keyAllowed c)
  return { s with cursor, keyAllowed }

/-! ## Single tokens -/

/-- Ends everything open and adds a token that stands outside all blocks. -/
def outsideBlocks (s : Layout) (kind : TokenKind) (cursor : Cursor) : Except Malformed Layout := do
  let s ← (s.closeBlocks none).dropCandidate
  return { s with keyAllowed := false }.push kind cursor

/-- Opens a bracket, which may itself start a key. -/
def openFlow (s : Layout) (kind : TokenKind) : Except Malformed Layout := do
  let s ← s.noteCandidate
  return { s with outer := s.candidate :: s.outer, candidate := none, keyAllowed := true }.push kind (s.cursor.skip 1)

/-- Closes a bracket. -/
def closeFlow (s : Layout) (kind : TokenKind) : Except Malformed Layout := do
  let s ← s.dropCandidate
  let s := match s.outer with
    | candidate :: outer => { s with candidate, outer }
    | [] => s
  return { s with keyAllowed := false }.push kind (s.cursor.skip 1)

/-- A comma between the items of a bracketed collection. -/
def addComma (s : Layout) : Except Malformed Layout := do
  let s ← s.dropCandidate
  return { s with keyAllowed := true }.push .comma (s.cursor.skip 1)

/-- A dash in front of an item. -/
def addEntry (s : Layout) : Except Malformed Layout := do
  if !s.inFlow && !s.keyAllowed then s.fail
  else
    let s ← (s.openBlock .blockSequence s.cursor.pos.column).dropCandidate
    return { s with keyAllowed := true }.push .entry (s.cursor.skip 1)

/-- A question mark in front of a key. -/
def addKey (s : Layout) : Except Malformed Layout := do
  if !s.inFlow && !s.keyAllowed then s.fail
  else
    let s ← (s.openBlock .blockMapping s.cursor.pos.column).dropCandidate
    return { s with keyAllowed := !s.inFlow }.push .key (s.cursor.skip 1)

/-- A colon in front of a value. The candidate before it becomes a key. -/
def addValue (s : Layout) : Except Malformed Layout :=
  match s.candidate with
  | some k =>
    let place (kind : TokenKind) : Token := ⟨kind, k.pos, k.pos⟩
    let opens := !s.inFlow && !s.columns.head?.any (k.pos.column ≤ ·)
    let keyed := s.tokens.insertIdxIfInBounds k.before (place .key)
    let tokens := if opens then keyed.insertIdxIfInBounds k.before (place .blockMapping) else keyed
    let columns := if opens then k.pos.column :: s.columns else s.columns
    .ok ({ s with tokens, columns, candidate := none, keyAllowed := false }.push .value (s.cursor.skip 1))
  | none =>
    if s.inFlow then .ok ({ s with keyAllowed := false }.push .value (s.cursor.skip 1))
    else if !s.keyAllowed then s.fail
    else .ok ((s.openBlock .blockMapping s.cursor.pos.column).push .value (s.cursor.skip 1))

/-- A token that may be, or begin, a key. -/
def addNode (s : Layout) (read : Except Malformed (TokenKind × Cursor)) : Except Malformed Layout := do
  let s ← s.noteCandidate
  let (kind, cursor) ← read
  return { s with keyAllowed := false }.push kind cursor

/-- A plain scalar. A line break behind it makes room for a key. -/
def addPlain (s : Layout) : Except Malformed Layout := do
  let s ← s.noteCandidate
  let ((text, broken), cursor) ← s.cursor.takePlain s.inFlow s.scalarIndent
  return { s with keyAllowed := broken }.push (.scalar .plain text) cursor

/-- A block scalar. -/
def addBlockScalar (s : Layout) (style : ScalarStyle) : Except Malformed Layout := do
  let s ← s.dropCandidate
  let (text, cursor) ← (s.cursor.skip 1).takeBlock style s.columns.head?
  return { s with keyAllowed := true }.push (.scalar style text) cursor

/-- Whether a plain scalar can start with these characters. -/
def startsPlain (inFlow : Bool) : List Char → Bool
  | [] => false
  | c :: after =>
    !(isBlank c || isBreak c || "-?:,[]{}#&*!|>'\"%@\x60".toList.contains c)
      || (c == '-' && !after.head?.any isBlank)
      || (!inFlow && (c == '?' || c == ':') && !wordEnds after)

/-- Cuts off the next token. Answers whether there are more. -/
def next (s : Layout) : Except Malformed (Bool × Layout) := do
  let s ← (← s.skipToToken).dropStale
  let s := s.closeBlocks (some s.cursor.pos.column)
  let c := s.cursor
  match c.rest with
  | [] =>
    let newLine : Position := if c.pos.column = 0 then c.pos else { c.pos with line := c.pos.line + 1, column := 0 }
    let s ← { s with cursor := { c with pos := newLine } }.outsideBlocks .finish { c with pos := newLine }
    return (false, s)
  | char :: after =>
    let quoted (style : ScalarStyle) : Except Malformed (TokenKind × Cursor) := do
      let (text, c) ← c.takeQuoted char
      return (.scalar style text, c)
    let named (kind : String → TokenKind) : Except Malformed (TokenKind × Cursor) := do
      let (name, c) ← c.takeAnchorName
      return (kind name, c)
    let s ←
      if char == '%' && c.pos.column = 0 then do
        let s ← (s.closeBlocks none).dropCandidate
        let (kind, cursor) ← c.takeDirective
        pure ({ s with keyAllowed := false }.push kind cursor)
      else if c.atDocumentMark then
        s.outsideBlocks (if char == '-' then .documentStart else .documentEnd) (c.skip 3)
      else if char == '[' then s.openFlow .openBracket
      else if char == '{' then s.openFlow .openBrace
      else if char == ']' then s.closeFlow .closeBracket
      else if char == '}' then s.closeFlow .closeBrace
      else if char == ',' then s.addComma
      else if char == '-' && wordEnds after then s.addEntry
      else if char == '?' && (s.inFlow || wordEnds after) then s.addKey
      else if char == ':' && (s.inFlow || wordEnds after) then s.addValue
      else if char == '*' then s.addNode (named .alias)
      else if char == '&' then s.addNode (named .anchor)
      else if char == '!' then s.addNode (c.takeTag s.inFlow)
      else if char == '|' && !s.inFlow then s.addBlockScalar .literal
      else if char == '>' && !s.inFlow then s.addBlockScalar .folded
      else if char == '\'' then s.addNode (quoted .singleQuoted)
      else if char == '"' then s.addNode (quoted .doubleQuoted)
      else if startsPlain s.inFlow c.rest then s.addPlain
      else s.fail
    return (true, s)

/-- Cuts off tokens until there are no more, at most `fuel` of them. -/
def runAll : Nat → Layout → Except Malformed (List Token)
  | 0, s => s.fail
  | fuel + 1, s => do
    let (more, s) ← s.next
    if more then runAll fuel s else return s.tokens.toList

end Layout

/-- The characters that a document may hold. -/
def isDocumentChar (c : Char) : Bool :=
  c == '\t' || c == '\n' || c == '\r' || c == '\u0085' || (' ' ≤ c && c ≤ '~') ||
    (0xa0 ≤ c.toNat && c.toNat ≤ 0xfffd) || 0x10000 ≤ c.toNat

/-- Cuts a text into tokens. -/
def Token.ofText (text : String) : Except Malformed (List Token) :=
  let chars := text.toList
  match chars.findIdx? (!isDocumentChar ·) with
  | some index => .error ⟨⟨byteCount (chars.take index), 0, index⟩⟩
  | none => Layout.runAll (chars.length + 1) { cursor := .start chars }

end ShardStore
