import ShardStore.Document.Token
import ShardStore.Text.Digits

/-!
# Names in a document

Anchors and aliases, tags, and the directives in front of a document, which say what tag handles stand for.
-/

namespace ShardStore

/-! ## Anchors and aliases -/

/-- Reads the name of an anchor or an alias; the cursor stands on its first character, `&` or `*`. -/
def Cursor.takeAnchorName (c : Cursor) : Except Malformed (String × Cursor) :=
  let (name, c) := (c.skip 1).takeWhile isNameChar
  if name.isEmpty then c.fail
  else if wordEnds c.rest || c.nextIs ['?', ':', ',', ']', '}', '%', '@', '`'].contains then .ok (String.ofList name, c)
  else c.fail

/-! ## Tags -/

/-- The characters of tags apart from those of names, and from the brackets and the comma, which need `<>` around them. -/
def isTagSign (c : Char) : Bool := ";/?:@&=+$.%!~*'()".toList.contains c

/-- How many bytes the character that starts with this byte takes, and what the byte adds to its number. -/
def leadByte? (b : Nat) : Option (Nat × Nat) :=
  if b < 0x80 then some (1, b)
  else if 0xc0 ≤ b && b < 0xe0 then some (2, b % 0x20)
  else if 0xe0 ≤ b && b < 0xf0 then some (3, b % 0x10)
  else if 0xf0 ≤ b && b < 0xf8 then some (4, b % 0x08)
  else none

/-- Reads a byte written as a percent sign and two digits. -/
def Cursor.takePercentByte (c : Cursor) : Except Malformed (Nat × Cursor) :=
  match c.rest with
  | '%' :: high :: low :: _ =>
    match digitsValue? 16 [high, low] with
    | some b => .ok (b, c.skip 3)
    | none => c.fail
  | _ => c.fail

/-- Reads a character written as percent bytes. One that was written in too many bytes, or that does not exist, is
replaced. -/
def Cursor.takePercentChar (c : Cursor) : Except Malformed (Char × Cursor) := do
  let (first, c) ← c.takePercentByte
  match leadByte? first with
  | none => c.fail
  | some (width, start) =>
    let (number, c) ← followers (width - 1) start c
    let least := [0, 0, 0x80, 0x800, 0x10000].getD width 0
    return (if least ≤ number && number.isValidChar then Char.ofNat number else '\ufffd', c)
where
  followers : Nat → Nat → Cursor → Except Malformed (Nat × Cursor)
    | 0, number, c => .ok (number, c)
    | more + 1, number, c => do
      let (b, c) ← c.takePercentByte
      if 0x80 ≤ b && b < 0xc0 then followers more (number * 64 + (b - 0x80)) c else c.fail

/-- Reads the characters of a tag. -/
def Cursor.takeTagText (c : Cursor) (verbatim : Bool) : Except Malformed (List Char × Cursor) :=
  c.loop [] fun text c =>
    match c.rest with
    | char :: _ =>
      if char == '%' then do
        let (decoded, c) ← c.takePercentChar
        return .more (decoded :: text) c
      else if isNameChar char || isTagSign char || (verbatim && [',', '[', ']'].contains char) then
        .ok (.more (char :: text) (c.skip 1))
      else .ok (.done text.reverse c)
    | [] => .ok (.done text.reverse c)

/-- What counts of the text of a tag: it ends at its first NUL. -/
def tagName (text : List Char) : List Char := text.takeWhile (· != '\x00')

/-- Reads a tag handle as far as it goes: `!`, the letters after it, and `!` again if it is there. -/
def Cursor.takeHandle (c : Cursor) : Except Malformed (List Char × Cursor) :=
  if c.nextIs (· == '!') then
    let (name, c) := (c.skip 1).takeWhile isNameChar
    if c.nextIs (· == '!') then .ok ('!' :: name ++ ['!'], c.skip 1) else .ok ('!' :: name, c)
  else c.fail

/-- Whether what was read as a handle is one, and not the start of a tag without a handle. -/
def isNamedHandle (handle : List Char) : Bool := 1 < handle.length && handle.getLast? == some '!'

/-- Reads a tag as its handle and the rest. A tag in `<>` has no handle, and `!` alone has none either. -/
def Cursor.takeTag (c : Cursor) (inFlow : Bool) : Except Malformed (TokenKind × Cursor) := do
  let ((handle, suffix), c) ← parts
  if wordEnds c.rest || (inFlow && c.nextIs (· == ',')) then
    return (.tag (String.ofList handle) (String.ofList suffix), c)
  else c.fail
where
  parts : Except Malformed ((List Char × List Char) × Cursor) := do
    if (c.rest.drop 1).head? == some '<' then
      let (text, c) ← (c.skip 2).takeTagText true
      if text.isEmpty || !c.nextIs (· == '>') then c.fail
      else return (([], tagName text), c.skip 1)
    else
      let (handle, c) ← c.takeHandle
      let (text, c) ← c.takeTagText false
      if isNamedHandle handle then
        if text.isEmpty then c.fail else return ((handle, tagName text), c)
      else
        let suffix := tagName (handle.drop 1 ++ text)
        return (if suffix.isEmpty then ([], ['!']) else (['!'], suffix), c)

/-! ## Directives -/

/-- Reads a number of at most nine digits. -/
def Cursor.takeVersionNumber (c : Cursor) : Except Malformed (Nat × Cursor) :=
  let (digits, after) := c.takeWhile Char.isDigit
  if digits.isEmpty || 9 < digits.length then c.fail
  else .ok (digits.foldl (fun n d => n * 10 + (d.toNat - '0'.toNat)) 0, after)

/-- Reads a directive and the rest of its line; the cursor stands on the percent sign. -/
def Cursor.takeDirective (c : Cursor) : Except Malformed (TokenKind × Cursor) := do
  let (name, c) := (c.skip 1).takeWhile isNameChar
  if name.isEmpty || !wordEnds c.rest then c.fail
  else
    let (kind, c) ← match String.ofList name with
      | "YAML" => version (c.skipWhile isBlank)
      | "TAG" => handle (c.skipWhile isBlank)
      | _ => c.fail
    let c := c.skipWhile isBlank
    let c := if c.nextIs (· == '#') then c.skipLine else c
    if lineEnds c.rest then return (kind, c.skipBreak) else c.fail
where
  version (c : Cursor) : Except Malformed (TokenKind × Cursor) := do
    let (major, c) ← c.takeVersionNumber
    if !c.nextIs (· == '.') then c.fail
    else
      let (minor, c) ← (c.skip 1).takeVersionNumber
      return (.version major minor, c)
  handle (c : Cursor) : Except Malformed (TokenKind × Cursor) := do
    let (name, c) ← c.takeHandle
    if !(isNamedHandle name || name == ['!']) || !c.nextIs isBlank then c.fail
    else
      let (text, c) ← (c.skipWhile isBlank).takeTagText true
      if text.isEmpty || !wordEnds c.rest then c.fail
      else return (.handle (String.ofList name) (String.ofList (tagName text)), c)

end ShardStore
