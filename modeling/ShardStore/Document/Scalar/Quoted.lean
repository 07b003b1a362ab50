import ShardStore.Document.Scalar.Folding
import ShardStore.Document.Token
import ShardStore.Text.Escape

/-!
# Quoted scalars

Scalars between single or double quotes. A single quote is doubled inside single quotes; double quotes know escapes, one
of which joins two lines without a space.
-/

namespace ShardStore

/-- The character of an escape of one letter. -/
def shortEscape? : Char → Option Char
  | '0' => some '\x00'
  | 'a' => some '\x07'
  | 'b' => some '\x08'
  | 't' | '\t' => some '\t'
  | 'n' => some '\n'
  | 'v' => some '\x0b'
  | 'f' => some '\x0c'
  | 'r' => some '\r'
  | 'e' => some '\x1b'
  | ' ' => some ' '
  | '"' => some '"'
  | '/' => some '/'
  | '\\' => some '\\'
  | 'N' => some '\u0085'
  | '_' => some '\u00a0'
  | 'L' => some '\u2028'
  | 'P' => some '\u2029'
  | _ => none

/-- The character of an escape whose letter comes next, and what follows it. -/
def Cursor.takeEscape (c : Cursor) : Except Malformed (Char × Cursor) :=
  match c.rest with
  | letter :: after =>
    match shortEscape? letter, escapeWidth? letter with
    | some char, _ => .ok (char, c.skip 1)
    | none, some width =>
      let digits := after.take width
      match (if digits.length = width then digitsValue? 16 digits else none).bind charOfNumber? with
      | some char => .ok (char, c.skip (width + 1))
      | none => c.fail
    | none, none => c.fail
  | [] => c.fail

/-- Reads the characters up to a blank, a break or the closing quote. Answers whether an escaped break ended the run. -/
def Cursor.takeQuotedWord (c : Cursor) (quote : Char) : Except Malformed ((List Char × Bool) × Cursor) :=
  c.loop [] fun word c =>
    match c.rest with
    | [] => .ok (.done (word.reverse, false) c)
    | char :: after =>
      if isBlank char || isBreak char then .ok (.done (word.reverse, false) c)
      else if char == '\'' && quote == '\'' && after.head? == some '\'' then
        .ok (.more ('\'' :: word) (c.skip 2))
      else if char == quote then .ok (.done (word.reverse, false) c)
      else if char == '\\' && quote == '"' then
        if after.head?.any isBreak then .ok (.done (word.reverse, true) (c.skip 1).skipBreak)
        else do
          let (escaped, c) ← (c.skip 1).takeEscape
          return .more (escaped :: word) c
      else .ok (.more (char :: word) (c.skip 1))

/-- Reads a scalar in quotes; the cursor stands on the opening one. -/
def Cursor.takeQuoted (c : Cursor) (quote : Char) : Except Malformed (String × Cursor) :=
  (c.skip 1).loop "" fun text c =>
    if c.atDocumentMark || c.rest.isEmpty then c.fail
    else do
      let ((word, joined), c) ← c.takeQuotedWord quote
      let text := text ++ String.ofList word
      if c.nextIs (· == quote) then return .done text (c.skip 1)
      let (gap, c) ← c.takeGap { broken := joined } 0
      return .more (text ++ String.ofList gap.text) c

end ShardStore
