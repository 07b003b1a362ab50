import ShardStore.Text.Unprintable

/-!
# Quoted text

How texts, file paths among them, and characters are shown between quotes. A few characters have a short escape, an
unprintable one is spelled by its number, and all others stand for themselves.
-/

namespace ShardStore

/-- The lower-case hexadecimal digits of a number, without leading zeros. -/
def hexText (n : Nat) : String := String.ofList (Nat.toDigits 16 n)

/-- A character between two quotation marks `quote`. -/
def escapeChar (quote c : Char) : String :=
  if c = '\x00' then "\\0"
  else if c = '\t' then "\\t"
  else if c = '\n' then "\\n"
  else if c = '\r' then "\\r"
  else if c = '\\' || c = quote then String.ofList ['\\', c]
  else if isUnprintable c then "\\u\x7b" ++ hexText c.toNat ++ "\x7d"
  else String.singleton c

/-- A text between double quotes. -/
def quoteText (text : String) : String := "\"" ++ String.join (text.toList.map (escapeChar '"')) ++ "\""

/-- A character between single quotes. -/
def quoteChar (c : Char) : String := "'" ++ escapeChar '\'' c ++ "'"

end ShardStore
