import ShardStore.Hash.Basic
import ShardStore.Text.Quoted

/-!
# Hashes as text

A hash is shown as 64 lower-case hexadecimal digits, its bytes in reverse of the stored order. Reading takes digits of
either case and reports the first byte of the text that is no digit.
-/

namespace ShardStore

/-- The digit of a number below 16. -/
def hexDigit (n : UInt8) : Char := Nat.digitChar n.toNat

/-- A byte as two digits, the high half first. -/
def byteDigits (b : UInt8) : List Char := [hexDigit (b / 16), hexDigit (b % 16)]

/-- Bytes as digits, two for each. -/
def bytesText (bytes : List UInt8) : String := String.ofList (bytes.flatMap byteDigits)

/-- The value of a byte that is a hexadecimal digit of either case. -/
def hexValue? (b : UInt8) : Option UInt8 :=
  if 48 ≤ b && b ≤ 57 then some (b - 48)
  else if 97 ≤ b && b ≤ 102 then some (b - 87)
  else if 65 ≤ b && b ≤ 70 then some (b - 55)
  else none

/-- Why a text is no hash. -/
inductive HashTextError where
  /-- The text takes `found` bytes instead of 64. -/
  | length (found : Nat)
  /-- The byte at `index` is no digit; `found` is the character with that number. -/
  | digit (found : Char) (index : Nat)
deriving DecidableEq

/-- What is said about a text that is no hash. -/
def HashTextError.message : HashTextError → String
  | .length found => s!"invalid hash string length {found}, expected 64"
  | .digit found index =>
    "invalid hex: Invalid character " ++ quoteChar found ++ s!" at position {index}"

/-- The value of the digit at `index`. -/
def readDigit (index : Nat) (b : UInt8) : Except HashTextError UInt8 :=
  match hexValue? b with
  | some value => .ok value
  | none => .error (.digit (Char.ofNat b.toNat) index)

/-- Reads bytes as pairs of digits from left to right; `index` is the place of the first digit. -/
def readPairs (index : Nat) : List UInt8 → Except HashTextError (List UInt8)
  | high :: low :: rest => do
    let high ← readDigit index high
    let low ← readDigit (index + 1) low
    let bytes ← readPairs (index + 2) rest
    return (high * 16 + low) :: bytes
  | _ => .ok []

namespace Hash

/-- The 64 digits of a hash, last stored byte first. -/
def toText (h : Hash) : String := bytesText h.toBytes.reverse

instance : ToString Hash := ⟨toText⟩

/-- The digits with the name of the type around them. -/
def label (h : Hash) : String := "Hash(" ++ h.toText ++ ")"

/-- Reads the 64 digits of a hash. -/
def parse (text : String) : Except HashTextError Hash := do
  if text.utf8ByteSize ≠ 64 then throw (.length text.utf8ByteSize)
  let bytes ← readPairs 0 text.toUTF8.data.toList
  return ofBytes bytes.reverse

end Hash

end ShardStore
