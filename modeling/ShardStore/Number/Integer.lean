import ShardStore.Text.Digits

/-!
# Integers as text

The integers that an unquoted text may write: decimal without leading zeros, or hexadecimal, octal and binary with their
letter, each with an optional sign.
-/

namespace ShardStore

/-- What follows a given beginning of a text. -/
def afterStart? (start text : List Char) : Option (List Char) :=
  if start.isPrefixOf text then some (text.drop start.length) else none

/-- Whether a text is a sign or none and then a zero that is followed by further digits alone: that is no number. -/
def hasLeadingZeros (text : List Char) : Bool :=
  let unsigned := match text with
    | '+' :: rest => rest
    | '-' :: rest => rest
    | _ => text
  match unsigned with
  | '0' :: d :: rest => (d :: rest).all Char.isDigit
  | _ => false

/-- The letters of the bases other than ten. -/
def baseMarks : List (List Char × Nat) := [(['0', 'x'], 16), (['0', 'o'], 8), (['0', 'b'], 2)]

/-- The number that digits write, with or without the letter of a base, below a limit. -/
def magnitude? (limit : Nat) (digits : List Char) : Option Nat :=
  let marked := baseMarks.findSome? fun (mark, base) => (afterStart? mark digits).bind (digitsValue? base)
  (marked.or (digitsValue? 10 digits)).filter (· < limit)

/-- The number without a minus sign that a text writes, if it is below a limit. -/
def readUnsigned? (limit : Nat) (text : List Char) : Option Nat :=
  if hasLeadingZeros text then none
  else
    match text with
    | '+' :: digits => magnitude? limit digits
    | digits => magnitude? limit digits

/-- The number with a minus sign that a text writes, if it is not below `-limit`. -/
def readNegative? (limit : Nat) (text : List Char) : Option Int :=
  if hasLeadingZeros text then none
  else
    match text with
    | '-' :: digits => (magnitude? (limit + 1) digits).map fun n => -(n : Int)
    | _ => none

/-- An integer as an unquoted text writes it. -/
inductive PlainInteger where
  /-- It fits into 64 bits, with or without a sign. -/
  | word (n : Int)
  /-- It fits into 128 bits without a sign. -/
  | wide (n : Nat)
  /-- It fits into 128 bits with a sign. -/
  | wideNegative (n : Int)
deriving DecidableEq

/-- The integer that an unquoted text writes. -/
def readInteger? (text : List Char) : Option PlainInteger :=
  ((readUnsigned? UInt64.size text).map fun n => .word n).or <|
    ((readNegative? (binaryRange 63) text).map .word).or <|
      ((readUnsigned? (binaryRange 128) text).map .wide).or ((readNegative? (binaryRange 127) text).map .wideNegative)

end ShardStore
