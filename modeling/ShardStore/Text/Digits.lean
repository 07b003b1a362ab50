/-!
# Digits

The values of digits and of runs of digits, the high ones first.
-/

namespace ShardStore

/-- How many numbers can be written with so many binary digits. -/
def binaryRange (digits : Nat) : Nat := Nat.pow 2 digits

/-- The value of a digit in bases up to 16, of either case. -/
def digitValue? (c : Char) : Option Nat :=
  if c.isDigit then some (c.toNat - '0'.toNat)
  else if 'a' ≤ c && c ≤ 'f' then some (c.toNat - 'a'.toNat + 10)
  else if 'A' ≤ c && c ≤ 'F' then some (c.toNat - 'A'.toNat + 10)
  else none

/-- The value of a digit of a base. -/
def baseDigit? (base : Nat) (c : Char) : Option Nat := (digitValue? c).filter (· < base)

/-- The number that digits of a base write; at least one is needed. -/
def digitsValue? (base : Nat) (digits : List Char) : Option Nat :=
  if digits.isEmpty then none else digits.foldlM (fun n c => (baseDigit? base c).map (n * base + ·)) 0

end ShardStore
