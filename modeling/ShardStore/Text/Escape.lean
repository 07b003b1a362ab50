import ShardStore.Text.Digits

/-!
# Escapes by number

Characters that are written by their numbers: a letter says how many hexadecimal digits follow it.
-/

namespace ShardStore

/-- The number of digits of an escape by number. -/
def escapeWidth? : Char → Option Nat
  | 'x' => some 2
  | 'u' => some 4
  | 'U' => some 8
  | _ => none

/-- The character with a number, if there is one. -/
def charOfNumber? (n : Nat) : Option Char := if n.isValidChar then some (Char.ofNat n) else none

end ShardStore
