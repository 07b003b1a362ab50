/-!
# Switches of a pattern

How a pattern is to be taken can change inside of it: a group, or the rest of one, turns switches on and off by their
letters.
-/

namespace ShardStore

/-- The switches that decide what is a pattern. -/
structure Switches where
  /-- Whether blanks and comments between the parts are skipped. -/
  spaced : Bool := false
  /-- Whether letters stand for both of their cases. -/
  anyCase : Bool := false
  /-- Whether a pattern speaks of characters; else it speaks of bytes. -/
  wide : Bool := true
deriving DecidableEq

/-- The switches that a group turns on and off, by their letters. -/
structure SwitchChange where
  on : List Char := []
  off : List Char := []
deriving DecidableEq

namespace SwitchChange

/-- The letters of switches. -/
def letters : List Char := "imsUuRx".toList

/-- Reads a change: the letters of switches to turn on, and behind a dash those to turn off. No letter stands there twice,
and the dash is not the last sign. -/
def ofSigns? (signs : List Char) : Option SwitchChange :=
  let on := signs.takeWhile (· != '-')
  let off := signs.drop (on.length + 1)
  if (on ++ off).all letters.contains && decide (on ++ off).Nodup && signs.getLast? != some '-' then
    some { on, off }
  else none

/-- What a switch is after the change. -/
def apply (change : SwitchChange) (letter : Char) (before : Bool) : Bool :=
  change.on.contains letter || (before && !change.off.contains letter)

/-- The switches after the change. -/
def applyAll (change : SwitchChange) (s : Switches) : Switches where
  spaced := change.apply 'x' s.spaced
  anyCase := change.apply 'i' s.anyCase
  wide := change.apply 'u' s.wide

end SwitchChange

end ShardStore
