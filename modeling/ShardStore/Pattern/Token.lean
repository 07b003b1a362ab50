import ShardStore.Pattern.Switches

/-!
# Tokens of a pattern

The parts that a pattern is written in, from left to right.
-/

namespace ShardStore

/-- The smallest parts of a pattern. -/
inductive PatternAtom where
  /-- A character. Those written by two digits stand for a byte where patterns speak of bytes. -/
  | char (c : Char) (asByte : Bool)
  /-- Any character of a line. -/
  | any
  /-- One of the classes of digits, of blanks and of the signs of words, or all that is not in it. -/
  | kind (negated : Bool)
  /-- A place: the start or the end of a line or of the text, or an edge of a word. -/
  | edge (ofWord : Bool)
deriving DecidableEq

/-- The parts that a pattern is written in. -/
inductive PatternToken where
  /-- The start of a group, which may have a name and changes switches for its inside. -/
  | openGroup (name : Option String) (change : SwitchChange)
  | closeGroup
  /-- A change of switches for the rest of the group. -/
  | switch (change : SwitchChange)
  /-- What separates alternatives. -/
  | either
  /-- What says that the part before it is repeated. -/
  | repetition
  | atom (a : PatternAtom)
  /-- The start of a set of characters, or of all but them. -/
  | openSet (negated : Bool)
  | closeSet
  /-- What joins the members before and behind it into one set. -/
  | setOperator
  /-- A member of a set. -/
  | member (a : PatternAtom)
  /-- The characters from one to another as members of a set. -/
  | range (first last : PatternAtom)
  /-- A named set as member of a set, or all that is not in it. -/
  | namedSet (negated : Bool)
deriving DecidableEq

end ShardStore
