import ShardStore.Pattern.Reader

/-!
# Checking a pattern

Whether a text is a pattern: its groups are closed and have names of their own, its signs of repetition have something to
repeat, it is not nested too deeply, and it asks only for what can be decided from the characters themselves. Classes of
characters and the two cases of a letter would need tables of all characters, so they are for patterns of bytes only; and
a pattern of bytes must not take a character apart.
-/

namespace ShardStore

/-- Why a text is no pattern. -/
inductive PatternFault where
  /-- It is not written like one, or asks for what there are no tables for. -/
  | malformed
  /-- It asks for the edge of a word, in characters. -/
  | wordEdge
deriving DecidableEq

/-! ## What switches allow -/

/-- Whether a part of a pattern that stands for itself can be had. -/
def PatternAtom.isAllowed (s : Switches) : PatternAtom → Bool
  | .char c asByte => if s.wide then !s.anyCase else !asByte || c.toNat < 128
  | .any => s.wide
  | .kind negated => !s.wide && !negated
  | .edge _ => true

/-- Whether a part of a pattern can be had as member of a set. -/
def PatternAtom.isAllowedInSet (s : Switches) : PatternAtom → Bool
  | .char c _ => if s.wide then !s.anyCase else c.toNat < 128
  | a => a.isAllowed s

/-- Whether a token can be had. -/
def PatternToken.isAllowed (s : Switches) : PatternToken → Bool
  | .atom a => a.isAllowed s
  | .member a => a.isAllowedInSet s
  | .range first last => first.isAllowedInSet s && last.isAllowedInSet s
  | .namedSet negated => if s.wide then !s.anyCase else !negated
  | .openSet negated => s.wide || !negated
  | _ => true

/-! ## Nesting -/

/-- Parts side by side: how many there are, and how deeply the deepest is nested. -/
structure PartRow where
  count : Nat := 0
  deepest : Nat := 0

/-- One more part. -/
def PartRow.add (row : PartRow) (depth : Nat) : PartRow := ⟨row.count + 1, max row.deepest depth⟩

/-- How deeply a row is nested: two parts or more make a level of their own. -/
def PartRow.depth (row : PartRow) : Nat := if row.count ≤ 1 then row.deepest else row.deepest + 1

/-- How deeply a pattern may be nested. -/
def nestingLimit : Nat := 250

/-- A group as far as it was read. -/
structure OpenGroup where
  switches : Switches := {}
  /-- The alternatives that are complete. -/
  alternatives : PartRow := {}
  /-- The parts of the alternative that is read. -/
  parts : PartRow := {}
  /-- How deeply the last part is nested, if it can be repeated. -/
  last : Option Nat := none

namespace OpenGroup

/-- One more part, which can be repeated. -/
def add (g : OpenGroup) (depth : Nat) : OpenGroup := { g with parts := g.parts.add depth, last := some depth }

/-- How deeply the inside of a group is nested. -/
def depth (g : OpenGroup) : Nat := (g.alternatives.add g.parts.depth).depth

end OpenGroup

/-- A set as far as it was read. -/
structure OpenSet where
  /-- How deeply the operators are nested that are complete but for what follows them. -/
  joined : Option Nat := none
  /-- The members behind the last operator. -/
  members : PartRow := {}

namespace OpenSet

/-- How deeply the inside of a set is nested. -/
def depth (s : OpenSet) : Nat := s.joined.elim s.members.depth fun d => max d s.members.depth + 1

/-- One more member. -/
def add (s : OpenSet) (depth : Nat) : OpenSet := { s with members := s.members.add depth }

end OpenSet

/-! ## Patterns -/

/-- A pattern as far as it was read. -/
structure PatternState where
  /-- The innermost group. -/
  group : OpenGroup := {}
  /-- The groups around it, the innermost first. -/
  around : List OpenGroup := []
  /-- The sets that are open, the innermost first. -/
  sets : List OpenSet := []
  /-- The names of groups. -/
  names : List String := []
  /-- Whether the edge of a word was asked for, in characters. -/
  wordEdge : Bool := false

namespace PatternState

/-- One more part, which has no parts itself. -/
def addAtom (s : PatternState) (a : PatternAtom) : PatternState :=
  { s with group := s.group.add 0, wordEdge := s.wordEdge || (a = .edge true && s.group.switches.wide) }

/-- One more member of the innermost set. -/
def addMember (s : PatternState) (depth : Nat) : PatternState :=
  match s.sets with
  | set :: sets => { s with sets := set.add depth :: sets }
  | [] => { s with group := s.group.add depth }

/-- Reads an allowed token. -/
def step (s : PatternState) : PatternToken → Option PatternState
  | .openGroup name change =>
    if name.any s.names.contains then none
    else some { s with
      group := { switches := change.applyAll s.group.switches }
      around := s.group :: s.around
      names := name.toList ++ s.names }
  | .closeGroup =>
    match s.around with
    | outer :: around => some { s with group := outer.add (s.group.depth + 1), around }
    | [] => none
  | .switch change =>
    let g := s.group
    some { s with
      group := { g with switches := change.applyAll g.switches, parts := g.parts.add 0, last := none } }
  | .either =>
    let g := s.group
    some { s with
      group := { g with alternatives := g.alternatives.add g.parts.depth, parts := {}, last := none } }
  | .repetition => do
    let depth := (← s.group.last) + 1
    let parts := { s.group.parts with deepest := max s.group.parts.deepest depth }
    return { s with group := { s.group with parts, last := some depth } }
  | .atom a => some (s.addAtom a)
  | .openSet _ => some { s with sets := {} :: s.sets }
  | .closeSet =>
    match s.sets with
    | set :: sets => some ({ s with sets }.addMember (set.depth + 1))
    | [] => none
  | .setOperator =>
    match s.sets with
    | set :: sets => some { s with sets := { joined := some set.depth } :: sets }
    | [] => none
  | .member _ | .range _ _ | .namedSet _ => some (s.addMember 0)

/-- Reads a token. -/
def read (s : PatternState) (token : PatternToken) : Option PatternState :=
  if token.isAllowed s.group.switches then s.step token else none

/-- What is wrong with a pattern that ends here. -/
def endFault? (s : PatternState) : Option PatternFault :=
  if !s.around.isEmpty || nestingLimit < s.group.depth then some .malformed
  else if s.wordEdge then some .wordEdge
  else none

end PatternState

/-- Why a text is no pattern, if it is none. -/
def patternFault? (text : List Char) : Option PatternFault :=
  match (patternTokens? text).bind fun tokens => tokens.foldlM PatternState.read {} with
  | some s => s.endFault?
  | none => some .malformed

end ShardStore
