import Std.Data.HashMap

/-!
# Slots of a hash table

Where a hash table keeps its keys. A key looks for a free slot from the slot of its digest on, in windows of sixteen
neighbours that lie further and further apart. A slot whose key is taken out stays marked if a window full of keys may
have led past it. When too few slots are unused the keys are laid out anew, in more slots or in the same ones.
-/

namespace ShardStore

/-- The slots of a hash table. -/
structure Slots (κ : Type) [BEq κ] [Hashable κ] where
  /-- The number of slots: none, or a power of two. -/
  count : Nat := 0
  /-- How many unused slots may be taken before the keys are laid out anew. -/
  room : Nat := 0
  /-- The slots in use, each with its key, or with none if that was taken out. -/
  used : Std.HashMap Nat (Option κ) := {}
  /-- The slot of each key. -/
  places : Std.HashMap κ Nat := {}

namespace Slots

/-- How many neighbours a key looks at together. -/
def window : Nat := 16

/-- How many keys go into so many slots. An eighth of the slots, and at least one, stays unused. -/
def capacity (count : Nat) : Nat := if count ≤ 8 then count - 1 else count / 8 * 7

/-- How many slots are made for so many keys: a power of two. -/
def countFor (keys : Nat) : Nat :=
  if keys = 0 then 0
  else if keys < 4 then 4
  else if keys < 8 then 8
  else if keys < 15 then 16
  else 1 <<< ((keys * 8 / 7 - 1).log2 + 1)

variable {κ : Type} [BEq κ] [Hashable κ]

/-- Unused slots for so many keys. -/
def forKeys (keys : Nat) : Slots κ := { count := countFor keys, room := capacity (countFor keys) }

/-- The slot at which a key begins to look. -/
def start (count : Nat) (k : κ) : Nat := (hash k).toNat % count

/-- The first free slot from a window on. The next window begins `jump` slots and a window further on; the windows
together show all slots, so `windows` of them are enough. -/
def firstFree (count : Nat) (isFree : Nat → Bool) (windows jump first : Nat) : Nat :=
  match windows with
  | 0 => first
  | windows + 1 =>
    let slots := (List.range window).map fun i => (first + i) % count
    match slots.find? isFree with
    | some slot => slot
    | none => firstFree count isFree windows (jump + window) ((first + jump + window) % count)

/-- The free slot that a key finds. -/
def slotFor (count : Nat) (isFree : Nat → Bool) (k : κ) : Nat :=
  firstFree count isFree (count / window + 1) 0 (start count k)

/-- The number of the window, from where a key begins to look, that shows a slot. -/
def windowOf (count : Nat) (k : κ) (slot : Nat) : Nat := (slot + count - start count k) % count / window

/-! ## Laying out anew -/

/-- Puts a key that is not there into a slot. -/
def put (s : Slots κ) (k : κ) : Slots κ :=
  let slot := slotFor s.count (fun slot => ((s.used[slot]?).getD none).isNone) k
  { s with
    room := if s.used.contains slot then s.room else s.room - 1
    used := s.used.insert slot (some k)
    places := s.places.insert k slot }

/-- The keys with their slots, in the order of the slots. -/
def keys (s : Slots κ) : List (κ × Nat) := s.places.toList.mergeSort fun a b => a.2 ≤ b.2

/-- A layout whose keys still have to settle. -/
structure Unsettled (κ : Type) where
  settled : Std.HashMap Nat κ
  /-- The keys that still are where they were. -/
  waiting : Std.HashMap Nat κ

/-- Settles the key `k` that was in `slot`: there, if the slot that it finds is in the same window, and else in that one. A
key that waits there comes into `slot` and is the next to settle. -/
def Unsettled.settle (count : Nat) (u : Unsettled κ) (slot : Nat) (k : κ) : Nat → Unsettled κ
  | 0 => u
  | more + 1 =>
    let found := slotFor count (!u.settled.contains ·) k
    if windowOf count k slot = windowOf count k found then
      { settled := u.settled.insert slot k, waiting := u.waiting.erase slot }
    else
      let settled := u.settled.insert found k
      match u.waiting[found]? with
      | none => { settled, waiting := u.waiting.erase slot }
      | some other => settle count { settled, waiting := (u.waiting.erase found).insert slot other } slot other more

/-- The same slots without the marks of keys that were taken out: the keys settle anew, slot by slot. -/
def tidied (s : Slots κ) : Slots κ :=
  let keys := s.keys
  let waiting := Std.HashMap.ofList (keys.map fun (k, slot) => (slot, k))
  let u := keys.foldl (fun u (_, slot) =>
    match u.waiting[slot]? with
    | some k => u.settle s.count slot k keys.length
    | none => u) (⟨{}, waiting⟩ : Unsettled κ)
  let settled := u.settled.toList
  { s with
    room := capacity s.count - keys.length
    used := .ofList (settled.map fun (slot, k) => (slot, some k))
    places := .ofList (settled.map fun (slot, k) => (k, slot)) }

/-- Slots with room for one more key. If more than half of what goes into them is there, there will be more of them. -/
def withRoom (s : Slots κ) : Slots κ :=
  let more := s.places.size + 1
  let full := capacity s.count
  if 0 < s.room then s
  else if more ≤ full / 2 then s.tidied
  else s.keys.foldl (fun s e => s.put e.1) (forKeys (max more (full + 1)))

/-! ## Keys come and go -/

/-- The slot of a key. -/
def place (s : Slots κ) (k : κ) : Nat := s.places[k]?.getD 0

/-- Gives a key a slot, if it has none. -/
def insert (s : Slots κ) (k : κ) : Slots κ :=
  let s := s.withRoom
  if s.places.contains k then s else s.put k

/-- Takes the slot of a key away. It stays marked if it lies among so many slots in use that a window has room for them
only. -/
def erase (s : Slots κ) (k : κ) : Slots κ :=
  match s.places[k]? with
  | none => s
  | some slot =>
    let inUse (i : Nat) : Bool := s.used.contains (i % s.count)
    let after := (List.range window).takeWhile fun i => inUse (slot + i)
    let before := (List.range window).takeWhile fun i => inUse (slot + window * s.count - 1 - i)
    let places := s.places.erase k
    if window ≤ before.length + after.length then { s with used := s.used.insert slot none, places }
    else { s with used := s.used.erase slot, room := s.room + 1, places }

end Slots

end ShardStore
