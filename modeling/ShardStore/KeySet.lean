import ShardStore.Hash.Text
import ShardStore.Store.Transactional
import ShardStore.Table.Basic

/-!
# Sets of hashes

A set of hashes kept in a table without values. Adding a hash twice is the same as adding it once.
-/

namespace ShardStore

/-- A set of hashes. -/
structure KeySet (τ : Type) where
  table : τ

namespace KeySet

variable {τ : Type} [Table τ Hash Unit]

/-- An empty set; `hint` is the number of hashes expected. -/
def withCapacity (hint : Nat) : KeySet τ := ⟨Table.withCapacity hint⟩

/-- Makes an empty set, if its table can be made. -/
def make? [Footprint τ] (hint : Nat) : Except MakeFault (KeySet τ) := (Table.make? hint).map mk

/-- Whether a hash is in the set. -/
def contains (s : KeySet τ) (h : Hash) : Bool := Table.contains s.table h

/-- Zero for a hash in the set: there are no values to tell apart. -/
def get? (s : KeySet τ) (h : Hash) : Option UInt64 := if s.contains h then some 0 else none

/-- Adds a hash. -/
def put (s : KeySet τ) (h : Hash) : KeySet τ := ⟨(Table.insert s.table h ()).2⟩

/-- Adds hashes. -/
def putAll (s : KeySet τ) (hs : List Hash) : KeySet τ := hs.foldl put s

/-- Takes out a hash that is in the set. -/
def delete (s : KeySet τ) (h : Hash) : Outcome × KeySet τ :=
  match Table.remove s.table h with
  | (some (), table) => (.ok (), ⟨table⟩)
  | (none, table) => (.error (.absent h.toText), ⟨table⟩)

/-- The number of hashes. -/
def size (s : KeySet τ) : Nat := Table.size s.table

/-- The hashes, in the order of the table. -/
def keys (s : KeySet τ) : List Hash := Table.keys s.table

/-- Visits the hashes in the order of the table until the visitor asks to stop. -/
def walk {σ : Type} (s : KeySet τ) (visit : σ → Hash → σ × Signal) (state : σ) : σ :=
  ShardStore.walk visit state s.keys

end KeySet

/-- An operation on a set with its arguments. -/
inductive SetOp where
  | put (h : Hash)
  | putAll (hs : List Hash)
  | get (h : Hash)
  | contains (h : Hash)
  | delete (h : Hash)
  | size
  | keys
  /-- A walk whose visitor decides by the hashes that it has seen. -/
  | walk (decide : List Hash → Signal)

/-- The answer to an operation on a set. -/
inductive SetAnswer where
  | done
  | outcome (o : Outcome)
  | value (v : Option UInt64)
  | truth (b : Bool)
  | count (n : Nat)
  | keys (hs : List Hash)
  /-- The hashes that a walk has visited. -/
  | visited (hs : List Hash)

namespace SetOp

variable {τ : Type} [Table τ Hash Unit]

/-- Carries out one operation. -/
def step (s : KeySet τ) : SetOp → SetAnswer × KeySet τ
  | .put h => (.done, s.put h)
  | .putAll hs => (.done, s.putAll hs)
  | .get h => (.value (s.get? h), s)
  | .contains h => (.truth (s.contains h), s)
  | .delete h => let (o, s) := s.delete h; (.outcome o, s)
  | .size => (.count s.size, s)
  | .keys => (.keys s.keys, s)
  | .walk decide => (.visited (s.walk (recording decide) []), s)

/-- Carries out operations in order. -/
def run (s : KeySet τ) : List SetOp → List SetAnswer × KeySet τ
  | [] => ([], s)
  | op :: ops =>
    let (answer, s) := step s op
    let (answers, s) := run s ops
    (answer :: answers, s)

end SetOp

end ShardStore
