import ShardStore.Hash.Text
import ShardStore.Store.Transactional
import ShardStore.Table.Basic

/-!
# Stores

A store is one table of hashes under transactional rules: adding refuses a hash that is there, changing and deleting
refuse one that is not. Every other map of hashes is built from stores.
-/

namespace ShardStore

/-- A table of hashes under transactional rules. -/
structure Store (τ : Type) where
  table : τ

namespace Store

variable {τ : Type} [Table τ Hash UInt64]

/-- An empty store; `hint` is the number of entries expected, not a limit. -/
def withCapacity (hint : Nat) : Store τ := ⟨Table.withCapacity hint⟩

/-- Makes an empty store, if its table can be made. -/
def make? [Footprint τ] (hint : Nat) : Except MakeFault (Store τ) := (Table.make? hint).map mk

/-- The entries, in the order of the table. -/
def toList (s : Store τ) : List Entry := Table.toList s.table

/-- Adds a hash that is not there. -/
def put (s : Store τ) (h : Hash) (v : UInt64) : Outcome × Store τ :=
  if Table.contains s.table h then (.error (.present h.toText), s)
  else (.ok (), ⟨(Table.insert s.table h v).2⟩)

/-- Adds hashes in order, up to the first that is there. -/
def putAll (s : Store τ) : List Hash → UInt64 → Outcome × Store τ
  | [], _ => (.ok (), s)
  | h :: hs, v =>
    match s.put h v with
    | (.ok (), s) => s.putAll hs v
    | (.error e, s) => (.error e, s)

/-- The value of a hash. -/
def get? (s : Store τ) (h : Hash) : Option UInt64 := Table.get? s.table h

/-- Whether a hash is there. -/
def contains (s : Store τ) (h : Hash) : Bool := Table.contains s.table h

/-- Gives a hash a new value if it is there, and answers whether it was. -/
def setIfPresent (s : Store τ) (h : Hash) (v : UInt64) : Bool × Store τ :=
  let (old, table) := Table.replace s.table h v
  (old.isSome, ⟨table⟩)

/-- Gives a hash that is there a new value. -/
def set (s : Store τ) (h : Hash) (v : UInt64) : Outcome × Store τ :=
  match s.setIfPresent h v with
  | (true, s) => (.ok (), s)
  | (false, s) => (.error (.absent h.toText), s)

/-- Adds a hash if it is not there, and answers whether it did. -/
def setIfAbsent (s : Store τ) (h : Hash) (v : UInt64) : Bool × Store τ :=
  if Table.contains s.table h then (false, s) else (true, ⟨(Table.insert s.table h v).2⟩)

/-- Takes out a hash that is there. -/
def delete (s : Store τ) (h : Hash) : Outcome × Store τ :=
  match Table.remove s.table h with
  | (some _, table) => (.ok (), ⟨table⟩)
  | (none, table) => (.error (.absent h.toText), ⟨table⟩)

/-- The number of entries. -/
def size (s : Store τ) : Nat := Table.size s.table

/-- The hashes, in the order of the table. -/
def keys (s : Store τ) : List Hash := Table.keys s.table

/-- Visits the entries in the order of the table until the visitor asks to stop. -/
def walk {σ : Type} (s : Store τ) (visit : σ → Entry → σ × Signal) (state : σ) : σ :=
  ShardStore.walk visit state s.toList

instance : TransactionMap (Store τ) where
  put := put
  putAll := putAll
  get? := get?
  contains := contains
  set := set
  setIfPresent := setIfPresent
  setIfAbsent := setIfAbsent
  delete := delete
  size := size
  keys := keys
  walk := walk

end Store

end ShardStore
