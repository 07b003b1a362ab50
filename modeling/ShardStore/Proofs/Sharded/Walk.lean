import ShardStore.Proofs.Sharded.Placement
import ShardStore.Proofs.Visitor

/-!
# Walks through a sharded map

A walk goes through the live slots in the order of their numbers. A visitor that asks to stop leaves its slot, and is called again
in the next one that has an entry, in the state that it was left in.
-/

namespace ShardStore.Sharded

variable {τ : Type}

/-! ## In the order of the slots -/

theorem slots_eq (m : Sharded τ) :
    m.slots.toList = (List.range (m.buckets.toNat + 1)).map fun i => m.slot? (.ofNat i) := by
  refine List.ext_getElem (by simp) fun i hi _ => ?_
  rw [Vector.length_toList] at hi
  rw [List.getElem_map, List.getElem_range, slot?_ofNat hi, Vector.getElem_toList]

theorem live_eq (m : Sharded τ) :
    m.live = (List.range (m.buckets.toNat + 1)).filterMap fun i => m.slot? (.ofNat i) := by
  rw [live, slots_eq, List.filterMap_map]
  rfl

variable [Table τ Hash UInt64] {m : Sharded τ} {σ : Type} {visit : σ → Entry → σ × Signal} {state : σ}

theorem size_eq_sum (m : Sharded τ) : m.size = (m.live.map Store.size).sum := rfl

theorem toList_eq (m : Sharded τ) : m.toList = (m.live.map Store.toList).flatten := List.flatMap_def ..

/-- A walk through the map is one through the lists of its live stores. -/
theorem walk_eq (m : Sharded τ) (visit : σ → Entry → σ × Signal) (state : σ) :
    m.walk visit state = (m.live.map Store.toList).foldl (ShardStore.walk visit) state := by
  rw [List.foldl_map]
  rfl

theorem walk_logged (m : Sharded τ) (visit : σ → Entry → σ × Signal) (state : σ) :
    ∃ visited, m.walk (logged visit) (state, []) = (m.walk visit state, visited.flatten) ∧
      m.walk visit state = (afterCalls visit state visited.flatten).1 ∧
      VisitsEach visit state (m.live.map Store.toList) visited := by
  obtain ⟨visited, hwalks, hvisits⟩ := walks_logged_visit visit state [] (m.live.map Store.toList)
  have hleft : m.walk visit state = (afterCalls visit state visited.flatten).1 := by
    rw [walk_eq, ← walks_logged_fst visit (state, []), hwalks]
  exact ⟨visited, by rw [hleft, walk_eq, hwalks, List.nil_append], hleft, hvisits⟩

variable [LawfulTable τ]

/-! ## Numbers of calls -/

/-- Entry number `k` of the whole map, counted from one, is in the store `s`; the live stores in front of that are `before`, and
those behind it `after`. -/
structure HasEntryIn (m : Sharded τ) (k : Nat) (before : List (Store τ)) (s : Store τ) (after : List (Store τ)) : Prop where
  live : m.live = before ++ s :: after
  inFront : (before.map Store.size).sum < k
  reached : k ≤ (before.map Store.size).sum + s.size

omit [LawfulTable τ] in
theorem exists_hasEntryIn {k : Nat} (hpos : 0 < k) (hle : k ≤ m.size) : ∃ before s after, m.HasEntryIn k before s after := by
  obtain ⟨before, s, after, hlive, hless, hreached⟩ := exists_split_of_le_sum Store.size hpos hle
  exact ⟨before, s, after, hlive, hless, hreached⟩

theorem map_length_toList (stores : List (Store τ)) :
    (stores.map Store.toList).map List.length = stores.map Store.size := by
  rw [List.map_map]
  exact List.map_congr_left fun s _ => s.length_toList

variable {calls : σ → Nat} {k : Nat}

theorem calls_of_few (hstops : StopsAt visit calls k) (hfresh : calls state = 0) (hfew : m.size ≤ max k 1) :
    calls (m.walk visit state) = m.size := by
  rw [size_eq_sum, ← map_length_toList] at hfew ⊢
  rw [walk_eq, hstops.calls_of_few (by rwa [hfresh, Nat.zero_add]), hfresh, Nat.zero_add]

theorem calls_of_more (hstops : StopsAt visit calls k) (hfresh : calls state = 0) {before after : List (Store τ)}
    {s : Store τ} (hentry : m.HasEntryIn (max k 1) before s after) :
    calls (m.walk visit state) = max k 1 + after.countP fun t => 0 < t.size := by
  obtain ⟨hlive, hless, hreached⟩ := hentry
  rw [← map_length_toList] at hless hreached
  rw [← s.length_toList] at hreached
  rw [walk_eq, hlive, List.map_append, List.map_cons, hstops.calls_of_more hfresh hless hreached, List.countP_map]
  congr 1
  exact List.countP_congr fun t _ => by rw [Function.comp_apply, t.length_toList]

/-- A walk through a map, whatever the visitor and its state. The visitor is called for entries of each live slot in turn, in the
order of their numbers: for those up to the first after which it asks to stop, each time in the state that all calls before have
left. One that never asks to stop sees all entries. One that asks to stop from call number `k` on is called once more for each
later slot that has an entry; in a single store, it is not called again. -/
theorem walks_slot_by_slot (m : Sharded τ) :
    (m.live = (List.range (m.buckets.toNat + 1)).filterMap fun i => m.slot? (.ofNat i)) ∧
    (∀ (σ : Type) (visit : σ → Entry → σ × Signal) (state : σ), ∃ visited,
      m.walk (logged visit) (state, []) = (m.walk visit state, visited.flatten) ∧
      m.walk visit state = (afterCalls visit state visited.flatten).1 ∧
      VisitsEach visit state (m.live.map Store.toList) visited ∧
      ((∀ state e, (visit state e).2 = .proceed) →
        visited.flatten.map Prod.fst = m.keys ∧ visited.flatten.length = m.size)) ∧
    m.size = (m.live.map Store.size).sum ∧
    ∀ (σ : Type) (visit : σ → Entry → σ × Signal) (calls : σ → Nat) (k : Nat), StopsAt visit calls k →
      ∀ state, calls state = 0 →
        (m.size ≤ max k 1 → calls (m.walk visit state) = m.size) ∧
        (max k 1 < m.size → ∃ before s after, m.HasEntryIn (max k 1) before s after ∧
          calls (m.walk visit state) = max k 1 + after.countP fun t => 0 < t.size) ∧
        ∀ s : Store τ, calls (s.walk visit state) = min (max k 1) s.size := by
  refine ⟨m.live_eq, fun σ visit state => ?_, m.size_eq_sum, fun σ visit calls k hstops state hfresh => ⟨?_, ?_, ?_⟩⟩
  · obtain ⟨visited, hlog, hleft, hvisits⟩ := m.walk_logged visit state
    refine ⟨visited, hlog, hleft, hvisits, fun hproceeds => ?_⟩
    have hall : visited.flatten = m.toList := by rw [hvisits.of_proceeds hproceeds, toList_eq]
    rw [hall, keys_eq, size_eq_length]
    exact ⟨rfl, rfl⟩
  · exact calls_of_few hstops hfresh
  · intro hmore
    obtain ⟨before, s, after, hentry⟩ := exists_hasEntryIn (by omega) hmore.le
    exact ⟨before, s, after, hentry, calls_of_more hstops hfresh hentry⟩
  · intro s
    have hcalls : calls (s.walk visit state) = _ := hstops.calls_walk state s.toList
    rw [hcalls, s.length_toList, hfresh]
    omega

/-- A visitor that collects hashes and has enough after the first. One slot has two entries, one was taken out, one has a single
entry, and the one behind the last bucket has two. -/
theorem called_again_in_later_slots :
    let a := Hash.ofBytes [0, 3]
    let b := Hash.ofBytes [0, 2]
    let collect (enough : Nat) (hs : List Hash) (e : Entry) : List Hash × Signal :=
      (hs ++ [e.1], if enough ≤ hs.length + 1 then .stop else .proceed)
    let collectAll (hs : List Hash) (e : Entry) : List Hash × Signal := (hs ++ [e.1], .proceed)
    let m : Sharded (EntryList Hash UInt64) :=
      (ShardedOp.run (withBuckets 4 3) [.putAllIn 0 [a, b] 1, .removeBucket 1, .putAllIn 2 [b] 2, .putAllIn 3 [b, a] 3]).2
    StopsAt (collect 1) List.length 1 ∧ max 1 1 < m.size ∧ m.walk (collect 1) [] = [a, b, b] ∧
      (∃ before s after, m.HasEntryIn (max 1 1) before s after ∧
        (m.walk (collect 1) []).length = max 1 1 + after.countP fun t => 0 < t.size) ∧
      (∀ hs e, (collectAll hs e).2 = .proceed) ∧
      ∃ visited : List (List Entry), m.walk (logged collectAll) ([], []) = (m.walk collectAll [], visited.flatten) ∧
        visited.flatten.map Prod.fst = m.keys := by
  intro a b collect collectAll m
  have hstops : StopsAt (collect 1) List.length 1 := by
    refine ⟨fun hs e => by simp [collect], fun hs e => ?_⟩
    simp only [collect]
    split <;> simp_all
  have hproceeds : ∀ hs e, (collectAll hs e).2 = .proceed := fun _ _ => rfl
  have hmore : max 1 1 < m.size := by decide
  obtain ⟨-, hvisits, -, hcalls⟩ := walks_slot_by_slot m
  obtain ⟨visited, hlog, -, -, hall⟩ := hvisits (List Hash) collectAll []
  exact ⟨hstops, hmore, by decide, (hcalls (List Hash) (collect 1) List.length 1 hstops [] rfl).2.1 hmore, hproceeds,
    visited, hlog, (hall hproceeds).1⟩

end ShardStore.Sharded
