import ShardStore.Proofs.Sharded.Step

/-!
# Places that an operation does not see

A place is a slot together with a hash. An operation that goes by the routing of its hashes sees the places of these hashes
and no other: two maps that agree off some places answer it alike, and agree there afterwards.
-/

namespace ShardStore

/-- An operation finds its slots by the routing of its hashes. -/
def MapOp.Keyed : MapOp → Prop
  | .size | .keys | .walk _ => False
  | _ => True

/-- The hashes that an operation is about. -/
def MapOp.hashes : MapOp → List Hash
  | .put h _ | .get h | .contains h | .set h _ | .setIfPresent h _ | .setIfAbsent h _ | .delete h => [h]
  | .putAll hs _ => hs
  | .size | .keys | .walk _ => []

theorem MapOp.mem_hashes {op : MapOp} {h : Hash} (hsingle : op.hash? = some h) : h ∈ op.hashes := by
  cases op <;> simp_all [MapOp.hash?, MapOp.hashes]

/-- In a map with `n` buckets, no batch of an operation is partly at `places` and partly off them; one that goes by routing is
off them altogether. -/
def ShardedOp.Separates (n : UInt16) (places : UInt16 → Hash → Prop) : ShardedOp → Prop
  | .map (.putAll hs _) => ∀ h ∈ hs, ¬places (h.bucket n) h
  | .putAllIn b hs _ => (∀ h ∈ hs, places b h) ∨ ∀ h ∈ hs, ¬places b h
  | _ => True

namespace Sharded

variable {τ τ' : Type} [Table τ Hash UInt64] [Table τ' Hash UInt64]

/-- Maps of as many buckets that have the same in every slot of every hash, but for some places. -/
structure AgreeOff (places : UInt16 → Hash → Prop) (m : Sharded τ) (m' : Sharded τ') : Prop where
  buckets : m.buckets = m'.buckets
  cells : ∀ b h, ¬places b h → m.cell? b h = m'.cell? b h

variable {places : UInt16 → Hash → Prop} {m : Sharded τ} {m' : Sharded τ'} {op : MapOp} {h : Hash}

theorem AgreeOff.bucketFor_eq (ha : AgreeOff places m m') (h : Hash) : m.bucketFor h = m'.bucketFor h := by
  rw [bucketFor, bucketFor, ha.buckets]

variable [LawfulTable τ] [LawfulTable τ']

/-! ## Operations on one hash -/

theorem AgreeOff.answer_single (ha : AgreeOff places m m') (hsingle : op.hash? = some h)
    (hoff : ¬places (m.bucketFor h) h) : (op.step m).1 = (op.step m').1 := by
  rw [step_fst m hsingle, step_fst m' hsingle, ha.cells _ h hoff, ha.bucketFor_eq, missing, missing, ha.buckets]

/-- Work on a place may differ, but it stays at that place. -/
theorem AgreeOff.step_single (ha : AgreeOff places m m') (hsingle : op.hash? = some h) :
    AgreeOff places (op.step m).2 (op.step m').2 where
  buckets := by rw [buckets_step, buckets_step, ha.buckets]
  cells b k hoff := by
    rw [cell?_step m hsingle, cell?_step m' hsingle, ha.bucketFor_eq]
    split
    · next hsame => rw [hsame.2, ha.cells b k hoff]
    · exact ha.cells b k hoff

/-! ## Batches -/

theorem AgreeOff.putAll (ha : AgreeOff places m m') {hs : List Hash} (hoff : ∀ h ∈ hs, ¬places (m.bucketFor h) h)
    (v : UInt64) :
    (m.putAll hs v).1 = (m'.putAll hs v).1 ∧ AgreeOff places (m.putAll hs v).2 (m'.putAll hs v).2 := by
  induction hs generalizing m m' with
  | nil => exact ⟨rfl, ha⟩
  | cons h hs ih =>
      obtain ⟨hhead, htail⟩ := List.forall_mem_cons.1 hoff
      have hsingle : (MapOp.put h v).hash? = some h := rfl
      have hput : (m.put h v).1 = (m'.put h v).1 := MapAnswer.outcome.inj (ha.answer_single hsingle hhead)
      have hnext : AgreeOff places (m.put h v).2 (m'.put h v).2 := ha.step_single hsingle
      have hbuckets : (m.put h v).2.buckets = m.buckets := m.buckets_step (.put h v)
      cases hanswer : (m.put h v).1 with
      | error e =>
          rw [putAll_of_put_error hanswer, putAll_of_put_error (hput ▸ hanswer), ha.bucketFor_eq]
          exact ⟨rfl, hnext⟩
      | ok =>
          rw [putAll_of_put_ok hanswer, putAll_of_put_ok (hput ▸ hanswer)]
          refine ih hnext fun k hk => ?_
          rw [bucketFor, hbuckets]
          exact htail k hk

omit [LawfulTable τ] [LawfulTable τ'] in
/-- Where the cell of one hash is the same in a slot, the slot is there in both maps or in neither. -/
theorem slot?_of_cell?_eq {b : UInt16} (hcell : m.cell? b h = m'.cell? b h) :
    (m.slot? b = none ∧ m'.slot? b = none) ∨
      ∃ s s', m.slot? b = some s ∧ m'.slot? b = some s' ∧ s.get? h = s'.get? h := by
  rw [cell?, cell?] at hcell
  cases hs : m.slot? b <;> cases hs' : m'.slot? b <;> simp_all

theorem AgreeOff.putAllIn (ha : AgreeOff places m m') {b : UInt16} {hs : List Hash}
    (hsep : (∀ h ∈ hs, places b h) ∨ ∀ h ∈ hs, ¬places b h) (v : UInt64) :
    AgreeOff places (m.putAllIn b hs v).2 (m'.putAllIn b hs v).2 where
  buckets := by
    have hbuckets := ShardedOp.buckets_step m (.putAllIn b hs v)
    have hbuckets' := ShardedOp.buckets_step m' (.putAllIn b hs v)
    exact hbuckets.trans (ha.buckets.trans hbuckets'.symm)
  cells c k hoff := by
    rw [cell?_putAllIn, cell?_putAllIn]
    by_cases hc : b = c
    · subst hc
      rw [if_pos rfl, if_pos rfl]
      rcases slot?_of_cell?_eq (ha.cells b k hoff) with ⟨hslot, hslot'⟩ | ⟨s, s', hslot, hslot', hcell⟩
      · rw [hslot, hslot']
        rfl
      · rw [hslot, hslot', Option.map_some, Option.map_some, hcell]
        suffices hadded : k ∈ s.added hs v ↔ k ∈ s'.added hs v by simp only [hadded]
        rcases hsep with hat | hclear
        · -- the whole batch is at the places, and so `k` is not in it
          have hnever : k ∉ hs := fun hk => hoff (hat k hk)
          exact iff_of_false (fun hk => hnever (s.added_subset hs v hk)) fun hk => hnever (s'.added_subset hs v hk)
        · have hsame : ∀ h ∈ hs, s.get? h = s'.get? h := fun h hh => by
            simpa [cell?, hslot, hslot'] using ha.cells b h (hclear h hh)
          rw [(Store.putAll_congr hsame v).1]
    · rw [if_neg hc, if_neg hc]
      exact ha.cells c k hoff

/-! ## All operations -/

/-- Maps that agree off some places answer an operation alike if its own places are not among them. -/
theorem AgreeOff.answer (ha : AgreeOff places m m') (hkeyed : op.Keyed)
    (hoff : ∀ h ∈ op.hashes, ¬places (m.bucketFor h) h) : (op.step m).1 = (op.step m').1 := by
  cases hop : op.hash? with
  | some h => exact ha.answer_single hop (hoff h (MapOp.mem_hashes hop))
  | none =>
      cases op <;> simp only [MapOp.hash?, reduceCtorEq] at hop
      case putAll hs v => exact congrArg MapAnswer.outcome (ha.putAll hoff v).1
      case size | keys | walk => exact hkeyed.elim

theorem AgreeOff.step (ha : AgreeOff places m m') {op : ShardedOp} (hop : op.Separates m.buckets places) :
    AgreeOff places (op.step m).2 (op.step m').2 := by
  cases op with
  | map op =>
      cases hsingle : op.hash? with
      | some h => exact ha.step_single hsingle
      | none =>
          cases op <;> simp only [MapOp.hash?, reduceCtorEq] at hsingle
          case putAll hs v => exact (ha.putAll hop v).2
          case size | keys | walk => exact ha
  | putAllIn b hs v => exact ha.putAllIn hop v
  | removeBucket b =>
      constructor
      · rw [ShardedOp.buckets_step, ShardedOp.buckets_step, ha.buckets]
      · intro c k hoff
        change (m.removeBucket b).2.cell? c k = (m'.removeBucket b).2.cell? c k
        rw [cell?_removeBucket, cell?_removeBucket, ha.cells c k hoff]
  | flatten => exact ha

theorem AgreeOff.run (ha : AgreeOff places m m') {ops : List ShardedOp} (hops : ∀ op ∈ ops, op.Separates m.buckets places) :
    AgreeOff places (ShardedOp.run m ops).2 (ShardedOp.run m' ops).2 := by
  induction ops generalizing m m' with
  | nil => exact ha
  | cons op ops ih =>
      obtain ⟨hhead, htail⟩ := List.forall_mem_cons.1 hops
      have hnext : AgreeOff places (op.step m).2 (op.step m').2 := ha.step hhead
      have hbuckets : (op.step m).2.buckets = m.buckets := ShardedOp.buckets_step m op
      exact ih hnext fun op' hop' => hbuckets ▸ htail op' hop'

end Sharded
end ShardStore
