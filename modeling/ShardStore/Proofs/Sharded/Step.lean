import Mathlib.Data.List.Forall2
import ShardStore.Proofs.Sharded.Slots
import ShardStore.Proofs.Store.Batch
import ShardStore.Proofs.Walk

/-!
# Operations of a sharded map

An operation on one hash is that operation on the store in the slot of the hash; without such a store it is refused. What
is said of all slots is read off the list of the live ones, which stands in the order of the slots.
-/

namespace ShardStore

/-- What an operation on one hash answers where the slot of the hash is missing. -/
def MapOp.onMissing (op : MapOp) (e : StoreError) : MapAnswer :=
  match op with
  | .put .. | .set .. | .delete _ => .outcome (.error e)
  | .contains _ | .setIfPresent .. | .setIfAbsent .. => .truth false
  | _ => .value none

/-- What an operation on one hash does to the store in the slot of the hash. To take a hash out, it looks for it first. -/
def MapOp.stepInSlot {τ : Type} [Table τ Hash UInt64] (op : MapOp) (s : Store τ) : MapAnswer × Store τ :=
  match op with
  | .delete h => if s.contains h then (MapOp.delete h).step s else (.outcome (.error (.absent h.toText)), s)
  | op => op.step s

/-! ## What is done in one slot -/

namespace Store

variable {τ : Type} [Table τ Hash UInt64] {op : MapOp} {h : Hash}

/-- The look before a hash is taken out only keeps the store from what it would refuse. -/
theorem stepInSlot_cases (s : Store τ) (op : MapOp) :
    op.stepInSlot s = op.step s ∨
      ∃ h, op = .delete h ∧ s.contains h = false ∧ op.stepInSlot s = (.outcome (.error (.absent h.toText)), s) := by
  cases op with
  | delete h =>
      cases hpresent : s.contains h with
      | true => exact .inl (if_pos hpresent)
      | false => exact .inr ⟨h, rfl, hpresent, if_neg (Bool.eq_false_iff.1 hpresent)⟩
  | _ => exact .inl rfl

variable [LawfulTable τ]

theorem stepInSlot_fst (s : Store τ) (op : MapOp) : (op.stepInSlot s).1 = (op.step s).1 := by
  rcases s.stepInSlot_cases op with heq | ⟨h, rfl, habsent, heq⟩
  · rw [heq]
  · rw [contains_eq_false_iff] at habsent
    rw [heq, s.step_fst (h := h) rfl, habsent]
    rfl

theorem get?_stepInSlot (s : Store τ) (op : MapOp) (k : Hash) : (op.stepInSlot s).2.get? k = (op.step s).2.get? k := by
  rcases s.stepInSlot_cases op with heq | ⟨h, rfl, habsent, heq⟩
  · rw [heq]
  · rw [contains_eq_false_iff] at habsent
    rw [heq, s.get?_step (h := h) rfl, habsent]
    split
    · next hsame => rw [← hsame, habsent]; rfl
    · rfl

end Store

namespace Sharded

variable {τ : Type} {m : Sharded τ}

/-! ## Routing -/

theorem bucketFor_lt (m : Sharded τ) (h : Hash) : m.bucketFor h < m.buckets := UInt16.mod_lt _ m.positive

theorem bucketFor_le (m : Sharded τ) (h : Hash) : m.bucketFor h ≤ m.buckets := UInt16.le_of_lt (m.bucketFor_lt h)

/-! ## Live slots -/

theorem mem_live_iff {s : Store τ} : s ∈ m.live ↔ ∃ b, m.slot? b = some s := by
  simp only [live, List.mem_filterMap, Vector.mem_toList_iff, id, exists_eq_right, Vector.mem_iff_getElem]
  constructor
  · rintro ⟨i, hi, hs⟩
    exact ⟨UInt16.ofNat i, (slot?_ofNat hi).trans hs⟩
  · rintro ⟨b, hs⟩
    exact ⟨b.toNat, (m.lt_slots_iff b).2 (le_buckets hs), by rw [← slot?_of_lt, hs]⟩

/-- A relation from earlier to later slots is one from earlier to later live stores. -/
theorem pairwise_live {R : Store τ → Store τ → Prop}
    (hR : ∀ b c s t, b < c → m.slot? b = some s → m.slot? c = some t → R s t) : m.live.Pairwise R := by
  rw [live, List.pairwise_filterMap, List.pairwise_iff_getElem]
  intro i j hi hj hij s hs t ht
  simp only [Vector.length_toList] at hi hj
  simp only [Vector.getElem_toList, id] at hs ht
  have hlt : UInt16.ofNat i < UInt16.ofNat j := by
    rw [UInt16.lt_iff_toNat_lt, toNat_ofNat hi, toNat_ofNat hj]
    exact hij
  exact hR _ _ s t hlt ((slot?_ofNat hi).trans hs) ((slot?_ofNat hj).trans ht)

/-- Maps whose slots are related have related live stores, one by one. -/
theorem live_rel {τ' : Type} {m' : Sharded τ'} {R : Store τ → Store τ' → Prop} (hbuckets : m.buckets = m'.buckets)
    (hR : ∀ b, Option.Rel R (m.slot? b) (m'.slot? b)) : List.Forall₂ R m.live m'.live := by
  have hslots : List.Forall₂ (Option.Rel R) m.slots.toList m'.slots.toList := by
    refine List.forall₂_iff_get.2 ⟨by rw [Vector.length_toList, Vector.length_toList, hbuckets], fun i hi hi' => ?_⟩
    simp only [Vector.length_toList] at hi hi'
    simp only [List.get_eq_getElem, Vector.getElem_toList, ← slot?_ofNat hi, ← slot?_ofNat hi']
    exact hR (UInt16.ofNat i)
  exact List.rel_filterMap (fun _ _ h => h) hslots

variable [Table τ Hash UInt64]

/-- The entries of all slots, slot by slot. -/
def toList (m : Sharded τ) : List Entry := m.live.flatMap Store.toList

theorem keys_eq (m : Sharded τ) : m.keys = m.toList.map Prod.fst := by
  rw [toList, List.map_flatMap]
  rfl

theorem mem_toList_iff_slot {e : Entry} : e ∈ m.toList ↔ ∃ b s, m.slot? b = some s ∧ e ∈ s.toList := by
  simp only [toList, List.mem_flatMap, mem_live_iff]
  grind

theorem mem_keys_iff_slot {h : Hash} : h ∈ m.keys ↔ ∃ b s, m.slot? b = some s ∧ h ∈ s.keys := by
  simp only [keys, List.mem_flatMap, mem_live_iff]
  grind

theorem walk_recording {decide : List Entry → Signal} (hdecide : ∀ seen, decide seen = .proceed)
    (m : Sharded τ) : m.walk (recording decide) [] = m.toList := by
  have hlive : ∀ (stores : List (Store τ)) (seen : List Entry),
      stores.foldl (fun seen store => store.walk (recording decide) seen) seen =
        seen ++ stores.flatMap Store.toList := by
    intro stores
    induction stores with
    | nil => simp
    | cons s stores ih =>
        intro seen
        rw [List.foldl_cons, ih, Store.walk, ShardStore.walk_recording hdecide, List.flatMap_cons, List.append_assoc]
  exact hlive m.live []

/-- Slots in which every look-up finds the same hold the same entries, each slot in an order of its own. -/
theorem toList_perm_of_get? {τ' : Type} [Table τ' Hash UInt64] [LawfulTable τ] [LawfulTable τ'] {m' : Sharded τ'}
    (hbuckets : m.buckets = m'.buckets)
    (hslots : ∀ b, Option.Rel (fun s t => ∀ h, s.get? h = t.get? h) (m.slot? b) (m'.slot? b)) :
    m.toList.Perm m'.toList := by
  have hlive := live_rel hbuckets hslots
  rw [toList, toList]
  generalize m.live = stores, m'.live = stores' at hlive
  induction hlive with
  | nil => exact .nil
  | cons hstore _ ih =>
      rw [List.flatMap_cons, List.flatMap_cons]
      exact (Store.toList_perm_of_get? hstore).append ih

/-! ## Fresh maps -/

theorem slot?_withBuckets (hint : Nat) (n b : UInt16) :
    (withBuckets hint n : Sharded τ).slot? b =
      if b ≤ atLeastOne n then some (.withCapacity (share hint (atLeastOne n))) else none := by
  split
  · next hb =>
      rw [slot?_of_lt (((withBuckets hint n).lt_slots_iff b).2 hb)]
      exact Vector.getElem_replicate _
  · next hb => exact slot?_of_not_le (m := withBuckets hint n) hb

/-! ## Operations on one hash -/

variable {op : MapOp} {h : Hash}

theorem get?_eq (m : Sharded τ) (h : Hash) : m.get? h = (m.slot? (m.bucketFor h)).bind (·.get? h) := rfl

theorem step_eq (m : Sharded τ) (hsingle : op.hash? = some h) :
    op.step m =
      match m.slot? (m.bucketFor h) with
      | none => (op.onMissing (m.missing (m.bucketFor h)), m)
      | some s => ((op.stepInSlot s).1, m.withSlot (m.bucketFor h) (some (op.stepInSlot s).2)) := by
  cases op <;> simp only [MapOp.hash?, Option.some.injEq, reduceCtorEq] at hsingle <;> subst hsingle
  case get h | contains h =>
    simp only [MapOp.step, TransactionMap.get?, TransactionMap.contains, get?, contains]
    cases hs : m.slot? (m.bucketFor h) with
    | none => rfl
    | some s =>
        have hsame : m.withSlot (m.bucketFor h) (some s) = m := withSlot_eq_self hs
        simp only [MapOp.stepInSlot, MapOp.step, hsame]
        rfl
  all_goals
    simp only [MapOp.step, TransactionMap.put, TransactionMap.set, TransactionMap.setIfPresent,
      TransactionMap.setIfAbsent, TransactionMap.delete, put, set, setIfPresent, setIfAbsent, delete, tryOnSlot_eq,
      onSlot_eq]
  case delete h =>
    cases m.slot? (m.bucketFor h) with
    | none => rfl
    | some s =>
        simp only [MapOp.stepInSlot]
        split <;> rfl
  all_goals
    cases m.slot? (m.bucketFor _) <;> rfl

theorem step_of_missing (hsingle : op.hash? = some h) (hs : m.slot? (m.bucketFor h) = none) :
    op.step m = (op.onMissing (m.missing (m.bucketFor h)), m) := by
  simp only [step_eq m hsingle, hs]

theorem step_of_live (hsingle : op.hash? = some h) {s : Store τ} (hs : m.slot? (m.bucketFor h) = some s) :
    op.step m = ((op.stepInSlot s).1, m.withSlot (m.bucketFor h) (some (op.stepInSlot s).2)) := by
  simp only [step_eq m hsingle, hs]

theorem slot?_step_of_ne {op : MapOp} {h : Hash} (hsingle : op.hash? = some h) {b : UInt16} (hb : b ≠ m.bucketFor h) :
    (op.step m).2.slot? b = m.slot? b := by
  rw [step_eq m hsingle]
  cases m.slot? (m.bucketFor h) with
  | none => rfl
  | some s => rw [slot?_withSlot_of_le (m.bucketFor_le h), if_neg hb.symm]

theorem buckets_step_single (m : Sharded τ) (hsingle : op.hash? = some h) : (op.step m).2.buckets = m.buckets := by
  rw [step_eq m hsingle]
  cases m.slot? (m.bucketFor h) <;> rfl

/-! ## All operations are made of these -/

theorem putAll_of_put_ok {hs : List Hash} {v : UInt64} (hput : (m.put h v).1 = .ok ()) :
    m.putAll (h :: hs) v = (m.put h v).2.putAll hs v := by
  rw [putAll]
  split
  · next heq => rw [heq]
  · next heq => rw [heq] at hput; cases hput

theorem putAll_of_put_error {hs : List Hash} {v : UInt64} {e : StoreError} (hput : (m.put h v).1 = .error e) :
    m.putAll (h :: hs) v = (.error (.batch (m.bucketFor h).toUInt64 e), (m.put h v).2) := by
  rw [putAll]
  split
  · next heq => rw [heq] at hput; cases hput
  · next heq => rw [heq] at hput ⊢; cases hput; rfl

/-- What every operation on one hash keeps, every operation of the interface keeps. -/
theorem step_keeps {P : Sharded τ → Prop} (hkeeps : ∀ m op h, MapOp.hash? op = some h → P m → P (op.step m).2)
    (op : MapOp) (m : Sharded τ) (hm : P m) : P (op.step m).2 := by
  cases hop : op.hash? with
  | some h => exact hkeeps m op h hop hm
  | none =>
      cases op <;> simp only [MapOp.hash?, reduceCtorEq] at hop
      case size | keys | walk => exact hm
      case putAll hs v =>
        change P (m.putAll hs v).2
        clear hop
        induction hs generalizing m with
        | nil => exact hm
        | cons h hs ih =>
            have hnext : P (m.put h v).2 := hkeeps m (.put h v) h rfl hm
            cases hput : (m.put h v).1 with
            | ok => rw [putAll_of_put_ok hput]; exact ih _ hnext
            | error e => rw [putAll_of_put_error hput]; exact hnext

theorem buckets_step (m : Sharded τ) (op : MapOp) : (op.step m).2.buckets = m.buckets :=
  step_keeps (P := fun m' => m'.buckets = m.buckets)
    (fun m' _ _ hsingle hm' => (m'.buckets_step_single hsingle).trans hm') op m rfl

/-! ## Cells -/

/-- The value of a hash in one slot, unless the slot is missing. -/
def cell? (m : Sharded τ) (b : UInt16) (h : Hash) : Option (Option UInt64) := (m.slot? b).map (·.get? h)

theorem get?_eq_cell? (m : Sharded τ) (h : Hash) : m.get? h = (m.cell? (m.bucketFor h) h).join := by
  rw [get?_eq, cell?]
  cases m.slot? (m.bucketFor h) <;> rfl

theorem isSome_cell? (m : Sharded τ) (b : UInt16) (h : Hash) : (m.cell? b h).isSome = (m.slot? b).isSome :=
  Option.isSome_map

theorem slots_rel_of_cell? {τ' : Type} [Table τ' Hash UInt64] {m' : Sharded τ'}
    (hcells : ∀ b h, m.cell? b h = m'.cell? b h) (b : UInt16) :
    Option.Rel (fun s s' => ∀ h, s.get? h = s'.get? h) (m.slot? b) (m'.slot? b) := by
  have hslots : ∀ h, (m.slot? b).map (·.get? h) = (m'.slot? b).map (·.get? h) := hcells b
  match m.slot? b, m'.slot? b, hslots with
  | none, none, _ => exact .none
  | some _, some _, hslots => exact .some fun h => Option.some.inj (hslots h)
  | none, some _, hslots => cases hslots (Hash.ofBytes [])
  | some _, none, hslots => cases hslots (Hash.ofBytes [])

variable [LawfulTable τ]

theorem contains_eq (m : Sharded τ) (h : Hash) : m.contains h = (m.get? h).isSome := by
  rw [contains, get?]
  cases m.slot? (m.bucketFor h) with
  | none => rfl
  | some s => exact s.contains_eq h

theorem mem_toList_iff {v : UInt64} : (h, v) ∈ m.toList ↔ ∃ b, m.cell? b h = some (some v) := by
  simp only [mem_toList_iff_slot, cell?, Store.mem_toList_iff, Option.map_eq_some_iff]

theorem step_fst (m : Sharded τ) (hsingle : op.hash? = some h) :
    (op.step m).1 =
      match m.cell? (m.bucketFor h) h with
      | none => op.onMissing (m.missing (m.bucketFor h))
      | some cell => (op.onCell cell).1 := by
  cases hs : m.slot? (m.bucketFor h) with
  | none => simp only [step_of_missing hsingle hs, cell?, hs, Option.map_none]
  | some s => simp only [step_of_live hsingle hs, cell?, hs, Option.map_some, s.stepInSlot_fst, s.step_fst hsingle]

/-- The cell of the hash in its own slot decides the answer and changes by itself, and all other cells stay. -/
theorem cell?_step (m : Sharded τ) (hsingle : op.hash? = some h) (b : UInt16) (k : Hash) :
    (op.step m).2.cell? b k =
      if m.bucketFor h = b ∧ h = k then (m.cell? b h).map fun cell => (op.onCell cell).2 else m.cell? b k := by
  cases hs : m.slot? (m.bucketFor h) with
  | none =>
      rw [step_of_missing hsingle hs]
      split
      · next hsame => simp only [cell?, ← hsame.1, ← hsame.2, hs, Option.map_none]
      · rfl
  | some s =>
      simp only [step_of_live hsingle hs, cell?, slot?_withSlot_of_le (m.bucketFor_le h)]
      by_cases hb : m.bucketFor h = b
      · subst hb
        simp only [if_true, hs, Option.map_some, s.get?_stepInSlot, s.get?_step hsingle, true_and]
        split <;> rfl
      · simp only [hb, if_false, false_and]

/-- No operation of the interface takes a slot out or brings one back. -/
theorem isSome_slot?_step (m : Sharded τ) (op : MapOp) (b : UInt16) :
    ((op.step m).2.slot? b).isSome = (m.slot? b).isSome := by
  refine step_keeps (P := fun m' => (m'.slot? b).isSome = (m.slot? b).isSome) (fun m' op h hsingle hm' => ?_) op m rfl
  rw [← hm', ← isSome_cell? _ b h, ← isSome_cell? _ b h, cell?_step m' hsingle]
  split
  · rw [Option.isSome_map]
  · rfl

theorem cell?_putAllIn (m : Sharded τ) (b : UInt16) (hs : List Hash) (v : UInt64) (c : UInt16) (k : Hash) :
    (m.putAllIn b hs v).2.cell? c k =
      if b = c then (m.slot? b).map fun s => if k ∈ s.added hs v then some v else s.get? k else m.cell? c k := by
  cases hb : m.slot? b with
  | none =>
      simp only [putAllIn, tryOnSlot_eq, hb]
      split
      · next hsame => simp only [cell?, ← hsame, hb, Option.map_none]
      · rfl
  | some s =>
      simp only [putAllIn, tryOnSlot_eq, hb, cell?, slot?_withSlot_of_le (le_buckets hb)]
      split
      · simp only [Option.map_some, s.get?_putAll]
      · rfl

omit [LawfulTable τ] in
theorem cell?_removeBucket (m : Sharded τ) (b c : UInt16) (k : Hash) :
    (m.removeBucket b).2.cell? c k = if b = c then none else m.cell? c k := by
  rw [removeBucket_eq, cell?, slot?_withSlot]
  split
  · split <;> rfl
  · rfl

end Sharded

/-! ## Runs -/

namespace ShardedOp

variable {τ : Type} [Table τ Hash UInt64]

theorem buckets_step (m : Sharded τ) (op : ShardedOp) : (op.step m).2.buckets = m.buckets := by
  cases op with
  | map op => exact m.buckets_step op
  | putAllIn b hs v =>
      change (m.putAllIn b hs v).2.buckets = m.buckets
      rw [Sharded.putAllIn, Sharded.tryOnSlot_eq]
      cases m.slot? b <;> rfl
  | removeBucket b =>
      change (m.removeBucket b).2.buckets = m.buckets
      rw [Sharded.removeBucket_eq]
      rfl
  | flatten => rfl

theorem run_cons_snd (m : Sharded τ) (op : ShardedOp) (ops : List ShardedOp) :
    (run m (op :: ops)).2 = (run (op.step m).2 ops).2 := rfl

theorem run_keeps {P : Sharded τ → Prop} {ops : List ShardedOp} (hkeeps : ∀ op ∈ ops, ∀ m, P m → P (op.step m).2)
    {m : Sharded τ} (hstart : P m) : P (run m ops).2 := by
  induction ops generalizing m with
  | nil => exact hstart
  | cons op ops ih =>
      have hnext : P (op.step m).2 := hkeeps op (List.mem_cons_self ..) m hstart
      exact ih (fun op hop => hkeeps op (List.mem_cons_of_mem _ hop)) hnext

theorem buckets_run (m : Sharded τ) (ops : List ShardedOp) : (run m ops).2.buckets = m.buckets :=
  run_keeps (P := fun m' => m'.buckets = m.buckets) (fun op _ m' hm' => (buckets_step m' op).trans hm') rfl

end ShardedOp

end ShardStore
