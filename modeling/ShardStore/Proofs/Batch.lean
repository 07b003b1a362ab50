import ShardStore.Proofs.Sharded.Step
import ShardStore.Proofs.Table.Effect

/-!
# How far batches go

A batch adds the longest beginning of its hashes in which none comes twice, none is there already, and none goes to a missing
slot. The tables take in these hashes and nothing else, and the error is about the hash that comes next.
-/

namespace ShardStore

/-! ## The longest beginning -/

section

variable {α : Type} {P : List α → Prop} {free : α → Prop} {a : α} {l p q : List α}

/-- Of all beginnings of a list that have a property, `p` is the longest. -/
structure Longest (P : List α → Prop) (l p : List α) : Prop where
  begins : p <+: l
  holds : P p
  longest : ∀ q, q <+: l → P q → q <+: p

theorem Longest.unique (hp : Longest P l p) (hq : Longest P l q) : p = q :=
  (hq.longest p hp.begins hp.holds).eq_of_length_le (hp.longest q hq.begins hq.holds).length_le

/-- No item twice, and none but free ones. -/
def Fits (free : α → Prop) (l : List α) : Prop := l.Nodup ∧ ∀ a ∈ l, free a

theorem fits_cons_iff : Fits free (a :: l) ↔ free a ∧ Fits (fun b => free b ∧ b ≠ a) l := by
  simp only [Fits, List.nodup_cons, List.forall_mem_cons, forall_and]
  grind

theorem longest_nil : Longest (Fits free) [] [] where
  begins := List.prefix_rfl
  holds := ⟨List.nodup_nil, fun _ h => by cases h⟩
  longest _ hbegins _ := hbegins

theorem longest_of_not_free (ha : ¬free a) : Longest (Fits free) (a :: l) [] where
  begins := List.nil_prefix
  holds := longest_nil.holds
  longest q hbegins hfits := by
    rcases List.prefix_cons_iff.1 hbegins with rfl | ⟨q, rfl, -⟩
    · exact List.prefix_rfl
    · exact absurd (fits_cons_iff.1 hfits).1 ha

theorem longest_of_free (ha : free a) (hp : Longest (Fits fun b => free b ∧ b ≠ a) l p) :
    Longest (Fits free) (a :: l) (a :: p) where
  begins := (List.prefix_cons_inj a).2 hp.begins
  holds := fits_cons_iff.2 ⟨ha, hp.holds⟩
  longest q hbegins hfits := by
    rcases List.prefix_cons_iff.1 hbegins with rfl | ⟨q, rfl, hq⟩
    · exact List.nil_prefix
    · exact (List.prefix_cons_inj a).2 (hp.longest q hq (fits_cons_iff.1 hfits).2)

end

/-! ## How a batch ends -/

/-- A batch that has added `p` of its hashes is done just if those are all, and else is refused for the next one. -/
structure EndsBehind (outcome : Outcome) (hs p : List Hash) (refusal : Hash → StoreError) : Prop where
  done_iff : outcome = .ok () ↔ p = hs
  stopped : ∀ x rest, hs = p ++ x :: rest → outcome = .error (refusal x)

section

variable {refusal : Hash → StoreError} {outcome : Outcome} {h : Hash} {hs p : List Hash}

theorem endsBehind_nil : EndsBehind (.ok ()) [] [] refusal where
  done_iff := iff_of_true rfl rfl
  stopped x rest hsplit := by cases hsplit

theorem endsBehind_of_refused (hrefused : outcome = .error (refusal h)) : EndsBehind outcome (h :: hs) [] refusal where
  done_iff := by simp [hrefused]
  stopped x rest hsplit := by rw [hrefused, (List.cons.inj hsplit).1]

theorem EndsBehind.cons (hends : EndsBehind outcome hs p refusal) (h : Hash) :
    EndsBehind outcome (h :: hs) (h :: p) refusal where
  done_iff := hends.done_iff.trans (List.cons_inj_right h).symm
  stopped x rest hsplit := hends.stopped x rest (List.cons.inj hsplit).2

end

/-! ## What a store takes in -/

namespace Store

variable {τ : Type} [Table τ Hash UInt64] {s t u : Store τ} {h : Hash} {p q : List Hash} {v : UInt64}

/-- A store has become another by taking in some hashes with one value. -/
structure Gains (s t : Store τ) (p : List Hash) (v : UInt64) : Prop where
  value : ∀ h, t.get? h = if h ∈ p then some v else s.get? h
  entries : t.toList.Perm (s.toList ++ p.map (·, v))
  inOrder : AppendingTable τ → t.toList = s.toList ++ p.map (·, v)
  unchanged : p = [] → t = s

theorem Gains.refl (s : Store τ) (v : UInt64) : s.Gains s [] v where
  value h := by simp
  entries := by simp
  inOrder _ := by simp
  unchanged _ := rfl

theorem Gains.trans (hp : s.Gains t p v) (hq : t.Gains u q v) : s.Gains u (p ++ q) v where
  value h := by
    rw [hq.value, hp.value]
    grind
  entries := by
    rw [List.map_append, ← List.append_assoc]
    exact hq.entries.trans (hp.entries.append_right _)
  inOrder happending := by rw [hq.inOrder happending, hp.inOrder happending, List.map_append, List.append_assoc]
  unchanged hnil := by
    obtain ⟨hp', hq'⟩ := List.append_eq_nil_iff.1 hnil
    rw [hq.unchanged hq', hp.unchanged hp']

variable [LawfulTable τ]

theorem gains_put (hget : s.get? h = none) (v : UInt64) : s.Gains (s.put h v).2 [h] v where
  value k := by
    rw [get?_put_of_absent hget]
    simp only [List.mem_singleton, eq_comm]
  entries := (Table.toList_perm_cons hget (get?_put_of_absent hget v)).trans (List.perm_append_singleton _ _).symm
  inOrder happending := by
    rw [put_of_absent hget]
    exact AppendingTable.toList_insert s.table h v hget
  unchanged hnil := by cases hnil

theorem batch_ends (s : Store τ) (hs : List Hash) (v : UInt64) :
    ∃ p, Longest (Fits fun h => s.get? h = none) hs p ∧ s.Gains (s.putAll hs v).2 p v ∧
      EndsBehind (s.putAll hs v).1 hs p fun x => .present x.toText := by
  induction hs generalizing s with
  | nil => exact ⟨[], longest_nil, .refl s v, endsBehind_nil⟩
  | cons h hs ih =>
      cases hget : s.get? h with
      | some old =>
          rw [putAll_of_present hget]
          exact ⟨[], longest_of_not_free (by simp [hget]), .refl s v, endsBehind_of_refused rfl⟩
      | none =>
          obtain ⟨p, hlongest, hgains, hends⟩ := ih (s.put h v).2
          have hfree : ∀ k, (s.put h v).2.get? k = none ↔ s.get? k = none ∧ k ≠ h := fun k => by
            rw [get?_put_of_absent hget]
            grind
          simp only [hfree] at hlongest
          rw [putAll_of_absent hget]
          exact ⟨h :: p, longest_of_free hget hlongest, (gains_put hget v).trans hgains, hends.cons h⟩

end Store

/-! ## What a sharded map takes in -/

namespace Sharded

variable {τ : Type} [Table τ Hash UInt64] {m m' m'' : Sharded τ} {h : Hash} {p q : List Hash} {v : UInt64}

/-- The slot of a hash is there and does not have it. -/
def Free (m : Sharded τ) (h : Hash) : Prop := ∃ s, m.slot? (m.bucketFor h) = some s ∧ s.get? h = none

omit [Table τ Hash UInt64] in
/-- Why a hash is refused that is not free. -/
def refusal (m : Sharded τ) (h : Hash) : StoreError :=
  match m.slot? (m.bucketFor h) with
  | none => .noBucket (m.bucketFor h).toUInt64 m.buckets.toUInt64
  | some _ => .present h.toText

/-- A map has become another by taking in some hashes with one value, each in the slot of its bucket. -/
structure Gains (m m' : Sharded τ) (p : List Hash) (v : UInt64) : Prop where
  buckets : m'.buckets = m.buckets
  slots : ∀ b, Option.Rel (fun s t => s.Gains t (p.filter (m.bucketFor · = b)) v) (m.slot? b) (m'.slot? b)

theorem Gains.refl (m : Sharded τ) (v : UInt64) : m.Gains m [] v where
  buckets := rfl
  slots b := by
    cases m.slot? b with
    | none => exact .none
    | some s => exact .some (.refl s v)

theorem Gains.bucketFor (hp : m.Gains m' p v) (h : Hash) : m'.bucketFor h = m.bucketFor h :=
  congrArg h.bucket hp.buckets

theorem Gains.trans (hp : m.Gains m' p v) (hq : m'.Gains m'' q v) : m.Gains m'' (p ++ q) v where
  buckets := hq.buckets.trans hp.buckets
  slots b := by
    have hfirst := hp.slots b
    have hnext := hq.slots b
    simp only [hp.bucketFor] at hnext
    rw [List.filter_append]
    generalize m.slot? b = s, m'.slot? b = t, m''.slot? b = u at hfirst hnext
    cases hfirst with
    | none => cases hnext; exact .none
    | some hfirst =>
        cases hnext with
        | some hnext => exact .some (hfirst.trans hnext)

/-- A map that has taken in hashes refuses for the same reasons. -/
theorem Gains.refusal (hp : m.Gains m' p v) (h : Hash) : m'.refusal h = m.refusal h := by
  have hslot := hp.slots (m.bucketFor h)
  rw [Sharded.refusal, Sharded.refusal, hp.bucketFor, hp.buckets]
  generalize m.slot? (m.bucketFor h) = s, m'.slot? (m.bucketFor h) = t at hslot
  cases hslot <;> rfl

theorem Gains.free_iff (hp : m.Gains m' p v) (h : Hash) : m'.Free h ↔ m.Free h ∧ h ∉ p := by
  have hslot := hp.slots (m.bucketFor h)
  rw [Free, Free, hp.bucketFor]
  generalize m.slot? (m.bucketFor h) = s, m'.slot? (m.bucketFor h) = t at hslot
  cases hslot with
  | none => simp
  | some hslot =>
      simp only [Option.some.injEq, exists_eq_left', hslot.value, List.mem_filter, decide_true, and_true]
      grind

theorem Gains.get?_eq (hp : m.Gains m' p v) (hfree : ∀ h ∈ p, m.Free h) (h : Hash) :
    m'.get? h = if h ∈ p then some v else m.get? h := by
  have hslot := hp.slots (m.bucketFor h)
  have hthere : h ∈ p → ∃ s, m.slot? (m.bucketFor h) = some s := fun hh => (hfree h hh).imp fun _ hs => hs.1
  rw [Sharded.get?_eq, Sharded.get?_eq, hp.bucketFor]
  generalize m.slot? (m.bucketFor h) = s, m'.slot? (m.bucketFor h) = t at hslot hthere
  cases hslot with
  | none => rw [if_neg fun hh => by simpa using hthere hh]
  | some hslot => simp only [Option.bind_some, hslot.value, List.mem_filter, decide_true, and_true]

theorem put_of_not_free [LawfulTable τ] (hfree : ¬m.Free h) (v : UInt64) : m.put h v = (.error (m.refusal h), m) := by
  rw [put, tryOnSlot_eq, refusal]
  cases hs : m.slot? (m.bucketFor h) with
  | none => rfl
  | some s =>
      cases hget : s.get? h with
      | none => exact absurd ⟨s, hs, hget⟩ hfree
      | some old => simp only [Store.put_of_present hget, withSlot_eq_self hs]

theorem put_of_free [LawfulTable τ] (hfree : m.Free h) (v : UInt64) :
    (m.put h v).1 = .ok () ∧ m.Gains (m.put h v).2 [h] v := by
  obtain ⟨s, hs, hget⟩ := hfree
  have hput : m.put h v = (.ok (), m.withSlot (m.bucketFor h) (some (s.put h v).2)) := by
    simp only [put, tryOnSlot_eq, hs, Store.put_of_absent hget]
  rw [hput]
  refine ⟨rfl, rfl, fun b => ?_⟩
  rw [slot?_withSlot_of_le (m.bucketFor_le h)]
  by_cases hb : m.bucketFor h = b
  · subst hb
    simp only [hs, if_true, List.filter_cons_of_pos, decide_true, List.filter_nil]
    exact .some (Store.gains_put hget v)
  · simp only [hb, if_false, List.filter_cons_of_neg, decide_false, Bool.false_eq_true, not_false_eq_true,
      List.filter_nil]
    exact (Gains.refl m v).slots b

theorem batch_ends [LawfulTable τ] (m : Sharded τ) (hs : List Hash) (v : UInt64) :
    ∃ p, Longest (Fits m.Free) hs p ∧ m.Gains (m.putAll hs v).2 p v ∧
      EndsBehind (m.putAll hs v).1 hs p fun x => .batch (m.bucketFor x).toUInt64 (m.refusal x) := by
  induction hs generalizing m with
  | nil => exact ⟨[], longest_nil, .refl m v, endsBehind_nil⟩
  | cons h hs ih =>
      by_cases hfree : m.Free h
      · obtain ⟨hdone, hput⟩ := put_of_free hfree v
        obtain ⟨p, hlongest, hgains, hends⟩ := ih (m.put h v).2
        -- what is free after the put is what was free before, but for the hash itself
        have hnext : (m.put h v).2.Free = fun k => m.Free k ∧ k ≠ h := by
          ext k
          rw [hput.free_iff, List.mem_singleton]
        rw [hnext] at hlongest
        simp only [hput.bucketFor, hput.refusal] at hends
        rw [putAll_of_put_ok hdone]
        exact ⟨h :: p, longest_of_free hfree hlongest, hput.trans hgains, hends.cons h⟩
      · have hput := put_of_not_free hfree v
        rw [putAll_of_put_error (congrArg Prod.fst hput), hput]
        exact ⟨[], longest_of_not_free hfree, .refl m v, endsBehind_of_refused rfl⟩

end Sharded

/-! ## Batches of both -/

/-- A batch takes in the longest beginning of its hashes that fits, and ends behind it. To fit in a store the hashes must be
absent, in a sharded map also their slots must be there, and no hash may come twice. -/
theorem batch_takes_longest_beginning {τ : Type} [Table τ Hash UInt64] [LawfulTable τ] (hs : List Hash) (v : UInt64) :
    (∀ s : Store τ, ∃ p, Longest (Fits fun h => s.get? h = none) hs p ∧ s.Gains (s.putAll hs v).2 p v ∧
      EndsBehind (s.putAll hs v).1 hs p fun x => .present x.toText) ∧
    (∀ m : Sharded τ, ∃ p, Longest (Fits m.Free) hs p ∧ m.Gains (m.putAll hs v).2 p v ∧
      EndsBehind (m.putAll hs v).1 hs p fun x => .batch (m.bucketFor x).toUInt64 (m.refusal x)) :=
  ⟨fun s => s.batch_ends hs v, fun m => m.batch_ends hs v⟩

/-- A store is given a hash twice, and a map has lost the slot of a hash. -/
theorem stopped_by_repeat_or_missing_slot :
    let a := Hash.ofBytes [0, 2]
    let b := Hash.ofBytes [0, 1]
    let s : Store (EntryList Hash UInt64) := .withCapacity 4
    let m : Sharded (EntryList Hash UInt64) := ((Sharded.withBuckets 4 2).removeBucket 1).2
    (s.putAll [a, b, a, b] 7).1 = .error (.present a.toText) ∧ (s.putAll [a, b, a, b] 7).2.toList = [(a, 7), (b, 7)] ∧
      (m.putAll [a, b, a] 7).1 = .error (.batch 1 (.noBucket 1 2)) ∧ m.Gains (m.putAll [a, b, a] 7).2 [a] 7 := by
  intro a b s m
  have ha : m.cell? (m.bucketFor a) a = some none := by decide
  have hb : m.slot? (m.bucketFor b) = none := Option.map_eq_none_iff.1 (by decide : m.cell? (m.bucketFor b) b = none)
  have hrefusal : StoreError.batch (m.bucketFor b).toUInt64 (m.refusal b) = .batch 1 (.noBucket 1 2) := by
    rw [Sharded.refusal, hb]
    decide
  obtain ⟨p, hlongest, hgains, hends⟩ := (batch_takes_longest_beginning [a, b, a, b] 7).1 s
  obtain ⟨q, hlongest', hgains', hends'⟩ := (batch_takes_longest_beginning [a, b, a] 7).2 m
  have hp : p = [a, b] := hlongest.unique <|
    longest_of_free rfl <| longest_of_free ⟨rfl, by decide⟩ <| longest_of_not_free fun hfree => hfree.1.2 rfl
  have hq : q = [a] := hlongest'.unique <|
    longest_of_free (Option.map_eq_some_iff.1 ha) <| longest_of_not_free fun ⟨⟨_, hslot, _⟩, _⟩ => by simp [hb] at hslot
  subst hp hq
  exact ⟨hends.stopped a [b] rfl, hgains.inOrder inferInstance, (hends'.stopped b [a] rfl).trans (congrArg _ hrefusal), hgains'⟩

end ShardStore
