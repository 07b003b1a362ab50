import ShardStore.Proofs.Counted.Turns
import ShardStore.Workload

/-!
# Work shared out

The chunks of the workers make up the whole work. In whatever order the workers get their turns, each item comes once.
-/

namespace ShardStore

variable {α β : Type} {size items workers : Nat}

/-! ## Chunks -/

/-- Each worker has a part of the work, and some workers may have none. No part is empty. -/
structure SharedOut (work : List α) (workers : Nat) (parts : List (List α)) : Prop where
  nonempty : ∀ part ∈ parts, part ≠ []
  few : parts.length ≤ workers
  whole : parts.flatten = work

theorem ne_nil_of_mem_chunks {part l : List α} (hpart : part ∈ chunks size l) : part ≠ [] := by
  fun_induction chunks size l with
  | case1 | case2 => cases hpart
  | case3 hsize a rest ih =>
      rcases List.mem_cons.1 hpart with rfl | hlater
      · exact List.cons_ne_nil _ _
      · exact ih hlater

theorem flatten_chunks (hsize : 0 < size) (l : List α) : (chunks size l).flatten = l := by
  fun_induction chunks size l with
  | case1 _ hzero => exact absurd hzero (Nat.ne_of_gt hsize)
  | case2 => rfl
  | case3 _ a rest ih => rw [List.flatten_cons, ih, List.cons_append, List.take_append_drop]

/-- All chunks but the last one are full. -/
theorem length_chunks_mul_lt (hsize : 0 < size) (l : List α) : (chunks size l).length * size < l.length + size := by
  fun_induction chunks size l with
  | case1 _ hzero => exact absurd hzero (Nat.ne_of_gt hsize)
  | case2 => simpa using hsize
  | case3 _ a rest ih =>
      rw [List.length_drop] at ih
      rw [List.length_cons, List.length_cons, Nat.succ_mul]
      by_cases hfull : size - 1 ≤ rest.length
      · omega
      · have hlast : (chunks size (rest.drop (size - 1))).length * size < 1 * size := by omega
        have hnone := Nat.lt_of_mul_lt_mul_right hlast
        rw [Nat.lt_one_iff.1 hnone, Nat.zero_mul]
        omega

theorem chunks_map (f : α → β) (l : List α) : chunks size (l.map f) = (chunks size l).map (List.map f) := by
  fun_induction chunks size l with
  | case1 l hzero => rw [chunks.eq_def, if_pos hzero]; rfl
  | case2 hsize => rw [List.map_nil, chunks, if_neg hsize]; rfl
  | case3 hsize a rest ih =>
      rw [List.map_cons, chunks, if_neg hsize, ← List.map_drop, ih, ← List.map_take]
      rfl

theorem chunkSize_pos (items workers : Nat) : 0 < chunkSize items workers := Nat.lt_of_lt_of_le Nat.one_pos (Nat.le_max_left _ _)

theorem le_chunkSize_mul (hworkers : 0 < workers) (items : Nat) : items ≤ chunkSize items workers * workers := by
  have hrounded : items + workers - 1 < workers * ((items + workers - 1) / workers + 1) := Nat.lt_mul_div_succ _ hworkers
  rw [Nat.mul_succ, Nat.mul_comm] at hrounded
  have hlarger := Nat.mul_le_mul_right workers (Nat.le_max_right 1 ((items + workers - 1) / workers))
  rw [chunkSize]
  omega

theorem sharedOut_chunks (hworkers : 0 < workers) (l : List α) : SharedOut l workers (chunks (chunkSize l.length workers) l) where
  nonempty _ hpart := ne_nil_of_mem_chunks hpart
  few := by
    have hsize := chunkSize_pos l.length workers
    have hlength := length_chunks_mul_lt hsize l
    have henough := le_chunkSize_mul hworkers l.length
    refine Nat.lt_succ_iff.1 (Nat.lt_of_mul_lt_mul_right (a := chunkSize l.length workers) ?_)
    rw [Nat.succ_mul, Nat.mul_comm workers]
    omega
  whole := flatten_chunks (chunkSize_pos l.length workers) l

/-! ## Turns -/

theorem flatMap_turnsOf_perm {workers : List Nat} (hworkers : workers.Nodup) {turns : List (Nat × α)}
    (hturns : ∀ t ∈ turns, t.1 ∈ workers) : (workers.flatMap (turnsOf · turns)).Perm (turns.map Prod.snd) := by
  induction turns with
  | nil => simp [turnsOf]
  | cons t turns ih =>
      obtain ⟨j, a⟩ := t
      obtain ⟨hj, hrest⟩ := List.forall_mem_cons.1 hturns
      have hother : ∀ l : List Nat, j ∉ l → l.flatMap (turnsOf · ((j, a) :: turns)) = l.flatMap (turnsOf · turns) := by
        refine fun l hl => List.flatMap_congr fun i hi => ?_
        have hji : j ≠ i := fun hji => hl (hji ▸ hi)
        rw [turnsOf_cons, if_neg hji]
      obtain ⟨before, after, rfl⟩ := List.append_of_mem hj
      obtain ⟨-, hafter, hapart⟩ := List.nodup_append.1 hworkers
      have hbefore : j ∉ before := fun hmem => hapart j hmem j List.mem_cons_self rfl
      have hnext := ih hrest
      rw [List.flatMap_append, List.flatMap_cons] at hnext
      rw [List.flatMap_append, List.flatMap_cons, hother before hbefore, hother after (List.nodup_cons.1 hafter).1, turnsOf_cons,
        if_pos rfl, List.cons_append]
      exact List.perm_middle.trans (hnext.cons a)

/-- Whoever gets the turns, what is worked off is the work of all. -/
theorem Interleaves.perm {programs : List (List α)} {turns : List (Nat × α)}
    (h : Interleaves (programs.getD · []) turns) : (turns.map Prod.snd).Perm programs.flatten := by
  have hturns : ∀ t ∈ turns, t.1 ∈ List.range programs.length := by
    intro t ht
    have hown : t.2 ∈ turnsOf t.1 turns := List.mem_map.2 ⟨t, List.mem_filter.2 ⟨ht, decide_eq_true rfl⟩, rfl⟩
    have hprogram : turnsOf t.1 turns = programs.getD t.1 [] := h t.1
    by_contra hout
    have hnone : programs[t.1]? = none := by simpa using hout
    rw [hprogram, List.getD_eq_getElem?_getD, hnone] at hown
    cases hown
  have hprograms : (List.range programs.length).flatMap (turnsOf · turns) = programs.flatten := by
    rw [List.flatMap, List.map_congr_left fun i _ => h i]
    congr 1
    refine List.ext_getElem (by simp) fun i hi hi' => ?_
    simp [hi']
  rw [← hprograms]
  exact (flatMap_turnsOf_perm List.nodup_range hturns).symm

end ShardStore
