import ShardStore.Proofs.Store.Batch
import ShardStore.Proofs.Store.Run

/-!
# The history of a store

The answers of a run tell which hashes got a value and which were taken out, in which order. That history alone decides
what is in the store at the end: a hash has the value that it got last, unless it was taken out after that.
-/

namespace ShardStore

/-- What happened to one hash. -/
inductive Change where
  | wrote (h : Hash) (v : UInt64)
  | erased (h : Hash)
deriving DecidableEq

namespace Change

/-- The last time that `h` got a value it was `v`, and `after` is what happened since. -/
def LastWrote (changes : List Change) (h : Hash) (v : UInt64) (after : List Change) : Prop :=
  ∃ before, changes = before ++ wrote h v :: after ∧ ∀ w, wrote h w ∉ after

/-- The value of `h` after a change, where it was `cell` before. -/
def onCell (h : Hash) (cell : Option UInt64) : Change → Option UInt64
  | .wrote k v => if k = h then some v else cell
  | .erased k => if k = h then none else cell

/-- The value of `h` after changes, where it was `cell` before. -/
def replay (h : Hash) (cell : Option UInt64) (changes : List Change) : Option UInt64 := changes.foldl (onCell h) cell

variable {h : Hash} {cell : Option UInt64} {changes after : List Change} {v : UInt64}

theorem replay_append (more : List Change) : replay h cell (changes ++ more) = replay h (replay h cell changes) more :=
  List.foldl_append

theorem replay_of_never (hnever : ∀ v, wrote h v ∉ changes) :
    replay h cell changes = if erased h ∈ changes then none else cell := by
  induction changes generalizing cell with
  | nil => rfl
  | cons c cs ih =>
      have hlater : ∀ v, wrote h v ∉ cs := fun v hfound => hnever v (List.mem_cons_of_mem _ hfound)
      change replay h (onCell h cell c) cs = _
      rw [ih hlater]
      cases c with
      | wrote k w =>
          have hother : k ≠ h := by
            rintro rfl
            exact hnever w (List.mem_cons_self ..)
          simp [onCell, hother]
      | erased k => by_cases hsame : k = h <;> simp [onCell, hsame, eq_comm (a := h)]

theorem LastWrote.replay_eq (hlast : LastWrote changes h v after) :
    replay h cell changes = if erased h ∈ after then none else some v := by
  obtain ⟨before, rfl, hnever⟩ := hlast
  rw [replay_append]
  change replay h (onCell h _ (wrote h v)) after = _
  simp only [onCell, if_true]
  exact replay_of_never hnever

theorem never_or_lastWrote (changes : List Change) (h : Hash) :
    (∀ v, wrote h v ∉ changes) ∨ ∃ v after, LastWrote changes h v after := by
  -- a last time in the rest is the last of all; the first change matters only if there is none
  induction changes with
  | nil => exact Or.inl (by simp)
  | cons c cs ih =>
      rcases ih with hnever | ⟨v, after, before, rfl, hnever⟩
      · by_cases hnow : ∃ v, c = wrote h v
        · obtain ⟨v, rfl⟩ := hnow
          exact Or.inr ⟨v, cs, [], rfl, hnever⟩
        · refine Or.inl fun v hfound => ?_
          rcases List.mem_cons.1 hfound with rfl | hlater
          · exact hnow ⟨v, rfl⟩
          · exact hnever v hlater
      · exact Or.inr ⟨v, after, c :: before, rfl, hnever⟩

/-- From nothing, a value is there just if it was the last one and was not taken out since. -/
theorem replay_eq_some_iff : replay h none changes = some v ↔ ∃ after, LastWrote changes h v after ∧ erased h ∉ after := by
  constructor
  · intro hfound
    rcases never_or_lastWrote changes h with hnever | ⟨w, after, hlast⟩
    · simp [replay_of_never hnever] at hfound
    · rw [hlast.replay_eq] at hfound
      split at hfound
      · cases hfound
      · next hkept => cases hfound; exact ⟨after, hlast, hkept⟩
  · rintro ⟨after, hlast, hkept⟩
    rw [hlast.replay_eq, if_neg hkept]

theorem replay_eq_none_iff :
    replay h none changes = none ↔
      (∀ v, wrote h v ∉ changes) ∨ ∃ v after, LastWrote changes h v after ∧ erased h ∈ after := by
  constructor
  · intro hgone
    rcases never_or_lastWrote changes h with hnever | ⟨v, after, hlast⟩
    · exact Or.inl hnever
    · rw [hlast.replay_eq] at hgone
      split at hgone
      · next htaken => exact Or.inr ⟨v, after, hlast, htaken⟩
      · cases hgone
  · rintro (hnever | ⟨v, after, hlast, htaken⟩)
    · simp [replay_of_never hnever]
    · rw [hlast.replay_eq, if_pos htaken]

theorem replay_wrote (hs : List Hash) (v : UInt64) :
    replay h cell (hs.map (wrote · v)) = if h ∈ hs then some v else cell := by
  induction hs generalizing cell with
  | nil => rfl
  | cons k hs ih =>
      change replay h (onCell h cell (wrote k v)) (hs.map (wrote · v)) = _
      rw [ih]
      by_cases hsame : k = h <;> simp [onCell, hsame, eq_comm (a := h)]

end Change

namespace Store

variable {τ : Type} [Table τ Hash UInt64]

/-- The changes that an operation made, as its answer tells. A batch wrote what it had added before it ended or
stopped. -/
def changes (s : Store τ) (op : MapOp) : List Change :=
  match op, (op.step s).1 with
  | .put h v, .outcome (.ok ()) => [.wrote h v]
  | .set h v, .outcome (.ok ()) => [.wrote h v]
  | .setIfPresent h v, .truth true => [.wrote h v]
  | .setIfAbsent h v, .truth true => [.wrote h v]
  | .delete h, .outcome (.ok ()) => [.erased h]
  | .putAll hs v, _ => (s.added hs v).map (.wrote · v)
  | _, _ => []

/-- The changes that a run made, in order. -/
def history (s : Store τ) : List MapOp → List Change
  | [] => []
  | op :: ops => s.changes op ++ (op.step s).2.history ops

variable [LawfulTable τ]

theorem get?_step_eq_replay (s : Store τ) (op : MapOp) (h : Hash) :
    (op.step s).2.get? h = (Change.replay h (s.get? h) (s.changes op)) := by
  cases op
  case putAll hs v => exact (s.get?_putAll hs v h).trans (Change.replay_wrote _ _).symm
  case size | keys | walk => rfl
  case get k | contains k =>
    rw [get?_step s rfl]
    split
    · next hsame => rw [hsame]; rfl
    · rfl
  all_goals
    rw [get?_step s rfl]
    unfold changes
    rw [step_fst s rfl]
  case put k _ | set k _ | setIfPresent k _ | setIfAbsent k _ | delete k =>
    by_cases hsame : k = h
    · subst hsame
      cases s.get? k <;> simp [MapOp.onCell, Change.replay, Change.onCell]
    · cases s.get? k <;> simp [MapOp.onCell, Change.replay, Change.onCell, hsame]

theorem get?_run_eq_replay (s : Store τ) (ops : List MapOp) (h : Hash) :
    (MapOp.run s ops).2.get? h = Change.replay h (s.get? h) (s.history ops) := by
  induction ops generalizing s with
  | nil => rfl
  | cons op ops ih => rw [MapOp.run_cons_snd, ih, get?_step_eq_replay, history, Change.replay_append]

/-! ## What is in the store at the end -/

/-- After any run from an empty store the history of the run decides what every look-up finds: the value that the hash got
last, provided that it was not taken out since, and else nothing. The other ways to look at the store agree with that. -/
theorem decided_by_history (hint : Nat) (ops : List MapOp) :
    let start : Store τ := withCapacity hint
    let past := start.history ops
    let s := (MapOp.run start ops).2
    (∀ h v, s.get? h = some v ↔ ∃ after, Change.LastWrote past h v after ∧ .erased h ∉ after) ∧
      (∀ h, s.get? h = none ↔
        (∀ v, .wrote h v ∉ past) ∨ ∃ v after, Change.LastWrote past h v after ∧ .erased h ∈ after) ∧
      (∀ h, s.contains h = true ↔ ∃ v, s.get? h = some v) ∧
      s.keys.Nodup ∧ (∀ h, h ∈ s.keys ↔ s.contains h = true) ∧ s.size = s.keys.length := by
  intro start past s
  have hfound : ∀ h, s.get? h = Change.replay h none past := fun h => by
    rw [get?_run_eq_replay, get?_withCapacity]
  refine ⟨fun h v => ?_, fun h => ?_, fun h => ?_, s.nodup_keys, fun h => ?_, s.length_keys.symm⟩
  · rw [hfound, Change.replay_eq_some_iff]
  · rw [hfound, Change.replay_eq_none_iff]
  · rw [contains_eq, Option.isSome_iff_exists]
  · rw [mem_keys_iff, contains_eq]

/-- A batch that stops at its second hash has written the first one. -/
theorem written_by_stopped_batch :
    let a := Hash.ofBytes [1]
    let b := Hash.ofBytes [2]
    let ops : List MapOp := [.put a 1, .putAll [b, a] 2, .delete a, .setIfPresent a 3]
    (MapOp.run (withCapacity 0 : Store (EntryList Hash UInt64)) ops).2.get? b = some 2 := by
  intro a b ops
  refine ((decided_by_history 0 ops).1 b 2).2 ⟨[.erased a], ⟨[.wrote a 1], ?_, ?_⟩, ?_⟩
  · rfl
  · simp
  · decide

end Store
end ShardStore
