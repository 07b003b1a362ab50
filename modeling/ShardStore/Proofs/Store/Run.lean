import ShardStore.Store.Transactional

/-!
# Runs

A run is its operations one after another: what every operation keeps, the run keeps, and a run of two parts is the second
part after the first.
-/

namespace ShardStore.MapOp

variable {μ : Type} [TransactionMap μ]

@[simp] theorem run_cons_snd (m : μ) (op : MapOp) (ops : List MapOp) :
    (run m (op :: ops)).2 = (run (op.step m).2 ops).2 := rfl

theorem run_append_snd (m : μ) (ops more : List MapOp) : (run m (ops ++ more)).2 = (run (run m ops).2 more).2 := by
  induction ops generalizing m with
  | nil => rfl
  | cons op ops ih => exact ih (op.step m).2

/-- What each operation of a run keeps holds at its end. -/
theorem run_keeps {P : μ → Prop} {ops : List MapOp} (hkeeps : ∀ op ∈ ops, ∀ m, P m → P (op.step m).2) {m : μ}
    (hstart : P m) : P (run m ops).2 := by
  induction ops generalizing m with
  | nil => exact hstart
  | cons op ops ih =>
      have hnext : P (op.step m).2 := hkeeps op (List.mem_cons_self ..) m hstart
      exact ih (fun op hop => hkeeps op (List.mem_cons_of_mem _ hop)) hnext

end ShardStore.MapOp
