import Mathlib.Algebra.GroupWithZero.Nat
import Mathlib.Data.List.Induction
import ShardStore.Proofs.Walk

/-!
# Visitors with a state

What a visitor does at a call depends on the state that its earlier calls have left. A walk over several lists hands this state
on from list to list, while the wish to stop ends the list only. So a visitor that has had enough is still called once for each
list that is not empty.
-/

namespace ShardStore

variable {α σ : Type} {visit : σ → α → σ × Signal}

/-! ## Calls -/

/-- The state that a visitor is left in by calls for some items, one after another, and its last answer. -/
def afterCalls (visit : σ → α → σ × Signal) (state : σ) (items : List α) : σ × Signal :=
  items.foldl (fun last a => visit last.1 a) (state, .proceed)

/-- The visitor together with a list of the items that it was called for. -/
def logged (visit : σ → α → σ × Signal) (state : σ × List α) (a : α) : (σ × List α) × Signal :=
  let (next, signal) := visit state.1 a
  ((next, state.2 ++ [a]), signal)

theorem afterCalls_concat (visit : σ → α → σ × Signal) (state : σ) (items : List α) (a : α) :
    afterCalls visit state (items ++ [a]) = visit (afterCalls visit state items).1 a := by
  rw [afterCalls, List.foldl_append]
  rfl

theorem afterCalls_append (visit : σ → α → σ × Signal) (state : σ) (items more : List α) :
    (afterCalls visit state (items ++ more)).1 = (afterCalls visit (afterCalls visit state items).1 more).1 := by
  induction more using List.reverseRecOn with
  | nil => rw [List.append_nil]; rfl
  | append_singleton more a ih => rw [← List.append_assoc, afterCalls_concat, afterCalls_concat, ih]

/-! ## One list -/

theorem walk_logged_fst (visit : σ → α → σ × Signal) (state : σ × List α) (items : List α) :
    (walk (logged visit) state items).1 = walk visit state.1 items := by
  induction items generalizing state with
  | nil => rfl
  | cons a items ih =>
      simp only [walk, logged]
      cases visit state.1 a with
      | mk next signal =>
          cases signal with
          | proceed => exact ih (next, state.2 ++ [a])
          | stop => rfl

/-- What a visitor was called for decides what it does next, so the log of the calls can stand for its state. -/
theorem walk_logged (visit : σ → α → σ × Signal) (state : σ) (before seen items : List α) :
    walk (logged visit) ((afterCalls visit state seen).1, before ++ seen) items =
      let visited := walk (recording fun seen => (afterCalls visit state seen).2) seen items
      ((afterCalls visit state visited).1, before ++ visited) := by
  induction items generalizing seen with
  | nil => rfl
  | cons a items ih =>
      have hnext := ih (seen ++ [a])
      rw [afterCalls_concat, ← List.append_assoc] at hnext
      simp only [walk, logged, recording, afterCalls_concat]
      cases hcall : visit (afterCalls visit state seen).1 a with
      | mk next signal =>
          rw [hcall] at hnext
          cases signal with
          | proceed => exact hnext
          | stop => simp only [afterCalls_concat, hcall, List.append_assoc]

theorem walk_logged_visits (visit : σ → α → σ × Signal) (state : σ) (before items : List α) :
    ∃ seen, walk (logged visit) (state, before) items = ((afterCalls visit state seen).1, before ++ seen) ∧
      VisitsUntilStop (fun seen => (afterCalls visit state seen).2) items seen := by
  have hwalk := walk_logged visit state before [] items
  rw [List.append_nil] at hwalk
  exact ⟨_, hwalk, visitsUntilStop_walk _ items⟩

/-! ## Several lists -/

/-- What a visitor sees of several lists: of each list the items up to the first after which it asks to stop, and of the next one
from the state on that it has by then. -/
inductive VisitsEach (visit : σ → α → σ × Signal) : σ → List (List α) → List (List α) → Prop
  | nil (state : σ) : VisitsEach visit state [] []
  | cons {state : σ} {items seen : List α} {lists visited : List (List α)}
      (first : VisitsUntilStop (fun seen => (afterCalls visit state seen).2) items seen)
      (later : VisitsEach visit (afterCalls visit state seen).1 lists visited) :
      VisitsEach visit state (items :: lists) (seen :: visited)

theorem walks_logged_fst (visit : σ → α → σ × Signal) (state : σ × List α) (lists : List (List α)) :
    (lists.foldl (walk (logged visit)) state).1 = lists.foldl (walk visit) state.1 := by
  induction lists generalizing state with
  | nil => rfl
  | cons items lists ih => rw [List.foldl_cons, ih, walk_logged_fst, List.foldl_cons]

theorem walks_logged_visit (visit : σ → α → σ × Signal) (state : σ) (before : List α) (lists : List (List α)) :
    ∃ visited, lists.foldl (walk (logged visit)) (state, before) =
        ((afterCalls visit state visited.flatten).1, before ++ visited.flatten) ∧
      VisitsEach visit state lists visited := by
  induction lists generalizing state before with
  | nil => exact ⟨[], by rw [List.flatten_nil, List.append_nil]; rfl, .nil state⟩
  | cons items lists ih =>
      obtain ⟨seen, hwalk, hfirst⟩ := walk_logged_visits visit state before items
      obtain ⟨visited, hwalks, hlater⟩ := ih (afterCalls visit state seen).1 (before ++ seen)
      refine ⟨seen :: visited, ?_, .cons hfirst hlater⟩
      rw [List.foldl_cons, hwalk, hwalks, List.flatten_cons, afterCalls_append, List.append_assoc]

/-! ## Visitors that never stop -/

theorem walk_of_proceeds (f : σ → α → σ) (state : σ) (items : List α) :
    walk (fun state a => (f state a, .proceed)) state items = items.foldl f state := by
  induction items generalizing state with
  | nil => rfl
  | cons a items ih => exact ih (f state a)

theorem afterCalls_snd_of_proceeds (hproceeds : ∀ state a, (visit state a).2 = .proceed) (state : σ) (items : List α) :
    (afterCalls visit state items).2 = .proceed := by
  cases items using List.reverseRecOn with
  | nil => rfl
  | append_singleton items a => rw [afterCalls_concat, hproceeds]

theorem VisitsEach.of_proceeds (hproceeds : ∀ state a, (visit state a).2 = .proceed) {state : σ}
    {lists visited : List (List α)} (hvisits : VisitsEach visit state lists visited) : visited = lists := by
  induction hvisits with
  | nil => rfl
  | cons hfirst _ ih =>
      rcases hfirst.ends with hall | ⟨-, hstop⟩
      · rw [hall, ih]
      · rw [afterCalls_snd_of_proceeds hproceeds] at hstop
        cases hstop

/-! ## Visitors that stop at a number of calls -/

/-- The visitor keeps count of its calls, and asks to stop from call number `k` on. -/
structure StopsAt (visit : σ → α → σ × Signal) (calls : σ → Nat) (k : Nat) : Prop where
  counts : ∀ state a, calls (visit state a).1 = calls state + 1
  stops : ∀ state a, (visit state a).2 = .stop ↔ k ≤ calls state + 1

section

variable {calls : σ → Nat} {k : Nat}

/-- Of any list that is not empty the first item is visited, however many calls there were before. -/
theorem StopsAt.calls_walk (hstops : StopsAt visit calls k) (state : σ) (items : List α) :
    calls (walk visit state items) = calls state + min items.length (max 1 (k - calls state)) := by
  induction items generalizing state with
  | nil => simp [walk]
  | cons a items ih =>
      have hcount := hstops.counts state a
      have hstop := hstops.stops state a
      simp only [walk, List.length_cons]
      cases hcall : visit state a with
      | mk next signal =>
          rw [hcall] at hcount hstop
          cases signal with
          | proceed =>
              have hless : ¬k ≤ calls state + 1 := fun hle => by cases hstop.2 hle
              simp only [ih, hcount]
              omega
          | stop =>
              have hle : k ≤ calls state + 1 := hstop.1 rfl
              simp only [hcount]
              omega

theorem StopsAt.calls_of_few (hstops : StopsAt visit calls k) {state : σ} {lists : List (List α)}
    (hfew : calls state + (lists.map List.length).sum ≤ max k 1) :
    calls (lists.foldl (walk visit) state) = calls state + (lists.map List.length).sum := by
  induction lists generalizing state with
  | nil => rfl
  | cons items lists ih =>
      rw [List.map_cons, List.sum_cons] at hfew ⊢
      have hfirst := hstops.calls_walk state items
      have hall : calls (walk visit state items) = calls state + items.length := by omega
      rw [List.foldl_cons, ih (by omega), hall, Nat.add_assoc]

theorem StopsAt.calls_of_enough (hstops : StopsAt visit calls k) {state : σ} (henough : k ≤ calls state)
    (lists : List (List α)) :
    calls (lists.foldl (walk visit) state) = calls state + lists.countP fun items => 0 < items.length := by
  induction lists generalizing state with
  | nil => rfl
  | cons items lists ih =>
      have hfirst := hstops.calls_walk state items
      rw [List.foldl_cons, ih (by omega), List.countP_cons]
      simp only [decide_eq_true_eq]
      split <;> omega

/-- The visitor gets to the list that its last welcome call falls into, and from then on sees the first item of each list. -/
theorem StopsAt.calls_of_more (hstops : StopsAt visit calls k) {state : σ} (hfresh : calls state = 0)
    {before after : List (List α)} {items : List α} (hless : (before.map List.length).sum < max k 1)
    (hle : max k 1 ≤ (before.map List.length).sum + items.length) :
    calls ((before ++ items :: after).foldl (walk visit) state) =
      max k 1 + after.countP fun items => 0 < items.length := by
  have hbefore : calls (before.foldl (walk visit) state) = calls state + (before.map List.length).sum :=
    hstops.calls_of_few (by omega)
  have hhere := hstops.calls_walk (before.foldl (walk visit) state) items
  have henough : calls (walk visit (before.foldl (walk visit) state) items) = max k 1 := by omega
  rw [List.foldl_append, List.foldl_cons, hstops.calls_of_enough (by omega), henough]

end

/-- Counted through items of different sizes from one on, each number falls into one of them. -/
theorem exists_split_of_le_sum (size : α → Nat) {items : List α} {k : Nat} (hpos : 0 < k) (hle : k ≤ (items.map size).sum) :
    ∃ before a after, items = before ++ a :: after ∧ (before.map size).sum < k ∧ k ≤ (before.map size).sum + size a := by
  induction items generalizing k with
  | nil => exact absurd hle (Nat.not_le.2 hpos)
  | cons a items ih =>
      rw [List.map_cons, List.sum_cons] at hle
      by_cases hhere : k ≤ size a
      · exact ⟨[], a, items, rfl, hpos, by simpa using hhere⟩
      · obtain ⟨before, b, after, hsplit, hless, hthere⟩ := ih (k := k - size a) (by omega) (by omega)
        refine ⟨a :: before, b, after, by rw [hsplit, List.cons_append], ?_, ?_⟩
        · rw [List.map_cons, List.sum_cons]
          omega
        · rw [List.map_cons, List.sum_cons]
          omega

end ShardStore
