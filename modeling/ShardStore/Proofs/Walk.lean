import ShardStore.Walk

/-!
# What a walk visits

A visitor that never asks to stop sees every item. One that counts its calls sees as many items of any two lists of one
length, whatever the items are. Nothing more can be said of two walks over the same items in different orders.
-/

namespace ShardStore

variable {α β : Type}

theorem walk_recording {decide : List α → Signal} (hdecide : ∀ seen, decide seen = .proceed) (seen items : List α) :
    walk (recording decide) seen items = seen ++ items := by
  induction items generalizing seen with
  | nil => rw [walk, List.append_nil]
  | cons a items ih => simp only [walk, recording, hdecide, ih, List.append_assoc, List.singleton_append]

/-- What was seen are the first of the items, up to the first after which the visitor asked to stop; all, if it never did. -/
structure VisitsUntilStop (decide : List α → Signal) (items seen : List α) : Prop where
  first : seen <+: items
  goesOn : ∀ before, before <+: seen → before ≠ [] → before ≠ seen → decide before = .proceed
  ends : seen = items ∨ seen ≠ [] ∧ decide seen = .stop

/-- A visitor that has seen something before goes by that as well. -/
theorem walk_recording_append (decide : List α → Signal) (seen items : List α) :
    ∃ visited, walk (recording decide) seen items = seen ++ visited ∧
      VisitsUntilStop (fun visited => decide (seen ++ visited)) items visited := by
  induction items generalizing seen with
  | nil =>
      refine ⟨[], (List.append_nil seen).symm, List.prefix_rfl, fun before hbefore hsome _ => ?_, .inl rfl⟩
      exact absurd (List.prefix_nil.1 hbefore) hsome
  | cons a items ih =>
      simp only [walk, recording]
      cases hasked : decide (seen ++ [a]) with
      | stop =>
          refine ⟨[a], rfl, ⟨items, rfl⟩, fun before hbefore hsome hless => ?_, .inr ⟨List.cons_ne_nil a [], hasked⟩⟩
          rcases List.prefix_cons_iff.1 hbefore with rfl | ⟨rest, rfl, hrest⟩
          · exact absurd rfl hsome
          · exact absurd (congrArg (a :: ·) (List.prefix_nil.1 hrest)) hless
      | proceed =>
          obtain ⟨visited, heq, hfirst, hgoes, hends⟩ := ih (seen ++ [a])
          simp only [List.append_assoc, List.singleton_append] at heq hgoes hends
          refine ⟨a :: visited, heq, List.cons_prefix_cons.2 ⟨rfl, hfirst⟩, fun before hbefore hsome hless => ?_, ?_⟩
          · rcases List.prefix_cons_iff.1 hbefore with rfl | ⟨rest, rfl, hrest⟩
            · exact absurd rfl hsome
            · by_cases hmore : rest = []
              · rw [hmore]
                exact hasked
              · exact hgoes rest hrest hmore fun hall => hless (congrArg (a :: ·) hall)
          · rcases hends with hall | ⟨-, hstop⟩
            · exact .inl (congrArg (a :: ·) hall)
            · exact .inr ⟨List.cons_ne_nil a visited, hstop⟩

theorem visitsUntilStop_walk (decide : List α → Signal) (items : List α) :
    VisitsUntilStop decide items (walk (recording decide) [] items) := by
  obtain ⟨visited, heq, hvisits⟩ := walk_recording_append decide [] items
  rw [heq]
  exact hvisits

/-- The visitor that decides by the number of its calls. -/
def counting (decide : Nat → Signal) (seen : List α) : Signal := decide seen.length

theorem length_walk_counting (decide : Nat → Signal) {seen : List α} {seen' : List β} (hseen : seen.length = seen'.length)
    {items : List α} {items' : List β} (hitems : items.length = items'.length) :
    (walk (recording (counting decide)) seen items).length =
      (walk (recording (counting decide)) seen' items').length := by
  induction items generalizing items' seen seen' with
  | nil =>
      obtain rfl : items' = [] := List.length_eq_zero_iff.1 hitems.symm
      exact hseen
  | cons a items ih =>
      obtain ⟨a', items', rfl⟩ := List.exists_cons_of_length_eq_add_one hitems.symm
      have hnext : (seen ++ [a]).length = (seen' ++ [a']).length := by simp [hseen]
      simp only [walk, recording, counting, hnext]
      cases decide (seen' ++ [a']).length with
      | proceed => exact ih hnext (Nat.succ.inj hitems)
      | stop => exact hnext

/-- Two walks of one visitor have seen alike: what they have seen is in the relation `R` if the visitor never asks to stop, and
is equally much if it counts its calls. -/
def VisitsAlike (R : List α → List α → Prop) (decide : List α → Signal) (seen seen' : List α) : Prop :=
  ((∀ seen, decide seen = .proceed) → R seen seen') ∧ ∀ count, decide = counting count → seen.length = seen'.length

theorem visitsAlike_walk {items items' : List α} (hitems : items.Perm items') (decide : List α → Signal) :
    VisitsAlike List.Perm decide (walk (recording decide) [] items) (walk (recording decide) [] items') := by
  constructor
  · intro hdecide
    rw [walk_recording hdecide, walk_recording hdecide]
    exact hitems
  · rintro count rfl
    exact length_walk_counting count rfl hitems.length_eq

end ShardStore
