/-!
# Walks

Visiting the items of a list one after another until the visitor asks to stop. The visitor has a state of its own, which
it hands on from item to item and, where several lists are walked, from list to list.
-/

namespace ShardStore

/-- What a visitor asks for after an item. -/
inductive Signal where
  | proceed
  | stop
deriving DecidableEq

/-- Visits the items in order, up to and including the first after which the visitor asks to stop. -/
def walk {α σ : Type} (visit : σ → α → σ × Signal) : σ → List α → σ
  | state, [] => state
  | state, a :: rest =>
    match visit state a with
    | (state, .proceed) => walk visit state rest
    | (state, .stop) => state

/-- A visitor that remembers what it has seen, and decides by that. -/
def recording {α : Type} (decide : List α → Signal) (seen : List α) (a : α) : List α × Signal :=
  let seen := seen ++ [a]
  (seen, decide seen)

end ShardStore
