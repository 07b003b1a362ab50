/-!
# Slots

Work on one slot of a row: what is in it is taken out, worked on and put back, and all other slots stay as they are. The
two equations say so without the spare value that stands in the slot meanwhile.
-/

namespace ShardStore

variable {α β : Type} {n : Nat}

/-- Takes out what is in a slot, and leaves a spare value there. -/
@[noinline]
def takeOut (slots : Vector α n) (i : Fin n) (spare : α) : α × Vector α n := slots.swapAt i spare

/-- Works on what is in a slot. -/
def workAt (slots : Vector α n) (i : Fin n) (spare : α) (work : α → β × α) : β × Vector α n :=
  let (item, slots) := takeOut slots i spare
  let (answer, item) := work item
  (answer, slots.set i item)

theorem workAt_fst (slots : Vector α n) (i : Fin n) (spare : α) (work : α → β × α) :
    (workAt slots i spare work).1 = (work slots[i]).1 := by
  simp [workAt, takeOut, Vector.swapAt]

theorem workAt_snd (slots : Vector α n) (i : Fin n) (spare : α) (work : α → β × α) :
    (workAt slots i spare work).2 = slots.set i (work slots[i]).2 := by
  simp [workAt, takeOut, Vector.swapAt]

end ShardStore
