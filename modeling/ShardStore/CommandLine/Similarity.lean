/-!
# Similar words

How alike two words are, for guessing which option was meant. Characters match if they are equal and not too far apart;
the measure grows with the number of matches and shrinks with those that are out of order.
-/

namespace ShardStore

/-- Matches each character of a word with the first free equal one of another word that is at most `reach` places away.
Answers the places in the other word, in the order of the first. -/
def matchPlaces (a b : List Char) (reach : Nat) : List (Char × Nat) :=
  a.zipIdx.foldl
    (fun taken (c, i) =>
      let free := b.zipIdx.find? fun (d, j) => d == c && i ≤ j + reach && j ≤ i + reach && !taken.any (·.2 == j)
      taken ++ (free.map fun (d, j) => (d, j)).toList)
    []

/-- The likeness of two words, from zero for words without a match to one for equal words. -/
def likeness (a b : List Char) : Float :=
  if a.isEmpty && b.isEmpty then 1
  else
    let taken := matchPlaces a b (max a.length b.length / 2 - 1)
    let inOrder := taken.mergeSort fun x y => x.2 ≤ y.2
    let displaced := ((taken.zip inOrder).filter fun (x, y) => x.1 != y.1).length / 2
    let count := taken.length
    if count = 0 then 0
    else
      let share (n d : Nat) : Float := n.toFloat / d.toFloat
      (share count a.length + share count b.length + share (count - displaced) count) / 3

/-- The word that is most like a given one, if any is like it enough. -/
def mostAlike? (word : String) (candidates : List String) : Option String :=
  let near := candidates.filter fun c => likeness word.toList c.toList > 0.7
  near.foldl
    (fun best c =>
      match best with
      | some b => if likeness word.toList b.toList > likeness word.toList c.toList then best else some c
      | none => some c)
    none

end ShardStore
