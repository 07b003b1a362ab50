/-!
# Runs of code points

Sets of characters as ascending runs of code points, and the look-up in them by halving.
-/

namespace ShardStore

/-- First and last code points of runs, ascending. -/
abbrev CodeRuns := Array (Nat × Nat)

namespace CodeRuns

/-- The place of the first run that ends at or behind `c`, looked for among the `span` runs from place `lo` by halving. -/
def firstEndingBehind (runs : CodeRuns) (c lo span : Nat) : Nat :=
  if span = 0 then lo
  else
    let half := span / 2
    match runs[lo + half]? with
    | some (_, last) =>
      if last < c then runs.firstEndingBehind c (lo + half + 1) (span - half - 1)
      else runs.firstEndingBehind c lo half
    | none => runs.firstEndingBehind c lo half
termination_by span

/-- Whether a character lies in one of the runs. -/
def contains (runs : CodeRuns) (c : Char) : Bool :=
  match runs[runs.firstEndingBehind c.toNat 0 runs.size]? with
  | some (first, last) => first ≤ c.toNat && c.toNat ≤ last
  | none => false

end CodeRuns

end ShardStore
