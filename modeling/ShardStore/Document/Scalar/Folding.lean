import ShardStore.Document.Cursor

/-!
# Folding

What blanks and line breaks between two words of a scalar stand for. On one line the blanks stand for themselves. A single
line break is folded into a space, and of several the first is dropped.
-/

namespace ShardStore

/-- The blanks and breaks between two words. -/
structure Gap where
  /-- Blanks before the first break. -/
  blanks : List Char := []
  /-- Whether there was a break. -/
  broken : Bool := false
  /-- The first break. -/
  first : List Char := []
  /-- The breaks after the first. -/
  others : List Char := []

/-- The text that a gap stands for. -/
def Gap.text (g : Gap) : List Char :=
  if !g.broken then g.blanks
  else if g.first == ['\n'] then (if g.others.isEmpty then [' '] else g.others)
  else g.first ++ g.others

/-- Reads a gap on from what was read of it. In a block, a tab may not stand for indentation: `indent` is the column that
lines after the first have to reach, or zero where tabs do not matter. -/
def Cursor.takeGap (c : Cursor) (gap : Gap) (indent : Nat) : Except Malformed (Gap × Cursor) :=
  c.loop gap fun gap c =>
    match c.rest with
    | b :: _ =>
      if isBlank b then
        if gap.broken && c.pos.column < indent && b == '\t' then c.fail
        else if gap.broken then .ok (.more gap (c.skip 1))
        else .ok (.more { gap with blanks := gap.blanks ++ [b] } (c.skip 1))
      else
        match c.takeBreak? with
        | some (b, c) =>
          if gap.broken then .ok (.more { gap with others := gap.others ++ [b] } c)
          else .ok (.more { gap with blanks := [], broken := true, first := [b] } c)
        | none => .ok (.done gap c)
    | [] => .ok (.done gap c)

end ShardStore
