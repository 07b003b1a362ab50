import ShardStore.Text.Runs

/-!
# White space

The characters that leave a blank of any width, and texts without those around them.
-/

namespace ShardStore

/-- The runs of characters that leave a blank. -/
def spaceRuns : CodeRuns := #[
  (0x9, 0xd), (0x20, 0x20), (0x85, 0x85), (0xa0, 0xa0), (0x1680, 0x1680), (0x2000, 0x200a), (0x2028, 0x2029),
  (0x202f, 0x202f), (0x205f, 0x205f), (0x3000, 0x3000)]

/-- Whether a character leaves a blank. -/
def isSpace (c : Char) : Bool := spaceRuns.contains c

/-- A text without the blanks around it. -/
def trimSpaces (text : List Char) : List Char :=
  ((text.dropWhile isSpace).reverse.dropWhile isSpace).reverse

end ShardStore
