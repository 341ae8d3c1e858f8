/-!
# Sets of code points

A property of characters is given by the blocks of code points that have it, and a block by its
first and last point. Blocks are in good order if they ascend and no two of them touch.

* `inRanges` asks whether a character lies in one of the blocks;
* `mergeRanges` brings blocks into good order, and `gaps` turns them into the blocks between them.
-/

namespace InterfaceSchema.Text

/-- Does the character lie in one of the blocks? -/
def inRanges (ranges : List (Nat × Nat)) (c : Char) : Bool :=
  ranges.any fun r => r.1 ≤ c.toNat && c.toNat ≤ r.2

/-- The last code point. -/
def lastCode : Nat := 0x10ffff

/-- Joins each block with those after it that touch it; the blocks are given by their first
    points in ascending order. -/
def joinTouching : List (Nat × Nat) → List (Nat × Nat)
  | [] => []
  | [r] => [r]
  | r :: s :: rest =>
    if s.1 ≤ r.2 + 1 then joinTouching ((r.1, max r.2 s.2) :: rest)
    else r :: joinTouching (s :: rest)
  termination_by ranges => ranges.length

/-- The same code points by blocks in good order. -/
def mergeRanges (ranges : List (Nat × Nat)) : List (Nat × Nat) :=
  joinTouching ((ranges.filter fun r => r.1 ≤ r.2).mergeSort fun r s => r.1 ≤ s.1)

/-- The blocks of the code points from `start` on that lie in none of the given ones, which are in
    good order. -/
def gaps (start : Nat) : List (Nat × Nat) → List (Nat × Nat)
  | [] => if start ≤ lastCode then [(start, lastCode)] else []
  | r :: rest =>
    if start < r.1 then (start, r.1 - 1) :: gaps (r.2 + 1) rest else gaps (r.2 + 1) rest

end InterfaceSchema.Text
