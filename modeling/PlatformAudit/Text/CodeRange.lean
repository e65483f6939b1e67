/-!
# Sets of characters as code point ranges

A property of characters is a table of ascending, disjoint ranges of code points.
The look-up walks the table and stops at the first range that begins above the
code point. Tables are built from other tables by union, difference and
complement.
-/

namespace PlatformAudit.Text

/-- Ascending, disjoint ranges of code points, both ends included. -/
abbrev CodeRanges := List (Nat × Nat)

namespace CodeRanges

/-- Whether a code point lies in one of the ranges. -/
def covers : CodeRanges → Nat → Bool
  | [], _ => false
  | (lo, hi) :: rest, n => if n < lo then false else n ≤ hi || covers rest n

/-! ### Building tables -/

/-- Joins a range with those that follow it, which begin no earlier, as far as they touch. -/
def joinFrom (lo hi : Nat) : List (Nat × Nat) → CodeRanges
  | [] => [(lo, hi)]
  | (a, b) :: rest =>
    if a ≤ hi + 1 then joinFrom lo (max hi b) rest else (lo, hi) :: joinFrom a b rest

/-- The ascending ranges that touch nowhere and cover the same as some ranges in any order. -/
def ofPairs (pairs : List (Nat × Nat)) : CodeRanges :=
  match pairs.mergeSort fun a b => a.1 ≤ b.1 with
  | [] => []
  | (lo, hi) :: rest => joinFrom lo hi rest

/-- The ranges between `lo` and `top` that are not covered. -/
def gapsFrom (lo top : Nat) : CodeRanges → CodeRanges
  | [] => if lo ≤ top then [(lo, top)] else []
  | (a, b) :: rest =>
    if lo < a then (lo, a - 1) :: gapsFrom (b + 1) top rest else gapsFrom (b + 1) top rest

/-- What up to `top` is not covered. -/
def complement (top : Nat) (rs : CodeRanges) : CodeRanges :=
  gapsFrom 0 top rs

/-- What one of two tables covers. -/
def union (a b : CodeRanges) : CodeRanges :=
  ofPairs (a ++ b)

/-- What both of two tables cover, up to `top`. -/
def inter (top : Nat) (a b : CodeRanges) : CodeRanges :=
  complement top (union (complement top a) (complement top b))

end CodeRanges

/-- The greatest code point. -/
def maxCodePoint : Nat := 0x10FFFF

end PlatformAudit.Text
