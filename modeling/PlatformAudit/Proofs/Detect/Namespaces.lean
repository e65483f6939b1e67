import Mathlib.Data.List.Forall2
import PlatformAudit.Detect.Namespaces
import PlatformAudit.Proofs.Text.Boundary
import PlatformAudit.Proofs.Text.Segments

/-!
# Paths that lie in a namespace

The program compares bytes: it cuts as many off a path as the namespace has, compares the
two up to the case of Latin letters, and looks at one more character. This file proves that
it compares segments (`PlatformAudit.Detect.liesIn?_segmentwise`).

Two things make it so. Texts that differ in case only have the same number of bytes, so the one
cut that is tried is the only one that could succeed (`PlatformAudit.Detect.liesIn?_spec`). And
a text that begins another up to a separator has the first segments of the other for its own
(`PlatformAudit.Text.splitOn_isPrefix_iff`), which remains so when all letters are made small.
-/

namespace PlatformAudit.Detect

open Text

variable {path containing : List Char}

/-- A path lies in a namespace if it begins with a text that is the same up to case, and goes on
with a dot if at all. -/
def Continues (path containing : List Char) : Prop :=
  ∃ start rest, path = start ++ rest ∧ start.map asciiLower = containing.map asciiLower ∧
    ∀ c ∈ rest.head?, c = '.'

theorem isEmpty_or_head?_iff {rest : List Char} :
    (rest.isEmpty || decide (rest.head? = some '.')) = true ↔ ∀ c ∈ rest.head?, c = '.' := by
  cases rest with
  | nil => exact iff_of_true rfl fun c hc => absurd hc (Option.not_mem_none c)
  | cons c rest => simp

/-- **The comparison of bytes always comes to an answer, and to the right one.** -/
theorem liesIn?_spec (path containing : List Char) :
    ∃ answer, liesIn? path containing = some answer ∧
      (answer = true ↔ Continues (trim path) containing) := by
  -- what could be cut off has the length of the namespace
  have hlength {start : List Char} (h : start.map asciiLower = containing.map asciiLower) :
      byteLength start = byteLength containing := by
    rw [← byteLength_map_asciiLower, h, byteLength_map_asciiLower]
  rw [liesIn?]
  split
  next hguard =>
    refine ⟨false, rfl, iff_of_false Bool.false_ne_true ?_⟩
    rintro ⟨start, rest, hpath, hstart, -⟩
    have hboundary := isBoundary_iff.mpr ⟨start, rest, hpath, hlength hstart⟩
    have hshort : ¬byteLength (trim path) < byteLength containing := by
      rw [hpath, byteLength_append, hlength hstart]
      omega
    simp [hboundary, hshort] at hguard
  next hguard =>
    have hboundary : isBoundary (trim path) (byteLength containing) = true := by
      by_contra h
      simp [h] at hguard
    obtain ⟨start, rest, hcut⟩ := exists_cutAfter?_of_isBoundary hboundary
    rw [hcut]
    refine ⟨_, rfl, ?_⟩
    rw [Bool.and_eq_true, sameIgnoringCase_iff, isEmpty_or_head?_iff]
    constructor
    · rintro ⟨hstart, hrest⟩
      exact ⟨start, rest, (cutAfter?_eq_some_iff.mp hcut).1, hstart, hrest⟩
    · rintro ⟨start', rest', hpath, hstart, hrest⟩
      have hcut' := cutAfter?_eq_some_iff.mpr ⟨hpath, hlength hstart⟩
      obtain ⟨rfl, rfl⟩ := Prod.mk.inj (Option.some.inj (hcut.symm.trans hcut'))
      exact ⟨hstart, hrest⟩

theorem asciiLower_eq_dot_iff (c : Char) : asciiLower c = '.' ↔ c = '.' :=
  asciiLower_eq_iff (by decide)

theorem continues_iff_map :
    Continues path containing ↔ ∃ rest, path.map asciiLower = containing.map asciiLower ++ rest ∧
      ∀ c ∈ rest.head?, c = '.' := by
  have hhead (rest : List Char) :
      (∀ c ∈ (rest.map asciiLower).head?, c = '.') ↔ ∀ c ∈ rest.head?, c = '.' := by
    cases rest with
    | nil => exact Iff.rfl
    | cons c rest => simp [asciiLower_eq_dot_iff]
  constructor
  · rintro ⟨start, rest, rfl, hstart, hrest⟩
    exact ⟨rest.map asciiLower, by rw [List.map_append, hstart], (hhead rest).mpr hrest⟩
  · rintro ⟨_, hpath, hrest⟩
    obtain ⟨start, rest, rfl, hstart, rfl⟩ := List.map_eq_append_iff.mp hpath
    exact ⟨start, rest, rfl, hstart, (hhead rest).mp hrest⟩

/-- **The segments of a namespace come first in a path**, one by one and up to the case of Latin
letters. -/
def BeginsWithSegments (path containing : List Char) : Prop :=
  ∃ first, first <+: path.splitOn '.' ∧
    List.Forall₂ (fun segment name => segment.map asciiLower = name.map asciiLower)
      first (containing.splitOn '.')

theorem continues_iff_segments :
    Continues path containing ↔ BeginsWithSegments path containing := by
  rw [BeginsWithSegments, continues_iff_map, ← splitOn_isPrefix_iff, splitOn_map asciiLower_eq_dot_iff,
    splitOn_map asciiLower_eq_dot_iff, List.prefix_map_iff]
  refine exists_congr fun first => and_congr_right fun _ => ?_
  rw [eq_comm, ← List.forall₂_eq_eq_eq, List.forall₂_map_left_iff, List.forall₂_map_right_iff]

/-- The answer that the comparison of bytes comes to. -/
theorem liesIn?_eq (path containing : List Char) :
    liesIn? path containing = some (liesIn path containing) := by
  obtain ⟨answer, hanswer, -⟩ := liesIn?_spec path containing
  rw [liesIn, hanswer, Option.getD_some]

/-- **A path lies in a namespace whose segments come first in it.** -/
theorem liesIn_iff :
    liesIn path containing = true ↔ BeginsWithSegments (trim path) containing := by
  obtain ⟨answer, hanswer, hiff⟩ := liesIn?_spec path containing
  rw [liesIn, hanswer, Option.getD_some, hiff, continues_iff_segments]

/-- **A path lies in a namespace if the segments of the namespace are, one by one and up to the case
of Latin letters, the first segments of the trimmed path.** The comparison of bytes that finds out
always has an answer: where it makes a cut, the cut is between two characters. -/
theorem liesIn?_segmentwise (path containing : List Char) :
    liesIn? path containing = some (liesIn path containing) ∧
    (liesIn path containing = true ↔ ∃ first, first <+: (trim path).splitOn '.' ∧
      List.Forall₂ (fun segment name => segment.map asciiLower = name.map asciiLower)
        first (containing.splitOn '.')) ∧
    (byteLength containing ≤ byteLength (trim path) →
      isBoundary (trim path) (byteLength containing) = true →
      ∃ start rest, cutAfter? (byteLength containing) (trim path) = some (start, rest) ∧
        trim path = start ++ rest ∧ byteLength start = byteLength containing) := by
  refine ⟨liesIn?_eq path containing, liesIn_iff, fun _ hboundary => ?_⟩
  obtain ⟨start, rest, hcut⟩ := exists_cutAfter?_of_isBoundary hboundary
  exact ⟨start, rest, hcut, cutAfter?_eq_some_iff.mp hcut⟩

/-- The cut is made after ten characters, which are twelve bytes. -/
theorem liesIn?_segmentwise_accented :
    byteLength "Dépôts.web".toList ≤ byteLength (trim " dépôts.Web.UI".toList) ∧
    isBoundary (trim " dépôts.Web.UI".toList) (byteLength "Dépôts.web".toList) = true ∧
    ∃ start rest,
      cutAfter? (byteLength "Dépôts.web".toList) (trim " dépôts.Web.UI".toList) =
        some (start, rest) ∧
      trim " dépôts.Web.UI".toList = start ++ rest ∧
      byteLength start = byteLength "Dépôts.web".toList :=
  ⟨by decide, by decide,
    (liesIn?_segmentwise " dépôts.Web.UI".toList "Dépôts.web".toList).2.2
      (by decide) (by decide)⟩

-- Two bytes of this path end inside its second character.
example : liesIn? "dépôts".toList "do".toList = some false := by decide

end PlatformAudit.Detect
