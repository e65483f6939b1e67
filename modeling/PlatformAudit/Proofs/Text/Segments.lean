import PlatformAudit.Proofs.Code.Listing
import PlatformAudit.Proofs.Text.Parts

/-!
# Segments and runs of a text

A text is cut at its separators into segments, and the maximal runs of characters with a
property are the segments between the others that are not empty. Equal segments may stand in a
text more than once, so they are told apart by the positions at which they begin
(`PlatformAudit.Text.SegmentAt`, `PlatformAudit.Text.RunAt`): the list of segments has one item
for each such position, in ascending order (`PlatformAudit.Text.listedBy_segments`), and so does
the list of runs (`PlatformAudit.Text.listedBy_runs`).

The cut itself is `List.splitOnP`, whose laws are used by name.
-/

namespace PlatformAudit.Text

open Code

variable {p separates : Char → Bool} {cs part : List Char} {i : ℕ} {sep : Char}

theorem segmentsBy_eq (separates : Char → Bool) (cs : List Char) :
    segmentsBy separates cs = cs.splitOnP separates := by
  induction cs with
  | nil => rfl
  | cons c cs ih =>
    obtain ⟨part, parts, hparts⟩ := List.exists_cons_of_ne_nil (List.splitOnP_ne_nil separates cs)
    rw [segmentsBy, ih, hparts, List.splitOnP_cons_eq_if_modifyHead, hparts]
    rfl

theorem segments_eq (sep : Char) (cs : List Char) : segments sep cs = cs.splitOn sep :=
  segmentsBy_eq _ cs

/-! ### Segments by position -/

/-- The segment that begins at a position. The first position always begins one, and any other
does if a separator precedes it. -/
def segmentAt? (separates : Char → Bool) : List Char → ℕ → Option (List Char)
  | cs, 0 => some (cs.takeWhile fun c => !separates c)
  | [], _ + 1 => none
  | c :: cs, 1 => if separates c then segmentAt? separates cs 0 else none
  | _ :: cs, i + 2 => segmentAt? separates cs (i + 1)

/-- **A segment stands at a position**: it has no separators, and a separator or an end of the
text is on either side of it. -/
structure SegmentAt (separates : Char → Bool) (cs : List Char) (i : ℕ) (part : List Char) :
    Prop where
  exists_split : ∃ before after, cs = before ++ (part ++ after) ∧ before.length = i ∧
    (∀ c ∈ before.getLast?, separates c = true) ∧ ∀ c ∈ after.head?, separates c = true
  separates_eq_false : ∀ c ∈ part, separates c = false

theorem segmentAt_zero_iff :
    SegmentAt separates cs 0 part ↔ (cs.takeWhile fun c => !separates c) = part := by
  rw [takeWhile_eq_iff]
  constructor
  · rintro ⟨⟨before, after, rfl, hlength, -, hafter⟩, hpart⟩
    obtain rfl := List.length_eq_zero_iff.mp hlength
    exact ⟨after, rfl, fun c hc => by simp [hpart c hc], fun c hc => by simp [hafter c hc]⟩
  · rintro ⟨after, rfl, hpart, hafter⟩
    refine ⟨⟨[], after, rfl, rfl, by simp, fun c hc => ?_⟩, fun c hc => ?_⟩
    · simpa using hafter c hc
    · simpa using hpart c hc

theorem segmentAt_cons_one_iff {c : Char} :
    SegmentAt separates (c :: cs) 1 part ↔
      separates c = true ∧ SegmentAt separates cs 0 part := by
  constructor
  · rintro ⟨⟨before, after, hcs, hlength, hbefore, hafter⟩, hpart⟩
    obtain ⟨b, rfl⟩ := List.length_eq_one_iff.mp hlength
    obtain ⟨rfl, rfl⟩ := List.cons.inj hcs
    exact ⟨hbefore c rfl, ⟨[], after, rfl, rfl, by simp, hafter⟩, hpart⟩
  · rintro ⟨hc, ⟨before, after, rfl, hlength, -, hafter⟩, hpart⟩
    obtain rfl := List.length_eq_zero_iff.mp hlength
    exact ⟨⟨[c], after, rfl, rfl, by simpa using hc, hafter⟩, hpart⟩

theorem segmentAt_cons_succ_iff {c : Char} :
    SegmentAt separates (c :: cs) (i + 2) part ↔ SegmentAt separates cs (i + 1) part := by
  constructor
  · rintro ⟨⟨before, after, hcs, hlength, hbefore, hafter⟩, hpart⟩
    rcases before with _ | ⟨b, _ | ⟨b', before⟩⟩
    · exact absurd hlength (by simp)
    · exact absurd hlength (by simp)
    · obtain ⟨-, rfl⟩ := List.cons.inj hcs
      exact ⟨⟨b' :: before, after, rfl, Nat.succ.inj hlength,
        by rwa [List.getLast?_cons_cons] at hbefore, hafter⟩, hpart⟩
  · rintro ⟨⟨before, after, rfl, hlength, hbefore, hafter⟩, hpart⟩
    cases before with
    | nil => exact absurd hlength (by simp)
    | cons b before =>
      exact ⟨⟨c :: b :: before, after, rfl, congrArg Nat.succ hlength,
        by rwa [List.getLast?_cons_cons], hafter⟩, hpart⟩

theorem segmentAt?_eq_some_iff :
    segmentAt? separates cs i = some part ↔ SegmentAt separates cs i part := by
  induction cs generalizing i with
  | nil =>
    cases i with
    | zero => rw [segmentAt?, segmentAt_zero_iff, Option.some.injEq]
    | succ i =>
      refine ⟨fun hnone => absurd hnone (by simp [segmentAt?]), ?_⟩
      rintro ⟨⟨before, after, hnil, hlength, -, -⟩, -⟩
      rw [(List.append_eq_nil_iff.mp hnil.symm).1] at hlength
      exact absurd hlength (by simp)
  | cons c cs ih =>
    match i with
    | 0 => rw [segmentAt?, segmentAt_zero_iff, Option.some.injEq]
    | 1 => rw [segmentAt?, Option.ite_none_right_eq_some, ih, segmentAt_cons_one_iff]
    | i + 2 => rw [segmentAt?, ih, segmentAt_cons_succ_iff]

/-- **The segments of a text are listed by the positions at which they begin.** -/
theorem listedBy_segments (separates : Char → Bool) (cs : List Char) :
    ∃ keys, ListedBy (· < ·) (segmentAt? separates cs) (segmentsBy separates cs) (0 :: keys) := by
  induction cs with
  | nil =>
    refine ⟨[], List.pairwise_singleton .., fun i part hi => ?_, rfl⟩
    cases i with
    | zero => exact List.mem_singleton_self 0
    | succ i => exact absurd hi (by simp [segmentAt?])
  | cons c cs ih =>
    obtain ⟨keys, inOrder, mem_of_get, map_get⟩ := ih
    obtain ⟨first, parts, hparts⟩ :
        ∃ first parts, segmentsBy separates cs = first :: parts := by
      rw [segmentsBy_eq]
      exact List.exists_cons_of_ne_nil (List.splitOnP_ne_nil separates cs)
    rw [hparts, List.map_cons, List.map_cons, List.cons.injEq] at map_get
    obtain ⟨hfirst, hmap⟩ := map_get
    obtain ⟨hpositive, hkeys⟩ := List.pairwise_cons.mp inOrder
    -- the positions after the first are those of the rest, one further on
    have hshift (k : ℕ) (hk : k ∈ keys) :
        segmentAt? separates (c :: cs) (k + 1) = segmentAt? separates cs k := by
      obtain ⟨k, rfl⟩ := Nat.exists_eq_add_of_lt (hpositive k hk)
      rw [Nat.zero_add]
      rfl
    have hmap' : (keys.map (· + 1)).map (segmentAt? separates (c :: cs)) = parts.map some := by
      rw [List.map_map, ← hmap]
      exact List.map_congr_left hshift
    have hmem (i : ℕ) (part : List Char)
        (hi : segmentAt? separates (c :: cs) (i + 2) = some part) :
        i + 2 ∈ keys.map (· + 1) := by
      have hi := mem_of_get (i + 1) part hi
      exact List.mem_map.mpr ⟨i + 1, (List.mem_cons.mp hi).resolve_left (by simp), rfl⟩
    rw [segmentsBy, hparts]
    cases hc : separates c with
    | true =>
      refine ⟨1 :: keys.map (· + 1), ?_, fun i part hi => ?_, ?_⟩
      · refine List.pairwise_cons.mpr ⟨by simp, List.pairwise_cons.mpr ⟨?_, ?_⟩⟩
        · simpa using hpositive
        · exact hkeys.map _ fun _ _ => Nat.succ_lt_succ
      · match i with
        | 0 => exact List.mem_cons_self ..
        | 1 => exact List.mem_cons_of_mem _ (List.mem_cons_self ..)
        | i + 2 => exact List.mem_cons_of_mem _ (List.mem_cons_of_mem _ (hmem i part hi))
      · rw [List.map_cons, List.map_cons, hmap', segmentAt?, segmentAt?, hc, if_pos rfl, hfirst,
          List.takeWhile_cons_of_neg (by simp [hc])]
        rfl
    | false =>
      refine ⟨keys.map (· + 1), ?_, fun i part hi => ?_, ?_⟩
      · refine List.pairwise_cons.mpr ⟨by simp, ?_⟩
        exact hkeys.map _ fun _ _ => Nat.succ_lt_succ
      · match i with
        | 0 => exact List.mem_cons_self ..
        | 1 => exact absurd hi (by simp [segmentAt?, hc])
        | i + 2 => exact List.mem_cons_of_mem _ (hmem i part hi)
      · rw [segmentAt?, Option.some.injEq] at hfirst
        rw [List.map_cons, hmap', segmentAt?, List.takeWhile_cons_of_pos (by simp [hc]), hfirst]
        rfl

/-- **What a text is split into.** -/
theorem mem_splitOn_iff :
    part ∈ cs.splitOn sep ↔ sep ∉ part ∧ ∃ before after, cs = before ++ (part ++ after) ∧
      (∀ c ∈ before.getLast?, c = sep) ∧ ∀ c ∈ after.head?, c = sep := by
  obtain ⟨keys, hlisted⟩ := listedBy_segments (fun c => decide (c = sep)) cs
  rw [← segments_eq, segments, hlisted.mem_items_iff]
  simp only [segmentAt?_eq_some_iff]
  constructor
  · rintro ⟨i, ⟨before, after, hcs, -, hbefore, hafter⟩, hpart⟩
    refine ⟨fun hmem => ?_, before, after, hcs, ?_, ?_⟩
    · exact of_decide_eq_false (hpart sep hmem) rfl
    · exact fun c hc => of_decide_eq_true (hbefore c hc)
    · exact fun c hc => of_decide_eq_true (hafter c hc)
  · rintro ⟨hpart, before, after, hcs, hbefore, hafter⟩
    refine ⟨before.length, ⟨before, after, hcs, rfl, ?_, ?_⟩, fun c hc => ?_⟩
    · exact fun c hc => decide_eq_true (hbefore c hc)
    · exact fun c hc => decide_eq_true (hafter c hc)
    · exact decide_eq_false (ne_of_mem_of_not_mem hc hpart)

/-- **The segments of one text are the first segments of another** if it begins the other, up to
the end or to a separator. -/
theorem splitOn_isPrefix_iff {ds : List Char} :
    cs.splitOn sep <+: ds.splitOn sep ↔
      ∃ rest, ds = cs ++ rest ∧ ∀ c ∈ rest.head?, c = sep := by
  have hinjective : Function.Injective (List.splitOn sep) :=
    Function.LeftInverse.injective fun _ => List.intercalate_splitOn sep
  constructor
  · rintro ⟨more, hmore⟩
    rcases eq_or_ne more [] with rfl | hne
    · rw [List.append_nil] at hmore
      refine ⟨[], ?_, fun c hc => absurd hc (Option.not_mem_none c)⟩
      rw [List.append_nil, hinjective hmore]
    · -- the further segments, put together again, are what follows the separator
      have hfree : ∀ part ∈ more, sep ∉ part := fun part hpart =>
        (mem_splitOn_iff.mp (hmore ▸ List.mem_append_right _ hpart)).1
      refine ⟨sep :: [sep].intercalate more, hinjective ?_, ?_⟩
      · rw [List.splitOn_append_cons_self, List.splitOn_intercalate sep hfree hne, hmore]
      · exact fun c hc => (Option.mem_some.mp hc).symm
  · rintro ⟨rest, rfl, hrest⟩
    cases rest with
    | nil => exact ⟨[], by rw [List.append_nil, List.append_nil]⟩
    | cons c rest =>
      obtain rfl := hrest c rfl
      rw [List.splitOn_append_cons_self]
      exact List.prefix_append _ _

theorem segmentsBy_map (separates : Char → Bool) (f : Char → Char) (cs : List Char) :
    segmentsBy separates (cs.map f) = (segmentsBy (separates ∘ f) cs).map (List.map f) := by
  induction cs with
  | nil => rfl
  | cons c cs ih =>
    rw [List.map_cons, segmentsBy, segmentsBy, ih]
    cases segmentsBy (separates ∘ f) cs with
    | nil => rfl
    | cons part parts =>
      rw [List.map_cons, apply_ite (List.map (List.map f))]
      rfl

/-- A change of characters that neither makes nor removes separators can be made segment by
segment. -/
theorem splitOn_map {f : Char → Char} (h : ∀ c, f c = sep ↔ c = sep) (cs : List Char) :
    (cs.map f).splitOn sep = (cs.splitOn sep).map (List.map f) := by
  have hsep : (fun c => decide (c = sep)) ∘ f = fun c => decide (c = sep) :=
    funext fun c => decide_eq_decide.mpr (h c)
  rw [← segments_eq, ← segments_eq, segments, segmentsBy_map, hsep]
  rfl

/-! ### Runs -/

/-- **A maximal run of characters with a property stands at a position.** -/
structure RunAt (p : Char → Bool) (cs : List Char) (i : ℕ) (run : List Char) : Prop where
  ne_nil : run ≠ []
  segmentAt : SegmentAt (fun c => !p c) cs i run

/-- The maximal run that begins at a position. -/
def runAt? (p : Char → Bool) (cs : List Char) (i : ℕ) : Option (List Char) :=
  (segmentAt? (fun c => !p c) cs i).bind (Option.guard fun run => !run.isEmpty)

theorem runAt?_eq_some_iff {run : List Char} :
    runAt? p cs i = some run ↔ RunAt p cs i run := by
  rw [runAt?, Option.bind_eq_some_iff]
  simp only [segmentAt?_eq_some_iff, Option.guard_eq_some_iff]
  constructor
  · rintro ⟨_, hsegment, rfl, hne⟩
    exact ⟨by simpa using hne, hsegment⟩
  · rintro ⟨hne, hsegment⟩
    exact ⟨run, hsegment, rfl, by simpa using hne⟩

/-- **The maximal runs in a text are listed by the positions at which they begin.** -/
theorem listedBy_runs (p : Char → Bool) (cs : List Char) :
    ∃ keys, ListedBy (· < ·) (runAt? p cs) (runsOf p cs) keys := by
  obtain ⟨keys, hlisted⟩ := listedBy_segments (fun c => !p c) cs
  have hruns := hlisted.filterMap (Option.guard fun run => !run.isEmpty)
  rw [List.filterMap_eq_filter] at hruns
  exact ⟨_, hruns⟩

end PlatformAudit.Text
