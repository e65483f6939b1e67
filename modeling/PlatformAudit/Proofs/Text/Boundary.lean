import Mathlib.Data.List.Basic
import PlatformAudit.Proofs.Text.ByteOrder
import PlatformAudit.Proofs.Text.LatinCase
import PlatformAudit.Text.Bytes

/-!
# Where a text can be cut

A text has a boundary after a number of bytes if an initial part of it has just as many. The
program looks at one byte to find out: the byte after the cut must not continue a
character. The two agree at every number (`PlatformAudit.Text.isBoundary_iff`), because of
the bytes of a character the first one never continues a character and all others do
(`PlatformAudit.Text.utf8EncodeChar_eq_cons`). So where the byte says that a text can be cut
the cut succeeds (`PlatformAudit.Text.exists_cutAfter?_of_isBoundary`).
-/

namespace PlatformAudit.Text

variable {cs start rest : List Char} {n : ℕ}

/-! ### Lengths -/

theorem byteLength_append (cs ds : List Char) :
    byteLength (cs ++ ds) = byteLength cs + byteLength ds := by
  have hfrom (m : ℕ) (ds : List Char) :
      ds.foldl (fun n c => n + c.utf8Size) m = m + byteLength ds := by
    induction ds generalizing m with
    | nil => rfl
    | cons d ds ih =>
      have hd : byteLength (d :: ds) = 0 + d.utf8Size + byteLength ds := ih (0 + d.utf8Size)
      rw [List.foldl_cons, ih, hd]
      omega
  rw [byteLength, List.foldl_append, hfrom]
  rfl

theorem byteLength_cons (c : Char) (cs : List Char) :
    byteLength (c :: cs) = c.utf8Size + byteLength cs := by
  have hsingle : byteLength [c] = c.utf8Size := Nat.zero_add _
  rw [← List.singleton_append, byteLength_append, hsingle]

theorem bytes_cons (c : Char) (cs : List Char) :
    bytes (c :: cs) = String.utf8EncodeChar c ++ bytes cs :=
  List.flatMap_cons

theorem byteLength_map_asciiLower (cs : List Char) :
    byteLength (cs.map asciiLower) = byteLength cs := by
  induction cs with
  | nil => rfl
  | cons c cs ih => rw [List.map_cons, byteLength_cons, byteLength_cons, utf8Size_asciiLower, ih]

/-! ### Boundaries -/

theorem isContinuation_iff {b : UInt8} :
    isContinuation b = true ↔ 128 ≤ b.toNat ∧ b.toNat < 192 := by
  rw [isContinuation, Bool.and_eq_true, decide_eq_true_iff, decide_eq_true_iff,
    UInt8.le_iff_toNat_le, UInt8.lt_iff_toNat_lt]
  rfl

/-- **Of the bytes of a character all but the first continue it.** -/
theorem utf8EncodeChar_eq_cons (c : Char) :
    ∃ b bs, String.utf8EncodeChar c = b :: bs ∧ isContinuation b = false ∧
      ∀ b' ∈ bs, isContinuation b' = true := by
  obtain ⟨_, _, hvalues, hfirst, hothers⟩ := byteValuesOf_eq_cons c
  obtain ⟨b, bs, hc, rfl, rfl⟩ := List.map_eq_cons_iff.mp hvalues
  refine ⟨b, bs, hc, Bool.eq_false_iff.mpr (mt isContinuation_iff.mp (by omega)), ?_⟩
  exact fun b' hb' => isContinuation_iff.mpr (hothers _ (List.mem_map_of_mem hb'))

theorem isBoundary_zero (cs : List Char) : isBoundary cs 0 = true := by
  cases cs with
  | nil => rfl
  | cons c cs =>
    obtain ⟨b, bs, hc, hb, -⟩ := utf8EncodeChar_eq_cons c
    rw [isBoundary, bytes_cons, hc]
    exact congrArg (! ·) hb

/-- There is no boundary inside a character. -/
theorem isBoundary_inside {c : Char} (hpos : 0 < n) (hlt : n < c.utf8Size) (cs : List Char) :
    isBoundary (c :: cs) n = false := by
  obtain ⟨b, bs, hc, -, hbs⟩ := utf8EncodeChar_eq_cons c
  obtain ⟨i, rfl⟩ := Nat.exists_eq_add_of_lt hpos
  have hi : i < bs.length := by
    have hlength := String.length_utf8EncodeChar c
    rw [hc, List.length_cons] at hlength
    omega
  have hbyte : (bytes (c :: cs))[0 + i + 1]? = some bs[i] := by
    rw [bytes_cons, hc, Nat.zero_add, List.cons_append, List.getElem?_cons_succ,
      List.getElem?_append_left hi, List.getElem?_eq_getElem hi]
  rw [isBoundary, hbyte]
  exact congrArg (! ·) (hbs _ (List.getElem_mem hi))

/-- The boundaries from the end of the first character on are those of the rest. -/
theorem isBoundary_beyond {c : Char} (h : c.utf8Size ≤ n) (cs : List Char) :
    isBoundary (c :: cs) n = isBoundary cs (n - c.utf8Size) := by
  have hbyte : (bytes (c :: cs))[n]? = (bytes cs)[n - c.utf8Size]? := by
    rw [bytes_cons, List.getElem?_append_right (by rwa [String.length_utf8EncodeChar]),
      String.length_utf8EncodeChar]
  have hend : n = byteLength (c :: cs) ↔ n - c.utf8Size = byteLength cs := by
    rw [byteLength_cons]
    omega
  rw [isBoundary, isBoundary, hbyte]
  cases (bytes cs)[n - c.utf8Size]? with
  | none => exact decide_eq_decide.mpr hend
  | some b => rfl

/-- **A text has a boundary where an initial part of it ends**, and nowhere else. -/
theorem isBoundary_iff :
    isBoundary cs n = true ↔ ∃ start rest, cs = start ++ rest ∧ byteLength start = n := by
  induction cs generalizing n with
  | nil =>
    have hend : isBoundary [] n = true ↔ n = 0 := decide_eq_true_iff
    rw [hend]
    constructor
    · rintro rfl
      exact ⟨[], [], rfl, rfl⟩
    · rintro ⟨start, rest, hnil, rfl⟩
      rw [(List.append_eq_nil_iff.mp hnil.symm).1]
      rfl
  | cons c cs ih =>
    constructor
    · intro h
      rcases Nat.eq_zero_or_pos n with rfl | hpos
      · exact ⟨[], c :: cs, rfl, rfl⟩
      rcases Nat.lt_or_ge n c.utf8Size with hlt | hge
      · rw [isBoundary_inside hpos hlt] at h
        exact absurd h Bool.false_ne_true
      · rw [isBoundary_beyond hge] at h
        obtain ⟨start, rest, rfl, hstart⟩ := ih.mp h
        refine ⟨c :: start, rest, rfl, ?_⟩
        rw [byteLength_cons]
        omega
    · rintro ⟨start, rest, hcs, rfl⟩
      cases start with
      | nil => exact isBoundary_zero _
      | cons d start =>
        obtain ⟨rfl, rfl⟩ := List.cons.inj hcs
        rw [byteLength_cons, isBoundary_beyond (Nat.le_add_right _ _), Nat.add_sub_cancel_left]
        exact ih.mpr ⟨start, rest, rfl, rfl⟩

/-! ### Cuts -/

theorem byteLength_eq_zero_iff : byteLength cs = 0 ↔ cs = [] := by
  cases cs with
  | nil => exact iff_of_true rfl rfl
  | cons c cs =>
    have hc := c.utf8Size_pos
    rw [byteLength_cons]
    exact iff_of_false (by omega) (List.cons_ne_nil c cs)

/-- **What a cut gives**: the initial part with this number of bytes, and the rest. -/
theorem cutAfter?_eq_some_iff :
    cutAfter? n cs = some (start, rest) ↔ cs = start ++ rest ∧ byteLength start = n := by
  fun_induction cutAfter? n cs generalizing start with
  | case1 cs =>
    rw [Option.some.injEq, Prod.mk.injEq, byteLength_eq_zero_iff]
    constructor
    · rintro ⟨rfl, rfl⟩
      exact ⟨rfl, rfl⟩
    · rintro ⟨rfl, rfl⟩
      exact ⟨rfl, rfl⟩
  | case2 n =>
    refine iff_of_false (Option.some_ne_none _).symm ?_
    rintro ⟨hnil, hlength⟩
    rw [(List.append_eq_nil_iff.mp hnil.symm).1] at hlength
    exact absurd hlength (Nat.zero_ne_add_one n)
  | case3 n c cs hfits ih =>
    cases start with
    | nil =>
      refine iff_of_false ?_ fun h => absurd h.2 (Nat.zero_ne_add_one n)
      intro h
      obtain ⟨parts, -, hparts⟩ := Option.map_eq_some_iff.mp h
      exact absurd (Prod.mk.inj hparts).1 (List.cons_ne_nil c _)
    | cons d start =>
      rw [Option.map_eq_some_iff, byteLength_cons, List.cons_append, List.cons.injEq]
      constructor
      · rintro ⟨⟨start', rest'⟩, hcut, hparts⟩
        have hparts : (c :: start', rest') = (d :: start, rest) := hparts
        obtain ⟨hstart, rfl⟩ := Prod.mk.inj hparts
        obtain ⟨rfl, rfl⟩ := List.cons.inj hstart
        obtain ⟨rfl, hlength⟩ := ih.mp hcut
        exact ⟨⟨rfl, rfl⟩, by omega⟩
      · rintro ⟨⟨rfl, rfl⟩, hlength⟩
        exact ⟨(start, rest), ih.mpr ⟨rfl, by omega⟩, rfl⟩
  | case4 n c cs htoo =>
    refine iff_of_false (Option.some_ne_none _).symm ?_
    rintro ⟨hcs, hlength⟩
    cases start with
    | nil => exact absurd hlength (Nat.zero_ne_add_one n)
    | cons d start =>
      obtain ⟨rfl, -⟩ := List.cons.inj hcs
      rw [byteLength_cons] at hlength
      omega

/-- **Where there is a boundary a text can be cut.** -/
theorem exists_cutAfter?_of_isBoundary (h : isBoundary cs n = true) :
    ∃ start rest, cutAfter? n cs = some (start, rest) := by
  obtain ⟨start, rest, hparts⟩ := isBoundary_iff.mp h
  exact ⟨start, rest, cutAfter?_eq_some_iff.mpr hparts⟩

end PlatformAudit.Text
