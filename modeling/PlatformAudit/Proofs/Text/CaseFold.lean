import Mathlib.Data.List.Pairwise
import PlatformAudit.Proofs.Text.LatinCase
import PlatformAudit.Text.CaseFold

/-!
# Characters that fold alike

Folding sends a character to one that stands for all characters equal to it regardless of
case. The orbit of a character is computed from its image, by going back along the runs of the
table, and it is meant to hold all characters with the same image
(`PlatformAudit.Text.mem_caseOrbit_iff`).

That rests on three facts about the table: no two of its runs move the same character, the
runs lead from characters to characters, and no run moves what another one leads to. They
are properties of the numbers in the table and are checked by evaluation. So is that no run leads
from white space or punctuation or to it, and hence that they have no case
(`PlatformAudit.Text.caseOrbit_of_isBlank`, `PlatformAudit.Text.caseOrbit_of_punctuation`).
-/

namespace PlatformAudit.Text

/-! ### Tables of runs -/

/-- All numbers between two bounds are code points of characters. -/
def AreCharacters (lo hi : ℤ) : Prop :=
  0 ≤ lo ∧ (hi < 0xD800 ∨ 0xDFFF < lo ∧ hi < 0x110000)

instance (lo hi : ℤ) : Decidable (AreCharacters lo hi) :=
  inferInstanceAs (Decidable (_ ∧ _))

theorem AreCharacters.isValidChar {lo hi n : ℤ} (h : AreCharacters lo hi) (hlo : lo ≤ n)
    (hhi : n ≤ hi) : n.toNat.isValidChar := by
  obtain ⟨hpos, hvalid⟩ := h
  unfold Nat.isValidChar
  omega

namespace CaseRun

variable {r q : CaseRun} {n : ℕ}

theorem moves_iff : r.moves n ↔ r.first ≤ n ∧ n ≤ r.last ∧ (n - r.first) % r.stride = 0 := by
  simp only [moves, Bool.and_eq_true, decide_eq_true_eq, and_assoc]

/-- The code point that a run sends another one to. -/
def image (r : CaseRun) (n : ℕ) : ℕ :=
  (n + r.offset).toNat

/-- Whether ascending runs move no code point from `lo` to `hi`, or none that is an even distance
away from `lo`. Runs that end before `lo` are passed over, and the first that begins after `hi` is
the last to be looked at. -/
def moveNone (lo hi : ℕ) (even : Bool) : List CaseRun → Bool
  | [] => true
  | q :: qs =>
    (q.last.blt lo || even && q.stride == 2 && (lo + q.first) % 2 == 1) && moveNone lo hi even qs ||
      hi.blt q.first

theorem not_moves_of_moveNone {lo hi : ℕ} {even : Bool} {runs : List CaseRun}
    (h : moveNone lo hi even runs)
    (hruns : runs.Pairwise fun r q => r.first ≤ r.last ∧ r.last < q.first)
    (hlo : lo ≤ n) (hhi : n ≤ hi) (heven : even → (n - lo) % 2 = 0) : ∀ q ∈ runs, ¬q.moves n := by
  induction runs with
  | nil => exact fun q hq => absurd hq List.not_mem_nil
  | cons p ps ih =>
    obtain ⟨hp, hps⟩ := List.pairwise_cons.mp hruns
    rw [moveNone, Bool.or_eq_true, Bool.and_eq_true, Nat.blt_eq] at h
    rcases h with ⟨hfirst, hrest⟩ | hbeyond
    · refine List.forall_mem_cons.mpr ⟨fun hmoves => ?_, ih hrest hps⟩
      obtain ⟨hfrom, hto, hstride⟩ := moves_iff.mp hmoves
      simp only [Bool.or_eq_true, Bool.and_eq_true, Nat.blt_eq, beq_iff_eq] at hfirst
      rcases hfirst with hbefore | ⟨⟨hisEven, htwo⟩, hodd⟩
      · omega
      · have := heven hisEven
        rw [htwo] at hstride
        omega
    · -- the runs ascend, so those that follow begin even later
      intro q hq hmoves
      obtain ⟨hfrom, hto, -⟩ := moves_iff.mp hmoves
      rcases List.mem_cons.mp hq with rfl | hq
      · omega
      · have := hp q hq
        omega

/-- A table of runs that a folding can be read from. -/
structure Folds (runs : List CaseRun) : Prop where
  ascending : runs.IsChain fun r q => r.first ≤ r.last ∧ r.last < q.first
  positive : ∀ r ∈ runs, 0 < r.first
  sources : ∀ r ∈ runs, AreCharacters r.first r.last
  images : ∀ r ∈ runs, AreCharacters (r.first + r.offset) (r.last + r.offset)
  stable : ∀ r ∈ runs,
    moveNone (r.image r.first) (r.image r.last) (r.stride == 2 || r.first == r.last) runs

namespace Folds

variable {runs : List CaseRun} {c d e : Char}

theorem pairwise (h : Folds runs) :
    runs.Pairwise fun r q => r.first ≤ r.last ∧ r.last < q.first := by
  have htrans : IsTrans CaseRun fun r q => r.first ≤ r.last ∧ r.last < q.first :=
    ⟨fun _ _ _ => by omega⟩
  exact List.isChain_iff_pairwise.mp h.ascending

theorem eq_of_moves (h : Folds runs) (hr : r ∈ runs) (hq : q ∈ runs) (hrn : r.moves n)
    (hqn : q.moves n) : r = q := by
  by_contra hne
  have hsymm : Std.Symm fun r q : CaseRun => r.last < q.first ∨ q.last < r.first :=
    ⟨fun _ _ => Or.symm⟩
  have hapart : runs.Pairwise fun r q => r.last < q.first ∨ q.last < r.first :=
    h.pairwise.imp fun hlt => .inl hlt.2
  have hbounds := hapart.forall hr hq hne
  obtain ⟨hfirst, hlast, -⟩ := moves_iff.mp hrn
  obtain ⟨hfirst', hlast', -⟩ := moves_iff.mp hqn
  omega

theorem find?_eq_some (h : Folds runs) (hr : r ∈ runs) (hrn : r.moves n) :
    runs.find? (·.moves n) = some r := by
  have hsome : (runs.find? (·.moves n)).isSome := List.find?_isSome.mpr ⟨r, hr, hrn⟩
  obtain ⟨q, hq⟩ := Option.isSome_iff_exists.mp hsome
  have hqn : q.moves n := by simpa using List.find?_some hq
  rw [hq, h.eq_of_moves (List.mem_of_find?_eq_some hq) hr hqn hrn]

theorem toNat_apply (h : Folds runs) (hr : r ∈ runs) (hc : r.moves c.toNat) :
    ((apply runs c).toNat : ℤ) = c.toNat + r.offset := by
  obtain ⟨hfirst, hlast, -⟩ := moves_iff.mp hc
  have himages := h.images r hr
  have hvalid : ((c.toNat : ℤ) + r.offset).toNat.isValidChar :=
    himages.isValidChar (by omega) (by omega)
  have hpos := himages.1
  simp only [apply, h.find?_eq_some hr hc]
  rw [toNat_ofNat_of_isValidChar hvalid]
  omega

theorem apply_of_not_moves (hc : ∀ r ∈ runs, ¬r.moves c.toNat) : apply runs c = c := by
  simp only [apply, List.find?_eq_none.mpr hc]

/-- To fold twice is to fold once. -/
theorem apply_apply (h : Folds runs) (c : Char) : apply runs (apply runs c) = apply runs c := by
  by_cases hc : ∃ r ∈ runs, r.moves c.toNat
  · obtain ⟨r, hr, hrc⟩ := hc
    obtain ⟨hfirst, hlast, hstride⟩ := moves_iff.mp hrc
    have hpos := (h.images r hr).1
    have hc := h.toNat_apply hr hrc
    have heven : r.stride == 2 || r.first == r.last →
        ((apply runs c).toNat - r.image r.first) % 2 = 0 := by
      simp only [image, Bool.or_eq_true, beq_iff_eq]
      rintro (htwo | hsingle)
      · rw [htwo] at hstride
        omega
      · omega
    exact apply_of_not_moves
      (not_moves_of_moveNone (h.stable r hr) h.pairwise (by simp only [image]; omega)
        (by simp only [image]; omega) heven)
  · have hfixed := apply_of_not_moves fun r hr hrc => hc ⟨r, hr, hrc⟩
    rw [hfixed, hfixed]

/-- The way back finds the characters that some run sends to this one. -/
theorem mem_sources_iff (h : Folds runs) :
    d ∈ CaseRun.sources runs e ↔
      ∃ r ∈ runs, r.moves d.toNat ∧ (e.toNat : ℤ) = d.toNat + r.offset := by
  rw [CaseRun.sources, List.mem_filterMap]
  refine exists_congr fun r => and_congr_right fun hr => ?_
  have hsources := h.sources r hr
  have hpos := h.positive r hr
  constructor
  · intro hd
    -- the way back may be cut off at zero, but no run moves that code point
    obtain ⟨hmoves, heq⟩ := Option.ite_none_right_eq_some.mp hd
    obtain ⟨hfirst, hlast, -⟩ := moves_iff.mp hmoves
    obtain rfl := Option.some.inj heq
    have hvalid := hsources.isValidChar (n := (e.toNat : ℤ) - r.offset) (by omega) (by omega)
    rw [toNat_ofNat_of_isValidChar hvalid]
    exact ⟨hmoves, by omega⟩
  · rintro ⟨hmoves, he⟩
    have hback : ((e.toNat : ℤ) - r.offset).toNat = d.toNat := by omega
    simp only [hback, hmoves, if_true, Char.ofNat_toNat]

end Folds

end CaseRun

/-! ### The table of folding -/

theorem foldRuns_folds : CaseRun.Folds foldRuns where
  ascending := by decide +kernel
  positive := by decide +kernel
  sources := by decide +kernel
  images := by decide +kernel
  stable := by decide +kernel

/-- **The orbit of a character holds what folds as it does.** -/
theorem mem_caseOrbit_iff {c d : Char} : d ∈ caseOrbit c ↔ foldCase d = foldCase c := by
  rw [caseOrbit, List.mem_cons, foldRuns_folds.mem_sources_iff]
  constructor
  · rintro (rfl | ⟨r, hr, hmoves, heq⟩)
    · exact foldRuns_folds.apply_apply c
    · have hd := foldRuns_folds.toNat_apply hr hmoves
      rw [← heq] at hd
      exact Char.toNat_inj.mp (Int.ofNat.inj hd)
  · intro heq
    by_cases hd : ∃ r ∈ foldRuns, r.moves d.toNat
    · obtain ⟨r, hr, hmoves⟩ := hd
      exact .inr ⟨r, hr, hmoves, heq ▸ foldRuns_folds.toNat_apply hr hmoves⟩
    · have hfixed := CaseRun.Folds.apply_of_not_moves fun r hr hmoves => hd ⟨r, hr, hmoves⟩
      exact .inl (hfixed.symm.trans heq)

/-! ### Characters without case -/

/-- No run leads from one of the code points between two bounds, or to one. -/
def CaseRun.Avoids (r : CaseRun) (lo hi : ℕ) : Prop :=
  (r.last < lo ∨ hi < r.first) ∧ (r.last + r.offset < lo ∨ hi < r.first + r.offset)

instance (r : CaseRun) (lo hi : ℕ) : Decidable (r.Avoids lo hi) :=
  inferInstanceAs (Decidable (_ ∧ _))

theorem caseOrbit_of_avoids {c : Char} {lo hi : ℕ} (h : ∀ r ∈ foldRuns, r.Avoids lo hi)
    (hlo : lo ≤ c.toNat) (hhi : c.toNat ≤ hi) : caseOrbit c = [c] := by
  have hfixed : foldCase c = c := by
    refine CaseRun.Folds.apply_of_not_moves fun r hr hmoves => ?_
    obtain ⟨hfirst, hlast, -⟩ := CaseRun.moves_iff.mp hmoves
    obtain ⟨hfrom, -⟩ := h r hr
    omega
  have hnone : CaseRun.sources foldRuns c = [] := by
    refine List.eq_nil_iff_forall_not_mem.mpr fun d hd => ?_
    obtain ⟨r, hr, hmoves, heq⟩ := foldRuns_folds.mem_sources_iff.mp hd
    obtain ⟨hfirst, hlast, -⟩ := CaseRun.moves_iff.mp hmoves
    obtain ⟨-, hto⟩ := h r hr
    omega
  rw [caseOrbit, hfixed, hnone]

theorem exists_of_covers {ranges : CodeRanges} {n : ℕ} (h : ranges.covers n = true) :
    ∃ range ∈ ranges, range.1 ≤ n ∧ n ≤ range.2 := by
  induction ranges with
  | nil => exact absurd h Bool.false_ne_true
  | cons range ranges ih =>
    rw [CodeRanges.covers] at h
    split at h
    next => exact absurd h Bool.false_ne_true
    next hlo =>
      rcases Bool.or_eq_true_iff.mp h with hhi | hrest
      · exact ⟨range, List.mem_cons_self .., Nat.le_of_not_lt hlo, of_decide_eq_true hhi⟩
      · obtain ⟨other, hother, hbounds⟩ := ih hrest
        exact ⟨other, List.mem_cons_of_mem _ hother, hbounds⟩

/-- White space has no case. -/
theorem caseOrbit_of_isBlank {c : Char} (h : isBlank c = true) : caseOrbit c = [c] := by
  have havoid : ∀ range ∈ blankRanges, ∀ r ∈ foldRuns, r.Avoids range.1 range.2 := by
    decide +kernel
  obtain ⟨range, hrange, hlo, hhi⟩ := exists_of_covers h
  exact caseOrbit_of_avoids (havoid range hrange) hlo hhi

/-- The code points of ASCII that are no letters. -/
def punctuationRanges : CodeRanges :=
  [(0, 0x40), (0x5B, 0x60), (0x7B, 0x7F)]

/-- Punctuation has no case. -/
theorem caseOrbit_of_punctuation {c : Char} (h : punctuationRanges.covers c.toNat = true) :
    caseOrbit c = [c] := by
  have havoid : ∀ range ∈ punctuationRanges, ∀ r ∈ foldRuns, r.Avoids range.1 range.2 := by
    decide +kernel
  obtain ⟨range, hrange, hlo, hhi⟩ := exists_of_covers h
  exact caseOrbit_of_avoids (havoid range hrange) hlo hhi

end PlatformAudit.Text
