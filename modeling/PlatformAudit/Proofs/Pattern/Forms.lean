import PlatformAudit.Pattern.CharSet
import PlatformAudit.Proofs.Pattern.Matching
import PlatformAudit.Proofs.Text.CaseFold

/-!
# What the usual forms of patterns match

The patterns of the tables are put together from a few forms: runs of characters of a class,
repetitions of such runs, anchors at the two ends of the text, and classes that do not regard
case. This file says what each of them matches, so that a whole pattern can be read off its
parts.

A repetition is simplest when its body does not look around: a match of the repetition is then
any concatenation of matches of the body (`PlatformAudit.Pattern.matches_many_iff`). A class
that does not regard case holds what folds as some member of the class does
(`PlatformAudit.Pattern.CharSet.member_anyCase_iff`), and for many characters, among them all
white space, that is the character alone.
-/

namespace PlatformAudit.Pattern

open Text

/-! ### Repetitions -/

section Repetitions

variable {σ β α : Type} {reading : Reading σ β α} {M : List α → List α → List α → Prop}
  {L : List α → Prop} {before part after : List α} {least : ℕ} {s : σ}

/-- Where the surroundings do not count, parts one after the other are a concatenation. -/
theorem chained_iff (h : ∀ before part after, M before part after ↔ L part) (n : ℕ) :
    Chained M n before part after ↔
      ∃ parts : List (List α), parts.length = n ∧ part = parts.flatten ∧ ∀ p ∈ parts, L p := by
  induction n generalizing before part with
  | zero =>
    constructor
    · rintro rfl
      exact ⟨[], rfl, rfl, by simp⟩
    · rintro ⟨parts, hlength, rfl, -⟩
      rw [List.length_eq_zero_iff.mp hlength]
      rfl
  | succ n ih =>
    constructor
    · rintro ⟨first, rest, rfl, hfirst, hrest⟩
      obtain ⟨parts, rfl, rfl, hparts⟩ := ih.mp hrest
      have hfirst : L first := (h before first _).mp hfirst
      exact ⟨first :: parts, rfl, rfl, List.forall_mem_cons.mpr ⟨hfirst, hparts⟩⟩
    · rintro ⟨parts, hlength, rfl, hparts⟩
      cases parts with
      | nil => exact absurd hlength.symm (Nat.succ_ne_zero n)
      | cons first parts =>
        obtain ⟨hfirst, hparts⟩ := List.forall_mem_cons.mp hparts
        have hrest : Chained M n (before ++ first) parts.flatten after :=
          ih.mpr ⟨parts, Nat.succ.inj hlength, rfl, hparts⟩
        exact ⟨first, parts.flatten, rfl, (h before first _).mpr hfirst, hrest⟩

/-- **A repetition without upper bound matches concatenations of matches.** -/
theorem matches_many_iff {e : Expr σ β}
    (h : ∀ before part after, e.Matches reading before part after ↔ L part) :
    (Expr.many least none e).Matches reading before part after ↔
      ∃ parts : List (List α), least ≤ parts.length ∧ part = parts.flatten ∧
        ∀ p ∈ parts, L p := by
  constructor
  · rintro ⟨more, -, hchained⟩
    obtain ⟨parts, hlength, hpart, hparts⟩ := (chained_iff h _).mp hchained
    exact ⟨parts, by omega, hpart, hparts⟩
  · rintro ⟨parts, hleast, hpart, hparts⟩
    refine ⟨parts.length - least, by simp, (chained_iff h _).mpr ⟨parts, ?_, hpart, hparts⟩⟩
    omega

/-- A repetition of a class matches the texts over the class. -/
theorem matches_many_symbol_iff :
    (Expr.many least none (.symbol s)).Matches reading before part after ↔
      least ≤ part.length ∧ ∀ a ∈ part, reading.member s a := by
  rw [matches_many_iff fun _ _ _ => Iff.rfl]
  constructor
  · rintro ⟨parts, hleast, rfl, hparts⟩
    -- every part is one symbol
    have hlength : ∀ p ∈ parts, p.length = 1 := fun p hp => by
      obtain ⟨a, rfl, -⟩ := hparts p hp
      rfl
    refine ⟨?_, fun a ha => ?_⟩
    · rw [List.length_flatten, List.map_congr_left hlength]
      simpa using hleast
    · obtain ⟨p, hp, ha⟩ := List.mem_flatten.mp ha
      obtain ⟨b, rfl, hb⟩ := hparts p hp
      rwa [List.mem_singleton.mp ha]
  · rintro ⟨hleast, hmember⟩
    refine ⟨part.map fun a => [a], by rwa [List.length_map], ?_, fun p hp => ?_⟩
    · rw [← List.flatMap_def, List.flatMap_singleton']
    · obtain ⟨a, ha, rfl⟩ := List.mem_map.mp hp
      exact ⟨a, rfl, hmember a ha⟩

/-- A symbol that may be left out. -/
theorem matches_maybe_symbol_iff :
    (Expr.maybe (.symbol s)).Matches reading before part after ↔
      part = [] ∨ ∃ a, part = [a] ∧ reading.member s a := by
  constructor
  · rintro ⟨more, hmore, hchained⟩
    have hone : more ≤ 1 := hmore 1 rfl
    have hsymbol (before part after : List α) :
        (Expr.symbol s : Expr σ β).Matches reading before part after ↔
          ∃ a, part = [a] ∧ reading.member s a := Iff.rfl
    obtain ⟨parts, hlength, rfl, hparts⟩ := (chained_iff hsymbol _).mp hchained
    rcases parts with _ | ⟨p, _ | ⟨q, parts⟩⟩
    · exact .inl rfl
    · obtain ⟨a, rfl, ha⟩ := hparts p (List.mem_singleton_self p)
      exact .inr ⟨a, rfl, ha⟩
    · simp only [List.length_cons] at hlength
      omega
  · rintro (rfl | ⟨a, rfl, ha⟩)
    · exact ⟨0, by simp, rfl⟩
    · exact ⟨1, by simp, [a], [], rfl, ⟨a, rfl, ha⟩, rfl⟩

end Repetitions

/-! ### Anchors -/

section Anchors

variable {es : List CharPattern} {before part after text : List Char}

theorem matches_textStart_iff :
    (Expr.boundary .textStart : CharPattern).Matches characters before part after ↔
      part = [] ∧ before = [] := by
  refine and_congr_right fun _ => ?_
  rw [← List.getLast?_eq_none_iff, ← Option.isNone_iff_eq_none]
  rfl

theorem matches_textEnd_iff :
    (Expr.boundary .textEnd : CharPattern).Matches characters before part after ↔
      part = [] ∧ after = [] := by
  refine and_congr_right fun _ => ?_
  rw [← List.head?_eq_none_iff, ← Option.isNone_iff_eq_none]
  rfl

/-- **A pattern that begins with an anchor stands at the start of a text or nowhere.** -/
theorem exists_matches_anchored_iff :
    (∃ before part after, text = before ++ (part ++ after) ∧
        (Expr.sequence (.boundary .textStart :: es)).Matches characters before part after) ↔
      ∃ part after, text = part ++ after ∧ (Expr.sequence es).Matches characters [] part after := by
  simp only [Expr.matches_sequence_cons_iff, matches_textStart_iff]
  constructor
  · rintro ⟨_, _, after, rfl, _, part, rfl, ⟨rfl, rfl⟩, hpart⟩
    exact ⟨part, after, rfl, hpart⟩
  · rintro ⟨part, after, rfl, hpart⟩
    exact ⟨[], part, after, rfl, [], part, rfl, ⟨rfl, rfl⟩, hpart⟩

/-- A change of flags matches the empty text. -/
theorem matches_sequence_empty_iff :
    (Expr.sequence (.empty :: es)).Matches characters before part after ↔
      (Expr.sequence es).Matches characters before part after := by
  rw [Expr.matches_sequence_cons_iff]
  constructor
  · rintro ⟨_, part, rfl, rfl, hpart⟩
    rwa [List.append_nil] at hpart
  · intro hpart
    exact ⟨[], part, rfl, rfl, by rwa [List.append_nil]⟩

end Anchors

/-! ### Classes -/

namespace CharSet

variable {s : CharSet} {c d : Char}

/-- What is listed in brackets. -/
def ofItems (items : List CharSet) : CharSet :=
  items.foldl .union .none

theorem member_ofItems_iff {items : List CharSet} :
    (ofItems items).member c ↔ ∃ s ∈ items, s.member c := by
  have hfold (start : CharSet) : (items.foldl .union start).member c ↔
      start.member c ∨ ∃ s ∈ items, s.member c := by
    induction items generalizing start with
    | nil => simp
    | cons s items ih =>
      rw [List.foldl_cons, ih, member, Bool.or_eq_true, or_assoc, List.exists_mem_cons_iff]
  rw [ofItems, hfold]
  simp [member]

/-- **A class that does not regard case holds what folds as one of its members does.** -/
theorem member_anyCase_iff :
    (anyCase s).member c ↔ ∃ d, foldCase d = foldCase c ∧ s.member d := by
  simp only [member, List.any_eq_true, mem_caseOrbit_iff]

/-- Where case makes no difference to the members of a class, it makes none to the class. -/
theorem member_anyCase_iff_member (h : ∀ d, s.member d = true → caseOrbit d = [d]) :
    (anyCase s).member c ↔ s.member c := by
  rw [member_anyCase_iff]
  constructor
  · rintro ⟨d, hfold, hd⟩
    have hc : c ∈ caseOrbit d := mem_caseOrbit_iff.mpr hfold.symm
    rw [h d hd, List.mem_singleton] at hc
    rwa [hc]
  · exact fun hc => ⟨c, rfl, hc⟩

/-- Case makes no difference to a character that has none. -/
theorem member_anyCase_of_caseless (h : caseOrbit c = [c]) : (anyCase s).member c = s.member c := by
  rw [member, h, List.any_cons, List.any_nil, Bool.or_false]

theorem member_anyCase_single_iff (h : caseOrbit d = [d]) :
    (anyCase (.single d)).member c ↔ c = d := by
  rw [member_anyCase_iff_member fun e he => ?_, member, decide_eq_true_eq]
  rw [member, decide_eq_true_eq] at he
  rw [he, h]

end CharSet

end PlatformAudit.Pattern
