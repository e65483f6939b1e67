import Mathlib.Data.List.DropRight
import PlatformAudit.Text.Blank
import PlatformAudit.Text.Segment

/-!
# Parts of texts

Names are trimmed and cut before they are compared or looked up. This file says when
these operations have nothing more to do, and what they leave of a text that was put
together from known parts.
-/

namespace PlatformAudit.Text

variable {cs ds es : List Char}

/-! ### Trimming -/

theorem trimEnd_isPrefix (cs : List Char) : trimEnd cs <+: cs :=
  List.rdropWhile_prefix isBlank cs

theorem mem_of_mem_trimStart {c : Char} (h : c ∈ trimStart cs) : c ∈ cs :=
  (List.dropWhile_suffix isBlank).subset h

theorem mem_of_mem_trim {c : Char} (h : c ∈ trim cs) : c ∈ cs :=
  mem_of_mem_trimStart ((trimEnd_isPrefix _).subset h)

/-- Leading white space does not come back when the end of a text is cut off. -/
theorem trimStart_of_isPrefix (h : ds <+: cs) (hcs : trimStart cs = cs) : trimStart ds = ds := by
  cases ds with
  | nil => rfl
  | cons d ds =>
    obtain ⟨rest, rfl⟩ := h
    rw [List.cons_append] at hcs
    have hd : isBlank d = false := by
      cases hd : isBlank d with
      | false => rfl
      | true =>
        -- otherwise the text would be shorter after trimming
        have hlength := congrArg List.length hcs
        rw [trimStart, List.dropWhile_cons_of_pos hd, List.length_cons] at hlength
        have := (List.dropWhile_suffix isBlank (l := ds ++ rest)).length_le
        omega
    exact List.dropWhile_cons_of_neg (by simp [hd])

theorem trim_trimStart (cs : List Char) : trim (trimStart cs) = trim cs :=
  congrArg trimEnd (List.dropWhile_idempotent isBlank cs)

/-- **A trimmed text has nothing to trim.** -/
theorem trim_trim (cs : List Char) : trim (trim cs) = trim cs := by
  have hstart : trimStart (trim cs) = trim cs :=
    trimStart_of_isPrefix (trimEnd_isPrefix _) (List.dropWhile_idempotent isBlank cs)
  rw [trim, hstart]
  exact List.rdropWhile_idempotent isBlank (trimStart cs)

/-- Before and after characters that are not white space nothing is trimmed. -/
theorem trim_append_cons_append {a b : Char} (ha : isBlank a = false) (hb : isBlank b = false)
    (cs ds : List Char) : trim (cs ++ a :: (ds ++ [b])) = trimStart cs ++ a :: (ds ++ [b]) := by
  have hstart : trimStart (cs ++ a :: (ds ++ [b])) = trimStart cs ++ a :: (ds ++ [b]) := by
    rw [trimStart, List.dropWhile_append, List.dropWhile_cons_of_neg (by simp [ha])]
    split
    next hempty =>
      rw [trimStart, List.isEmpty_iff.mp hempty]
      rfl
    next => rfl
  have hend (es : List Char) : trimEnd (es ++ [b]) = es ++ [b] :=
    List.rdropWhile_concat_neg _ _ _ (by simp [hb])
  rw [trim, hstart, ← List.cons_append, ← List.append_assoc, hend]

/-! ### Cutting -/

/-- What is taken while a condition holds is followed by something that breaks it, or by
nothing. -/
theorem takeWhile_eq_iff {p : Char → Bool} :
    cs.takeWhile p = ds ↔
      ∃ rest, cs = ds ++ rest ∧ (∀ d ∈ ds, p d = true) ∧ ∀ c ∈ rest.head?, p c = false := by
  constructor
  · rintro rfl
    refine ⟨cs.dropWhile p, List.takeWhile_append_dropWhile.symm, fun d => List.mem_takeWhile_imp,
      fun c hc => ?_⟩
    have hhead := List.head?_dropWhile_not p cs
    rw [Option.mem_def.mp hc] at hhead
    exact hhead
  · rintro ⟨rest, rfl, hds, hrest⟩
    rw [List.takeWhile_append_of_pos hds]
    cases rest with
    | nil => rw [List.takeWhile_nil, List.append_nil]
    | cons c rest =>
      have hc := hrest c rfl
      rw [List.takeWhile_cons_of_neg (by simp [hc]), List.append_nil]

/-- What follows the last separator has no separator, and a separator or nothing precedes it. -/
theorem afterLastOf_eq_iff {p : Char → Bool} :
    afterLastOf p cs = ds ↔
      ∃ front, cs = front ++ ds ∧ (∀ c ∈ front.getLast?, p c = true) ∧ ∀ d ∈ ds, p d = false := by
  rw [afterLastOf, List.reverse_eq_iff, takeWhile_eq_iff]
  constructor
  · rintro ⟨rest, hcs, hds, hrest⟩
    refine ⟨rest.reverse, ?_, fun c hc => ?_, fun d hd => ?_⟩
    · have hreversed := congrArg List.reverse hcs
      rwa [List.reverse_append, List.reverse_reverse, List.reverse_reverse] at hreversed
    · rw [List.getLast?_reverse] at hc
      simpa using hrest c hc
    · simpa using hds d (List.mem_reverse.mpr hd)
  · rintro ⟨front, rfl, hfront, hds⟩
    refine ⟨front.reverse, List.reverse_append, fun d hd => ?_, fun c hc => ?_⟩
    · simpa using hds d (List.mem_reverse.mp hd)
    · rw [List.head?_reverse] at hc
      simpa using hfront c hc

/-- **What is left of a text without its leading white space.** -/
theorem trimStart_eq_iff :
    trimStart cs = ds ↔ ∃ lead, cs = lead ++ ds ∧ (∀ c ∈ lead, isBlank c = true) ∧
      ∀ c ∈ ds.head?, isBlank c = false := by
  constructor
  · rintro rfl
    obtain ⟨rest, hcs, hlead, hrest⟩ := takeWhile_eq_iff.mp (Eq.refl (cs.takeWhile isBlank))
    have hdrop : cs.takeWhile isBlank ++ trimStart cs = cs.takeWhile isBlank ++ rest :=
      List.takeWhile_append_dropWhile.trans hcs
    rw [List.append_cancel_left hdrop]
    exact ⟨_, hcs, hlead, hrest⟩
  · rintro ⟨lead, rfl, hlead, hds⟩
    rw [trimStart, List.dropWhile_append_of_pos hlead]
    cases ds with
    | nil => rfl
    | cons d ds => exact List.dropWhile_cons_of_neg (by simp [hds d rfl])

/-- **What is left of a text without its trailing white space.** -/
theorem trimEnd_eq_iff :
    trimEnd cs = ds ↔ ∃ trail, cs = ds ++ trail ∧ (∀ c ∈ trail, isBlank c = true) ∧
      ∀ c ∈ ds.getLast?, isBlank c = false := by
  have hreverse : trimEnd cs = (trimStart cs.reverse).reverse := rfl
  rw [hreverse, List.reverse_eq_iff, trimStart_eq_iff, List.head?_reverse]
  constructor
  · rintro ⟨lead, hcs, hlead, hds⟩
    refine ⟨lead.reverse, ?_, fun c hc => hlead c (List.mem_reverse.mp hc), hds⟩
    rw [← List.reverse_inj, hcs, List.reverse_append, List.reverse_reverse]
  · rintro ⟨trail, rfl, htrail, hds⟩
    exact ⟨trail.reverse, List.reverse_append, fun c hc => htrail c (List.mem_reverse.mp hc), hds⟩

/-- A text neither begins nor ends with white space. -/
def Unpadded (cs : List Char) : Prop :=
  (∀ c ∈ cs.head?, isBlank c = false) ∧ ∀ c ∈ cs.getLast?, isBlank c = false

/-- A text is another one, which neither begins nor ends with white space, with white space around
it. -/
def TrimsTo (cs ds : List Char) : Prop :=
  ∃ lead trail, cs = lead ++ (ds ++ trail) ∧ (∀ c ∈ lead, isBlank c = true) ∧
    (∀ c ∈ trail, isBlank c = true) ∧ Unpadded ds

/-- **What is left of a text without surrounding white space.** -/
theorem trim_eq_iff : trim cs = ds ↔ TrimsTo cs ds := by
  rw [trim, trimEnd_eq_iff]
  constructor
  · rintro ⟨trail, hstart, htrail, hlast⟩
    obtain ⟨lead, hcs, hlead, hhead⟩ := trimStart_eq_iff.mp hstart
    refine ⟨lead, trail, hcs, hlead, htrail, fun c hc => hhead c ?_, hlast⟩
    rw [List.head?_append, Option.mem_def.mp hc]
    rfl
  · rintro ⟨lead, trail, rfl, hlead, htrail, hhead, hlast⟩
    cases ds with
    | nil =>
      -- all of the text is white space
      refine ⟨[], List.dropWhile_eq_nil_iff.mpr fun c hc => ?_, by simp, by simp⟩
      exact (List.mem_append.mp hc).elim (hlead c) (htrail c)
    | cons d ds => exact ⟨trail, trimStart_eq_iff.mpr ⟨lead, rfl, hlead, hhead⟩, htrail, hlast⟩

theorem Unpadded.trimsTo_self (h : Unpadded cs) : TrimsTo cs cs :=
  ⟨[], [], by simp, by simp, by simp, h⟩

theorem trim_append_blank (h : ∀ c ∈ ds, isBlank c = true) (cs : List Char) :
    trim (cs ++ ds) = trim cs := by
  obtain ⟨lead, trail, hcs, hlead, htrail, hunpadded⟩ := trim_eq_iff.mp (Eq.refl (trim cs))
  refine trim_eq_iff.mpr ⟨lead, trail ++ ds, ?_, hlead, fun c hc => ?_, hunpadded⟩
  · rw [← List.append_assoc (trim cs), ← List.append_assoc lead, ← hcs]
  · exact (List.mem_append.mp hc).elim (htrail c) (h c)

variable {sep : Char}

theorem beforeFirst_of_not_mem (h : sep ∉ cs) : beforeFirst sep cs = cs :=
  List.takeWhile_eq_self_iff.mpr fun c hc => by
    simpa using ne_of_mem_of_not_mem hc h

theorem beforeFirst_append_cons (h : sep ∉ cs) (ds : List Char) :
    beforeFirst sep (cs ++ sep :: ds) = cs := by
  have hcs : ∀ c ∈ cs, decide (c ≠ sep) = true := fun c hc => by
    simpa using ne_of_mem_of_not_mem hc h
  rw [beforeFirst, List.takeWhile_append_of_pos hcs, List.takeWhile_cons_of_neg (by simp),
    List.append_nil]

theorem afterLast_append_cons (h : sep ∉ ds) (cs : List Char) :
    afterLast sep (cs ++ sep :: ds) = ds := by
  have hds : ∀ d ∈ ds.reverse, (!decide (d = sep)) = true := fun d hd => by
    simpa using ne_of_mem_of_not_mem (List.mem_reverse.mp hd) h
  rw [afterLast, afterLastOf, List.reverse_append, List.reverse_cons, List.append_assoc,
    List.takeWhile_append_of_pos hds, List.singleton_append,
    List.takeWhile_cons_of_neg (by simp), List.append_nil, List.reverse_reverse]

/-- What follows the last separator, without white space, does not depend on white space around the
whole text. -/
theorem trim_afterLast_trim (hsep : isBlank sep = false) (cs : List Char) :
    trim (afterLast sep (trim cs)) = trim (afterLast sep cs) := by
  have hblank {es : List Char} (h : ∀ c ∈ es, isBlank c = true) : sep ∉ es := fun hmem =>
    Bool.false_ne_true (hsep.symm.trans (h sep hmem))
  obtain ⟨lead, trail, hcs, hlead, htrail, -⟩ := trim_eq_iff.mp (Eq.refl (trim cs))
  obtain ⟨front, hcore, hfront, hlast⟩ :=
    afterLastOf_eq_iff.mp (Eq.refl (afterLast sep (trim cs)))
  have hlast : sep ∉ afterLast sep (trim cs) := fun hmem => by simpa using hlast sep hmem
  rcases List.eq_nil_or_concat' front with rfl | ⟨front, c, rfl⟩
  · -- there is no separator
    have hall : sep ∉ cs := by
      rw [hcs, hcore, List.mem_append, List.mem_append, List.nil_append]
      exact not_or.mpr ⟨hblank hlead, not_or.mpr ⟨hlast, hblank htrail⟩⟩
    have hwhole : afterLast sep cs = cs := by
      refine afterLastOf_eq_iff.mpr ⟨[], rfl, by simp, fun c hc => ?_⟩
      simpa using ne_of_mem_of_not_mem hc hall
    calc trim (afterLast sep (trim cs))
        = trim (trim cs) := congrArg trim hcore.symm
      _ = trim (afterLast sep cs) := by rw [trim_trim, hwhole]
  · obtain rfl : c = sep := by simpa using hfront c (by simp)
    have hcut : afterLast c cs = afterLast c (trim cs) ++ trail := by
      have hfree : c ∉ afterLast c (trim cs) ++ trail := by
        rw [List.mem_append]
        exact not_or.mpr ⟨hlast, hblank htrail⟩
      rw [← afterLast_append_cons hfree (lead ++ front)]
      refine congrArg (afterLast c) (hcs.trans ?_)
      nth_rewrite 1 [hcore]
      simp
    rw [hcut, trim_append_blank htrail]

theorem dropStart?_eq_some_iff : dropStart? ds cs = some es ↔ cs = ds ++ es := by
  induction ds generalizing cs with
  | nil => simp [dropStart?]
  | cons d ds ih =>
    cases cs with
    | nil => simp [dropStart?]
    | cons c cs =>
      rw [dropStart?, Option.ite_none_right_eq_some, ih, List.cons_append, List.cons.injEq]
      exact and_congr_left' eq_comm

theorem dropFinal?_eq_some_iff : dropFinal? ds cs = some es ↔ cs = es ++ ds := by
  rw [dropFinal?, Option.map_eq_some_iff]
  simp only [dropStart?_eq_some_iff]
  constructor
  · rintro ⟨fs, hcs, rfl⟩
    have hreversed := congrArg List.reverse hcs
    rwa [List.reverse_append, List.reverse_reverse, List.reverse_reverse] at hreversed
  · rintro rfl
    exact ⟨es.reverse, List.reverse_append, List.reverse_reverse es⟩

theorem occursIn_iff : occursIn ds cs = true ↔ ds <:+: cs := by
  induction cs with
  | nil => rw [occursIn, List.isEmpty_iff, List.infix_nil]
  | cons c cs ih =>
    rw [occursIn, Bool.or_eq_true, List.isPrefixOf_iff_prefix, ih, List.infix_cons_iff]

/-- The last character of a text that does not end with a separator follows the last
separator. -/
theorem mem_afterLast_concat {c : Char} (h : c ≠ sep) (cs : List Char) :
    c ∈ afterLast sep (cs ++ [c]) := by
  rw [afterLast, afterLastOf, List.reverse_concat, List.takeWhile_cons_of_pos (by simpa using h)]
  simp

end PlatformAudit.Text
