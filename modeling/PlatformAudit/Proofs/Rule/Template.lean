import PlatformAudit.Proofs.Text.Replacing
import PlatformAudit.Rule.Detection

/-!
# Filling in a template

A template names the subject and the evidence of a hit by a mark each. Simultaneous
substitution (`PlatformAudit.substitute`) reads the template once and replaces the
marks that stand in it. `PlatformAudit.fillIn` reads it twice, first for the one mark
and then for the other, so the second reading sees the text of the subject as well and
replaces the evidence marks it finds there.

Between the two readings the template is a text with gaps, one for each evidence mark of
the template (`PlatformAudit.Outlines`). Simultaneous substitution fills in these gaps, and
the second reading does so as long as it meets no other mark, which is what
`PlatformAudit.fillIn_eq_substitute_iff` says.
-/

namespace PlatformAudit

open Text Detect

/-! ### Simultaneous substitution -/

/-- Replaces the marks of a table after the first `skip` characters, which are dropped. -/
def substituteFrom (marks : List (List Char × List Char)) : (skip : ℕ) → List Char → List Char
  | _, [] => []
  | skip + 1, _ :: cs => substituteFrom marks skip cs
  | 0, c :: cs =>
    match marks.find? (·.1.isPrefixOf (c :: cs)) with
    | some (mark, filling) => filling ++ substituteFrom marks (mark.length - 1) cs
    | none => c :: substituteFrom marks 0 cs

/-- A text with each mark of a table that stands in it replaced by what the table has for it. -/
def substituteAll (marks : List (List Char × List Char)) (cs : List Char) : List Char :=
  substituteFrom marks 0 cs

/-- What the marks of a template stand for. -/
def hitMarks (subject evidence : List Char) : List (List Char × List Char) :=
  [(subjectMark, subject), (evidenceMark, evidence)]

/-- A template with the marks that stand in it replaced by the subject and the evidence. -/
def substitute (template : String) (hit : Hit) : String :=
  String.ofList
    (substituteAll (hitMarks hit.subject.toList hit.evidence.toList) template.toList)

/-- Every opening brace of a template begins a mark. -/
def BracesOpenMarks (cs : List Char) : Prop :=
  ∀ rest, '\x7b' :: rest <:+ cs → subjectMark <+: '\x7b' :: rest ∨ evidenceMark <+: '\x7b' :: rest

section Marks

theorem subjectMark_eq : subjectMark = '\x7b' :: "subject\x7d".toList := by decide

theorem evidenceMark_eq : evidenceMark = '\x7b' :: "evidence\x7d".toList := by decide

theorem brace_not_mem_subject : '\x7b' ∉ "subject\x7d".toList := by decide

theorem brace_not_mem_evidence : '\x7b' ∉ "evidence\x7d".toList := by decide

theorem subjectMark_ne_nil : subjectMark ≠ [] := by decide

theorem evidenceMark_ne_nil : evidenceMark ≠ [] := by decide

/-- No text begins with both marks. -/
theorem not_both_marks {cs : List Char} (hsubject : subjectMark <+: cs) :
    ¬evidenceMark <+: cs := by
  intro hevidence
  have hprefix : subjectMark <+: evidenceMark :=
    List.prefix_of_prefix_length_le hsubject hevidence (by decide)
  exact absurd hprefix (by decide)

theorem induction_on_template {P : List Char → Prop} (nil : P [])
    (subject : ∀ cs, P cs → P (subjectMark ++ cs)) (evidence : ∀ cs, P cs → P (evidenceMark ++ cs))
    (char : ∀ c cs, ¬subjectMark <+: c :: cs → ¬evidenceMark <+: c :: cs → P cs → P (c :: cs))
    (cs : List Char) : P cs := by
  have hmarks : [] ∉ [subjectMark, evidenceMark] := by decide
  refine induction_on_marks hmarks nil (fun m hm cs ih => ?_) (fun c cs hnone ih => ?_) cs
  · rcases List.mem_pair.mp hm with rfl | rfl
    · exact subject cs ih
    · exact evidence cs ih
  · exact char c cs (hnone _ (List.mem_pair.mpr (.inl rfl))) (hnone _ (List.mem_pair.mpr (.inr rfl)))
      ih

end Marks

section Steps

variable {marks : List (List Char × List Char)} {mark filling cs : List Char} {c : Char}

theorem substituteFrom_eq_drop (marks : List (List Char × List Char)) (n : ℕ) (cs : List Char) :
    substituteFrom marks n cs = substituteAll marks (cs.drop n) := by
  induction cs generalizing n with
  | nil =>
    rw [List.drop_nil]
    cases n <;> rfl
  | cons c cs ih =>
    cases n with
    | zero => rfl
    | succ n => rw [substituteFrom, ih, List.drop_succ_cons]

theorem substituteAll_append (hmark : mark ≠ [])
    (hfind : marks.find? (·.1.isPrefixOf (mark ++ cs)) = some (mark, filling)) :
    substituteAll marks (mark ++ cs) = filling ++ substituteAll marks cs := by
  obtain ⟨c, m, rfl⟩ := List.exists_cons_of_ne_nil hmark
  rw [List.cons_append] at hfind ⊢
  simp only [substituteAll, substituteFrom, hfind]
  rw [substituteFrom_eq_drop, List.length_cons, Nat.add_sub_cancel, List.drop_left, substituteAll]

theorem substituteAll_cons (hfind : marks.find? (·.1.isPrefixOf (c :: cs)) = none) :
    substituteAll marks (c :: cs) = c :: substituteAll marks cs := by
  simp only [substituteAll, substituteFrom, hfind]

variable (subject evidence : List Char)

theorem substituteAll_subjectMark (cs : List Char) :
    substituteAll (hitMarks subject evidence) (subjectMark ++ cs) =
      subject ++ substituteAll (hitMarks subject evidence) cs := by
  refine substituteAll_append subjectMark_ne_nil (List.find?_cons_of_pos ?_)
  exact List.isPrefixOf_iff_prefix.mpr (List.prefix_append subjectMark cs)

theorem substituteAll_evidenceMark (cs : List Char) :
    substituteAll (hitMarks subject evidence) (evidenceMark ++ cs) =
      evidence ++ substituteAll (hitMarks subject evidence) cs := by
  have hprefix := List.prefix_append evidenceMark cs
  refine substituteAll_append evidenceMark_ne_nil ?_
  rw [hitMarks, List.find?_cons_of_neg, List.find?_cons_of_pos]
  · exact List.isPrefixOf_iff_prefix.mpr hprefix
  · exact fun h => not_both_marks (List.isPrefixOf_iff_prefix.mp h) hprefix

theorem substituteAll_char (hsubject : ¬subjectMark <+: c :: cs)
    (hevidence : ¬evidenceMark <+: c :: cs) :
    substituteAll (hitMarks subject evidence) (c :: cs) =
      c :: substituteAll (hitMarks subject evidence) cs := by
  refine substituteAll_cons (List.find?_eq_none.mpr ?_)
  simp [hitMarks, hsubject, hevidence]

end Steps

/-! ### The template between the readings -/

/-- A text with gaps stands for a template in which the subject is filled in: it becomes the
substitution if the evidence is filled in, and what the first reading leaves if the evidence
mark is. -/
structure Outlines (subject template : List Char) (gapped : List (Option Char)) : Prop where
  filled_eq : ∀ evidence, filled evidence gapped =
    substituteAll (hitMarks subject evidence) template
  filled_mark : filled evidenceMark gapped = replaceAll subjectMark subject template
  /-- There is one gap for every evidence mark of the template. -/
  count_none : gapped.count none = occurrences evidenceMark template
  /-- A brace of the text comes from the subject, or it begins no mark in the template. -/
  brace_mem : some '\x7b' ∈ gapped → '\x7b' ∈ subject ∨ ¬BracesOpenMarks template

theorem BracesOpenMarks.of_suffix {cs ds : List Char} (h : BracesOpenMarks ds) (hcs : cs <:+ ds) :
    BracesOpenMarks cs :=
  fun rest hrest => h rest (hrest.trans hcs)

namespace Outlines

variable {subject cs : List Char} {gapped : List (Option Char)}

theorem subjectMark_append (h : Outlines subject cs gapped) :
    Outlines subject (subjectMark ++ cs) (subject.map some ++ gapped) where
  filled_eq evidence := by
    rw [filled_append, filled_map_some, h.filled_eq, substituteAll_subjectMark]
  filled_mark := by
    rw [filled_append, filled_map_some, h.filled_mark, replaceAll_append subjectMark_ne_nil]
  count_none := by
    have hnone : (subject.map some).count none = 0 := List.count_eq_zero.mpr (by simp)
    have hmark : occurrences evidenceMark (subjectMark ++ cs) = occurrences evidenceMark cs := by
      have hprefix := not_both_marks (List.prefix_append subjectMark cs)
      rw [subjectMark_eq, List.cons_append] at hprefix ⊢
      rw [occurrences_cons_of_neg hprefix, evidenceMark_eq,
        occurrences_append_of_not_mem brace_not_mem_subject]
    rw [List.count_append, hnone, Nat.zero_add, h.count_none, hmark]
  brace_mem hmem := by
    rcases List.mem_append.mp hmem with hmem | hmem
    · exact .inl (by simpa using hmem)
    · exact (h.brace_mem hmem).imp_right
        (mt fun hbraces => hbraces.of_suffix (List.suffix_append subjectMark cs))

theorem evidenceMark_append (h : Outlines subject cs gapped) :
    Outlines subject (evidenceMark ++ cs) (none :: gapped) where
  filled_eq evidence := by rw [filled_gap, h.filled_eq, substituteAll_evidenceMark]
  filled_mark := by
    have hkept : replaceAll subjectMark subject (evidenceMark ++ cs) =
        evidenceMark ++ replaceAll subjectMark subject cs := by
      have hprefix := fun h => not_both_marks h (List.prefix_append evidenceMark cs)
      rw [evidenceMark_eq, List.cons_append] at hprefix ⊢
      rw [replaceAll_cons hprefix, subjectMark_eq,
        replaceAll_append_of_not_mem brace_not_mem_evidence, List.cons_append]
    rw [filled_gap, h.filled_mark, hkept]
  count_none := by
    rw [List.count_cons_self, h.count_none, evidenceMark_eq,
      occurrences_mark_append brace_not_mem_evidence]
  brace_mem hmem := by
    have hmem : some '\x7b' ∈ gapped := (List.mem_cons.mp hmem).resolve_left (by simp)
    exact (h.brace_mem hmem).imp_right
      (mt fun hbraces => hbraces.of_suffix (List.suffix_append evidenceMark cs))

theorem cons {c : Char} (h : Outlines subject cs gapped) (hsubject : ¬subjectMark <+: c :: cs)
    (hevidence : ¬evidenceMark <+: c :: cs) : Outlines subject (c :: cs) (some c :: gapped) where
  filled_eq evidence := by
    rw [filled_char, h.filled_eq, substituteAll_char _ _ hsubject hevidence]
  filled_mark := by rw [filled_char, h.filled_mark, replaceAll_cons hsubject]
  count_none := by
    rw [List.count_cons_of_ne (by simp), h.count_none, occurrences_cons_of_neg hevidence]
  brace_mem hmem := by
    rcases List.mem_cons.mp hmem with heq | hmem
    · -- the template has a brace here, and no mark begins at it
      obtain rfl : '\x7b' = c := Option.some.inj heq
      exact .inr fun hbraces => (hbraces cs List.suffix_rfl).elim hsubject hevidence
    · exact (h.brace_mem hmem).imp_right
        (mt fun hbraces => hbraces.of_suffix (List.suffix_cons c cs))

end Outlines

theorem exists_outlines (subject template : List Char) :
    ∃ gapped, Outlines subject template gapped := by
  induction template using induction_on_template with
  | nil => exact ⟨[], fun _ => rfl, rfl, rfl, fun h => absurd h List.not_mem_nil⟩
  | subject cs ih =>
    obtain ⟨gapped, h⟩ := ih
    exact ⟨_, h.subjectMark_append⟩
  | evidence cs ih =>
    obtain ⟨gapped, h⟩ := ih
    exact ⟨_, h.evidenceMark_append⟩
  | char c cs hsubject hevidence ih =>
    obtain ⟨gapped, h⟩ := ih
    exact ⟨_, h.cons hsubject hevidence⟩

/-! ### The two readings -/

/-- The subject stands in the substitution if its mark stands in the template. -/
theorem subject_infix_substituteAll {subject template : List Char} (evidence : List Char)
    (h : subjectMark <:+: template) :
    subject <:+: substituteAll (hitMarks subject evidence) template := by
  induction template using induction_on_template with
  | nil => exact absurd (List.infix_nil.mp h) subjectMark_ne_nil
  | subject cs ih =>
    rw [substituteAll_subjectMark]
    exact (List.prefix_append subject _).isInfix
  | evidence cs ih =>
    have hrest : subjectMark <:+: cs := by
      have hprefix := fun h => not_both_marks h (List.prefix_append evidenceMark cs)
      rw [evidenceMark_eq, List.cons_append] at hprefix h
      rw [subjectMark_eq] at hprefix h ⊢
      exact infix_of_infix_append brace_not_mem_evidence
        ((List.infix_cons_iff.mp h).resolve_left hprefix)
    rw [substituteAll_evidenceMark]
    exact (ih hrest).trans (List.suffix_append _ _).isInfix
  | char c cs hsubject hevidence ih =>
    rw [substituteAll_char _ _ hsubject hevidence]
    exact (ih ((List.infix_cons_iff.mp h).resolve_left hsubject)).trans
      (List.suffix_cons c _).isInfix

/-- **Filling in a template is simultaneous substitution** if and only if the subject, where it is
filled in, makes no evidence mark that the template does not have, or the evidence is the mark
itself. No such mark arises if the subject has no opening brace and those of the template all
begin a mark; and a template that has the subject mark then gives the subject unaltered. -/
theorem fillIn_eq_substitute_iff (template : String) (hit : Hit) :
    (fillIn template hit = substitute template hit ↔
      hit.evidence.toList = evidenceMark ∨
        occurrences evidenceMark (replaceAll subjectMark hit.subject.toList template.toList) =
          occurrences evidenceMark template.toList) ∧
    ('\x7b' ∉ hit.subject.toList → BracesOpenMarks template.toList →
      fillIn template hit = substitute template hit) ∧
    (fillIn template hit = substitute template hit → subjectMark <:+: template.toList →
      hit.subject.toList <:+: (fillIn template hit).toList) := by
  obtain ⟨gapped, h⟩ := exists_outlines hit.subject.toList template.toList
  have hiff : fillIn template hit = substitute template hit ↔
      hit.evidence.toList = evidenceMark ∨
        occurrences evidenceMark (filled evidenceMark gapped) = gapped.count none := by
    rw [fillIn, substitute, String.ofList_inj, ← h.filled_mark, ← h.filled_eq, evidenceMark_eq]
    exact replaceAll_filled_iff brace_not_mem_evidence _ gapped
  refine ⟨?_, fun hsubject hbraces => hiff.mpr (.inr ?_), fun heq hmark => ?_⟩
  · rw [hiff, h.filled_mark, h.count_none]
  · rw [evidenceMark_eq]
    exact occurrences_filled_of_not_mem brace_not_mem_evidence fun hmem =>
      (h.brace_mem hmem).elim hsubject (absurd hbraces)
  · rw [heq, substitute, String.toList_ofList]
    exact subject_infix_substituteAll _ hmark

/-- A path that happens to have an evidence mark in it is altered. -/
theorem fillIn_subject_with_mark :
    let template := "Hardcoded absolute path \"\x7bsubject\x7d\""
    let hit : Hit := { line := 3, subject := "C:\\\x7bevidence\x7d", evidence := "drive-letter path" }
    fillIn template hit = "Hardcoded absolute path \"C:\\drive-letter path\"" ∧
      substitute template hit = "Hardcoded absolute path \"C:\\\x7bevidence\x7d\"" := by
  decide +kernel

end PlatformAudit
