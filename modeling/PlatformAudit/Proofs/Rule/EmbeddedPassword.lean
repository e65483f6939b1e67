import PlatformAudit.Proofs.Pattern.Forms
import PlatformAudit.Proofs.Pattern.Quoting
import PlatformAudit.Proofs.Rule.LiteralRule
import PlatformAudit.Proofs.Text.Segments

/-!
# Passwords in connection strings

A connection string is a list of fields with semicolons between them, and a field is a key, an
equals sign and a value, with white space where one likes. The rule about passwords does not read
it so. It searches the whole literal for one pattern, which begins at the start of the text or with
a semicolon, and ends as soon as a value has begun.

Both come to the same (`PlatformAudit.standsIn_embeddedPassword_iff`). No part of the pattern
matches a semicolon except its beginning, so a match lies in one field and begins where the field
does; and the value of a field has a match of the rest of the pattern at its start as soon as it is
not all white space.
-/

namespace PlatformAudit

open Code Detect Pattern Text

/-! ### Fields -/

/-- The keys of a password, as they fold. -/
def passwordKeys : List (List Char) :=
  ["password".toList, "pwd".toList]

/-- **A field with a password**: white space, a key up to case, white space, an equals sign, and a
value that is not all white space. -/
def IsPasswordField (field : List Char) : Prop :=
  ∃ lead key gap value, field = lead ++ (key ++ (gap ++ '=' :: value)) ∧
    (∀ c ∈ lead, isBlank c = true) ∧ key.map foldCase ∈ passwordKeys ∧
    (∀ c ∈ gap, isBlank c = true) ∧ ∃ c ∈ value, isBlank c = false

/-- The beginning of a field with a password, up to some characters of the value that are neither
white space nor semicolons. -/
def BeginsPassword (part : List Char) : Prop :=
  ∃ lead key gap space value, part = lead ++ (key ++ (gap ++ '=' :: (space ++ value))) ∧
    (∀ c ∈ lead, isBlank c = true) ∧ key.map foldCase ∈ passwordKeys ∧
    (∀ c ∈ gap, isBlank c = true) ∧ (∀ c ∈ space, isBlank c = true) ∧
    value ≠ [] ∧ ∀ c ∈ value, c ≠ ';' ∧ isBlank c = false

theorem passwordKeys_fold :
    ∀ key ∈ passwordKeys, key.map foldCase = key ∧ foldCase ';' ∉ key := by
  decide +kernel

theorem BeginsPassword.semicolon_not_mem {part : List Char} (h : BeginsPassword part) :
    ';' ∉ part := by
  obtain ⟨lead, key, gap, space, value, rfl, hlead, hkey, hgap, hspace, -, hvalue⟩ := h
  have hblank : isBlank ';' ≠ true := by decide
  simp only [List.mem_append, List.mem_cons, not_or]
  refine ⟨fun hmem => ?_, fun hmem => ?_, fun hmem => ?_, by decide, fun hmem => ?_, fun hmem => ?_⟩
  · exact hblank (hlead ';' hmem)
  · exact (passwordKeys_fold _ hkey).2 (List.mem_map_of_mem hmem)
  · exact hblank (hgap ';' hmem)
  · exact hblank (hspace ';' hmem)
  · exact (hvalue ';' hmem).1 rfl

/-- **A field has a password if it begins as one does**, whatever follows. -/
theorem isPasswordField_iff {field : List Char} (h : ';' ∉ field) :
    IsPasswordField field ↔ ∃ part rest, field = part ++ rest ∧ BeginsPassword part := by
  constructor
  · rintro ⟨lead, key, gap, value, rfl, hlead, hkey, hgap, c, hc, hcblank⟩
    -- the first character of the value that is not white space ends the beginning
    obtain ⟨rest, hsplit, hspace, hrest⟩ := takeWhile_eq_iff.mp (Eq.refl (value.takeWhile isBlank))
    generalize value.takeWhile isBlank = space at hsplit hspace
    subst hsplit
    cases rest with
    | nil =>
      rw [List.append_nil] at hc
      exact absurd (hspace c hc) (by simp [hcblank])
    | cons d rest =>
      have hd : d ≠ ';' := by
        rintro rfl
        exact h (by simp)
      exact ⟨lead ++ (key ++ (gap ++ '=' :: (space ++ [d]))), rest, by simp, lead, key, gap, space,
        [d], rfl, hlead, hkey, hgap, hspace, by simp, by simpa using ⟨hd, hrest d rfl⟩⟩
  · rintro ⟨_, rest, rfl, lead, key, gap, space, value, rfl, hlead, hkey, hgap, -, hne, hvalue⟩
    obtain ⟨c, hc⟩ := List.exists_mem_of_ne_nil value hne
    exact ⟨lead, key, gap, space ++ (value ++ rest), by simp, hlead, hkey, hgap, c, by simp [hc],
      (hvalue c hc).2⟩

/-! ### The pattern -/

/-- The start of the text or a semicolon. -/
def fieldStart : CharPattern :=
  .choice [.boundary .textStart, .symbol (.anyCase (.single ';'))]

/-- A key of a password, up to case. -/
def passwordKey : CharPattern :=
  .choice (passwordKeys.map fun key =>
    .sequence (key.map fun c => (literal { ignoreCase := true } c).meaning))

/-- White space, or nothing. -/
def spacePattern : CharPattern :=
  .many 0 none (.symbol .blank)

/-- The characters of a value. -/
def valueChars : CharSet :=
  .complement (.anyCase (.ofItems [.single ';', .blank]))

/-- A field up to the beginning of its value. -/
def passwordField : List CharPattern :=
  [spacePattern, passwordKey, spacePattern, .symbol (.anyCase (.single '=')), spacePattern,
    .many 1 none (.symbol valueChars)]

def passwordPattern : CharPattern :=
  .sequence (.empty :: fieldStart :: passwordField)

theorem parse_embeddedPassword :
    CharPattern.parse defaultTexts.embeddedPassword = some passwordPattern := by
  decide +kernel

section Matches

variable {before part after : List Char} {c : Char}

theorem fieldStart_matches_iff :
    fieldStart.Matches characters before part after ↔ part = [] ∧ before = [] ∨ part = [';'] := by
  have hsemicolon (c : Char) : (CharSet.anyCase (.single ';')).member c ↔ c = ';' :=
    CharSet.member_anyCase_single_iff (caseOrbit_of_punctuation (by decide))
  refine or_congr matches_textStart_iff ?_
  constructor
  · rintro ⟨c, rfl, hc⟩
    rw [(hsemicolon c).mp hc]
  · rintro rfl
    exact ⟨';', rfl, (hsemicolon ';').mpr rfl⟩

theorem passwordKey_matches_iff :
    passwordKey.Matches characters before part after ↔ part.map foldCase ∈ passwordKeys := by
  rw [passwordKey, Expr.matches_choice_iff (by simp [passwordKeys])]
  simp only [List.mem_map, exists_exists_and_eq_and, matches_literals_iff]
  constructor
  · rintro ⟨key, hkey, hpart⟩
    rwa [hpart, (passwordKeys_fold key hkey).1]
  · intro hpart
    exact ⟨_, hpart, (passwordKeys_fold _ hpart).1.symm⟩

theorem spacePattern_matches_iff :
    spacePattern.Matches characters before part after ↔ ∀ c ∈ part, isBlank c = true := by
  rw [spacePattern, matches_many_symbol_iff, and_iff_right (Nat.zero_le _)]
  rfl

theorem member_valueChars_iff : valueChars.member c ↔ c ≠ ';' ∧ isBlank c = false := by
  have hlisted (d : Char) : (CharSet.ofItems [.single ';', .blank]).member d ↔
      d = ';' ∨ isBlank d = true := by
    simp [CharSet.member_ofItems_iff, CharSet.member]
  have halone (d : Char) (hd : (CharSet.ofItems [.single ';', .blank]).member d = true) :
      caseOrbit d = [d] := by
    rcases (hlisted d).mp hd with rfl | hblank
    · exact caseOrbit_of_punctuation (by decide)
    · exact caseOrbit_of_isBlank hblank
  rw [valueChars, CharSet.member, Bool.not_eq_true', ← Bool.not_eq_true,
    CharSet.member_anyCase_iff_member halone, hlisted, not_or, Bool.not_eq_true]

/-- **What the pattern matches of a field.** -/
theorem passwordField_matches_iff :
    (Expr.sequence passwordField).Matches characters before part after ↔
      BeginsPassword part := by
  have hequals (c : Char) : (CharSet.anyCase (.single '=')).member c ↔ c = '=' :=
    CharSet.member_anyCase_single_iff (caseOrbit_of_punctuation (by decide))
  constructor
  · rintro ⟨lead, _, rfl, hlead, key, _, rfl, hkey, gap, _, rfl, hgap, _, _, rfl, ⟨c, rfl, hc⟩,
      space, value, rfl, hspace, hvalue⟩
    obtain rfl := (hequals c).mp hc
    obtain ⟨hlength, hchars⟩ := matches_many_symbol_iff.mp hvalue
    exact ⟨lead, key, gap, space, value, rfl, spacePattern_matches_iff.mp hlead,
      passwordKey_matches_iff.mp hkey, spacePattern_matches_iff.mp hgap,
      spacePattern_matches_iff.mp hspace, List.ne_nil_of_length_pos hlength,
      fun c hc => member_valueChars_iff.mp (hchars c hc)⟩
  · rintro ⟨lead, key, gap, space, value, rfl, hlead, hkey, hgap, hspace, hne, hvalue⟩
    exact ⟨lead, _, rfl, spacePattern_matches_iff.mpr hlead, key, _, rfl,
      passwordKey_matches_iff.mpr hkey, gap, _, rfl, spacePattern_matches_iff.mpr hgap,
      ['='], _, rfl, ⟨'=', rfl, (hequals '=').mpr rfl⟩, space, value, rfl,
      spacePattern_matches_iff.mpr hspace, matches_many_symbol_iff.mpr ⟨List.length_pos_iff.mpr hne,
        fun c hc => member_valueChars_iff.mpr (hvalue c hc)⟩⟩

theorem passwordPattern_matches_iff :
    passwordPattern.Matches characters before part after ↔
      ∃ start rest, part = start ++ rest ∧ (start = [] ∧ before = [] ∨ start = [';']) ∧
        BeginsPassword rest := by
  rw [passwordPattern, matches_sequence_empty_iff, Expr.matches_sequence_cons_iff]
  simp only [fieldStart_matches_iff, passwordField_matches_iff]

end Matches

/-! ### Searching and splitting -/

/-- **The pattern stands in a literal if and only if one of the fields has a password.** -/
theorem standsIn_embeddedPassword_iff {literal : String} :
    StandsIn defaultTexts.embeddedPassword literal ↔
      ∃ field ∈ literal.toList.splitOn ';', IsPasswordField field := by
  rw [standsIn_iff_matches parse_embeddedPassword]
  simp only [passwordPattern_matches_iff]
  constructor
  · rintro ⟨before, _, after, hliteral, start, part, rfl, hstart, hpart⟩
    -- the field goes on to the next semicolon
    obtain ⟨rest, hafter, hmore, hrest⟩ := takeWhile_eq_iff.mp
      (Eq.refl (after.takeWhile fun c => decide (c ≠ ';')))
    generalize (after.takeWhile fun c => decide (c ≠ ';')) = more at hafter hmore
    have hnot : ';' ∉ part ++ more := by
      rw [List.mem_append, not_or]
      exact ⟨hpart.semicolon_not_mem, fun hmem => absurd (hmore ';' hmem) (by decide)⟩
    refine ⟨part ++ more, mem_splitOn_iff.mpr ⟨hnot, before ++ start, rest, ?_, ?_, ?_⟩,
      (isPasswordField_iff hnot).mpr ⟨part, more, rfl, hpart⟩⟩
    · rw [hliteral, hafter]
      simp
    · rcases hstart with ⟨rfl, rfl⟩ | rfl
      · simp
      · simp
    · exact fun c hc => by simpa using hrest c hc
  · rintro ⟨field, hfield, hpassword⟩
    obtain ⟨hnot, before, after, hliteral, hbefore, -⟩ := mem_splitOn_iff.mp hfield
    obtain ⟨part, rest, rfl, hpart⟩ := (isPasswordField_iff hnot).mp hpassword
    -- the field is the first, or a semicolon precedes it
    rcases List.eq_nil_or_concat before with rfl | ⟨before, last, rfl⟩
    · exact ⟨[], part, rest ++ after, by simpa using hliteral, [], part, rfl, .inl ⟨rfl, rfl⟩,
        hpart⟩
    · obtain rfl := hbefore last (by simp)
      exact ⟨before, ';' :: part, rest ++ after, by simpa using hliteral, [';'], part, rfl,
        .inr rfl, hpart⟩

/-! ### The rule -/

/-- **The rule about passwords reports exactly the literals one field of which has a password.**
There is one finding for each of them, in the order of the literals. -/
theorem embeddedPassword_reports :
    ∃ r, Builtin.embeddedPassword {} = .ok r ∧ ∀ u, ∃ places, r.Reports "password key"
      (fun literal => ∃ field ∈ literal.toList.splitOn ';', IsPasswordField field) u places := by
  refine DetectionRule.exists_reports (fun _ => rfl)
    (Option.isSome_of_eq_some parse_embeddedPassword) (by simp) fun literal => ?_
  constructor
  · exact fun h => standsIn_embeddedPassword_iff.mp h.standsIn
  · intro h
    refine ⟨?_, by simp, standsIn_embeddedPassword_iff.mpr h⟩
    rintro rfl
    -- the empty text has one field, and that is empty
    obtain ⟨field, hfield, lead, key, gap, value, rfl, -⟩ := h
    simp at hfield

end PlatformAudit
