import Mathlib.Data.List.Nodup
import PlatformAudit.Proofs.Pattern.Forms
import PlatformAudit.Proofs.Rule.LiteralRule

/-!
# Literals that are paths

Three rules look for paths in literals: paths with a drive letter, paths of a network share, and
relative paths with backslashes. All three pass over what looks like a URL or like a relative path
with slashes. With the patterns of the default tables the languages of the three rules can be said
in plain words (`PlatformAudit.IsDrivePath`, `PlatformAudit.IsSharePath`,
`PlatformAudit.IsSegmented`), and so can those of the two safe patterns (`PlatformAudit.IsUrl`,
and `PlatformAudit.IsSegmented` again, with a slash).

The languages of the three rules exclude each other, so no literal is reported twice. The safe
patterns take nothing away from shares and relative paths. They do take something away from paths
with a drive letter: a scheme may be a single letter, and so a drive letter before two slashes is
one (`PlatformAudit.isUrl_iff_of_isDrivePath`).
-/

namespace PlatformAudit

open Code Detect Pattern Text

/-! ### The languages -/

/-- A letter, a colon, and a slash or a backslash, before anything else. -/
def IsDrivePath (cs : List Char) : Prop :=
  ∃ letter sep rest, cs = letter :: ':' :: sep :: rest ∧ letter.isAlpha = true ∧
    (sep = '\\' ∨ sep = '/')

/-- A character of the name of a server or a share. -/
def isShareChar (c : Char) : Bool :=
  c ≠ '\\' && c ≠ '/' && !isBlank c

/-- Two backslashes, the name of a server, a slash or a backslash, and at least one character of
the name of a share, before anything else. -/
def IsSharePath (cs : List Char) : Prop :=
  ∃ server sep c rest, cs = '\\' :: '\\' :: (server ++ sep :: c :: rest) ∧ server ≠ [] ∧
    (∀ d ∈ server, isShareChar d = true) ∧ (sep = '\\' ∨ sep = '/') ∧ isShareChar c = true

/-- A Latin letter, a digit, a low line, a full stop or a hyphen. -/
def isPathChar (c : Char) : Bool :=
  c.isAlphanum || c = '_' || c = '.' || c = '-'

/-- A name of such characters. -/
def IsPathName (name : List Char) : Prop :=
  name ≠ [] ∧ ∀ c ∈ name, isPathChar c = true

/-- At least `least` names with a separator between each two of them, and possibly one more
separator at the end. -/
def IsSegmented (sep : Char) (least : ℕ) (cs : List Char) : Prop :=
  ∃ names : List (List Char), least ≤ names.length ∧ (∀ name ∈ names, IsPathName name) ∧
    (cs = [sep].intercalate names ∨ cs = [sep].intercalate names ++ [sep])

/-- The first character of a scheme. -/
def schemeStart : CharSet :=
  .anyCase (.ofItems [.range 'a' 'z'])

/-- Any other character of a scheme. -/
def schemeRest : CharSet :=
  .anyCase (.ofItems [.range 'a' 'z', .range '0' '9', .single '+', .single '.', .single '-'])

/-- A scheme, a colon and two slashes, before anything else. -/
def IsUrl (cs : List Char) : Prop :=
  ∃ first scheme rest, cs = first :: (scheme ++ ':' :: '/' :: '/' :: rest) ∧
    schemeStart.member first = true ∧ ∀ c ∈ scheme, schemeRest.member c = true

/-! ### The patterns -/

/-- A slash or a backslash. -/
def slashes : CharSet :=
  .ofItems [.single '\\', .single '/']

/-- A character of the name of a server or a share. -/
def shareChars : CharSet :=
  .complement (.ofItems [.single '\\', .single '/', .blank])

/-- A character of a name. -/
def pathChars : CharSet :=
  .ofItems [.range 'A' 'Z', .range 'a' 'z', .range '0' '9', .single '_', .single '.', .single '-']

def drivePattern : CharPattern :=
  .sequence [.boundary .textStart, .symbol (.ofItems [.range 'A' 'Z', .range 'a' 'z']),
    .symbol (.single ':'), .symbol slashes]

def sharePattern : CharPattern :=
  .sequence [.boundary .textStart, .symbol (.single '\\'), .symbol (.single '\\'),
    .many 1 none (.symbol shareChars), .symbol slashes, .many 1 none (.symbol shareChars)]

/-- A separator and a name. -/
def namePattern (sep : Char) : CharPattern :=
  .seq (.symbol (.single sep)) (.many 1 none (.symbol pathChars))

def segmentedPattern (sep : Char) (more : ℕ) : CharPattern :=
  .sequence [.boundary .textStart, .many 1 none (.symbol pathChars),
    .many more none (namePattern sep), .maybe (.symbol (.single sep)), .boundary .textEnd]

def urlPattern : CharPattern :=
  .sequence [.empty, .boundary .textStart, .symbol schemeStart, .many 0 none (.symbol schemeRest),
    .symbol (.anyCase (.single ':')), .symbol (.anyCase (.single '/')),
    .symbol (.anyCase (.single '/'))]

theorem parse_paths :
    CharPattern.parse defaultTexts.absolutePath = some drivePattern ∧
      CharPattern.parse defaultTexts.sharePath = some sharePattern ∧
      CharPattern.parse defaultTexts.relativeBackslashPath = some (segmentedPattern '\\' 1) := by
  decide +kernel

theorem parse_safePaths :
    defaultTexts.safePaths.map CharPattern.parse =
      [some urlPattern, some (segmentedPattern '/' 0)] := by
  decide +kernel

/-! ### Classes of characters -/

section Classes

variable {c : Char}

theorem member_slashes_iff : slashes.member c ↔ c = '\\' ∨ c = '/' := by
  simp [slashes, CharSet.member_ofItems_iff, CharSet.member]

theorem isAlpha_iff : c.isAlpha ↔ 'A' ≤ c ∧ c ≤ 'Z' ∨ 'a' ≤ c ∧ c ≤ 'z' := by
  change (decide ('A'.val ≤ c.val ∧ c.val ≤ 'Z'.val) ||
    decide ('a'.val ≤ c.val) && decide (c.val ≤ 'z'.val)) = true ↔ _
  simp only [Bool.or_eq_true, Bool.and_eq_true, decide_eq_true_eq, Char.le_def]

theorem member_letters_iff :
    (CharSet.ofItems [.range 'A' 'Z', .range 'a' 'z']).member c ↔ c.isAlpha := by
  simp [CharSet.member_ofItems_iff, CharSet.member, isAlpha_iff]

theorem member_shareChars_iff : shareChars.member c ↔ isShareChar c := by
  have hlisted : (CharSet.ofItems [.single '\\', .single '/', .blank]).member c ↔
      c = '\\' ∨ c = '/' ∨ isBlank c := by
    simp [CharSet.member_ofItems_iff, CharSet.member]
  rw [shareChars, CharSet.member, Bool.not_eq_true', ← Bool.not_eq_true, hlisted, isShareChar]
  simp [and_assoc]

theorem member_pathChars_iff : pathChars.member c ↔ isPathChar c := by
  simp [pathChars, CharSet.member_ofItems_iff, CharSet.member, isPathChar, Char.isAlphanum,
    isAlpha_iff, Char.isDigit, Char.le_def, or_assoc]

/-- A letter may begin a scheme. -/
theorem member_schemeStart_of_isAlpha (h : c.isAlpha = true) : schemeStart.member c = true := by
  have hall : ∀ n < 128, (Char.ofNat n).isAlpha = true →
      schemeStart.member (Char.ofNat n) = true := by
    decide +kernel
  have hc : c.toNat < 128 := by
    have hletter := isAlpha_iff.mp h
    simp only [Char.le_def, UInt32.le_iff_toNat_le] at hletter
    change (65 ≤ c.toNat ∧ c.toNat ≤ 90) ∨ (97 ≤ c.toNat ∧ c.toNat ≤ 122) at hletter
    omega
  rw [← Char.ofNat_toNat c] at h ⊢
  exact hall c.toNat hc h

end Classes

/-! ### What the patterns of the rules match -/

theorem standsIn_absolutePath_iff {value : String} :
    StandsIn defaultTexts.absolutePath value ↔ IsDrivePath value.toList := by
  rw [standsIn_iff_matches parse_paths.1, drivePattern, exists_matches_anchored_iff]
  constructor
  · rintro ⟨_, rest, hvalue, _, _, rfl, ⟨letter, rfl, hletter⟩, _, _, rfl, ⟨colon, rfl, hcolon⟩,
      sep, rfl, hsep⟩
    obtain rfl : colon = ':' := of_decide_eq_true hcolon
    exact ⟨letter, sep, rest, hvalue, member_letters_iff.mp hletter, member_slashes_iff.mp hsep⟩
  · rintro ⟨letter, sep, rest, hvalue, hletter, hsep⟩
    exact ⟨[letter, ':', sep], rest, hvalue, [letter], [':', sep], rfl,
      ⟨letter, rfl, member_letters_iff.mpr hletter⟩, [':'], [sep], rfl, ⟨':', rfl, rfl⟩,
      sep, rfl, member_slashes_iff.mpr hsep⟩

theorem standsIn_sharePath_iff {value : String} :
    StandsIn defaultTexts.sharePath value ↔ IsSharePath value.toList := by
  rw [standsIn_iff_matches parse_paths.2.1, sharePattern, exists_matches_anchored_iff]
  constructor
  · rintro ⟨_, rest, hvalue, _, _, rfl, ⟨a, rfl, ha⟩, _, _, rfl, ⟨b, rfl, hb⟩, server, _, rfl,
      hserver, _, share, rfl, ⟨sep, rfl, hsep⟩, hshare⟩
    obtain rfl : a = '\\' := of_decide_eq_true ha
    obtain rfl : b = '\\' := of_decide_eq_true hb
    obtain ⟨hserverLength, hserverChars⟩ := matches_many_symbol_iff.mp hserver
    obtain ⟨hshareLength, hshareChars⟩ := matches_many_symbol_iff.mp hshare
    obtain ⟨c, more, rfl⟩ := List.exists_cons_of_length_pos hshareLength
    refine ⟨server, sep, c, more ++ rest, ?_, ?_, ?_, member_slashes_iff.mp hsep, ?_⟩
    · rw [hvalue]
      simp
    · exact List.ne_nil_of_length_pos hserverLength
    · exact fun d hd => member_shareChars_iff.mp (hserverChars d hd)
    · exact member_shareChars_iff.mp (hshareChars c (List.mem_cons_self ..))
  · rintro ⟨server, sep, c, rest, hvalue, hne, hserver, hsep, hc⟩
    refine ⟨'\\' :: '\\' :: (server ++ [sep, c]), rest, ?_, ['\\'], _, rfl, ⟨'\\', rfl, rfl⟩,
      ['\\'], _, rfl, ⟨'\\', rfl, rfl⟩, server, [sep, c], rfl, ?_, [sep], [c], rfl,
      ⟨sep, rfl, member_slashes_iff.mpr hsep⟩, ?_⟩
    · rw [hvalue]
      simp
    · exact matches_many_symbol_iff.mpr ⟨List.length_pos_iff.mpr hne,
        fun d hd => member_shareChars_iff.mpr (hserver d hd)⟩
    · refine matches_many_symbol_iff.mpr ⟨le_rfl, fun d hd => ?_⟩
      rw [List.mem_singleton.mp hd]
      exact member_shareChars_iff.mpr hc

section Segmented

variable {sep : Char} {cs : List Char}

/-- Names with a separator between each two of them are a first name, and further names with a
separator before each. -/
theorem intercalate_cons_eq (sep : Char) (first : List Char) (names : List (List Char)) :
    [sep].intercalate (first :: names) = first ++ names.flatMap (sep :: ·) := by
  induction names generalizing first with
  | nil => simp
  | cons name names ih =>
    rw [List.intercalate_cons_cons, ih, List.flatMap_cons, List.append_assoc,
      List.singleton_append, List.cons_append]

theorem name_matches_iff {before part after : List Char} :
    (Expr.many 1 none (.symbol pathChars) : CharPattern).Matches characters before part after ↔
      IsPathName part := by
  rw [IsPathName, matches_many_symbol_iff, Nat.succ_le_iff, List.length_pos_iff]
  refine and_congr_right fun _ => forall₂_congr fun c _ => ?_
  exact member_pathChars_iff

theorem namePattern_matches_iff {before part after : List Char} :
    (namePattern sep).Matches characters before part after ↔
      ∃ name, part = sep :: name ∧ IsPathName name := by
  constructor
  · rintro ⟨_, name, rfl, ⟨a, rfl, ha⟩, hname⟩
    obtain rfl : a = sep := of_decide_eq_true ha
    exact ⟨name, rfl, name_matches_iff.mp hname⟩
  · rintro ⟨name, rfl, hname⟩
    exact ⟨[sep], name, rfl, ⟨sep, rfl, decide_eq_true rfl⟩, name_matches_iff.mpr hname⟩

/-- A text is segmented if it has a first name, further names and possibly a separator more. -/
theorem isSegmented_succ_iff {more : ℕ} :
    IsSegmented sep (more + 1) cs ↔ ∃ (first : List Char) (parts : List (List Char)) (final : _),
      cs = first ++ (parts.flatten ++ final) ∧ IsPathName first ∧ more ≤ parts.length ∧
        (∀ part ∈ parts, ∃ name, part = sep :: name ∧ IsPathName name) ∧
        (final = [] ∨ final = [sep]) := by
  constructor
  · rintro ⟨names, hleast, hnames, hcs⟩
    cases names with
    | nil => exact absurd hleast (Nat.not_succ_le_zero more)
    | cons first names =>
      obtain ⟨hfirst, hnames⟩ := List.forall_mem_cons.mp hnames
      have hparts : ∀ part ∈ names.map (sep :: ·),
          ∃ name, part = sep :: name ∧ IsPathName name := by
        intro part hpart
        obtain ⟨name, hname, rfl⟩ := List.mem_map.mp hpart
        exact ⟨name, rfl, hnames name hname⟩
      have hlength : more ≤ (names.map (sep :: ·)).length := by
        rw [List.length_map]
        exact Nat.le_of_succ_le_succ hleast
      rw [intercalate_cons_eq, List.flatMap_def] at hcs
      rcases hcs with rfl | rfl
      · exact ⟨first, _, [], by simp, hfirst, hlength, hparts, .inl rfl⟩
      · exact ⟨first, _, [sep], by simp, hfirst, hlength, hparts, .inr rfl⟩
  · rintro ⟨first, parts, final, rfl, hfirst, hlength, hparts, hfinal⟩
    -- the names are what follows the separators
    have htails : parts = (parts.map List.tail).map (sep :: ·) := by
      rw [List.map_map]
      refine (List.map_id parts).symm.trans (List.map_congr_left fun part hpart => ?_)
      obtain ⟨name, rfl, -⟩ := hparts part hpart
      rfl
    refine ⟨first :: parts.map List.tail, by simpa using hlength, ?_, ?_⟩
    · refine List.forall_mem_cons.mpr ⟨hfirst, fun name hname => ?_⟩
      obtain ⟨part, hpart, rfl⟩ := List.mem_map.mp hname
      obtain ⟨name, rfl, hvalid⟩ := hparts part hpart
      exact hvalid
    · rw [intercalate_cons_eq, List.flatMap_def, ← htails]
      rcases hfinal with rfl | rfl
      · exact .inl (by simp)
      · exact .inr (by simp)

theorem exists_matches_segmentedPattern_iff {more : ℕ} :
    (∃ before part after, cs = before ++ (part ++ after) ∧
        (segmentedPattern sep more).Matches characters before part after) ↔
      IsSegmented sep (more + 1) cs := by
  rw [segmentedPattern, exists_matches_anchored_iff, isSegmented_succ_iff]
  constructor
  · rintro ⟨_, after, hcs, first, _, rfl, hfirst, _, _, rfl, hnames, final, _, rfl, hfinal, hend⟩
    obtain ⟨rfl, rfl⟩ := matches_textEnd_iff.mp hend
    obtain ⟨parts, hlength, rfl, hparts⟩ :=
      (matches_many_iff fun _ _ _ => namePattern_matches_iff).mp hnames
    refine ⟨first, parts, final, by simpa using hcs, name_matches_iff.mp hfirst, hlength, hparts,
      ?_⟩
    rcases matches_maybe_symbol_iff.mp hfinal with rfl | ⟨a, rfl, ha⟩
    · exact .inl rfl
    · obtain rfl : a = sep := of_decide_eq_true ha
      exact .inr rfl
  · rintro ⟨first, parts, final, rfl, hfirst, hlength, hparts, hfinal⟩
    refine ⟨_, [], (List.append_nil _).symm, first, _, rfl, name_matches_iff.mpr hfirst,
      parts.flatten, _, rfl, ?_, final, [], (List.append_nil final).symm, ?_,
      matches_textEnd_iff.mpr ⟨rfl, rfl⟩⟩
    · exact (matches_many_iff fun _ _ _ => namePattern_matches_iff).mpr
        ⟨parts, hlength, rfl, hparts⟩
    · refine matches_maybe_symbol_iff.mpr (hfinal.imp_right ?_)
      rintro rfl
      exact ⟨sep, rfl, decide_eq_true rfl⟩

theorem standsIn_relativeBackslashPath_iff {value : String} :
    StandsIn defaultTexts.relativeBackslashPath value ↔ IsSegmented '\\' 2 value.toList := by
  rw [standsIn_iff_matches parse_paths.2.2, exists_matches_segmentedPattern_iff]

end Segmented

/-! ### What the safe patterns match -/

theorem exists_matches_urlPattern_iff {cs : List Char} :
    (∃ before part after, cs = before ++ (part ++ after) ∧
        urlPattern.Matches characters before part after) ↔ IsUrl cs := by
  have hcolon (c : Char) : (CharSet.anyCase (.single ':')).member c ↔ c = ':' :=
    CharSet.member_anyCase_single_iff (caseOrbit_of_punctuation (by decide))
  have hslash (c : Char) : (CharSet.anyCase (.single '/')).member c ↔ c = '/' :=
    CharSet.member_anyCase_single_iff (caseOrbit_of_punctuation (by decide))
  simp only [urlPattern, matches_sequence_empty_iff]
  rw [exists_matches_anchored_iff]
  constructor
  · rintro ⟨_, rest, hcs, _, _, rfl, ⟨first, rfl, hfirst⟩, scheme, _, rfl, hscheme, _, _, rfl,
      ⟨a, rfl, ha⟩, _, _, rfl, ⟨b, rfl, hb⟩, c, rfl, hc⟩
    obtain rfl := (hcolon a).mp ha
    obtain rfl := (hslash b).mp hb
    obtain rfl := (hslash c).mp hc
    exact ⟨first, scheme, rest, by simpa using hcs, hfirst, (matches_many_symbol_iff.mp hscheme).2⟩
  · rintro ⟨first, scheme, rest, hcs, hfirst, hscheme⟩
    refine ⟨first :: (scheme ++ [':', '/', '/']), rest, by simpa using hcs, [first], _, rfl,
      ⟨first, rfl, hfirst⟩, scheme, _, rfl, ?_, [':'], _, rfl, ⟨':', rfl, (hcolon _).mpr rfl⟩,
      ['/'], ['/'], rfl, ⟨'/', rfl, (hslash _).mpr rfl⟩, '/', rfl, (hslash _).mpr rfl⟩
    exact matches_many_symbol_iff.mpr ⟨Nat.zero_le _, hscheme⟩

/-- **The safe patterns match URLs and relative paths with slashes.** -/
theorem forall_safePaths_iff {value : String} :
    (∀ s ∈ defaultTexts.safePaths, ¬StandsIn s value) ↔
      ¬IsUrl value.toList ∧ ¬IsSegmented '/' 1 value.toList := by
  obtain ⟨url, path, hpaths⟩ : ∃ url path, defaultTexts.safePaths = [url, path] := ⟨_, _, rfl⟩
  have hparse := parse_safePaths
  rw [hpaths, List.map_cons, List.map_cons, List.map_nil, List.cons.injEq, List.cons.injEq]
    at hparse
  obtain ⟨hurl, hpath, -⟩ := hparse
  rw [hpaths, List.forall_mem_cons, List.forall_mem_singleton, standsIn_iff_matches hurl,
    standsIn_iff_matches hpath, exists_matches_urlPattern_iff, exists_matches_segmentedPattern_iff]

theorem isSome_parse_safePaths : ∀ s ∈ defaultTexts.safePaths, (CharPattern.parse s).isSome := by
  intro s hs
  have hmem : CharPattern.parse s ∈ [some urlPattern, some (segmentedPattern '/' 0)] :=
    parse_safePaths ▸ List.mem_map_of_mem hs
  simp only [List.mem_cons, List.not_mem_nil, or_false] at hmem
  rcases hmem with heq | heq
  · rw [heq]
    rfl
  · rw [heq]
    rfl

/-! ### The languages exclude each other -/

section Exclusion

variable {sep : Char} {more : ℕ} {cs : List Char}

/-- A segmented text begins with a character of a name. -/
theorem IsSegmented.exists_cons (h : IsSegmented sep (more + 1) cs) :
    ∃ c rest, cs = c :: rest ∧ isPathChar c = true := by
  obtain ⟨first, parts, final, rfl, ⟨hne, hfirst⟩, -⟩ := isSegmented_succ_iff.mp h
  obtain ⟨c, name, rfl⟩ := List.exists_cons_of_ne_nil hne
  exact ⟨c, _, rfl, hfirst c (List.mem_cons_self ..)⟩

/-- A segmented text has characters of names and separators, and no others. -/
theorem IsSegmented.isPathChar_or_eq (h : IsSegmented sep (more + 1) cs) {c : Char} (hc : c ∈ cs) :
    isPathChar c = true ∨ c = sep := by
  obtain ⟨first, parts, final, rfl, hfirst, -, hparts, hfinal⟩ := isSegmented_succ_iff.mp h
  rcases List.mem_append.mp hc with hc | hc
  · exact .inl (hfirst.2 c hc)
  · rcases List.mem_append.mp hc with hc | hc
    · obtain ⟨part, hpart, hc⟩ := List.mem_flatten.mp hc
      obtain ⟨name, rfl, hname⟩ := hparts part hpart
      rcases List.mem_cons.mp hc with rfl | hc
      · exact .inr rfl
      · exact .inl (hname.2 c hc)
    · rcases hfinal with rfl | rfl
      · exact absurd hc List.not_mem_nil
      · exact .inr (List.mem_singleton.mp hc)

/-- Two names have a separator between them. -/
theorem IsSegmented.sep_mem (h : IsSegmented sep (more + 2) cs) : sep ∈ cs := by
  obtain ⟨first, parts, final, rfl, -, hlength, hparts, -⟩ := isSegmented_succ_iff.mp h
  obtain ⟨part, parts, rfl⟩ :=
    List.exists_cons_of_length_pos (Nat.lt_of_lt_of_le (by omega) hlength)
  obtain ⟨name, rfl, -⟩ := hparts part (List.mem_cons_self ..)
  simp

/-- **A path with a drive letter is taken for a URL if two slashes follow the colon**, and only
then. -/
theorem isUrl_iff_of_isDrivePath (h : IsDrivePath cs) : IsUrl cs ↔ ['/', '/'] <+: cs.drop 2 := by
  obtain ⟨letter, sep, rest, rfl, hletter, hsep⟩ := h
  constructor
  · rintro ⟨first, scheme, after, heq, -, hscheme⟩
    obtain ⟨-, htail⟩ := List.cons.inj heq
    cases scheme with
    | nil =>
      obtain ⟨-, hslashes⟩ := List.cons.inj htail
      exact ⟨after, hslashes.symm⟩
    | cons c scheme =>
      -- the colon would belong to the scheme
      obtain ⟨rfl, -⟩ := List.cons.inj htail
      have hcolon := hscheme ':' (List.mem_cons_self ..)
      rw [schemeRest,
        CharSet.member_anyCase_of_caseless (caseOrbit_of_punctuation (by decide))] at hcolon
      exact absurd hcolon (by decide)
  · rintro ⟨after, heq⟩
    refine ⟨letter, [], after, ?_, member_schemeStart_of_isAlpha hletter, by simp⟩
    exact congrArg (letter :: ':' :: ·) heq.symm

theorem IsDrivePath.not_isSharePath (h : IsDrivePath cs) : ¬IsSharePath cs := by
  obtain ⟨letter, sep, rest, rfl, -⟩ := h
  rintro ⟨server, sep', c, rest', heq, -⟩
  simp at heq

theorem IsDrivePath.not_isSegmented (h : IsDrivePath cs) (hsep : sep ≠ ':') :
    ¬IsSegmented sep (more + 1) cs := by
  obtain ⟨letter, sep', rest, rfl, -⟩ := h
  intro hsegmented
  have hcolon : ':' ∈ letter :: ':' :: sep' :: rest := by simp
  rcases hsegmented.isPathChar_or_eq hcolon with hc | hc
  · exact absurd hc (by decide)
  · exact hsep hc.symm

theorem IsSharePath.not_isSegmented (h : IsSharePath cs) : ¬IsSegmented sep (more + 1) cs := by
  obtain ⟨server, sep', c, rest, rfl, -⟩ := h
  intro hsegmented
  obtain ⟨c, rest, heq, hc⟩ := hsegmented.exists_cons
  obtain ⟨rfl, -⟩ := List.cons.inj heq
  exact absurd hc (by decide)

theorem IsSharePath.not_isUrl (h : IsSharePath cs) : ¬IsUrl cs := by
  obtain ⟨server, sep', c, rest, rfl, -⟩ := h
  rintro ⟨first, scheme, after, heq, hfirst, -⟩
  obtain ⟨rfl, -⟩ := List.cons.inj heq
  rw [schemeStart,
    CharSet.member_anyCase_of_caseless (caseOrbit_of_punctuation (by decide))] at hfirst
  exact absurd hfirst (by decide)

theorem IsSegmented.not_isUrl (h : IsSegmented sep (more + 1) cs) (hsep : sep ≠ ':') :
    ¬IsUrl cs := by
  rintro ⟨first, scheme, rest, rfl, -⟩
  have hcolon : ':' ∈ first :: (scheme ++ ':' :: '/' :: '/' :: rest) := by simp
  rcases h.isPathChar_or_eq hcolon with hc | hc
  · exact absurd hc (by decide)
  · exact hsep hc.symm

/-- A relative path with backslashes between its names is none with slashes. -/
theorem IsSegmented.not_isSegmented_slash (h : IsSegmented '\\' (more + 2) cs) :
    ¬IsSegmented '/' 1 cs := by
  intro hslash
  rcases hslash.isPathChar_or_eq h.sep_mem with hc | hc
  · exact absurd hc (by decide)
  · exact absurd hc (by decide)

end Exclusion

/-! ### The rules -/

section Flagged

variable {value : String}

theorem flagged_iff {text : String} {P : List Char → Prop}
    (h : StandsIn text value ↔ P value.toList) (hne : ¬P []) :
    Flagged text defaultTexts.safePaths value ↔
      P value.toList ∧ ¬IsUrl value.toList ∧ ¬IsSegmented '/' 1 value.toList := by
  rw [← h, ← forall_safePaths_iff]
  constructor
  · rintro ⟨-, hsafe, hstands⟩
    exact ⟨hstands, hsafe⟩
  · rintro ⟨hstands, hsafe⟩
    refine ⟨?_, hsafe, hstands⟩
    rintro rfl
    exact hne (h.mp hstands)

theorem flagged_absolutePath_iff :
    Flagged defaultTexts.absolutePath defaultTexts.safePaths value ↔
      IsDrivePath value.toList ∧ ¬['/', '/'] <+: value.toList.drop 2 := by
  rw [flagged_iff standsIn_absolutePath_iff (by simp [IsDrivePath])]
  refine and_congr_right fun hdrive => ?_
  rw [isUrl_iff_of_isDrivePath hdrive, and_iff_left (hdrive.not_isSegmented (by decide))]

theorem flagged_sharePath_iff :
    Flagged defaultTexts.sharePath defaultTexts.safePaths value ↔ IsSharePath value.toList := by
  rw [flagged_iff standsIn_sharePath_iff (by simp [IsSharePath])]
  exact and_iff_left_of_imp fun hshare => ⟨hshare.not_isUrl, hshare.not_isSegmented⟩

theorem flagged_relativeBackslashPath_iff :
    Flagged defaultTexts.relativeBackslashPath defaultTexts.safePaths value ↔
      IsSegmented '\\' 2 value.toList := by
  have hnil : ¬IsSegmented '\\' 2 [] := fun h => absurd h.sep_mem List.not_mem_nil
  rw [flagged_iff standsIn_relativeBackslashPath_iff hnil]
  exact and_iff_left_of_imp fun hpath =>
    ⟨hpath.not_isUrl (by decide), hpath.not_isSegmented_slash⟩

end Flagged

/-- **Paths with a drive letter are reported, unless two slashes follow the colon.** There is one
finding for each literal that begins with a letter, a colon, and a slash or a backslash, in the
order of the literals, except for those in which the colon is followed by two slashes. So all paths
with a drive letter in a unit are reported if and only if none of them is of that kind. -/
theorem absolutePath_reports (u : LoadedUnit) :
    ∃ r, Builtin.absolutePath {} = .ok r ∧
      (∃ places, r.Reports "drive-letter path"
        (fun value => IsDrivePath value.toList ∧ ¬['/', '/'] <+: value.toList.drop 2) u places) ∧
      ((∃ places, r.Reports "drive-letter path" (fun value => IsDrivePath value.toList) u places) ↔
        ∀ p node, u.unit.root.at? p = some node → node.kind = .stringLiteral →
          IsDrivePath node.label.toList → ¬['/', '/'] <+: node.label.toList.drop 2) := by
  obtain ⟨r, hr, hreports⟩ : ∃ r, Builtin.absolutePath {} = .ok r ∧ ∀ u, ∃ places,
      r.Reports "drive-letter path"
        (fun value => IsDrivePath value.toList ∧ ¬['/', '/'] <+: value.toList.drop 2) u places :=
    DetectionRule.exists_reports (fun _ => rfl) (Option.isSome_of_eq_some parse_paths.1)
      isSome_parse_safePaths fun _ => flagged_absolutePath_iff
  obtain ⟨places, hplaces⟩ := hreports u
  refine ⟨r, hr, ⟨places, hplaces⟩, (hplaces.exists_iff fun value => And.left).trans ?_⟩
  refine forall₂_congr fun p node => forall₂_congr fun hnode hkind => ?_
  exact forall_congr' fun hdrive => and_iff_right hdrive

/-- A path with a drive letter that is not reported. -/
theorem absolutePath_omits_double_slash :
    IsDrivePath "C://Temp".toList ∧
      (Builtin.absolutePath {}).map
          (fun r => (r.findings (literalUnit "C://Temp")).map (·.message)) = .ok [] := by
  refine ⟨⟨'C', '/', "/Temp".toList, by decide, by decide, .inr rfl⟩, ?_⟩
  decide +kernel

theorem exists_sharePath_reports :
    ∃ r, Builtin.sharePath {} = .ok r ∧ ∀ u, ∃ places,
      r.Reports "UNC share" (fun value => IsSharePath value.toList) u places :=
  DetectionRule.exists_reports (fun _ => rfl) (Option.isSome_of_eq_some parse_paths.2.1)
    isSome_parse_safePaths fun _ => flagged_sharePath_iff

theorem exists_backslashSeparator_reports :
    ∃ r, Builtin.backslashSeparator {} = .ok r ∧ ∀ u, ∃ places,
      r.Reports "backslash separator" (fun value => IsSegmented '\\' 2 value.toList) u places :=
  DetectionRule.exists_reports (fun _ => rfl)
    (Option.isSome_of_eq_some parse_paths.2.2) isSome_parse_safePaths
    fun _ => flagged_relativeBackslashPath_iff

/-- **The rules about paths and their languages.** Paths of a share are reported, and so are
relative paths with backslashes between two names or more. Neither is ever taken for a URL or a
relative path with slashes. No literal is reported by two of the rules, as the places of their
findings are all different. -/
theorem pathRules_report :
    ∃ drive share relative, Builtin.absolutePath {} = .ok drive ∧
      Builtin.sharePath {} = .ok share ∧ Builtin.backslashSeparator {} = .ok relative ∧
      (∀ value : String, IsSharePath value.toList ∨ IsSegmented '\\' 2 value.toList →
        ∀ s ∈ defaultTexts.safePaths, ¬StandsIn s value) ∧
      ∀ u, ∃ drives shares relatives,
        drive.Reports "drive-letter path"
          (Flagged defaultTexts.absolutePath defaultTexts.safePaths) u drives ∧
        share.Reports "UNC share" (fun value => IsSharePath value.toList) u shares ∧
        relative.Reports "backslash separator" (fun value => IsSegmented '\\' 2 value.toList) u
          relatives ∧
        (drives ++ (shares ++ relatives)).Nodup := by
  obtain ⟨drive, hdrive, hdrives⟩ : ∃ r, Builtin.absolutePath {} = .ok r ∧ ∀ u, ∃ places,
      r.Reports "drive-letter path" (Flagged defaultTexts.absolutePath defaultTexts.safePaths) u
        places :=
    DetectionRule.exists_reports (fun _ => rfl) (Option.isSome_of_eq_some parse_paths.1)
      isSome_parse_safePaths fun _ => Iff.rfl
  obtain ⟨share, hshare, hshares⟩ := exists_sharePath_reports
  obtain ⟨relative, hrelative, hrelatives⟩ := exists_backslashSeparator_reports
  refine ⟨drive, share, relative, hdrive, hshare, hrelative, ?_, fun u => ?_⟩
  · rintro value (hvalue | hvalue)
    · exact (flagged_sharePath_iff.mpr hvalue).not_safe
    · exact (flagged_relativeBackslashPath_iff.mpr hvalue).not_safe
  · obtain ⟨drives, hdrives⟩ := hdrives u
    obtain ⟨shares, hshares⟩ := hshares u
    obtain ⟨relatives, hrelatives⟩ := hrelatives u
    have hdrivePath (value : String)
        (h : Flagged defaultTexts.absolutePath defaultTexts.safePaths value) :
        IsDrivePath value.toList :=
      standsIn_absolutePath_iff.mp h.standsIn
    refine ⟨drives, shares, relatives, hdrives, hshares, hrelatives, ?_⟩
    refine hdrives.nodup.append (hshares.nodup.append hrelatives.nodup ?_) ?_
    · exact hshares.disjoint hrelatives fun value h => h.not_isSegmented
    · refine List.disjoint_append_right.mpr ⟨?_, ?_⟩
      · exact hdrives.disjoint hshares fun value h => (hdrivePath value h).not_isSharePath
      · exact hdrives.disjoint hrelatives fun value h =>
          (hdrivePath value h).not_isSegmented (by decide)

end PlatformAudit
