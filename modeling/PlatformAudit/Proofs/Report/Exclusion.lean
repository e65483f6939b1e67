import PlatformAudit.Proofs.Glob.Literal
import PlatformAudit.Proofs.Report.Filtering
import PlatformAudit.Proofs.Text.Lowercase

/-!
# Excluded files

A finding is left out of the report if its file is excluded. Before anything is compared, paths are
**normalized**: they are written with slashes, and leading references to the current directory
are dropped. So spellings of one path (`PlatformAudit.SamePath`) are excluded together.

A pattern without wildcards is meant to exclude the files whose paths contain it, in any case of
letters. Pattern and path are put into lower case before they are compared, each by itself, and the
lower-case form of a capital sigma depends on its neighbours. Hence a pattern excludes all
paths that contain it if and only if its capital sigmas are settled within the pattern
(`PlatformAudit.plainPattern_excludes`).

A pattern with wildcards is a glob and has to match a path as a whole. In ASCII the two kinds of
pattern agree: a plain pattern excludes what it excludes as a glob between two stars
(`PlatformAudit.plainPattern_eq_betweenStars`).
-/

namespace PlatformAudit

open Text

variable {path path' : List Char}

/-! ### Spellings of a path -/

/-- A character between the segments of a path. -/
def IsSeparator (c : Char) : Prop :=
  c = '/' ∨ c = '\\'

/-- References to the current directory, any number of them. -/
inductive CurrentDirectory : List Char → Prop
  | nil : CurrentDirectory []
  | cons {sep : Char} {lead : List Char} (hsep : IsSeparator sep) (hlead : CurrentDirectory lead) :
      CurrentDirectory ('.' :: sep :: lead)

/-- **Two spellings of a path**: they differ in the separators and in leading references to the
current directory. -/
def SamePath (path path' : List Char) : Prop :=
  ∃ lead rest lead' rest', path = lead ++ rest ∧ path' = lead' ++ rest' ∧
    CurrentDirectory lead ∧ CurrentDirectory lead' ∧
    List.Forall₂ (fun c d => c = d ∨ IsSeparator c ∧ IsSeparator d) rest rest'

/-- The separator that a path is normalized to. -/
def slashed (c : Char) : Char :=
  if c = '\\' then '/' else c

theorem normalizePath_eq (path : List Char) :
    normalizePath path = dropCurrentDirectory (path.map slashed) := rfl

theorem slashed_of_isSeparator {c : Char} (h : IsSeparator c) : slashed c = '/' := by
  rcases h with rfl | rfl <;> rfl

theorem slashed_ne (c : Char) : slashed c ≠ '\\' := by
  rw [slashed]
  split
  next => decide
  next h => exact h

theorem normalizePath_append {lead : List Char} (h : CurrentDirectory lead) (rest : List Char) :
    normalizePath (lead ++ rest) = normalizePath rest := by
  induction h with
  | nil => rfl
  | @cons sep lead hsep _ ih =>
    rw [normalizePath_eq, List.cons_append, List.cons_append, List.map_cons, List.map_cons,
      slashed_of_isSeparator hsep]
    exact ih

/-- **Spellings of one path are normalized to the same.** -/
theorem normalizePath_eq_of_samePath (h : SamePath path path') :
    normalizePath path = normalizePath path' := by
  obtain ⟨lead, rest, lead', rest', rfl, rfl, hlead, hlead', hrest⟩ := h
  have hslashed : rest.map slashed = rest'.map slashed := by
    induction hrest with
    | nil => rfl
    | cons hc _ ih =>
      rw [List.map_cons, List.map_cons, ih]
      rcases hc with rfl | ⟨hc, hd⟩
      · rfl
      · rw [slashed_of_isSeparator hc, slashed_of_isSeparator hd]
  rw [normalizePath_append hlead, normalizePath_append hlead', normalizePath_eq, normalizePath_eq,
    hslashed]

/-! ### Normalized paths -/

theorem dropCurrentDirectory_suffix (cs : List Char) : dropCurrentDirectory cs <:+ cs := by
  fun_induction dropCurrentDirectory cs with
  | case1 cs ih => exact ih.trans ((List.suffix_cons ..).trans (List.suffix_cons ..))
  | case2 cs => exact List.suffix_refl cs

theorem not_prefix_dropCurrentDirectory (cs : List Char) :
    ¬['.', '/'] <+: dropCurrentDirectory cs := by
  fun_induction dropCurrentDirectory cs with
  | case1 cs ih => exact ih
  | case2 cs hne =>
    rintro ⟨rest, rfl⟩
    exact hne rest rfl

theorem dropCurrentDirectory_eq_self {cs : List Char} (h : ¬['.', '/'] <+: cs) :
    dropCurrentDirectory cs = cs := by
  fun_cases dropCurrentDirectory cs with
  | case1 cs => exact absurd ⟨cs, rfl⟩ h
  | case2 => rfl

/-- A normalized path has no backslash and does not begin in the current directory. -/
theorem normalizePath_spec (path : List Char) :
    '\\' ∉ normalizePath path ∧ ¬['.', '/'] <+: normalizePath path := by
  refine ⟨fun hmem => ?_, not_prefix_dropCurrentDirectory _⟩
  obtain ⟨c, -, hc⟩ := List.mem_map.mp ((dropCurrentDirectory_suffix _).mem hmem)
  exact slashed_ne c hc

/-- **A path without backslashes that does not begin in the current directory is normalized.** -/
theorem normalizePath_eq_self (hback : '\\' ∉ path) (hlead : ¬['.', '/'] <+: path) :
    normalizePath path = path := by
  have hslashed : path.map slashed = path := by
    calc path.map slashed = path.map id :=
          List.map_congr_left fun c hc => if_neg (ne_of_mem_of_not_mem hc hback)
      _ = path := List.map_id path
  rw [normalizePath_eq, hslashed, dropCurrentDirectory_eq_self hlead]

theorem addedLetter_ne {x : Char} (h : x ∈ addedLetters) : x ≠ '\\' ∧ x ≠ '.' ∧ x ≠ '/' := by
  simp only [addedLetters, List.mem_cons, List.not_mem_nil, or_false] at h
  rcases h with rfl | rfl | rfl <;> decide

/-- A letter before a normalized path leaves it normalized. -/
theorem normalizePath_letter_cons {x : Char} (hx : x ∈ addedLetters) (path : List Char) :
    normalizePath (x :: normalizePath path) = x :: normalizePath path := by
  obtain ⟨hback, hpoint, -⟩ := addedLetter_ne hx
  refine normalizePath_eq_self ?_ fun hstart => ?_
  · rw [List.mem_cons, not_or]
    exact ⟨hback.symm, (normalizePath_spec path).1⟩
  · exact hpoint (List.cons_prefix_cons.mp hstart).1.symm

/-- A letter behind a normalized path leaves it normalized. -/
theorem normalizePath_letter_concat {x : Char} (hx : x ∈ addedLetters) (path : List Char) :
    normalizePath (normalizePath path ++ [x]) = normalizePath path ++ [x] := by
  obtain ⟨hback, -, hslash⟩ := addedLetter_ne hx
  obtain ⟨hnone, hlead⟩ := normalizePath_spec path
  refine normalizePath_eq_self ?_ fun hstart => ?_
  · rw [List.mem_append, List.mem_singleton, not_or]
    exact ⟨hnone, hback.symm⟩
  · -- the letter would have to be the slash
    rcases List.prefix_concat_iff.mp hstart with heq | hstart
    · have hlast := congrArg List.getLast? heq
      rw [List.getLast?_concat] at hlast
      exact hslash (Option.some.inj hlast).symm
    · exact hlead hstart

/-! ### Plain patterns -/

/-- The characters that make a pattern a glob. -/
theorem hasWildcard_eq_false_iff {cs : List Char} :
    hasWildcard cs = false ↔ ∀ c ∈ cs, c ∉ ['*', '?', '[', '\x7b'] := by
  simp only [hasWildcard, List.any_eq_false, Bool.or_eq_true, decide_eq_true_eq, List.mem_cons,
    List.not_mem_nil, or_false, or_assoc]

theorem Exclusion.compile_of_plain (pattern : String)
    (h : ∀ c ∈ normalizePath pattern.toList, c ∉ ['*', '?', '[', '\x7b']) :
    Exclusion.compile pattern = .ok (.part (lowercase (normalizePath pattern.toList))) := by
  have hplain : ¬hasWildcard (normalizePath pattern.toList) = true := by
    rw [hasWildcard_eq_false_iff.mpr h]
    exact Bool.false_ne_true
  rw [Exclusion.compile]
  exact if_neg hplain

theorem Filter.compile_singleton {pattern : String} {exclusion : Exclusion}
    (h : Exclusion.compile pattern = .ok exclusion) (minSeverity : Severity) :
    Filter.compile { minSeverity, excludePatterns := [pattern] } =
      .ok { minSeverity, exclusions := [exclusion] } := by
  rw [Filter.compile, List.mapM_cons, h]
  rfl

/-- A file is excluded by any of the exclusions. -/
theorem Filter.excludes_iff {filter : Filter} {f : Finding} :
    filter.excludes f = true ↔
      ∃ exclusion ∈ filter.exclusions, exclusion.covers (normalizePath f.file.toList) = true :=
  List.any_eq_true

theorem Exclusion.covers_part_iff {needle path : List Char} :
    (Exclusion.part needle).covers path = true ↔ needle <:+: lowercase path :=
  occursIn_iff

/-- A finding in a file. -/
def findingIn (path : List Char) : Finding :=
  Finding.create "T1" .general .medium (String.ofList path) 1 "" ""

/-- **Which plain patterns exclude the paths that contain them.** A pattern without wildcards can
always be read. It excludes every path that contains it, both normalized and whatever other
patterns there are, if and only if each capital sigma in it is settled within the pattern. Spellings
of one path are excluded together. -/
theorem plainPattern_excludes (pattern : String)
    (hplain : ∀ c ∈ normalizePath pattern.toList, c ∉ ['*', '?', '[', '\x7b']) :
    (∀ minSeverity, ∃ filter,
      Filter.compile { minSeverity, excludePatterns := [pattern] } = .ok filter) ∧
    ((∀ (settings : FilterSettings) (filter : Filter), Filter.compile settings = .ok filter →
        pattern ∈ settings.excludePatterns → ∀ f : Finding,
          normalizePath pattern.toList <:+: normalizePath f.file.toList →
            filter.excludes f = true) ↔
      SettlesSigmas (normalizePath pattern.toList)) ∧
    ∀ (filter : Filter) (f g : Finding), SamePath f.file.toList g.file.toList →
      filter.excludes f = filter.excludes g := by
  have hread := Exclusion.compile_of_plain pattern hplain
  refine ⟨fun minSeverity => ⟨_, Filter.compile_singleton hread minSeverity⟩, ⟨?_, ?_⟩, ?_⟩
  · intro h
    by_contra hnot
    obtain ⟨x, hx, hlost⟩ := exists_not_lowercase_isInfix hnot
    -- the pattern alone does not exclude a path with one letter more
    have hpath {path : List Char} (hnormal : normalizePath path = path)
        (hpart : normalizePath pattern.toList <:+: path) :
        lowercase (normalizePath pattern.toList) <:+: lowercase path := by
      have hexcluded := h { excludePatterns := [pattern] } _
        (Filter.compile_singleton hread .info) (List.mem_singleton_self pattern) (findingIn path)
      have hfile : (findingIn path).file.toList = path := String.toList_ofList
      rw [hfile, hnormal, Filter.excludes_iff, hfile, hnormal] at hexcluded
      obtain ⟨exclusion, hmem, hcovers⟩ := hexcluded hpart
      rw [List.mem_singleton.mp hmem] at hcovers
      exact Exclusion.covers_part_iff.mp hcovers
    rcases hlost with hlost | hlost
    · exact hlost (hpath (normalizePath_letter_cons hx _) (List.suffix_cons x _).isInfix)
    · exact hlost (hpath (normalizePath_letter_concat hx _) (List.prefix_append _ [x]).isInfix)
  · intro hsettled settings filter hfilter hmem f hpart
    obtain ⟨-, hexclusions⟩ := Filter.compile_eq_ok hfilter
    refine Filter.excludes_iff.mpr ⟨_, (hexclusions _).mpr ⟨pattern, hmem, hread⟩, ?_⟩
    exact Exclusion.covers_part_iff.mpr (lowercase_isInfix hsettled hpart)
  · intro filter f g hsame
    rw [Filter.excludes, Filter.excludes, normalizePath_eq_of_samePath hsame]

/-- A pattern with a sigma at the end of a word, and the end of the word. -/
theorem plainPattern_excludes_directory :
    let pattern := ".\\ΟΔΟΣ\\"
    let path := "src\\ΟΔΟΣ\\A.cs"
    (∀ c ∈ normalizePath pattern.toList, c ∉ ['*', '?', '[', '\x7b']) ∧
      SettlesSigmas (normalizePath pattern.toList) ∧
      normalizePath pattern.toList <:+: normalizePath path.toList ∧
      ∃ filter, Filter.compile { excludePatterns := [pattern] } = .ok filter ∧
        filter.excludes (findingIn path.toList) = true := by
  intro pattern path
  have hplain : ∀ c ∈ normalizePath pattern.toList, c ∉ ['*', '?', '[', '\x7b'] :=
    hasWildcard_eq_false_iff.mp (by decide)
  have hsettled : SettlesSigmas (normalizePath pattern.toList) := by decide +kernel
  have hpart : normalizePath pattern.toList <:+: normalizePath path.toList := by decide
  obtain ⟨hread, hexcludes, -⟩ := plainPattern_excludes pattern hplain
  obtain ⟨filter, hfilter⟩ := hread .info
  refine ⟨hplain, hsettled, hpart, filter, hfilter, ?_⟩
  have hfile : (findingIn path.toList).file.toList = path.toList := String.toList_ofList
  refine hexcludes.mpr hsettled _ filter hfilter (List.mem_singleton_self pattern) _ ?_
  rw [hfile]
  exact hpart

/-- Without the end of the word, the sigma in the path has another form than the one in the
pattern. -/
theorem plain_pattern_not_excluding :
    ∃ filter, Filter.compile { excludePatterns := ["ΟΔΟΣ"] } = .ok filter ∧
      normalizePath "ΟΔΟΣ".toList <:+: normalizePath "src/ΟΔΟΣ.cs".toList ∧
      filter.excludes (findingIn "src/ΟΔΟΣ.cs".toList) = false := by
  have hplain : ∀ c ∈ normalizePath "ΟΔΟΣ".toList, c ∉ ['*', '?', '[', '\x7b'] :=
    hasWildcard_eq_false_iff.mp (by decide)
  refine ⟨_, Filter.compile_singleton (Exclusion.compile_of_plain _ hplain) .info, by decide, ?_⟩
  decide +kernel

/-! ### Plain patterns as globs -/

theorem Exclusion.compile_of_glob {pattern : String} {p : Glob.BytePattern}
    (hwildcard : hasWildcard (normalizePath pattern.toList) = true)
    (h : Glob.compile (normalizePath pattern.toList) = .ok p) :
    Exclusion.compile pattern = .ok (.glob p) := by
  rw [Exclusion.compile]
  refine (if_pos hwildcard).trans ?_
  rw [h]

theorem Filter.excludes_singleton (minSeverity : Severity) (exclusion : Exclusion) (f : Finding) :
    Filter.excludes { minSeverity, exclusions := [exclusion] } f =
      exclusion.covers (normalizePath f.file.toList) :=
  Bool.or_false _

/-- Normalizing brings in no other character than the slash. -/
theorem normalizePath_isAscii (h : IsAscii path) : IsAscii (normalizePath path) := by
  intro c hc
  obtain ⟨d, hd, hslashed⟩ := List.mem_map.mp ((dropCurrentDirectory_suffix _).mem hc)
  rw [← hslashed]
  split
  next => decide
  next => exact h d hd

/-- A normalized path is normalized between stars. -/
theorem normalizePath_betweenStars (h : normalizePath path = path) :
    normalizePath ('*' :: (path ++ ['*'])) = '*' :: (path ++ ['*']) := by
  obtain ⟨hback, -⟩ := normalizePath_spec path
  rw [h] at hback
  refine normalizePath_eq_self ?_ fun hstart => ?_
  · simp only [List.mem_cons, List.mem_append, List.not_mem_nil, or_false, not_or]
    exact ⟨by decide, hback, by decide⟩
  · exact absurd (List.cons_prefix_cons.mp hstart).1 (by decide)

/-- **The two kinds of pattern agree.** A normalized pattern of ASCII without special characters can
be read both as a text that a path contains and, between two stars, as a glob for the whole path.
Both exclude the same findings in files with paths of ASCII. -/
theorem plainPattern_eq_betweenStars (pattern : String) (hascii : IsAscii pattern.toList)
    (hnormal : normalizePath pattern.toList = pattern.toList)
    (hplain : ∀ c ∈ pattern.toList, c ∉ ['*', '?', '[', '\x7b', '\x7d']) (minSeverity : Severity) :
    ∃ needle glob,
      Filter.compile { minSeverity, excludePatterns := [pattern] } =
        .ok { minSeverity, exclusions := [.part needle] } ∧
      Filter.compile { minSeverity, excludePatterns := ["*" ++ pattern ++ "*"] } =
        .ok { minSeverity, exclusions := [.glob glob] } ∧
      ∀ f : Finding, IsAscii f.file.toList →
        Filter.excludes { minSeverity, exclusions := [.part needle] } f =
          Filter.excludes { minSeverity, exclusions := [.glob glob] } f := by
  have hpart : Exclusion.compile pattern = .ok (.part (lowercase pattern.toList)) := by
    have hread := Exclusion.compile_of_plain pattern fun c hc hmem =>
      hplain c (hnormal ▸ hc) (List.mem_append_left ['\x7d'] hmem)
    rwa [hnormal] at hread
  -- between stars
  have hstars : ("*" ++ pattern ++ "*").toList = '*' :: (pattern.toList ++ ['*']) := by
    rw [String.toList_append, String.toList_append]
    rfl
  have hstarsNormal : normalizePath ("*" ++ pattern ++ "*").toList =
      '*' :: (pattern.toList ++ ['*']) := by
    rw [hstars, normalizePath_betweenStars hnormal]
  obtain ⟨glob, hcompile, hmatches⟩ := Glob.compile_betweenStars hplain
  have hglob : Exclusion.compile ("*" ++ pattern ++ "*") = .ok (.glob glob) := by
    refine Exclusion.compile_of_glob ?_ (hstarsNormal ▸ hcompile)
    rw [hstarsNormal]
    rfl
  refine ⟨lowercase pattern.toList, glob, Filter.compile_singleton hpart minSeverity,
    Filter.compile_singleton hglob minSeverity, fun f hf => ?_⟩
  have hpath := normalizePath_isAscii hf
  rw [Filter.excludes_singleton, Filter.excludes_singleton, Bool.eq_iff_iff,
    Exclusion.covers_part_iff, lowercase_of_ascii hascii, lowercase_of_ascii hpath]
  exact ((hmatches _).trans (Glob.bytes_isInfix_iff hascii hpath)).symm

theorem plainPattern_eq_betweenStars_comma :
    let pattern := "Legacy,v2]/"
    let f := findingIn ".\\src\\LEGACY,V2]\\A.cs".toList
    IsAscii pattern.toList ∧ normalizePath pattern.toList = pattern.toList ∧
      (∀ c ∈ pattern.toList, c ∉ ['*', '?', '[', '\x7b', '\x7d']) ∧ IsAscii f.file.toList ∧
      ∃ plain starred, Filter.compile { excludePatterns := [pattern] } = .ok plain ∧
        Filter.compile { excludePatterns := ["*" ++ pattern ++ "*"] } = .ok starred ∧
        plain.excludes f = true ∧ starred.excludes f = true := by
  intro pattern f
  have hascii : IsAscii pattern.toList := by decide
  have hnormal : normalizePath pattern.toList = pattern.toList := by decide
  have hplain : ∀ c ∈ pattern.toList, c ∉ ['*', '?', '[', '\x7b', '\x7d'] := by
    have hall : pattern.toList.all (fun c => c ∉ ['*', '?', '[', '\x7b', '\x7d']) = true := by
      decide
    intro c hc
    exact of_decide_eq_true (List.all_eq_true.mp hall c hc)
  have hf : IsAscii f.file.toList := by decide
  obtain ⟨needle, glob, hpart, hglob, hagree⟩ :=
    plainPattern_eq_betweenStars pattern hascii hnormal hplain .info
  have hread := Filter.compile_singleton (Exclusion.compile_of_plain pattern
    (hasWildcard_eq_false_iff.mp (by decide))) .info
  have hexcluded : Filter.excludes { minSeverity := .info, exclusions := [.part needle] } f =
      true := by
    rw [Except.ok.inj (hpart.symm.trans hread)]
    decide +kernel
  exact ⟨hascii, hnormal, hplain, hf, _, _, hpart, hglob, hexcluded,
    (hagree f hf).symm.trans hexcluded⟩

end PlatformAudit
