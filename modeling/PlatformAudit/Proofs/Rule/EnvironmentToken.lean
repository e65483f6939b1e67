import PlatformAudit.Proofs.Pattern.Quoting
import PlatformAudit.Proofs.Rule.LiteralRule

/-!
# Environment variables in literals

The rule about environment variables makes one pattern of a table of names: the names are quoted
and become alternatives between two percent signs, and case does not count. So the pattern stands
in a literal if and only if one of the names does, between percent signs and up to case
(`PlatformAudit.standsIn_environmentPattern_iff`), whatever characters the names are made of.

A table without names is an exception. The empty list of alternatives is read as one empty
alternative, and the pattern matches two percent signs with nothing between them.
-/

namespace PlatformAudit

open Code Detect Pattern Text

/-- The names that the pattern of a table stands for: those of the table, or the empty name if
there are none. -/
def tokenNames (names : List String) : List String :=
  if names = [] then [""] else names

/-- A value has one of the names in it, between percent signs and up to case. -/
def HasToken (names : List String) (value : String) : Prop :=
  ∃ name ∈ names, ('%' :: name.toList ++ ['%']).map foldCase <:+: value.toList.map foldCase

instance (names : List String) (value : String) : Decidable (HasToken names value) :=
  inferInstanceAs (Decidable (∃ name ∈ names, _))

/-! ### Reading the pattern -/

/-- The flags in force after the first group of the pattern. -/
def anyCaseFlags : Flags where
  ignoreCase := true

/-- The alternatives between the percent signs. -/
def tokenBranches (names : List String) : List Tree :=
  (tokenNames names).map fun name => .ofParts (name.toList.map (literal anyCaseFlags))

/-- The pattern of a table as it is read. -/
def environmentTree (names : List String) : Tree :=
  .concat [.flags, literal anyCaseFlags '%', .group true (.ofBranches (tokenBranches names)),
    literal anyCaseFlags '%']

theorem tokenNames_ne_nil (names : List String) : tokenNames names ≠ [] := by
  rw [tokenNames]
  split
  next => exact List.cons_ne_nil "" []
  next h => exact h

/-- The alternatives as they are written. -/
def writtenNames (names : List String) : List Char :=
  ['|'].intercalate (((tokenNames names).map String.toList).map quote)

theorem toList_environmentPattern (names : List String) :
    (Builtin.environmentPattern names).toList =
      '(' :: '?' :: 'i' :: ')' :: '%' :: '(' :: (writtenNames names ++ [')', '%']) := by
  rw [Builtin.environmentPattern, String.toList_append, String.toList_append,
    String.toList_intercalate, List.append_assoc]
  cases names with
  | nil => rfl
  | cons name names => simp [writtenNames, tokenNames, Function.comp_def]

theorem group_anyCase (fuel : ℕ) (rest : List Char) :
    group (fuel + 3) ⟨'?' :: 'i' :: ')' :: rest, {}, []⟩ =
      some (.flags, ⟨rest, anyCaseFlags, []⟩) := rfl

theorem group_writtenNames (names : List String) {fuel : ℕ}
    (hfuel : (writtenNames names).length + 1 < fuel) (rest : List Char) :
    group (fuel + 1) ⟨writtenNames names ++ ')' :: rest, anyCaseFlags, []⟩ =
      some (.group true (.ofBranches (tokenBranches names)), ⟨rest, anyCaseFlags, []⟩) := by
  have hbranches : alternatives fuel ⟨writtenNames names ++ ')' :: rest, anyCaseFlags, []⟩ =
      some (tokenBranches names, ⟨')' :: rest, anyCaseFlags, []⟩) := by
    obtain ⟨name, more, hnames⟩ := List.exists_cons_of_ne_nil (tokenNames_ne_nil names)
    rw [writtenNames, hnames, List.map_cons] at hfuel ⊢
    rw [alternatives_intercalate rfl (by simp) name.toList _ hfuel, tokenBranches, hnames]
    simp [Function.comp_def]
  exact group_captures rfl (head?_intercalate_quote _ rest) hbranches

theorem branch_environmentPattern (names : List String) {fuel : ℕ}
    (hfuel : (writtenNames names).length + 1 < fuel) :
    branch (fuel + 4) []
        ⟨'(' :: '?' :: 'i' :: ')' :: '%' :: '(' :: (writtenNames names ++ [')', '%']), {}, []⟩ =
      some (environmentTree names, ⟨[], anyCaseFlags, []⟩) := by
  obtain ⟨fuel, rfl⟩ : ∃ k, fuel = k + 2 := ⟨fuel - 2, by omega⟩
  calc branch (fuel + 6) []
        ⟨'(' :: '?' :: 'i' :: ')' :: '%' :: '(' :: (writtenNames names ++ [')', '%']), {}, []⟩
      = branch (fuel + 5) [.flags]
          ⟨'%' :: '(' :: (writtenNames names ++ [')', '%']), anyCaseFlags, []⟩ :=
        branch_group rfl (group_anyCase _ _) []
    _ = branch (fuel + 4) [literal anyCaseFlags '%', .flags]
          ⟨'(' :: (writtenNames names ++ [')', '%']), anyCaseFlags, []⟩ :=
        branch_primitive rfl (by decide) (primitive_plain (by decide) _) _ _
    _ = branch (fuel + 3)
          [.group true (.ofBranches (tokenBranches names)), literal anyCaseFlags '%', .flags]
          ⟨['%'], anyCaseFlags, []⟩ :=
        branch_group rfl (group_writtenNames names hfuel ['%']) _
    _ = branch (fuel + 2) [literal anyCaseFlags '%',
          .group true (.ofBranches (tokenBranches names)), literal anyCaseFlags '%', .flags]
          ⟨[], anyCaseFlags, []⟩ :=
        branch_primitive rfl (by decide) (primitive_plain (by decide) _) _ _
    _ = _ := branch_end rfl (by simp [EndsBranch]) _ _

/-- **What the pattern of a table is read as.** -/
theorem parse_environmentPattern (names : List String) :
    Tree.parse (Builtin.environmentPattern names) = some (environmentTree names) := by
  have hlength : (Builtin.environmentPattern names).toList.length =
      (writtenNames names).length + 8 := by
    rw [toList_environmentPattern]
    simp
  obtain ⟨fuel, henough, hfuel⟩ :
      ∃ k, 3 * (Builtin.environmentPattern names).toList.length + 3 = k + 5 ∧
        (writtenNames names).length + 1 < k :=
    ⟨3 * (writtenNames names).length + 22, by omega, by omega⟩
  have hbranches := alternatives_last (branch_environmentPattern names hfuel) (by simp)
  rw [Tree.parse, henough, toList_environmentPattern, hbranches]
  rfl

/-! ### What the pattern matches -/

theorem tokenBranches_matches_iff {names : List String} {before part after : List Char} :
    (Tree.ofBranches (tokenBranches names)).meaning.Matches characters before part after ↔
      ∃ name ∈ tokenNames names, part.map foldCase = name.toList.map foldCase := by
  have hne : (tokenBranches names).map Tree.meaning ≠ [] := by
    simpa [tokenBranches] using tokenNames_ne_nil names
  have hname (name : String) :
      (Tree.ofParts (name.toList.map (literal anyCaseFlags))).meaning.Matches characters before part
        after ↔ part.map foldCase = name.toList.map foldCase := by
    rw [meaning_ofParts, List.map_map]
    exact matches_literals_iff rfl rfl
  rw [meaning_ofBranches, Expr.matches_choice_iff hne]
  simp only [tokenBranches, List.mem_map, exists_exists_and_eq_and, hname]

theorem environmentTree_matches_iff {names : List String} {before part after : List Char} :
    (environmentTree names).meaning.Matches characters before part after ↔
      ∃ name ∈ tokenNames names, part.map foldCase = ('%' :: name.toList ++ ['%']).map foldCase := by
  have hpercent (c : Char) : (anyCaseFlags.closed (.single '%')).member c ↔
      foldCase c = foldCase '%' := member_closed_single rfl rfl
  constructor
  · -- the parts of a match: nothing for the flags, a percent sign, a name, a percent sign
    rintro ⟨_, _, rfl, rfl, _, _, rfl, ⟨a, rfl, ha⟩, middle, _, rfl, hmiddle, b, rfl, hb⟩
    obtain ⟨name, hname, hfold⟩ := tokenBranches_matches_iff.mp hmiddle
    refine ⟨name, hname, ?_⟩
    simp [(hpercent a).mp ha, (hpercent b).mp hb, hfold]
  · rintro ⟨name, hname, hfold⟩
    rw [List.cons_append, List.map_cons, List.map_append, List.map_singleton] at hfold
    obtain ⟨a, rest, rfl, ha, hrest⟩ := List.map_eq_cons_iff.mp hfold
    obtain ⟨middle, last, rfl, hmiddle, hlast⟩ := List.map_eq_append_iff.mp hrest
    obtain ⟨b, rfl, hb⟩ := List.map_eq_singleton_iff.mp hlast
    exact ⟨[], _, rfl, rfl, [a], _, rfl, ⟨a, rfl, (hpercent a).mpr ha⟩, middle, [b], rfl,
      tokenBranches_matches_iff.mpr ⟨name, hname, hmiddle⟩, b, rfl, (hpercent b).mpr hb⟩

/-- **The pattern of a table stands in a value if and only if one of its names does**, between
percent signs and up to case. -/
theorem standsIn_environmentPattern_iff {names : List String} {value : String} {p : CharPattern}
    (h : CharPattern.parse (Builtin.environmentPattern names) = some p) :
    StandsIn (Builtin.environmentPattern names) value ↔ HasToken (tokenNames names) value := by
  have hp : p = (environmentTree names).meaning := by
    rw [CharPattern.parse, parse_environmentPattern] at h
    exact (Option.some.inj (Option.ite_none_right_eq_some.mp h).2).symm
  rw [StandsIn, HasToken, h]
  constructor
  · rintro ⟨_, ⟨⟩, before, part, after, hvalue, hmatches⟩
    rw [hp, environmentTree_matches_iff] at hmatches
    obtain ⟨name, hname, hfold⟩ := hmatches
    refine ⟨name, hname, before.map foldCase, after.map foldCase, ?_⟩
    rw [← hfold, hvalue, List.map_append, List.map_append, List.append_assoc]
  · rintro ⟨name, hname, before', after', hvalue⟩
    rw [List.append_assoc] at hvalue
    obtain ⟨before, rest, hsplit, -, hrest⟩ := List.map_eq_append_iff.mp hvalue.symm
    obtain ⟨part, after, rfl, hpart, -⟩ := List.map_eq_append_iff.mp hrest
    exact ⟨p, rfl, before, part, after, hsplit,
      hp ▸ environmentTree_matches_iff.mpr ⟨name, hname, hpart⟩⟩

/-! ### The rule -/

/-- **The rule reports exactly the literals that have a variable of the table in them.** There is
one finding for each literal that is not empty, has no match of a safe pattern, and has one of
the names between percent signs, up to case. A table without names stands for the empty
name. -/
theorem environmentToken_reports {t : Catalog.Tables} {r : DetectionRule}
    (h : Builtin.environmentToken t = .ok r) (u : LoadedUnit) :
    ∃ places : List (List ℕ), places.Pairwise (· < ·) ∧
      (∀ p, p ∈ places ↔ ∃ node, u.unit.root.at? p = some node ∧ node.kind = .stringLiteral ∧
        node.label ≠ "" ∧ (∀ s ∈ t.literals.safePaths, ¬StandsIn s node.label) ∧
        HasToken (tokenNames t.environmentVariables) node.label) ∧
      List.Forall₂ (fun p f => ∃ node, u.unit.root.at? p = some node ∧
        f = r.finding u.unit.path (literalHit "Windows environment token" node))
        places (r.findings u) := by
  obtain ⟨patterns, hcompile, hr⟩ := exists_of_bind_eq_ok h
  have hdetector : r.detector = .literals patterns := by
    cases hr
    rfl
  obtain ⟨p, hparse, -, -⟩ := LiteralPatterns.compile_single_eq_ok hcompile
  obtain ⟨places, hinOrder, hmem, hfindings⟩ := r.literal_findings hcompile hdetector u
  refine ⟨places, hinOrder, fun place => ?_, hfindings⟩
  rw [hmem]
  refine exists_congr fun node => and_congr_right fun _ => and_congr_right fun _ => ?_
  constructor
  · rintro ⟨hempty, hsafe, hstands⟩
    exact ⟨hempty, hsafe, (standsIn_environmentPattern_iff hparse).mp hstands⟩
  · rintro ⟨hempty, hsafe, htoken⟩
    exact ⟨hempty, hsafe, (standsIn_environmentPattern_iff hparse).mpr htoken⟩

/-- Tables with a name that has to be quoted, and one safe pattern. -/
def quotedNameTables : Catalog.Tables where
  environmentVariables := ["TMP", "DIR(X86)"]
  literals := { safePaths := ["^/"] }

theorem environmentToken_reports_quoted_name :
    ∃ r, Builtin.environmentToken quotedNameTables = .ok r ∧
      ∃ places : List (List ℕ), [0] ∈ places ∧
        List.Forall₂ (fun p f => ∃ node,
          (literalUnit "%Dir(x86)%\\a").unit.root.at? p = some node ∧
          f = r.finding "L.cs" (literalHit "Windows environment token" node))
          places (r.findings (literalUnit "%Dir(x86)%\\a")) := by
  have hbuilt : (Builtin.environmentToken quotedNameTables).isOk := by decide +kernel
  cases h : Builtin.environmentToken quotedNameTables with
  | error text =>
    rw [h] at hbuilt
    exact absurd hbuilt Bool.false_ne_true
  | ok r =>
    obtain ⟨places, -, hmem, hfindings⟩ :=
      environmentToken_reports h (literalUnit "%Dir(x86)%\\a")
    refine ⟨r, rfl, places, (hmem [0]).mpr ⟨_, rfl, rfl, by decide, ?_, ?_⟩, hfindings⟩
    · decide +kernel
    · decide +kernel

/-- Two percent signs are reported although the table has no names. -/
theorem environmentToken_without_names :
    (Builtin.environmentToken { environmentVariables := [] }).map
        (fun r => (r.findings (literalUnit "%%")).map (·.message)) =
      .ok ["Windows-style environment variable token in \"%%\""] ∧ ¬HasToken [] "%%" := by
  decide +kernel

end PlatformAudit
