import Mathlib.Data.List.Perm.Subperm
import PlatformAudit.Proofs.Code.Listing
import PlatformAudit.Proofs.Pattern.Matching
import PlatformAudit.Proofs.Report.Filtering
import PlatformAudit.Proofs.Rule.Builtin

/-!
# Rules about string literals

A rule of this kind has one pattern with a label, and it reports every literal in which the
pattern stands, unless the literal is empty or a safe pattern stands in it
(`PlatformAudit.Flagged`). The patterns are texts of the tables. They are read when the rule is
built, and if one of them is no pattern there is no rule.

`PlatformAudit.DetectionRule.literal_findings` says what such a rule finds in a unit, in terms of
the texts and of what a pattern matches. What remains for a rule of this kind is to say in which
literals its pattern stands.
-/

namespace PlatformAudit

open Code Detect Pattern

/-! ### Flagged literals -/

/-- A text is a pattern, and a match of it stands somewhere in a value. -/
def StandsIn (pattern value : String) : Prop :=
  ∃ p, CharPattern.parse pattern = some p ∧ ∃ before part after,
    value.toList = before ++ (part ++ after) ∧ p.Matches characters before part after

/-- A value that a rule with this pattern and these safe patterns reports. -/
structure Flagged (pattern : String) (safe : List String) (value : String) : Prop where
  ne_empty : value ≠ ""
  not_safe : ∀ s ∈ safe, ¬StandsIn s value
  standsIn : StandsIn pattern value

theorem compilePattern_eq_ok_iff {text : String} {p : CharPattern} :
    compilePattern text = .ok p ↔ CharPattern.parse text = some p := by
  rw [compilePattern]
  split
  next q hq => rw [hq, Except.ok.injEq, Option.some.injEq]
  next hnone => simp [hnone]

theorem standsIn_iff_matches {text value : String} {p : CharPattern}
    (h : CharPattern.parse text = some p) :
    StandsIn text value ↔ ∃ before part after,
      value.toList = before ++ (part ++ after) ∧ p.Matches characters before part after := by
  rw [StandsIn, h]
  constructor
  · rintro ⟨q, hq, hstands⟩
    exact Option.some.inj hq ▸ hstands
  · exact fun hstands => ⟨p, rfl, hstands⟩

theorem standsIn_iff_foundIn {text value : String} {p : CharPattern}
    (h : CharPattern.parse text = some p) : StandsIn text value ↔ p.foundIn value := by
  rw [standsIn_iff_matches h, CharPattern.foundIn, Expr.occurs_iff]

theorem standsIn_iff {text value : String} :
    StandsIn text value ↔ (CharPattern.parse text).any (·.foundIn value) := by
  cases h : CharPattern.parse text with
  | none => simp [StandsIn, h]
  | some p => exact standsIn_iff_foundIn h

instance (text value : String) : Decidable (StandsIn text value) :=
  decidable_of_iff _ standsIn_iff.symm

section Compiled

variable {label text : String} {safe : List String} {patterns : LiteralPatterns}

/-- What patterns are read from. -/
theorem LiteralPatterns.compile_single_eq_ok
    (h : LiteralPatterns.compile [(label, text)] safe = .ok patterns) :
    ∃ p, CharPattern.parse text = some p ∧ patterns.labelled = [(label, p)] ∧
      ∀ q, q ∈ patterns.safe ↔ ∃ s ∈ safe, CharPattern.parse s = some q := by
  obtain ⟨labelled, hlabelled, h⟩ := exists_of_bind_eq_ok h
  obtain ⟨safePatterns, hsafe, h⟩ := exists_of_bind_eq_ok h
  rw [List.mapM_cons] at hlabelled
  obtain ⟨first, hfirst, hlabelled⟩ := exists_of_bind_eq_ok hlabelled
  obtain ⟨p, hp, hfirst⟩ := exists_of_bind_eq_ok hfirst
  cases hfirst
  cases hlabelled
  cases h
  refine ⟨p, compilePattern_eq_ok_iff.mp hp, rfl, fun q => ?_⟩
  simp only [mem_iff_of_mapM_eq_ok hsafe, compilePattern_eq_ok_iff]

/-- Patterns can be read if each of their texts is one. -/
theorem LiteralPatterns.exists_compile_single_eq_ok (label : String)
    (h : (CharPattern.parse text).isSome) (hsafe : ∀ s ∈ safe, (CharPattern.parse s).isSome) :
    ∃ patterns, LiteralPatterns.compile [(label, text)] safe = .ok patterns := by
  have hread (s : String) (hs : (CharPattern.parse s).isSome) : ∃ p, compilePattern s = .ok p := by
    obtain ⟨p, hp⟩ := Option.isSome_iff_exists.mp hs
    exact ⟨p, compilePattern_eq_ok_iff.mpr hp⟩
  have hreadAll : ∃ ps, safe.mapM compilePattern = .ok ps := by
    induction safe with
    | nil => exact ⟨[], rfl⟩
    | cons s safe ih =>
      obtain ⟨hs, hrest⟩ := List.forall_mem_cons.mp hsafe
      obtain ⟨p, hp⟩ := hread s hs
      obtain ⟨ps, hps⟩ := ih hrest
      exact ⟨p :: ps, by rw [List.mapM_cons, hp, hps]; rfl⟩
  obtain ⟨p, hp⟩ := hread text h
  obtain ⟨ps, hps⟩ := hreadAll
  refine ⟨⟨[(label, p)], ps⟩, ?_⟩
  simp only [LiteralPatterns.compile, List.mapM_cons, List.mapM_nil, hp, hps]
  rfl

theorem LiteralPatterns.isSafe_iff
    (h : LiteralPatterns.compile [(label, text)] safe = .ok patterns) {value : String} :
    patterns.isSafe value ↔ ∃ s ∈ safe, StandsIn s value := by
  obtain ⟨p, -, -, hsafe⟩ := LiteralPatterns.compile_single_eq_ok h
  rw [LiteralPatterns.isSafe, List.any_eq_true]
  constructor
  · rintro ⟨q, hq, hfound⟩
    obtain ⟨s, hs, hparse⟩ := (hsafe q).mp hq
    exact ⟨s, hs, (standsIn_iff_foundIn hparse).mpr hfound⟩
  · rintro ⟨s, hs, hstands⟩
    obtain ⟨q, hparse, -⟩ := id hstands
    exact ⟨q, (hsafe q).mpr ⟨s, hs, hparse⟩, (standsIn_iff_foundIn hparse).mp hstands⟩

/-- A flagged value has the label of the pattern, and any other value has none. -/
theorem LiteralPatterns.labelsOf_eq
    (h : LiteralPatterns.compile [(label, text)] safe = .ok patterns) (value : String) :
    Flagged text safe value ∧ patterns.labelsOf value = [label] ∨
      ¬Flagged text safe value ∧ patterns.labelsOf value = [] := by
  have hsafe : patterns.isSafe value ↔ _ := LiteralPatterns.isSafe_iff h
  obtain ⟨p, hparse, hlabelled, -⟩ := LiteralPatterns.compile_single_eq_ok h
  rw [LiteralPatterns.labelsOf, hlabelled]
  by_cases hpassed : (value.isEmpty || patterns.isSafe value) = true
  · -- the value is passed over before any pattern is tried
    refine .inr ⟨fun hflagged => ?_, if_pos hpassed⟩
    rcases Bool.or_eq_true_iff.mp hpassed with hempty | hissafe
    · exact hflagged.ne_empty (String.isEmpty_iff.mp hempty)
    · obtain ⟨s, hs, hstands⟩ := hsafe.mp hissafe
      exact hflagged.not_safe s hs hstands
  · obtain ⟨hempty, hissafe⟩ := not_or.mp (mt Bool.or_eq_true_iff.mpr hpassed)
    rw [if_neg hpassed]
    by_cases hfound : p.foundIn value = true
    · refine .inl ⟨⟨mt String.isEmpty_iff.mpr hempty, fun s hs hstands => ?_, ?_⟩, ?_⟩
      · exact hissafe (hsafe.mpr ⟨s, hs, hstands⟩)
      · exact (standsIn_iff_foundIn hparse).mpr hfound
      · simp [hfound]
    · refine .inr ⟨fun hflagged => ?_, ?_⟩
      · exact hfound ((standsIn_iff_foundIn hparse).mp hflagged.standsIn)
      · simp [hfound]

/-! ### Findings -/

/-- The hit in a literal. -/
def literalHit (label : String) (node : Node) : Hit where
  line := node.line
  subject := node.label
  evidence := label

theorem literalHitsAt_eq (h : LiteralPatterns.compile [(label, text)] safe = .ok patterns)
    (node : Node) :
    (node.kind = .stringLiteral ∧ Flagged text safe node.label) ∧
        literalHitsAt patterns node = [literalHit label node] ∨
      ¬(node.kind = .stringLiteral ∧ Flagged text safe node.label) ∧
        literalHitsAt patterns node = [] := by
  rw [literalHitsAt]
  by_cases hkind : node.kind = .stringLiteral
  · rw [if_pos hkind]
    rcases LiteralPatterns.labelsOf_eq h node.label with ⟨hflagged, hlabels⟩ | ⟨hflagged, hlabels⟩
    · rw [hlabels]
      exact .inl ⟨⟨hkind, hflagged⟩, rfl⟩
    · rw [hlabels]
      exact .inr ⟨fun hboth => hflagged hboth.2, rfl⟩
  · rw [if_neg hkind]
    exact .inr ⟨fun hboth => hkind hboth.1, rfl⟩

theorem head?_literalHitsAt_eq_some_iff
    (h : LiteralPatterns.compile [(label, text)] safe = .ok patterns) {node : Node} {hit : Hit} :
    (literalHitsAt patterns node).head? = some hit ↔
      (node.kind = .stringLiteral ∧ Flagged text safe node.label) ∧
        hit = literalHit label node := by
  rcases literalHitsAt_eq h node with ⟨hflagged, hhits⟩ | ⟨hflagged, hhits⟩
  · rw [hhits, List.head?_cons, Option.some.injEq, eq_comm]
    exact (and_iff_right hflagged).symm
  · rw [hhits]
    constructor
    · exact fun hnone => absurd hnone (by simp)
    · exact fun hboth => absurd hboth.1 hflagged

/-- A literal gives at most one finding. -/
theorem DetectionRule.findings_eq_filterMap {r : DetectionRule}
    (h : LiteralPatterns.compile [(label, text)] safe = .ok patterns)
    (hdetector : r.detector = .literals patterns) (u : LoadedUnit) :
    r.findings u = u.unit.root.descendants.filterMap fun node =>
      (literalHitsAt patterns node).head?.map (r.finding u.unit.path) := by
  have hlist (node : Node) :
      literalHitsAt patterns node = (literalHitsAt patterns node).head?.toList := by
    rcases literalHitsAt_eq h node with ⟨-, hhits⟩ | ⟨-, hhits⟩
    · rw [hhits]
      rfl
    · rw [hhits]
      rfl
  calc r.findings u
      = (u.unit.root.descendants.flatMap (literalHitsAt patterns)).map
          (r.finding u.unit.path) := by
        rw [DetectionRule.findings, hdetector]
        rfl
    _ = (u.unit.root.descendants.filterMap fun node => (literalHitsAt patterns node).head?).map
          (r.finding u.unit.path) := by
        rw [List.filterMap_eq_flatMap_toList, ← funext hlist]
    _ = _ := List.map_filterMap ..

/-- **What a rule about literals finds**: one finding for each flagged literal, in the order of their
places. -/
theorem DetectionRule.literal_findings {r : DetectionRule}
    (h : LiteralPatterns.compile [(label, text)] safe = .ok patterns)
    (hdetector : r.detector = .literals patterns) (u : LoadedUnit) :
    ∃ places : List (List ℕ), places.Pairwise (· < ·) ∧
      (∀ p, p ∈ places ↔ ∃ node, u.unit.root.at? p = some node ∧ node.kind = .stringLiteral ∧
        Flagged text safe node.label) ∧
      List.Forall₂ (fun p f => ∃ node, u.unit.root.at? p = some node ∧
        f = r.finding u.unit.path (literalHit label node)) places (r.findings u) := by
  have hlisted := u.unit.root.listedBy_places.filterMap fun node =>
    (literalHitsAt patterns node).head?.map (r.finding u.unit.path)
  rw [DetectionRule.findings_eq_filterMap h hdetector]
  refine ⟨_, hlisted.inOrder, fun p => ?_, hlisted.forall₂.imp fun p f hf => ?_⟩
  · rw [hlisted.mem_iff]
    constructor
    · rintro ⟨f, hf⟩
      obtain ⟨node, hnode, hf⟩ := Option.bind_eq_some_iff.mp hf
      obtain ⟨hit, hhit, -⟩ := Option.map_eq_some_iff.mp hf
      exact ⟨node, hnode, ((head?_literalHitsAt_eq_some_iff h).mp hhit).1⟩
    · rintro ⟨node, hnode, hflagged⟩
      have hhit := (head?_literalHitsAt_eq_some_iff h).mpr ⟨hflagged, rfl⟩
      exact ⟨_, Option.bind_eq_some_iff.mpr ⟨node, hnode, Option.map_eq_some_iff.mpr
        ⟨literalHit label node, hhit, rfl⟩⟩⟩
  · obtain ⟨node, hnode, hf⟩ := Option.bind_eq_some_iff.mp hf
    obtain ⟨hit, hhit, rfl⟩ := Option.map_eq_some_iff.mp hf
    obtain ⟨-, rfl⟩ := (head?_literalHitsAt_eq_some_iff h).mp hhit
    exact ⟨node, hnode, rfl⟩

/-- **A rule reports the literals of a unit with a property.** It has one finding for each of them,
in the order of their places, and no other finding. -/
structure DetectionRule.Reports (r : DetectionRule) (label : String) (P : String → Prop)
    (u : LoadedUnit) (places : List (List ℕ)) : Prop where
  inOrder : places.Pairwise (· < ·)
  mem_iff : ∀ p, p ∈ places ↔ ∃ node, u.unit.root.at? p = some node ∧
    node.kind = .stringLiteral ∧ P node.label
  findings : List.Forall₂ (fun p f => ∃ node, u.unit.root.at? p = some node ∧
    f = r.finding u.unit.path (literalHit label node)) places (r.findings u)

namespace DetectionRule

/-- **A rule about literals can be built if its texts are patterns, and it reports what has the
property that makes a literal flagged.** -/
theorem exists_reports {P : String → Prop} {build : LiteralPatterns → DetectionRule}
    (hbuild : ∀ patterns, (build patterns).detector = .literals patterns)
    (h : (CharPattern.parse text).isSome) (hsafe : ∀ s ∈ safe, (CharPattern.parse s).isSome)
    (hflagged : ∀ value, Flagged text safe value ↔ P value) :
    ∃ r, (LiteralPatterns.compile [(label, text)] safe >>= fun patterns =>
        pure (build patterns)) = .ok r ∧ ∀ u, ∃ places, r.Reports label P u places := by
  obtain ⟨patterns, hcompile⟩ := LiteralPatterns.exists_compile_single_eq_ok label h hsafe
  refine ⟨build patterns, by rw [hcompile]; rfl, fun u => ?_⟩
  obtain ⟨places, hinOrder, hmem, hfindings⟩ := literal_findings hcompile (hbuild patterns) u
  simp only [hflagged] at hmem
  exact ⟨places, hinOrder, hmem, hfindings⟩

section Reports

variable {r r' : DetectionRule} {label' : String} {P Q : String → Prop} {u : LoadedUnit}
  {places places' : List (List ℕ)}

theorem Reports.nodup (h : r.Reports label P u places) : places.Nodup := by
  refine List.nodup_iff_pairwise_ne.mpr (h.inOrder.imp ?_)
  rintro p _ hlt rfl
  exact List.lt_irrefl p hlt

/-- Rules for properties that exclude each other never report the same literal. -/
theorem Reports.disjoint (h : r.Reports label P u places) (h' : r'.Reports label' Q u places')
    (hPQ : ∀ value, P value → ¬Q value) : places.Disjoint places' := by
  intro p hp hp'
  obtain ⟨node, hnode, -, hP⟩ := (h.mem_iff p).mp hp
  obtain ⟨node', hnode', -, hQ⟩ := (h'.mem_iff p).mp hp'
  cases hnode.symm.trans hnode'
  exact hPQ node.label hP hQ

/-- A rule reports the literals with a weaker property only where that comes to the same. -/
theorem Reports.exists_iff (h : r.Reports label P u places) (hPQ : ∀ value, P value → Q value) :
    (∃ places, r.Reports label Q u places) ↔ ∀ p node, u.unit.root.at? p = some node →
      node.kind = .stringLiteral → Q node.label → P node.label := by
  constructor
  · rintro ⟨places', h'⟩ p node hnode hkind hQ
    have hsubset : places ⊆ places' := fun p hp => by
      obtain ⟨node, hnode, hkind, hP⟩ := (h.mem_iff p).mp hp
      exact (h'.mem_iff p).mpr ⟨node, hnode, hkind, hPQ _ hP⟩
    -- either way there are as many places as findings
    have hlength : places'.length ≤ places.length := by
      rw [h'.findings.length_eq, h.findings.length_eq]
    have hperm : places.Perm places' :=
      (List.subperm_of_subset h.nodup hsubset).perm_of_length_le hlength
    have hp : p ∈ places := hperm.mem_iff.mpr ((h'.mem_iff p).mpr ⟨node, hnode, hkind, hQ⟩)
    obtain ⟨node', hnode', -, hP⟩ := (h.mem_iff p).mp hp
    cases hnode.symm.trans hnode'
    exact hP
  · intro hsame
    refine ⟨places, h.inOrder, fun p => ?_, h.findings⟩
    rw [h.mem_iff]
    refine exists_congr fun node => and_congr_right fun hnode => and_congr_right fun hkind => ?_
    exact ⟨hPQ node.label, hsame p node hnode hkind⟩

end Reports

end DetectionRule

end Compiled

/-- The patterns of the default tables. -/
def defaultTexts : Catalog.LiteralTexts := {}

/-- A unit with one string literal. -/
def literalUnit (value : String) : LoadedUnit where
  unit :=
    { path := "L.cs"
      root :=
        { kind := .compilationUnit
          line := 1
          children := [{ kind := .stringLiteral, text := some value, line := 3 }] } }

end PlatformAudit
