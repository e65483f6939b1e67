import PlatformAudit.Proofs.Code.Workspace
import PlatformAudit.Proofs.Report.Filtering
import PlatformAudit.Proofs.Rule.Builtin
import PlatformAudit.Proofs.Run.Endings

/-!
# Where the findings of a report come from

A report of the built-in rules over a workspace has three kinds of findings
(`PlatformAudit.Origin`): on units, in the file of a unit that was loaded; on packages,
in the file that declares a package which is banned; and advice on units that could not
be loaded, in their files. A finding of each kind bears the id, the category and the
severity that are declared for its rule, and a line, whatever the trees say about lines
(`PlatformAudit.RuleInfo.Signs`).

That a finding is of one of these kinds is known for each rule by itself
(`PlatformAudit.Registry.builtin_split`). The rest of the way to the report only
selects and reorders. Failures of rules do not occur, since the rules have no way to
fail.
-/

namespace PlatformAudit

open Code

/-! ### What a finding bears -/

/-- A finding in a file that bears what is declared for a rule. -/
structure RuleInfo.Signs (info : RuleInfo) (file : String) (f : Finding) : Prop where
  ruleId_eq : f.ruleId = info.id
  category_eq : f.category = info.category
  severity_eq : f.severity = info.severity
  file_eq : f.file = file
  one_le_line : 1 ≤ f.line

/-- A line that is not known is the first one, so every line counts from one. -/
theorem Finding.one_le_atLine (line : UInt32) : 1 ≤ Finding.atLine line := by
  rw [Finding.atLine]
  split
  · exact UInt32.le_refl 1
  · next hline =>
    rw [UInt32.le_iff_toNat_le]
    exact Nat.one_le_iff_ne_zero.mpr fun h => hline (UInt32.toNat_inj.mp h)

theorem RuleInfo.Makes.signs {info : RuleInfo} {file : String} {f : Finding}
    (h : info.Makes file f) : info.Signs file f := by
  obtain ⟨line, message, recommendation, rfl⟩ := h
  exact ⟨rfl, rfl, rfl, rfl, Finding.one_le_atLine line⟩

/-! ### Origins -/

/-- **Where a finding of the built-in rules comes from.** -/
inductive Origin (w : Workspace) (tables : Catalog.Tables) (settings : Settings)
    (skipped : List SkippedUnit) (f : Finding) : Prop
  /-- Advice on a unit that was skipped. -/
  | advice (u : SkippedUnit) (asked : settings.unitAdvisories = true) (skips : u ∈ skipped)
      (signs : unitAdvice.Signs u.path f)
  /-- A package that an entry of the tables bans. -/
  | package (p : Package) (b : Catalog.BannedPackage) (refers : p ∈ w.packages)
      (bans : b ∈ tables.bannedPackages) (covers : b.covers p.name = true)
      (signs : LegacyPackages.info.Signs p.declaredIn f)
  /-- A unit that was loaded, and a rule that looks at units. -/
  | unit (info : RuleInfo) (u : StoredUnit) (l : LoadedUnit) (declared : info ∈ Builtin.infos)
      (onUnits : info.id ≠ LegacyPackages.info.id) (holds : u ∈ w.units)
      (loads : w.load u.path = .ok l) (signs : info.Signs u.path f)

variable {w : Workspace} {tables : Catalog.Tables} {settings : Settings}
  {skipped : List SkippedUnit} {f : Finding}

/-- A unit that the rules look at is loaded from the path of a unit of the workspace. -/
theorem Code.Workspace.exists_of_mem_units {earlier : Nat} {l : LoadedUnit}
    (h : l ∈ (w.source.modelFrom earlier (w.units.map (·.path))).units) :
    ∃ u ∈ w.units, w.load u.path = .ok l ∧ l.unit.path = u.path := by
  rw [Source.modelFrom, loadedUnits_source] at h
  obtain ⟨path, hpath, hload⟩ := List.mem_filterMap.mp h
  obtain ⟨u, hu, rfl⟩ := List.mem_map.mp hpath
  refine ⟨u, hu, ?_, path_of_load hload⟩
  cases hresult : w.load u.path with
  | error e =>
    rw [hresult] at hload
    cases hload
  | ok l' =>
    rw [hresult] at hload
    cases hload
    rfl

/-- No two built-in rules have the same id. -/
theorem Builtin.nodup_ids : (Builtin.infos.map (·.id)).Nodup := by decide

/-- So none but the rule about packages has its id. -/
theorem Builtin.id_ne_legacyPackages {banned : List Catalog.BannedPackage}
    {before after : List ItemRule}
    (hinfos : (before ++ .legacyPackages banned :: after).map (·.info) = Builtin.infos)
    {i : ItemRule} (hi : i ∈ before ++ after) : i.info.id ≠ LegacyPackages.info.id := by
  have hids := Builtin.nodup_ids
  rw [← hinfos, List.map_map] at hids
  have hapart := (List.perm_middle.map _).nodup_iff.mp hids
  rw [List.map_cons, List.nodup_cons] at hapart
  exact fun hsame => hapart.1 (List.mem_map.mpr ⟨i, hi, hsame⟩)

/-- A rule that looks at units finds what it finds in a unit. -/
theorem ItemRule.OnUnits.exists_unit {i : ItemRule} (hi : i.OnUnits) {model : LoadedModel}
    (hf : f ∈ i.rule.found model) : ∃ l ∈ model.units, i.info.Makes l.unit.path f := by
  obtain ⟨info, find, makes, rfl⟩ := hi
  rw [ItemRule.found_eq] at hf
  rcases List.mem_append.mp hf with hf | hf
  · obtain ⟨l, hl, hf⟩ := List.mem_flatMap.mp hf
    exact ⟨l, hl, makes l f hf⟩
  · obtain ⟨p, -, hf⟩ := List.mem_flatMap.mp hf
    exact absurd hf List.not_mem_nil

/-- The rule about packages finds what it finds in a package that is banned. -/
theorem LegacyPackages.exists_banned {banned : List Catalog.BannedPackage} {model : LoadedModel}
    (hf : f ∈ (LegacyPackages.rule banned).found model) :
    ∃ p ∈ model.packages, ∃ b ∈ banned, b.covers p.name = true ∧
      LegacyPackages.info.Makes p.declaredIn f := by
  have hfound := (ItemRule.legacyPackages banned).found_eq model
  rw [show (LegacyPackages.rule banned).found model = _ from hfound] at hf
  rcases List.mem_append.mp hf with hf | hf
  · obtain ⟨l, -, hf⟩ := List.mem_flatMap.mp hf
    exact absurd hf List.not_mem_nil
  · obtain ⟨p, hp, hf⟩ := List.mem_flatMap.mp hf
    have hfinding : LegacyPackages.finding? banned p = some f := Option.mem_toList.mp hf
    obtain ⟨b, hb, -⟩ := Option.map_eq_some_iff.mp hfinding
    have hcovers : b.covers p.name = true := by simpa using List.find?_some hb
    exact ⟨p, hp, b, List.mem_of_find?_eq_some hb, hcovers,
      LegacyPackages.makes_of_finding? hfinding⟩

/-- **What the built-in rules find** is on a unit that was loaded or on a banned package. -/
theorem origin_of_found {rules : Registry} (hrules : Registry.builtin tables = .ok rules)
    {earlier : Nat}
    (hf : f ∈ rules.flatMap
      (Rule.found (w.source.modelFrom earlier (w.units.map (·.path))))) :
    Origin w tables settings skipped f := by
  obtain ⟨before, after, rfl, hinfos, hunits⟩ := Registry.builtin_split hrules
  obtain ⟨rule, hrule, hf⟩ := List.mem_flatMap.mp hf
  obtain ⟨i, hi, rfl⟩ := List.mem_map.mp hrule
  rcases List.mem_cons.mp (List.perm_middle.mem_iff.mp hi) with rfl | hother
  · obtain ⟨p, hp, b, hb, hcovers, hmakes⟩ := LegacyPackages.exists_banned hf
    exact .package p b hp hb hcovers hmakes.signs
  · obtain ⟨l, hl, hmakes⟩ := (hunits i hother).exists_unit hf
    obtain ⟨u, hu, hload, hpath⟩ := Workspace.exists_of_mem_units hl
    have hdeclared : i.info ∈ Builtin.infos := by
      rw [← hinfos]
      exact List.mem_map_of_mem hi
    exact .unit i.info u l hdeclared (Builtin.id_ne_legacyPackages hinfos hother) hu hload
      (hpath ▸ hmakes.signs)

/-- **Advice is on units that were skipped**, and there is none unless it is asked for. -/
theorem origin_of_advice {attempts : List (String × LoadAttempt)}
    (hskipped : ∀ u ∈ (Loading.after {} settings.unitAdvisories attempts).skipped, u ∈ skipped)
    (hf : f ∈ (Loading.after {} settings.unitAdvisories attempts).advice) :
    Origin w tables settings skipped f := by
  cases hasked : settings.unitAdvisories with
  | false =>
    rw [hasked] at hf
    exact absurd hf List.not_mem_nil
  | true =>
    rw [hasked] at hf
    obtain ⟨⟨path, err⟩, hfailed, rfl⟩ := List.mem_map.mp hf
    refine .advice { path, reason := err.message } hasked (hskipped _ ?_) ?_
    · exact List.mem_map.mpr ⟨(path, err), hfailed, rfl⟩
    · exact RuleInfo.Makes.signs ⟨_, _, _, rfl⟩

/-! ### Reports -/

/-- The built-in rules are the declared ones. -/
theorem builtin_declared {rules : Registry} (hrules : Registry.builtin tables = .ok rules) :
    rules.length = 18 ∧ (rules.map Rule.id).Nodup ∧
      rules.map (fun rule => (rule.id, rule.category)) =
        Builtin.infos.map fun info => (info.id, info.category) := by
  obtain ⟨before, after, rfl, hinfos, hunits⟩ := Registry.builtin_split hrules
  have hdeclared : ∀ i ∈ before ++ .legacyPackages tables.bannedPackages :: after,
      (i.rule.id, i.rule.category) = (i.info.id, i.info.category) := by
    intro i hi
    rcases List.mem_cons.mp (List.perm_middle.mem_iff.mp hi) with rfl | hother
    · rfl
    · obtain ⟨info, find, makes, rfl⟩ := hunits i hother
      rfl
  have hpairs : (((before ++ .legacyPackages tables.bannedPackages :: after).map (·.rule)).map
      fun rule => (rule.id, rule.category)) =
        Builtin.infos.map fun info => (info.id, info.category) := by
    rw [← hinfos, List.map_map, List.map_map]
    exact List.map_congr_left hdeclared
  refine ⟨?_, ?_, hpairs⟩
  · exact (List.length_map _).symm.trans (congrArg List.length hpairs)
  · have hids : ((before ++ .legacyPackages tables.bannedPackages :: after).map (·.rule)).map
        Rule.id = Builtin.infos.map (·.id) := by
      rw [← hinfos, List.map_map, List.map_map]
      exact List.map_congr_left fun i _ => i.id_eq
    rw [hids]
    exact Builtin.nodup_ids

/-- **Where the findings of a report come from.** If a run of the built-in rules over a
workspace completes, no rule has failed, and every finding is one that the filter keeps
and comes from a unit that was loaded, from a banned package, or from a unit that was
skipped. The eighteen rules are those whose ids and categories are declared. -/
theorem audit_provenance (w : Workspace) (tables : Catalog.Tables) (settings : Settings)
    (clock : Clock) (schedule : (total : Nat) → Schedule total) (cancelled : Bool) (attempts : Nat)
    {report : Report} {final : RunState}
    (h : (audit w.source tables settings clock schedule).run { cancelled, attempts } =
      (.ok report, final)) :
    (∃ rules, Registry.builtin tables = .ok rules ∧ rules.length = 18 ∧
      (rules.map Rule.id).Nodup ∧
      rules.map (fun rule => (rule.id, rule.category)) =
        Builtin.infos.map fun info => (info.id, info.category)) ∧
    report.ruleFailures = [] ∧
    ∃ filter, Filter.compile settings.filter = .ok filter ∧
      ∀ f ∈ report.findings, filter.keeps f = true ∧
        Origin w tables settings report.skippedUnits f := by
  obtain ⟨rules, hrules, hrun⟩ := builtin_of_audit_ok h
  obtain ⟨filter, paths, hfilter, henum, -, rfl⟩ := Engine.quiet_of_audit_ok _ _ _ rfl hrun
  obtain rfl := Workspace.paths_of_enumerate henum
  refine ⟨⟨rules, hrules, builtin_declared hrules⟩, ?_, filter, hfilter, fun f hf => ?_⟩
  · obtain ⟨items, rfl, -⟩ := Registry.builtin_items hrules
    simp only [RunOutput.report, Engine.outputOf, ItemRule.flatMap_failures]
    exact List.mergeSort_nil
  · have hkept := (sortBy_perm Finding.order _).mem_iff.mp hf
    obtain ⟨hmem, hkeeps⟩ := List.mem_filter.mp hkept
    refine ⟨hkeeps, ?_⟩
    rcases List.mem_append.mp hmem with hadvice | hfound
    · exact origin_of_advice (fun u hu => (sortBy_perm _ _).mem_iff.mpr hu) hadvice
    · exact origin_of_found hrules hfound

/-- A workspace with a path in a literal, a unit that cannot be loaded, and a banned package. -/
def bannedPackage : Workspace :=
  { lockedUnit with packages := [{ name := "EntityFramework", declaredIn := "app.csproj" }] }

/-- One finding of each kind. -/
theorem audit_provenance_bannedPackage :
    ∃ report final, (audit bannedPackage.source plainTables {} epoch).run { cancelled := false } =
        (.ok report, final) ∧ report.ruleFailures = [] ∧ report.findings.length = 3 ∧
      ∀ f ∈ report.findings, Origin bannedPackage plainTables {} report.skippedUnits f := by
  obtain ⟨report, final, h⟩ := exists_of_isOk
    (x := (audit bannedPackage.source plainTables {} epoch).run { cancelled := false })
    (by decide +kernel)
  obtain ⟨-, hfailures, _, -, horigins⟩ := audit_provenance bannedPackage plainTables {} epoch
    Schedule.inOrder false 0 h
  refine ⟨report, final, h, hfailures, ?_, fun f hf => (horigins f hf).2⟩
  obtain ⟨filter, hfilter, hfindings⟩ := findings_of_audit_ok h
  cases hfilter
  rw [hfindings]
  refine (sortBy_perm Finding.order _).length_eq.trans ?_
  decide +kernel

end PlatformAudit
