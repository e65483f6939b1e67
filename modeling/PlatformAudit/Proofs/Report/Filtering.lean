import PlatformAudit.Proofs.Code.Workspace
import PlatformAudit.Proofs.Report.StableSort
import PlatformAudit.Proofs.Run.Endings

/-!
# A stricter filter selects from the report

Findings are filtered before they are sorted, and the rest of a report is made of
what the run gave before anything was filtered. So settings that differ only in
their filters have reports that differ only in their findings, and if one filter is
stricter than the other, its findings are a selection from the other's: nothing is
added, and nothing changes its place.

A filter is **stricter** (`PlatformAudit.FilterSettings.Tightens`) if it asks for a
severity at least as grave and excludes at least as much. The patterns may come in
any order and any number of times, for a file is excluded if any one of them covers
it. The severity and the patterns are compared as they are written in the settings;
that the filters read from them compare the same way is
`PlatformAudit.FilterSettings.Tightens.keeps`.
-/

namespace PlatformAudit

open Code

/-! ### Filters -/

/-- A list is read item by item. -/
theorem mem_iff_of_mapM_eq_ok {ε α β : Type} {f : α → Except ε β} {xs : List α} {ys : List β}
    (h : xs.mapM f = .ok ys) {y : β} : y ∈ ys ↔ ∃ x ∈ xs, f x = .ok y := by
  induction xs generalizing ys with
  | nil =>
    rw [List.mapM_nil] at h
    cases h
    simp only [List.not_mem_nil, false_and, exists_false]
  | cons x xs ih =>
    rw [List.mapM_cons] at h
    cases hx : f x with
    | error e =>
      rw [hx] at h
      cases h
    | ok z =>
      cases hxs : xs.mapM f with
      | error e =>
        rw [hx, hxs] at h
        cases h
      | ok zs =>
        rw [hx, hxs] at h
        cases h
        simp only [List.mem_cons, ih hxs, or_and_right, exists_or, exists_eq_left, hx,
          Except.ok.injEq, eq_comm (a := z)]

/-- What a filter is read from. -/
theorem Filter.compile_eq_ok {s : FilterSettings} {filter : Filter}
    (h : Filter.compile s = .ok filter) :
    filter.minSeverity = s.minSeverity ∧ ∀ exclusion, exclusion ∈ filter.exclusions ↔
      ∃ pattern ∈ s.excludePatterns, Exclusion.compile pattern = .ok exclusion := by
  rw [Filter.compile] at h
  cases hread : s.excludePatterns.mapM Exclusion.compile with
  | error err =>
    rw [hread] at h
    cases h
  | ok exclusions =>
    rw [hread] at h
    cases h
    exact ⟨rfl, fun exclusion => mem_iff_of_mapM_eq_ok hread⟩

/-- The settings of a filter that asks for more and excludes more than another. -/
structure FilterSettings.Tightens (strict loose : FilterSettings) : Prop where
  minSeverity_le : loose.minSeverity ≤ strict.minSeverity
  patterns_subset : loose.excludePatterns ⊆ strict.excludePatterns

/-- **A stricter filter keeps nothing that the other leaves out.** -/
theorem FilterSettings.Tightens.keeps {strict loose : FilterSettings} (h : strict.Tightens loose)
    {filter filter' : Filter} (hloose : Filter.compile loose = .ok filter)
    (hstrict : Filter.compile strict = .ok filter') {f : Finding} (hf : filter'.keeps f = true) :
    filter.keeps f = true := by
  obtain ⟨hseverity, hexclusions⟩ := Filter.compile_eq_ok hloose
  obtain ⟨hseverity', hexclusions'⟩ := Filter.compile_eq_ok hstrict
  simp only [Filter.keeps, Bool.and_eq_true, Bool.not_eq_true'] at hf ⊢
  obtain ⟨hpasses, hkept⟩ := hf
  constructor
  · have hle : filter'.minSeverity ≤ f.severity := of_decide_eq_true hpasses
    rw [hseverity'] at hle
    refine decide_eq_true (p := filter.minSeverity ≤ f.severity) ?_
    rw [hseverity]
    exact Nat.le_trans h.minSeverity_le hle
  · -- the patterns are compared before they are read, the exclusions after
    refine List.any_eq_false.mpr fun exclusion hexclusion => ?_
    obtain ⟨pattern, hpattern, hread⟩ := (hexclusions exclusion).mp hexclusion
    have hmem : exclusion ∈ filter'.exclusions :=
      (hexclusions' exclusion).mpr ⟨pattern, h.patterns_subset hpattern, hread⟩
    exact List.any_eq_false.mp hkept exclusion hmem

/-- What a stricter filter keeps of what the other keeps is what it keeps of all. -/
theorem FilterSettings.Tightens.apply_apply {strict loose : FilterSettings}
    (h : strict.Tightens loose) {filter filter' : Filter}
    (hloose : Filter.compile loose = .ok filter) (hstrict : Filter.compile strict = .ok filter')
    (fs : List Finding) : (filter.apply fs).filter filter'.keeps = filter'.apply fs := by
  rw [Filter.apply, Filter.apply, List.filter_filter]
  refine List.filter_congr fun f _ => ?_
  cases hf : filter'.keeps f with
  | true => rw [h.keeps hloose hstrict hf, Bool.and_self]
  | false => rw [Bool.false_and]

/-- Leaving out what the filter rejects commutes with leaving out anything else. -/
theorem Filter.filter_apply (filter : Filter) (p : Finding → Bool) (fs : List Finding) :
    (filter.apply fs).filter p = filter.apply (fs.filter p) := by
  simp only [Filter.apply, List.filter_filter, Bool.and_comm]

/-! ### Reports -/

/-- What a report with other settings for the filter has in common with a report, and what it has
of its findings. -/
structure Report.SelectedBy (filter : Filter) (selected report : Report) : Prop where
  findings : selected.findings = report.findings.filter filter.keeps
  unitsScanned : selected.unitsScanned = report.unitsScanned
  dependencyInventory : selected.dependencyInventory = report.dependencyInventory
  ruleFailures : selected.ruleFailures = report.ruleFailures
  skippedUnits : selected.skippedUnits = report.skippedUnits

/-- Engines with the same rules and the same advice on units: the report of the one with the
stricter filter is selected from the report of the other. -/
theorem Engine.selectedBy_of_tightens {e e' : Engine} (hrules : e'.rules = e.rules)
    (hadvice : e'.settings.unitAdvisories = e.settings.unitAdvisories)
    (hfilter : e'.settings.filter.Tightens e.settings.filter) {source : Source}
    {clock clock' : Clock} {s final final' : RunState} {report report' : Report}
    (hs : s.stage = .idle) (h : (e.audit source clock).run s = (.ok report, final))
    (h' : (e'.audit source clock').run s = (.ok report', final')) :
    ∃ filter', Filter.compile e'.settings.filter = .ok filter' ∧
      report'.SelectedBy filter' report := by
  obtain ⟨filter, paths, hloose, henum, -, rfl⟩ := e.quiet_of_audit_ok source clock hs h
  obtain ⟨filter', paths', hstrict, henum', -, rfl⟩ := e'.quiet_of_audit_ok source clock' hs h'
  obtain rfl : paths' = paths := Except.ok.inj (henum'.symm.trans henum)
  have hfindings : (e'.outputOf source clock' s paths').findings =
      (e.outputOf source clock s paths').findings := by
    simp only [Engine.outputOf, hrules, hadvice]
  refine ⟨filter', hstrict, ?_, rfl, rfl, ?_, ?_⟩
  · simp only [RunOutput.report]
    rw [hfindings, Finding.filter_sort, hfilter.apply_apply hloose hstrict]
  · simp only [RunOutput.report, Engine.outputOf, hrules]
  · simp only [RunOutput.report, Engine.outputOf, hadvice]

/-- **A stricter filter selects from the report.** Of two runs of the built-in
rules over one source that complete, and whose settings differ in the filter (and
perhaps in the mode), the one with the stricter filter reports exactly those
findings of the other that its filter keeps, in the same order, and all else is the
same. -/
theorem audit_selectedBy_of_tightens (source : Source) (tables : Catalog.Tables)
    {settings settings' : Settings}
    (hadvice : settings'.unitAdvisories = settings.unitAdvisories)
    (hfilter : settings'.filter.Tightens settings.filter) (clock clock' : Clock)
    (schedule schedule' : (total : Nat) → Schedule total) (cancelled : Bool) (attempts : Nat)
    {report report' : Report} {final final' : RunState}
    (h : (audit source tables settings clock schedule).run { cancelled, attempts } =
      (.ok report, final))
    (h' : (audit source tables settings' clock' schedule').run { cancelled, attempts } =
      (.ok report', final')) :
    ∃ filter', Filter.compile settings'.filter = .ok filter' ∧
      report'.SelectedBy filter' report := by
  obtain ⟨rules, hrules, hrun⟩ := builtin_of_audit_ok h
  obtain ⟨rules', hrules', hrun'⟩ := builtin_of_audit_ok h'
  obtain rfl : rules' = rules := Except.ok.inj (hrules'.symm.trans hrules)
  refine Engine.selectedBy_of_tightens ?_ hadvice hfilter rfl hrun hrun'
  rfl

/-- A run that gives something. -/
theorem exists_of_isOk {α : Type} {x : Except RunError α × RunState} (h : x.1.isOk = true) :
    ∃ a t, x = (.ok a, t) := by
  obtain ⟨r, t⟩ := x
  cases r with
  | error e => cases h
  | ok a => exact ⟨a, t, rfl⟩

/-- Tables in which the patterns of literals are plain texts. -/
def plainTables : Catalog.Tables where
  environmentVariables := ["TEMP"]
  literals :=
    { absolutePath := "C:"
      sharePath := "//"
      relativeBackslashPath := "bin/"
      embeddedPassword := "pwd="
      integratedSecurity := "sspi"
      safePaths := ["://"] }

/-- A workspace with a path in a literal, and with a unit that cannot be loaded. -/
def lockedUnit : Workspace where
  sourceId := "app"
  units :=
    [{ path := "src/a.cs"
       root :=
        { kind := .compilationUnit, line := 1
          children := [{ kind := .stringLiteral, line := 3, text := some "C:/temp" }] } },
     { path := "src/b.cs"
       root := { kind := .compilationUnit, line := 1 }
       unreadable := some "locked" }]

/-- The findings of a report are what the filter keeps of the findings of the run, sorted. -/
theorem findings_of_audit_ok {w : Workspace} {tables : Catalog.Tables} {settings : Settings}
    {clock : Clock} {schedule : (total : Nat) → Schedule total} {cancelled : Bool}
    {attempts : Nat} {report : Report} {final : RunState}
    (h : (audit w.source tables settings clock schedule).run { cancelled, attempts } =
      (.ok report, final)) :
    ∃ filter, Filter.compile settings.filter = .ok filter ∧
      report.findings = Finding.sort (filter.apply
        (Engine.outputOf { rules := tables.rules, settings, schedule := schedule _ } w.source clock
          { cancelled, attempts } (w.units.map (·.path))).findings) := by
  obtain ⟨rules, hrules, hrun⟩ := builtin_of_audit_ok h
  obtain rfl : tables.rules = rules := by
    rw [Catalog.Tables.rules, hrules]
    rfl
  obtain ⟨filter, paths, hfilter, henum, -, rfl⟩ := Engine.quiet_of_audit_ok _ _ _ rfl hrun
  obtain rfl := Workspace.paths_of_enumerate henum
  exact ⟨filter, hfilter, rfl⟩

/-- The path in the literal. -/
def tempPath : Finding :=
  Finding.create "FS001" .filesystem .high "src/a.cs" 3 "Hardcoded absolute path \"C:/temp\""
    "Build the path from configuration or a well-known base directory using Path.Combine."

/-- The unit that cannot be loaded. -/
def lockedAdvice : Finding :=
  Finding.create "ENG001" .general .info "src/b.cs" 1
    "Unit could not be analyzed: failed to read src/b.cs: locked"
    ("Fix the file so it can be parsed, then re-run the analysis; its portability risks are " ++
      "not reflected in this report.")

/-- The stricter filter leaves out the unit that cannot be loaded. -/
theorem audit_selectedBy_of_tightens_lockedUnit :
    let loose : Settings := { filter := { excludePatterns := ["*.g.cs"] } }
    let strict : Settings :=
      { mode := .concurrent
        filter := { minSeverity := .high, excludePatterns := ["obj/", "*.g.cs"] } }
    strict.filter.Tightens loose.filter ∧
      ∃ report final report' final' filter',
        (audit lockedUnit.source plainTables loose epoch).run { cancelled := false } =
          (.ok report, final) ∧
        (audit lockedUnit.source plainTables strict epoch).run { cancelled := false } =
          (.ok report', final') ∧
        Filter.compile strict.filter = .ok filter' ∧ report'.SelectedBy filter' report ∧
        report.findings = [tempPath, lockedAdvice] ∧ report'.findings = [tempPath] := by
  intro loose strict
  have hadvice : strict.unitAdvisories = loose.unitAdvisories := rfl
  have htightens : strict.filter.Tightens loose.filter := ⟨by decide, by decide⟩
  obtain ⟨report, final, h⟩ := exists_of_isOk
    (x := (audit lockedUnit.source plainTables loose epoch).run { cancelled := false })
    (by decide +kernel)
  obtain ⟨report', final', h'⟩ := exists_of_isOk
    (x := (audit lockedUnit.source plainTables strict epoch).run { cancelled := false })
    (by decide +kernel)
  obtain ⟨filter', hfilter', hselected⟩ := audit_selectedBy_of_tightens lockedUnit.source
    plainTables hadvice htightens epoch epoch _ _ false 0 h h'
  refine ⟨htightens, report, final, report', final', filter', h, h', hfilter', hselected, ?_, ?_⟩
  · obtain ⟨filter, hfilter, hfindings⟩ := findings_of_audit_ok h
    cases hfilter
    rw [hfindings]
    -- the advice on units comes before what the rules find
    refine sortBy_eq_of_perm ?_ (List.pairwise_pair.mpr (by decide +kernel))
    refine List.Perm.trans (List.Perm.of_eq ?_) (List.Perm.swap tempPath lockedAdvice [])
    decide +kernel
  · obtain ⟨filter, hfilter, hfindings⟩ := findings_of_audit_ok h'
    cases hfilter
    rw [hfindings]
    refine sortBy_eq_of_perm (.of_eq ?_) (List.pairwise_singleton ..)
    decide +kernel

end PlatformAudit
