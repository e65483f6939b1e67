import PlatformAudit.Proofs.Code.Workspace
import PlatformAudit.Proofs.Report.Filtering
import PlatformAudit.Proofs.Rule.Builtin

/-!
# A file does not show in the findings on other files

Two workspaces that are the same but for the units at one path have reports of the
built-in rules that are the same but for the entries at that path. The units at the
path may differ in everything: what they contain, whether they can be loaded, how
many they are and where they stand among the others.

The statement is about two runs, so every step of a run is taken on both sides at
once. Each step keeps what is **elsewhere** (`PlatformAudit.Code.Workspace.SameElsewhere`,
`PlatformAudit.Code.LoadedModel.SameElsewhere`):

* loading looks a unit up among those with its own path, so what stands at another
  path does not matter to it;
* a built-in rule looks at units one by one and puts what it finds in the file of the
  unit (`PlatformAudit.ItemRule`), so leaving out findings in a file is leaving out
  the unit;
* filtering and sorting commute with leaving out.
-/

namespace PlatformAudit

open Code

/-! ### Gathering by path -/

/-- Entries that bear the path they were gathered from: leaving out those at a path is not
gathering from it. -/
theorem filter_filterMap_of_path {α : Type} {f : String → Option α} {label : α → String}
    (hlabel : ∀ path x, f path = some x → label x = path) (p : String) (paths : List String) :
    (paths.filterMap f).filter (fun x => label x ≠ p) =
      (paths.filter fun path => path ≠ p).filterMap f := by
  rw [List.filterMap_eq_flatMap_toList, List.filterMap_eq_flatMap_toList]
  exact filter_flatMap_of_label (fun path => decide (path ≠ p)) fun path _ x hx =>
    hlabel path x (Option.mem_toList.mp hx)

/-- Gathering from paths that are the same elsewhere, by functions that are the same elsewhere,
gives the same elsewhere. -/
theorem filterMap_elsewhere {α : Type} {f g : String → Option α} {label : α → String} {p : String}
    {paths paths' : List String} (hf : ∀ path x, f path = some x → label x = path)
    (hg : ∀ path x, g path = some x → label x = path) (hfg : ∀ path, path ≠ p → f path = g path)
    (hpaths : paths.filter (· ≠ p) = paths'.filter (· ≠ p)) :
    (paths.filterMap f).filter (fun x => label x ≠ p) =
      (paths'.filterMap g).filter (fun x => label x ≠ p) := by
  rw [filter_filterMap_of_path hf, filter_filterMap_of_path hg, hpaths]
  refine List.filterMap_congr fun path hpath => hfg path ?_
  exact of_decide_eq_true (List.mem_filter.mp hpath).2

/-- Entries made one by one, each for the path of what it is made of, are the same elsewhere if
what they are made of is. -/
theorem map_elsewhere {α β : Type} {key : α → String} {label : β → String} {g : α → β}
    {p : String} {xs ys : List α} (hlabel : ∀ x, label (g x) = key x)
    (h : xs.filter (fun x => key x ≠ p) = ys.filter (fun x => key x ≠ p)) :
    (xs.map g).filter (fun y => label y ≠ p) = (ys.map g).filter (fun y => label y ≠ p) := by
  have hkey : ∀ zs : List α, (zs.map g).filter (fun y => label y ≠ p) =
      (zs.filter fun x => key x ≠ p).map g := by
    intro zs
    rw [List.filter_map]
    refine congrArg (List.map g) (List.filter_congr fun x _ => ?_)
    rw [Function.comp_apply, hlabel x]
  rw [hkey, hkey, h]

/-! ### Workspaces -/

/-- Workspaces with the same packages that differ at most in the units at a path. -/
structure Code.Workspace.SameElsewhere (p : String) (w w' : Workspace) : Prop where
  packages : w.packages = w'.packages
  units : w.units.filter (·.path ≠ p) = w'.units.filter (·.path ≠ p)

namespace Code.Workspace.SameElsewhere

variable {p path : String} {w w' : Workspace}

/-- A unit is looked up among those with its own path. -/
theorem find?_filter_ne (hpath : path ≠ p) (units : List StoredUnit) :
    (units.filter (·.path ≠ p)).find? (·.path = path) = units.find? (·.path = path) := by
  rw [List.find?_filter]
  refine congrArg (units.find? ·) (funext fun u => ?_)
  by_cases hu : u.path = path
  · simp [hu, hpath]
  · simp [hu]

theorem load_eq (h : w.SameElsewhere p w') (hpath : path ≠ p) : w.load path = w'.load path := by
  rw [load, load, ← find?_filter_ne hpath w.units, h.units, find?_filter_ne hpath]

theorem paths_eq (h : w.SameElsewhere p w') :
    (w.units.map (·.path)).filter (· ≠ p) = (w'.units.map (·.path)).filter (· ≠ p) := by
  have hlabel : ∀ u : StoredUnit, id u.path = u.path := fun _ => rfl
  exact map_elsewhere hlabel h.units

/-- What could not be loaded is the same elsewhere. -/
theorem failedLoads_eq (h : w.SameElsewhere p w') (earlier earlier' : Nat) :
    (failedLoads (w.source.attemptsFrom earlier (w.units.map (·.path)))).filter (·.1 ≠ p) =
      (failedLoads (w'.source.attemptsFrom earlier' (w'.units.map (·.path)))).filter (·.1 ≠ p) := by
  rw [failedLoads_source, failedLoads_source]
  refine filterMap_elsewhere (fun _ _ => path_of_failure?) (fun _ _ => path_of_failure?) ?_
    h.paths_eq
  intro path hpath
  rw [failure?, failure?, h.load_eq hpath]

end Code.Workspace.SameElsewhere

/-- Loaded models with the same packages that differ at most in the units at a path. -/
structure Code.LoadedModel.SameElsewhere (p : String) (m m' : LoadedModel) : Prop where
  packages : m.packages = m'.packages
  units : m.units.filter (·.unit.path ≠ p) = m'.units.filter (·.unit.path ≠ p)

/-- What is loaded from workspaces that are the same elsewhere is the same elsewhere. -/
theorem Code.Workspace.SameElsewhere.modelFrom {p : String} {w w' : Workspace}
    (h : w.SameElsewhere p w') (earlier earlier' : Nat) :
    (w.source.modelFrom earlier (w.units.map (·.path))).SameElsewhere p
      (w'.source.modelFrom earlier' (w'.units.map (·.path))) := by
  refine ⟨h.packages, ?_⟩
  simp only [Source.modelFrom, loadedUnits_source]
  refine filterMap_elsewhere (fun _ _ => path_of_load) (fun _ _ => path_of_load) ?_ h.paths_eq
  intro path hne
  rw [h.load_eq hne]

/-! ### Findings -/

section Findings

variable {p : String} {m m' : LoadedModel}

/-- **A rule that looks at units one by one** finds the same elsewhere. -/
theorem ItemRule.found_elsewhere (i : ItemRule) (h : m.SameElsewhere p m') :
    (i.rule.found m).filter (·.file ≠ p) = (i.rule.found m').filter (·.file ≠ p) := by
  have hunits : ∀ units : List LoadedUnit, (units.flatMap i.inUnit).filter (·.file ≠ p) =
      (units.filter (·.unit.path ≠ p)).flatMap i.inUnit := fun units =>
    filter_flatMap_of_label (fun path => decide (path ≠ p)) fun u _ f hf =>
      (i.makes_inUnit u f hf).file_eq
  rw [i.found_eq, i.found_eq, List.filter_append, List.filter_append, hunits, hunits, h.units,
    h.packages]

/-- What rules of this kind find is the same elsewhere. -/
theorem found_elsewhere (items : List ItemRule) (h : m.SameElsewhere p m') :
    ((items.map (·.rule)).flatMap (Rule.found m)).filter (·.file ≠ p) =
      ((items.map (·.rule)).flatMap (Rule.found m')).filter (·.file ≠ p) := by
  rw [List.filter_flatMap, List.filter_flatMap]
  refine List.flatMap_congr fun rule hrule => ?_
  obtain ⟨i, -, rfl⟩ := List.mem_map.mp hrule
  exact i.found_elsewhere h

/-- Advice on units is given in their files, so it is the same elsewhere if the failures are. -/
theorem advice_elsewhere {attempts attempts' : List (String × LoadAttempt)} (advise : Bool)
    (h : (failedLoads attempts).filter (·.1 ≠ p) = (failedLoads attempts').filter (·.1 ≠ p)) :
    (Loading.after {} advise attempts).advice.filter (·.file ≠ p) =
      (Loading.after {} advise attempts').advice.filter (·.file ≠ p) := by
  cases advise with
  | false => rfl
  | true => exact map_elsewhere (fun _ => rfl) h

theorem skipped_elsewhere {attempts attempts' : List (String × LoadAttempt)} (advise : Bool)
    (h : (failedLoads attempts).filter (·.1 ≠ p) = (failedLoads attempts').filter (·.1 ≠ p)) :
    (Loading.after {} advise attempts).skipped.filter (·.path ≠ p) =
      (Loading.after {} advise attempts').skipped.filter (·.path ≠ p) :=
  map_elsewhere (fun _ => rfl) h

end Findings

/-- **A file does not show in the findings on other files.** If the built-in rules
complete on two workspaces that differ at most in the units at a path, then the two
reports have the same findings in all other files, in the same order, the same skipped
units at all other paths, and the same inventory. -/
theorem audit_noninterference (tables : Catalog.Tables) (settings : Settings) (p : String)
    {w w' : Workspace} (hsame : w.SameElsewhere p w') (clock clock' : Clock)
    (schedule schedule' : (total : Nat) → Schedule total) (cancelled cancelled' : Bool)
    (attempts attempts' : Nat) {report report' : Report} {final final' : RunState}
    (h : (audit w.source tables settings clock schedule).run { cancelled, attempts } =
      (.ok report, final))
    (h' : (audit w'.source tables settings clock' schedule').run
      { cancelled := cancelled', attempts := attempts' } = (.ok report', final')) :
    report.findings.filter (·.file ≠ p) = report'.findings.filter (·.file ≠ p) ∧
      report.skippedUnits.filter (·.path ≠ p) = report'.skippedUnits.filter (·.path ≠ p) ∧
      report.dependencyInventory = report'.dependencyInventory := by
  -- both runs have the same rules and the same filter: these come from the tables and settings
  obtain ⟨rules, hrules, hrun⟩ := builtin_of_audit_ok h
  obtain ⟨rules', hrules', hrun'⟩ := builtin_of_audit_ok h'
  obtain rfl : rules' = rules := Except.ok.inj (hrules'.symm.trans hrules)
  obtain ⟨filter, paths, hfilter, henum, -, rfl⟩ := Engine.quiet_of_audit_ok _ _ _ rfl hrun
  obtain ⟨filter', paths', hfilter', henum', -, rfl⟩ := Engine.quiet_of_audit_ok _ _ _ rfl hrun'
  obtain rfl : filter' = filter := Except.ok.inj (hfilter'.symm.trans hfilter)
  obtain rfl := Workspace.paths_of_enumerate henum
  obtain rfl := Workspace.paths_of_enumerate henum'
  -- only now does it matter which rules these are
  obtain ⟨items, rfl, -⟩ := Registry.builtin_items hrules
  have hfailed := hsame.failedLoads_eq attempts attempts'
  refine ⟨?_, ?_, ?_⟩
  · simp only [RunOutput.report, Engine.outputOf]
    rw [Finding.filter_sort, Finding.filter_sort, Filter.filter_apply, Filter.filter_apply,
      List.filter_append, List.filter_append, advice_elsewhere _ hfailed,
      found_elsewhere items (hsame.modelFrom attempts attempts')]
  · simp only [RunOutput.report, Engine.outputOf]
    rw [SkippedUnit.filter_sort, SkippedUnit.filter_sort, skipped_elsewhere _ hfailed]
  · exact congrArg inventory hsame.packages

/-- The workspace `lockedUnit` with the locked unit unlocked, stored twice and in front. -/
def unlockedUnit : Workspace where
  sourceId := "app, unlocked"
  units :=
    [{ path := "src/b.cs"
       root :=
        { kind := .compilationUnit, line := 1
          children := [{ kind := .stringLiteral, line := 8, text := some "C:/logs" }] } },
     { path := "src/a.cs"
       root :=
        { kind := .compilationUnit, line := 1
          children := [{ kind := .stringLiteral, line := 3, text := some "C:/temp" }] } },
     { path := "src/b.cs"
       root := { kind := .compilationUnit, line := 1 } }]

theorem audit_noninterference_unlockedUnit :
    lockedUnit.SameElsewhere "src/b.cs" unlockedUnit ∧
      ∃ report final report' final',
        (audit lockedUnit.source plainTables {} epoch).run { cancelled := false } =
          (.ok report, final) ∧
        (audit unlockedUnit.source plainTables {} epoch).run { cancelled := false } =
          (.ok report', final') ∧
        report.findings.filter (·.file ≠ "src/b.cs") =
          report'.findings.filter (·.file ≠ "src/b.cs") ∧
        report.skippedUnits.filter (·.path ≠ "src/b.cs") =
          report'.skippedUnits.filter (·.path ≠ "src/b.cs") ∧
        report.dependencyInventory = report'.dependencyInventory := by
  have hsame : lockedUnit.SameElsewhere "src/b.cs" unlockedUnit := ⟨rfl, rfl⟩
  obtain ⟨report, final, h⟩ := exists_of_isOk
    (x := (audit lockedUnit.source plainTables {} epoch).run { cancelled := false })
    (by decide +kernel)
  obtain ⟨report', final', h'⟩ := exists_of_isOk
    (x := (audit unlockedUnit.source plainTables {} epoch).run { cancelled := false })
    (by decide +kernel)
  have hshown := audit_noninterference plainTables {} "src/b.cs" hsame epoch epoch
    Schedule.inOrder Schedule.inOrder false false 0 0 h h'
  exact ⟨hsame, report, final, report', final', h, h', hshown⟩

end PlatformAudit
