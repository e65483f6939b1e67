import Mathlib.Data.List.Nodup
import PlatformAudit.Proofs.Run.Isolation

/-!
# What is loaded from a workspace

A workspace hands out the paths of its units and loads a unit by its path, so a path
is all that a run knows of a unit. Loading gives the **first** unit with the path. If
no two units have the same path, every unit is loaded as itself, and a run sees
exactly the units that can be loaded and skips exactly those that cannot.

Nothing keeps two units from having the same path, and then the law fails: the first
of them is loaded once for each, and the others never are. The number of units still
adds up, so this does not show: `PlatformAudit.onePath` has a unit that cannot be
loaded, and a run over it skips no unit.
-/

namespace PlatformAudit

open Code

/-! ### Units -/

/-- What a unit itself has to give: its path, tree, directives and symbols, or the reason why it
cannot be loaded. -/
def Code.StoredUnit.content (u : StoredUnit) : Except SourceError LoadedUnit :=
  match u.unreadable with
  | some reason => .error (.unreadable u.path reason)
  | none =>
    .ok { unit := { path := u.path, root := u.root, directives := u.directives }
          resolver := u.symbols.map (·.resolver) }

theorem Code.StoredUnit.path_of_content {u : StoredUnit} {l : LoadedUnit}
    (h : u.content = .ok l) : l.unit.path = u.path := by
  rw [StoredUnit.content] at h
  cases hreason : u.unreadable with
  | some reason =>
    rw [hreason] at h
    cases h
  | none =>
    rw [hreason] at h
    cases h
    rfl

namespace Code.Workspace

variable {w : Workspace} {path : String} {u : StoredUnit}

/-! ### Loading by path -/

/-- Loading gives the first unit with the path. -/
theorem load_of_find? (h : w.units.find? (·.path = path) = some u) : w.load path = u.content := by
  rw [load, h]
  rfl

theorem path_of_find? (h : w.units.find? (·.path = path) = some u) : u.path = path := by
  simpa only [decide_eq_true_eq] using List.find?_some h

/-- Some unit is found by the path of a unit. -/
theorem exists_find? (hu : u ∈ w.units) : ∃ v, w.units.find? (·.path = u.path) = some v := by
  refine Option.isSome_iff_exists.mp (List.find?_isSome.mpr ⟨u, hu, ?_⟩)
  exact decide_eq_true rfl

/-- What is loaded from a path is a unit with that path. -/
theorem path_of_load {l : LoadedUnit} (h : (w.load path).toOption = some l) :
    l.unit.path = path := by
  cases hfind : w.units.find? (·.path = path) with
  | none =>
    rw [load, hfind] at h
    cases h
  | some u =>
    rw [load_of_find? hfind] at h
    cases hcontent : u.content with
    | error e =>
      rw [hcontent] at h
      cases h
    | ok l' =>
      rw [hcontent] at h
      cases h
      rw [StoredUnit.path_of_content hcontent, path_of_find? hfind]

/-- **Every handle leads to the first unit with its path.** -/
theorem load_eq_first {i : Nat} (hi : i < w.units.length) :
    ∃ j, ∃ hj : j ≤ i, w.units[j].path = w.units[i].path ∧
      (∀ k, (hk : k < j) → w.units[k].path ≠ w.units[i].path) ∧
      w.load w.units[i].path = w.units[j].content := by
  obtain ⟨v, hv⟩ := exists_find? (List.getElem_mem hi)
  obtain ⟨-, j, hj, rfl, hbefore⟩ := List.find?_eq_some_iff_getElem.mp hv
  have hfirst : ∀ k, (hk : k < j) → w.units[k].path ≠ w.units[i].path := by
    intro k hk hsame
    have hother := hbefore k hk
    rw [decide_eq_true hsame] at hother
    cases hother
  -- the unit itself has the path, so the search does not go past it
  have hle : j ≤ i := Nat.le_of_not_lt fun hlt => hfirst i hlt rfl
  exact ⟨j, hle, path_of_find? hv, hfirst, load_of_find? hv⟩

/-- Where no two units have the same path, every unit is loaded as itself. -/
theorem load_of_nodup (h : (w.units.map (·.path)).Nodup) (hu : u ∈ w.units) :
    w.load u.path = u.content := by
  obtain ⟨v, hv⟩ := exists_find? hu
  obtain rfl : v = u :=
    List.inj_on_of_nodup_map h (List.mem_of_find?_eq_some hv) hu (path_of_find? hv)
  exact load_of_find? hv

/-! ### Loading all units -/

/-- The units are listed in order, if they can be listed. -/
theorem paths_of_enumerate {paths : List String} (h : w.source.enumerate = .ok paths) :
    paths = w.units.map (·.path) := by
  change w.enumerate = _ at h
  rw [enumerate] at h
  split at h
  · cases h
  · cases h
    rfl

/-- A workspace answers the same whatever was asked before. -/
theorem attemptsFrom_source (w : Workspace) (earlier : Nat) (paths : List String) :
    w.source.attemptsFrom earlier paths =
      paths.map fun path => (path, { result := w.load path }) := by
  induction paths generalizing earlier with
  | nil => rfl
  | cons path paths ih =>
    rw [Source.attemptsFrom, ih, List.map_cons]
    rfl

theorem loadedUnits_source (w : Workspace) (earlier : Nat) (paths : List String) :
    loadedUnits (w.source.attemptsFrom earlier paths) =
      paths.filterMap fun path => (w.load path).toOption := by
  rw [attemptsFrom_source, loadedUnits, List.filterMap_map]
  refine List.filterMap_congr fun path _ => ?_
  cases hload : w.load path with
  | ok l => simp only [Function.comp_apply, hload, Except.toOption]
  | error e => simp only [Function.comp_apply, hload, Except.toOption]

/-- The failure to load the unit at a path. -/
def failure? (w : Workspace) (path : String) : Option (String × SourceError) :=
  match w.load path with
  | .ok _ => none
  | .error e => some (path, e)

theorem path_of_failure? {f : String × SourceError} (h : w.failure? path = some f) :
    f.1 = path := by
  rw [failure?] at h
  split at h
  · cases h
  · cases h
    rfl

theorem failedLoads_source (w : Workspace) (earlier : Nat) (paths : List String) :
    failedLoads (w.source.attemptsFrom earlier paths) = paths.filterMap w.failure? := by
  rw [attemptsFrom_source, failedLoads, List.filterMap_map]
  rfl

/-- A workspace does not cancel a run. -/
theorem any_cancels_source (w : Workspace) (earlier : Nat) (paths : List String) :
    (w.source.attemptsFrom earlier paths).any (·.2.cancels) = false := by
  refine List.any_eq_false.mpr fun a ha => ?_
  rw [attemptsFrom_source] at ha
  obtain ⟨path, -, rfl⟩ := List.mem_map.mp ha
  exact Bool.false_ne_true

/-! ### What a run sees of a workspace -/

/-- The units that can be loaded, each as itself. -/
def readable (w : Workspace) : List LoadedUnit :=
  w.units.filterMap fun u => u.content.toOption

/-- The units that cannot be loaded, with their reasons, as they are reported. -/
def unreadable (w : Workspace) : List SkippedUnit :=
  w.units.filterMap fun u => u.unreadable.map fun reason =>
    { path := u.path, reason := (SourceError.unreadable u.path reason).message }

/-- All that can be loaded of a workspace. -/
def contents (w : Workspace) : LoadedModel where
  sourceId := w.sourceId
  units := w.readable
  packages := w.packages

theorem modelFrom_of_nodup (h : (w.units.map (·.path)).Nodup) (earlier : Nat) :
    w.source.modelFrom earlier (w.units.map (·.path)) = w.contents := by
  have hunits :
      loadedUnits (w.source.attemptsFrom earlier (w.units.map (·.path))) = w.readable := by
    rw [loadedUnits_source, List.filterMap_map, readable]
    refine List.filterMap_congr fun u hu => ?_
    rw [Function.comp_apply, load_of_nodup h hu]
  rw [Source.modelFrom, hunits]
  rfl

theorem skipped_of_nodup (h : (w.units.map (·.path)).Nodup) (earlier : Nat) :
    (failedLoads (w.source.attemptsFrom earlier (w.units.map (·.path)))).map
      (fun f => ({ path := f.1, reason := f.2.message } : SkippedUnit)) = w.unreadable := by
  rw [failedLoads_source, List.map_filterMap, List.filterMap_map, unreadable]
  refine List.filterMap_congr fun u hu => ?_
  rw [Function.comp_apply, failure?, load_of_nodup h hu, StoredUnit.content]
  cases u.unreadable with
  | some reason => rfl
  | none => rfl

end Code.Workspace

/-- **What is loaded from a workspace.** Every handle leads to the first unit with
its path. If no two units have the same path, every unit is therefore loaded as itself,
and a run that nobody cancels completes, shows every rule exactly the units that can be
loaded, each once, and skips exactly those that cannot. -/
theorem workspace_loading (w : Workspace) (havailable : w.unavailable = none) :
    w.enumerate = .ok (w.units.map (·.path)) ∧
    (∀ i, (hi : i < w.units.length) → ∃ j, ∃ hj : j ≤ i, w.units[j].path = w.units[i].path ∧
      (∀ k, (hk : k < j) → w.units[k].path ≠ w.units[i].path) ∧
      w.load w.units[i].path = w.units[j].content) ∧
    ((w.units.map (·.path)).Nodup →
      (∀ u ∈ w.units, w.load u.path = u.content) ∧
      ∀ (e : Engine) (clock : Clock) (attempts : Nat),
        (∀ rule ∈ e.rules, rule.cancels w.contents = false) →
        ∃ out final,
          (e.run w.source clock).run { cancelled := false, attempts } = (.ok out, final) ∧
          final.analyses.Perm ((List.range e.rules.length).map fun index => (index, w.contents)) ∧
          out.unitsScanned = w.readable.length ∧ out.skippedUnits = w.unreadable) := by
  have henum : w.enumerate = .ok (w.units.map (·.path)) := by
    rw [Workspace.enumerate, havailable]
  refine ⟨henum, fun i hi => Workspace.load_eq_first hi, fun hpaths => ?_⟩
  refine ⟨fun u hu => Workspace.load_of_nodup hpaths hu, ?_⟩
  intro e clock attempts hquiet
  have hends : endsCancelled e.rules w.source { cancelled := false, attempts }
      (w.units.map (·.path)) = false := by
    rw [endsCancelled, w.any_cancels_source, Workspace.modelFrom_of_nodup hpaths]
    exact List.any_eq_false.mpr fun rule hrule => by
      rw [hquiet rule hrule]
      exact Bool.false_ne_true
  have haccounts := e.outputOf_accounts w.source clock false attempts _ hends
  refine ⟨_, _, e.run_of_quiet w.source clock rfl henum hends, ?_, ?_, ?_⟩
  · rw [← Workspace.modelFrom_of_nodup hpaths attempts]
    exact haccounts.analyses
  · rw [haccounts.scanned]
    exact congrArg (·.units.length) (Workspace.modelFrom_of_nodup hpaths attempts)
  · rw [haccounts.skipped, Workspace.skipped_of_nodup hpaths]

/-- A workspace of two units at different paths, the second of which cannot be loaded. -/
def twoPaths : Workspace where
  sourceId := "two paths"
  units :=
    [{ path := "a.cs", root := { kind := .compilationUnit, line := 1 } },
     { path := "b.cs", root := { kind := .compilationUnit, line := 1 }
       unreadable := some "locked" }]

theorem workspace_loading_twoPaths :
    let e : Engine := { rules := [everywhere, crashing], settings := {} }
    twoPaths.unavailable = none ∧ (twoPaths.units.map (·.path)).Nodup ∧
      ∃ out final,
        (e.run twoPaths.source epoch).run { cancelled := false } = (.ok out, final) ∧
        final.analyses.Perm [(0, twoPaths.contents), (1, twoPaths.contents)] ∧
        out.unitsScanned = 1 ∧
        out.skippedUnits = [{ path := "b.cs", reason := "failed to read b.cs: locked" }] := by
  intro e
  have hpaths : (twoPaths.units.map (·.path)).Nodup := by decide
  obtain ⟨-, -, hdistinct⟩ := workspace_loading twoPaths rfl
  obtain ⟨-, hruns⟩ := hdistinct hpaths
  obtain ⟨out, final, hrun, hanalyses, hscanned, hskipped⟩ := hruns e epoch 0 (by
    simp only [e, List.forall_mem_cons]
    exact ⟨rfl, rfl, fun _ h => absurd h List.not_mem_nil⟩)
  exact ⟨rfl, hpaths, out, final, hrun, hanalyses, hscanned, hskipped⟩

/-- A workspace of two units at one path, the second of which cannot be loaded. -/
def onePath : Workspace where
  sourceId := "one path"
  units :=
    [{ path := "a.cs", root := { kind := .compilationUnit, line := 1 } },
     { path := "a.cs", root := { kind := .compilationUnit, line := 1 }
       unreadable := some "locked" }]

/-- **Not every unit is loaded as itself**: the second of two units at one path is passed over,
and a run scans the first one twice and skips nothing. -/
theorem workspace_shadowed_unit :
    (¬∀ w : Workspace, w.unavailable = none → ∀ i, (hi : i < w.units.length) →
      w.load w.units[i].path = w.units[i].content) ∧
    onePath.unavailable = none ∧ onePath.readable.length = 1 ∧
      onePath.unreadable = [{ path := "a.cs", reason := "failed to read a.cs: locked" }] ∧
      ∃ out final,
        (Engine.run { rules := [], settings := {} } onePath.source epoch).run
          { cancelled := false } = (.ok out, final) ∧
        out.unitsScanned = 2 ∧ out.skippedUnits = [] := by
  refine ⟨fun hall => ?_, rfl, rfl, by decide, _, _, rfl, rfl, rfl⟩
  have hsecond := hall onePath rfl 1 (by decide)
  cases hsecond

end PlatformAudit
