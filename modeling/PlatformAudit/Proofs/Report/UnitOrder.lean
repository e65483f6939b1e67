import PlatformAudit.Proofs.Code.Workspace
import PlatformAudit.Proofs.Report.Filtering
import PlatformAudit.Proofs.Rule.Builtin
import PlatformAudit.Proofs.Run.Endings

/-!
# The order of the units does not show

A workspace lists its units in an order, they are loaded in that order, and every rule
looks at them in that order, so the raw output of a run depends on it. The report of the
built-in rules does not, as long as no two units have the same path. Its order leaves out
much of a finding, but never the file. So findings that tie are in one file, and those of
one rule that are in one file come from one unit or from the packages, and both of these
give them in an order of their own.

Units are known by their paths here: a run that begins with a list of paths loads by path
(`PlatformAudit.Code.Workspace.load_of_perm`), so what a run gathers, it gathers path by
path, and the order of paths does not matter to what is in one file
(`PlatformAudit.filter_flatMap_perm`).
-/

namespace PlatformAudit

open Code

/-! ### Loading -/

namespace Code.Workspace

variable {w : Workspace} {units' : List StoredUnit}

/-- A workspace with other units. -/
def withUnits (w : Workspace) (units' : List StoredUnit) : Workspace :=
  { w with units := units' }

theorem enumerate_of_unavailable {reason : String} (h : w.unavailable = some reason) :
    w.source.enumerate = .error (.unavailable reason) := by
  change w.enumerate = _
  rw [enumerate, h]

theorem enumerate_of_available (h : w.unavailable = none) :
    w.source.enumerate = .ok (w.units.map (·.path)) := by
  change w.enumerate = _
  rw [enumerate, h]

/-- Where no two units have the same path, the order of the units does not matter to loading. -/
theorem load_of_perm (hpaths : (w.units.map (·.path)).Nodup) (hperm : w.units.Perm units') :
    (w.withUnits units').load = w.load := by
  have hpaths' : (units'.map (·.path)).Nodup := (hperm.map (·.path)).nodup_iff.mp hpaths
  funext path
  cases hfind : w.units.find? (·.path = path) with
  | some u =>
    have hu : u ∈ w.units := List.mem_of_find?_eq_some hfind
    rw [← path_of_find? hfind, load_of_nodup hpaths hu]
    exact load_of_nodup (w := w.withUnits units') hpaths' (hperm.mem_iff.mp hu)
  | none =>
    have hnone : (w.withUnits units').units.find? (·.path = path) = none := by
      rw [List.find?_eq_none] at hfind ⊢
      exact fun u hu => hfind u (hperm.mem_iff.mpr hu)
    rw [load, load, hfind, hnone]

/-- What the rules look at is gathered path by path. -/
theorem units_modelFrom (w : Workspace) (earlier : Nat) (paths : List String) :
    (w.source.modelFrom earlier paths).units =
      paths.filterMap fun path => (w.load path).toOption :=
  loadedUnits_source w earlier paths

theorem failure?_of_perm (hpaths : (w.units.map (·.path)).Nodup) (hperm : w.units.Perm units') :
    (w.withUnits units').failure? = w.failure? := by
  funext path
  rw [failure?, failure?, load_of_perm hpaths hperm]

end Code.Workspace

/-! ### Gathering -/

section Gathering

variable {paths paths' : List String}

/-- What is gathered from paths and bears them does not depend on the order of the paths, as far
as it has its path in common. -/
theorem filter_paths_perm {α : Type} {entries : String → List α} {label : α → String}
    {p : α → Bool} (hperm : paths.Perm paths') (hpaths : paths.Nodup)
    (hlabel : ∀ path, ∀ x ∈ entries path, label x = path)
    (hp : ∀ x y, p x = true → p y = true → label x = label y) :
    (paths.flatMap entries).filter p = (paths'.flatMap entries).filter p := by
  have hnames : (paths.map id).Nodup := by rwa [List.map_id]
  exact filter_flatMap_perm hperm hnames (fun path _ => hlabel path) hp

/-- What is made of items that are gathered one by one is gathered one by one. -/
theorem map_filterMap_eq_flatMap {α β : Type} (g : String → Option α) (make : α → β)
    (paths : List String) :
    (paths.filterMap g).map make = paths.flatMap fun path => (g path).toList.map make := by
  rw [List.filterMap_eq_flatMap_toList, List.map_flatMap]

variable {w : Workspace} {m m' : LoadedModel} {p : Finding → Bool}

/-- **What a rule finds in one file** does not depend on the order of the units. -/
theorem ItemRule.filter_found_perm (i : ItemRule) (hperm : paths.Perm paths')
    (hpaths : paths.Nodup) (hunits : m.units = paths.filterMap fun path => (w.load path).toOption)
    (hunits' : m'.units = paths'.filterMap fun path => (w.load path).toOption)
    (hpackages : m'.packages = m.packages)
    (hp : ∀ f g, p f = true → p g = true → f.file = g.file) :
    (i.rule.found m).filter p = (i.rule.found m').filter p := by
  have hgathered : ∀ paths : List String,
      (paths.filterMap fun path => (w.load path).toOption).flatMap i.inUnit =
        paths.flatMap fun path => (w.load path).toOption.toList.flatMap i.inUnit := by
    intro paths
    rw [List.filterMap_eq_flatMap_toList, List.flatMap_assoc]
  have hlabel : ∀ path, ∀ f ∈ (w.load path).toOption.toList.flatMap i.inUnit, f.file = path := by
    intro path f hf
    obtain ⟨l, hl, hf⟩ := List.mem_flatMap.mp hf
    rw [(i.makes_inUnit l f hf).file_eq, Workspace.path_of_load (Option.mem_toList.mp hl)]
  rw [i.found_eq, i.found_eq, hunits, hunits', hpackages, hgathered, hgathered,
    List.filter_append, List.filter_append, filter_paths_perm hperm hpaths hlabel hp]

end Gathering

/-! ### Reports -/

section Reports

variable {w : Workspace} {units' : List StoredUnit} {p : Finding → Bool}

/-- Rules that look at units and packages one by one leave a run over a workspace alone. -/
theorem endsCancelled_items (items : List ItemRule) (w : Workspace) (s : RunState)
    (paths : List String) : endsCancelled (items.map (·.rule)) w.source s paths = s.cancelled := by
  have hrules : (items.map (·.rule)).any
      (Rule.cancels (w.source.modelFrom s.attempts paths)) = false := by
    rw [List.any_map]
    refine List.any_eq_false.mpr fun i _ => ?_
    rw [Function.comp_apply, i.cancels_eq_false]
    exact Bool.false_ne_true
  rw [endsCancelled, hrules, w.any_cancels_source, Bool.or_false, Bool.or_false]

/-- What rules find in one file does not depend on the order of the units. -/
theorem filter_found_perm (items : List ItemRule) (hpaths : (w.units.map (·.path)).Nodup)
    (hperm : w.units.Perm units') (hp : ∀ f g, p f = true → p g = true → f.file = g.file)
    (earlier : Nat) :
    ((items.map (·.rule)).flatMap
        (Rule.found (w.source.modelFrom earlier (w.units.map (·.path))))).filter p =
      ((items.map (·.rule)).flatMap
        (Rule.found ((w.withUnits units').source.modelFrom earlier
          (units'.map (·.path))))).filter p := by
  rw [List.filter_flatMap, List.filter_flatMap]
  refine List.flatMap_congr fun rule hrule => ?_
  obtain ⟨i, -, rfl⟩ := List.mem_map.mp hrule
  refine i.filter_found_perm (hperm.map (·.path)) hpaths (w.units_modelFrom earlier _) ?_ rfl hp
  rw [Workspace.units_modelFrom, Workspace.load_of_perm hpaths hperm]

/-- Nor does the advice on units in one file. -/
theorem filter_advice_perm (advise : Bool) (hpaths : (w.units.map (·.path)).Nodup)
    (hperm : w.units.Perm units') (hp : ∀ f g, p f = true → p g = true → f.file = g.file)
    (earlier : Nat) :
    (Loading.after {} advise (w.source.attemptsFrom earlier (w.units.map (·.path)))).advice.filter
        p =
      (Loading.after {} advise ((w.withUnits units').source.attemptsFrom earlier
        (units'.map (·.path)))).advice.filter p := by
  cases advise with
  | false => rfl
  | true =>
    simp only [Loading.after, List.nil_append, if_true, Workspace.failedLoads_source,
      Workspace.failure?_of_perm hpaths hperm, map_filterMap_eq_flatMap]
    refine filter_paths_perm (hperm.map (·.path)) hpaths (fun path f hf => ?_) hp
    obtain ⟨failed, hfailed, rfl⟩ := List.mem_map.mp hf
    exact Workspace.path_of_failure? (Option.mem_toList.mp hfailed)

/-- **Sorted findings do not depend on the order of the units.** -/
theorem sort_findings_perm (items : List ItemRule) (advise : Bool) (filter : Filter)
    (hpaths : (w.units.map (·.path)).Nodup) (hperm : w.units.Perm units') (earlier : Nat) :
    Finding.sort (filter.apply
        ((Loading.after {} advise (w.source.attemptsFrom earlier (w.units.map (·.path)))).advice ++
          (items.map (·.rule)).flatMap
            (Rule.found (w.source.modelFrom earlier (w.units.map (·.path)))))) =
      Finding.sort (filter.apply
        ((Loading.after {} advise ((w.withUnits units').source.attemptsFrom earlier
            (units'.map (·.path)))).advice ++
          (items.map (·.rule)).flatMap
            (Rule.found ((w.withUnits units').source.modelFrom earlier
              (units'.map (·.path)))))) := by
  refine sortBy_congr fun a => ?_
  -- findings that tie with `a` are in its file
  have hp : ∀ f g, (Finding.order a f == .eq && filter.keeps f) = true →
      (Finding.order a g == .eq && filter.keeps g) = true → f.file = g.file := by
    intro f g hf hg
    simp only [Bool.and_eq_true, beq_iff_eq, Finding.order_eq_iff] at hf hg
    exact hf.1.1.symm.trans hg.1.1
  simp only [classOf, Filter.apply, List.filter_append, List.filter_filter]
  rw [filter_advice_perm advise hpaths hperm hp, filter_found_perm items hpaths hperm hp]

/-- **Skipped units in order do not depend on the order of the units.** -/
theorem sort_skipped_perm (advise : Bool) (hpaths : (w.units.map (·.path)).Nodup)
    (hperm : w.units.Perm units') (earlier : Nat) :
    SkippedUnit.sort
        (Loading.after {} advise (w.source.attemptsFrom earlier (w.units.map (·.path)))).skipped =
      SkippedUnit.sort
        (Loading.after {} advise ((w.withUnits units').source.attemptsFrom earlier
          (units'.map (·.path)))).skipped := by
  refine sortBy_congr fun a => ?_
  simp only [Loading.after, List.nil_append, Workspace.failedLoads_source,
    Workspace.failure?_of_perm hpaths hperm, map_filterMap_eq_flatMap]
  have hlabel : ∀ path, ∀ u ∈ (w.failure? path).toList.map
      fun failed => ({ path := failed.1, reason := failed.2.message } : SkippedUnit),
      u.path = path := by
    intro path u hu
    obtain ⟨failed, hfailed, rfl⟩ := List.mem_map.mp hu
    exact Workspace.path_of_failure? (Option.mem_toList.mp hfailed)
  refine filter_paths_perm (hperm.map (·.path)) hpaths hlabel fun u v hu hv => ?_
  simp only [beq_iff_eq, Std.LawfulEqOrd.compare_eq_iff_eq] at hu hv
  exact hu.symm.trans hv

/-- As many units are loaded in one order as in another. -/
theorem length_units_perm (hpaths : (w.units.map (·.path)).Nodup) (hperm : w.units.Perm units')
    (earlier : Nat) :
    (w.source.modelFrom earlier (w.units.map (·.path))).units.length =
      ((w.withUnits units').source.modelFrom earlier (units'.map (·.path))).units.length := by
  rw [Workspace.units_modelFrom, Workspace.units_modelFrom, Workspace.load_of_perm hpaths hperm]
  exact ((hperm.map (·.path)).filterMap _).length_eq

end Reports

/-- **The order of the units does not show in a report.** The units of a workspace, if no two have
the same path, may be stored in any order: a run of the built-in rules returns the same error or
the same report, the time aside. -/
theorem audit_eq_of_units_perm (tables : Catalog.Tables) (settings : Settings) {w : Workspace}
    {units' : List StoredUnit} (hpaths : (w.units.map (·.path)).Nodup)
    (hperm : w.units.Perm units') (clock clock' : Clock)
    (schedule schedule' : (total : Nat) → Schedule total) (cancelled : Bool) (attempts : Nat) :
    let start : RunState := { cancelled, attempts }
    ((audit w.source tables settings clock schedule).run start).1.map (Report.onClock clock') =
      ((audit (w.withUnits units').source tables settings clock' schedule').run start).1 := by
  intro start
  unfold audit
  cases hrules : Registry.builtin tables with
  | error text => rfl
  | ok rules =>
    obtain ⟨items, rfl, -⟩ := Registry.builtin_items hrules
    refine Engine.audit_fst_congr rfl rfl ?_
    -- whether the units can be listed does not depend on which they are
    cases havailable : w.unavailable with
    | some reason =>
      exact Or.inl ⟨_, Workspace.enumerate_of_unavailable havailable,
        Workspace.enumerate_of_unavailable (w := w.withUnits units') havailable⟩
    | none =>
      refine Or.inr ⟨_, _, Workspace.enumerate_of_available havailable,
        Workspace.enumerate_of_available (w := w.withUnits units') havailable, ?_, fun filter => ?_⟩
      · rw [endsCancelled_items, endsCancelled_items]
      · simp only [RunOutput.report, Engine.outputOf, ItemRule.flatMap_failures]
        rw [sort_findings_perm items _ filter hpaths hperm, sort_skipped_perm _ hpaths hperm,
          length_units_perm hpaths hperm]
        rfl

/-- A workspace with a path in a literal of each of two units, and with a unit that cannot be
loaded. -/
def threeFiles : Workspace :=
  { lockedUnit with
    units := lockedUnit.units ++
      [{ path := "src/c.cs"
         root :=
          { kind := .compilationUnit, line := 1
            children := [{ kind := .stringLiteral, line := 3, text := some "C:/logs" }] } }] }

/-- In the reverse order the rules find the same in another order, and the report is the same. -/
theorem audit_eq_of_units_perm_threeFiles :
    let reversed := threeFiles.withUnits threeFiles.units.reverse
    (threeFiles.units.map (·.path)).Nodup ∧
      plainTables.rules.flatMap (Rule.found threeFiles.contents) ≠
        plainTables.rules.flatMap (Rule.found reversed.contents) ∧
      ((audit threeFiles.source plainTables {} epoch).run { cancelled := false }).1.isOk = true ∧
      ((audit threeFiles.source plainTables {} epoch).run { cancelled := false }).1.map
          (Report.onClock epoch) =
        ((audit reversed.source plainTables {} epoch).run { cancelled := false }).1 := by
  intro reversed
  have hpaths : (threeFiles.units.map (·.path)).Nodup := by decide
  have hperm : threeFiles.units.Perm threeFiles.units.reverse :=
    (List.reverse_perm threeFiles.units).symm
  exact ⟨hpaths, by decide +kernel, by decide +kernel,
    audit_eq_of_units_perm plainTables {} hpaths hperm epoch epoch Schedule.inOrder
      Schedule.inOrder false 0⟩

end PlatformAudit
