import Mathlib.Data.List.Basic
import PlatformAudit.Proofs.Report.Registration

/-!
# What the built-in rules are made of

The eighteen built-in rules are built in four different ways, but from outside they
are all alike. Each looks at the units and at the packages one by one, and what it
finds in a unit or a package depends on nothing else: not on the other units, not on
the other rules, not on what the rule found before. It never fails and never cancels
a run, and it makes its findings from its own description, in the file of the unit or
the file that declares the package. A rule of this kind is an
`PlatformAudit.ItemRule`; the structure holds the proof.

`PlatformAudit.Registry.builtin_items` says that the built-in rules are of this kind,
whatever the tables, and which description each of them has. What follows about runs
of built-in rules is derived from this and not from the rules.
-/

namespace PlatformAudit

open Code Detect

/-! ### Rules that look at units and packages one by one -/

/-- The findings that a rule with a description can make in a file. -/
def RuleInfo.Makes (info : RuleInfo) (file : String) (f : Finding) : Prop :=
  ∃ line message recommendation, f = info.finding file line message recommendation

theorem RuleInfo.Makes.ruleId_eq {info : RuleInfo} {file : String} {f : Finding}
    (h : info.Makes file f) : f.ruleId = info.id := by
  obtain ⟨line, message, recommendation, rfl⟩ := h
  rfl

theorem RuleInfo.Makes.file_eq {info : RuleInfo} {file : String} {f : Finding}
    (h : info.Makes file f) : f.file = file := by
  obtain ⟨line, message, recommendation, rfl⟩ := h
  rfl

/-- **A rule that looks at units and packages one by one.** -/
structure ItemRule where
  rule : Rule
  info : RuleInfo
  /-- What the rule finds in a unit. -/
  inUnit : LoadedUnit → List Finding
  /-- What the rule finds in a package. -/
  inPackage : Package → List Finding
  id_eq : rule.id = info.id
  /-- In a run that is not cancelled the rule ends with what it finds, and leaves the run alone. -/
  analyze_eq : ∀ model, rule.analyze model false =
    (.done { findings := model.units.flatMap inUnit ++ model.packages.flatMap inPackage }, false)
  /-- In a run that is cancelled the rule finds nothing. -/
  analyze_cancelled : ∀ model outcome, (rule.analyze model true).1 = .done outcome →
    outcome.findings = []
  makes_inUnit : ∀ u, ∀ f ∈ inUnit u, info.Makes u.unit.path f
  makes_inPackage : ∀ p, ∀ f ∈ inPackage p, info.Makes p.declaredIn f

namespace ItemRule

variable (i : ItemRule)

theorem cancels_eq_false (model : LoadedModel) : i.rule.cancels model = false := by
  rw [Rule.cancels, i.analyze_eq]

theorem found_eq (model : LoadedModel) :
    i.rule.found model = model.units.flatMap i.inUnit ++ model.packages.flatMap i.inPackage := by
  rw [Rule.found, Rule.verdict, i.analyze_eq]
  rfl

theorem failures_eq (model : LoadedModel) : i.rule.failures model = [] := by
  rw [Rule.failures, Rule.verdict, i.analyze_eq]
  rfl

/-- Rules of this kind do not fail. -/
theorem flatMap_failures (items : List ItemRule) (model : LoadedModel) :
    (items.map (·.rule)).flatMap (Rule.failures model) = [] := by
  refine List.flatMap_eq_nil_iff.mpr fun rule hrule => ?_
  obtain ⟨i, -, rfl⟩ := List.mem_map.mp hrule
  exact i.failures_eq model

theorem labelsFindings : i.rule.LabelsFindings := by
  intro model cancelled outcome houtcome f hf
  cases cancelled with
  | true =>
    rw [i.analyze_cancelled model outcome houtcome] at hf
    exact absurd hf List.not_mem_nil
  | false =>
    rw [i.analyze_eq] at houtcome
    cases houtcome
    rw [i.id_eq]
    rcases List.mem_append.mp hf with hf | hf
    · obtain ⟨u, -, hf⟩ := List.mem_flatMap.mp hf
      exact (i.makes_inUnit u f hf).ruleId_eq
    · obtain ⟨p, -, hf⟩ := List.mem_flatMap.mp hf
      exact (i.makes_inPackage p f hf).ruleId_eq

end ItemRule

/-- Where nothing is found anywhere, nothing is found. -/
theorem flatMap_nothing {α β : Type} (xs : List α) : xs.flatMap (fun _ => ([] : List β)) = [] :=
  List.flatMap_eq_nil_iff.mpr fun _ _ => rfl

/-! ### Rules that look at units only -/

/-- Looking at units one after the other, without a failure and without a cancellation, gathers
what is found in each. -/
theorem scanUnits_of_quiet (find : LoadedUnit → List Finding) (units : List LoadedUnit) :
    scanUnits (fun u => { findings := find u }) units false =
      (.done { findings := units.flatMap find }, false) := by
  induction units with
  | nil => rfl
  | cons u us ih =>
    rw [scanUnits, ih]
    rfl

/-- In a cancelled run no unit is looked at. -/
theorem scanUnits_cancelled {inspect : LoadedUnit → Inspection} {units : List LoadedUnit}
    {outcome : Outcome} (h : (scanUnits inspect units true).1 = .done outcome) :
    outcome.findings = [] := by
  cases units with
  | nil =>
    cases h
    rfl
  | cons u us => cases h

/-- A rule that looks at one unit after the other. -/
def ItemRule.ofUnits (info : RuleInfo) (find : LoadedUnit → List Finding)
    (makes : ∀ u, ∀ f ∈ find u, info.Makes u.unit.path f) : ItemRule where
  rule := info.unitRule find
  info
  inUnit := find
  inPackage _ := []
  id_eq := rfl
  analyze_eq model := by
    rw [flatMap_nothing, List.append_nil]
    exact scanUnits_of_quiet find model.units
  analyze_cancelled model outcome h := scanUnits_cancelled h
  makes_inUnit := makes
  makes_inPackage _ _ h := absurd h List.not_mem_nil

/-- A rule that looks at units only. -/
def ItemRule.OnUnits (i : ItemRule) : Prop :=
  ∃ info find makes, i = .ofUnits info find makes

/-- A rule that reports the hits of a detector. -/
def ItemRule.detection (r : DetectionRule) : ItemRule :=
  .ofUnits r.info r.findings fun u f hf => by
    obtain ⟨hit, -, rfl⟩ := List.mem_map.mp hf
    exact ⟨_, _, _, rfl⟩

theorem NativeInterop.makes_of_finding? {attributes libraries : List String} {file : String}
    {owner attr : Node} {f : Finding}
    (h : NativeInterop.finding? attributes libraries file owner attr = some f) :
    NativeInterop.info.Makes file f := by
  rw [NativeInterop.finding?] at h
  obtain ⟨name, -, h⟩ := Option.bind_eq_some_iff.mp h
  obtain ⟨library, -, h⟩ := Option.bind_eq_some_iff.mp h
  cases hlisted : NativeInterop.isListed libraries library with
  | false =>
    rw [hlisted] at h
    cases h
  | true =>
    rw [hlisted] at h
    cases h
    exact ⟨_, _, _, rfl⟩

/-- The rule about calls into native libraries. -/
def ItemRule.nativeInterop (attributes libraries : List String) : ItemRule :=
  .ofUnits NativeInterop.info (NativeInterop.findings attributes libraries) fun u f hf => by
    obtain ⟨⟨owner, attr⟩, -, hf⟩ := List.mem_filterMap.mp hf
    exact NativeInterop.makes_of_finding? hf

/-- The rule about session state in memory. What it decides for a unit as a whole, it decides by
that unit alone. -/
def ItemRule.sessionStore (inMemory persistent : List String) : ItemRule :=
  .ofUnits SessionStore.info (SessionStore.findings inMemory persistent) fun u f hf => by
    rw [SessionStore.findings] at hf
    split at hf
    · exact absurd hf List.not_mem_nil
    · obtain ⟨call, -, rfl⟩ := List.mem_map.mp hf
      exact ⟨_, _, _, rfl⟩

theorem ItemRule.onUnits_detection (r : DetectionRule) : (ItemRule.detection r).OnUnits :=
  ⟨_, _, _, rfl⟩

theorem ItemRule.onUnits_nativeInterop (attributes libraries : List String) :
    (ItemRule.nativeInterop attributes libraries).OnUnits :=
  ⟨_, _, _, rfl⟩

theorem ItemRule.onUnits_sessionStore (inMemory persistent : List String) :
    (ItemRule.sessionStore inMemory persistent).OnUnits :=
  ⟨_, _, _, rfl⟩

/-! ### The rule that looks at packages -/

theorem LegacyPackages.makes_of_finding? {banned : List Catalog.BannedPackage} {p : Package}
    {f : Finding} (h : LegacyPackages.finding? banned p = some f) :
    LegacyPackages.info.Makes p.declaredIn f := by
  obtain ⟨b, -, rfl⟩ := Option.map_eq_some_iff.mp h
  exact ⟨_, _, _, rfl⟩

/-- The rule about banned packages. -/
def ItemRule.legacyPackages (banned : List Catalog.BannedPackage) : ItemRule where
  rule := LegacyPackages.rule banned
  info := LegacyPackages.info
  inUnit _ := []
  inPackage p := (LegacyPackages.finding? banned p).toList
  id_eq := rfl
  analyze_eq model := by
    rw [flatMap_nothing, List.nil_append, ← List.filterMap_eq_flatMap_toList]
    rfl
  analyze_cancelled _ _ h := by cases h
  makes_inUnit _ _ h := absurd h List.not_mem_nil
  makes_inPackage p f hf := LegacyPackages.makes_of_finding? (Option.mem_toList.mp hf)

/-! ### The built-in rules -/

/-- The descriptions of the built-in rules, in order. -/
def Builtin.infos : List RuleInfo :=
  [platformInfo "WIN001" "Windows-only namespace" .high,
    NativeInterop.info,
    platformInfo "WIN003" "Windows-only type" .high,
    platformInfo "WIN004" "Windows conditional compilation" .medium,
    platformInfo "WIN005" "Derives from Windows-only base type" .high,
    platformInfo "WIN006" "COM interop attribute" .medium,
    filesystemInfo "FS001" "Hardcoded absolute path" .high,
    filesystemInfo "FS002" "Hardcoded UNC path" .high,
    filesystemInfo "FS003" "Windows environment variable token" .medium,
    filesystemInfo "FS004" "Backslash path separator" .low,
    securityInfo "SEC001" "Windows identity or impersonation" .high,
    securityInfo "SEC002" "Password embedded in connection string" .high,
    securityInfo "SEC003" "Windows integrated authentication in connection string" .medium,
    { id := "CFG001", name := "Legacy configuration API", category := .configuration
      severity := .medium },
    SessionStore.info,
    LegacyPackages.info,
    dependencyInfo "DEP002" "Legacy framework namespace" .medium,
    dependencyInfo "DEP003" "Legacy service contract attribute" .medium]

theorem exists_of_bind_eq_ok {ε α β : Type} {x : Except ε α} {f : α → Except ε β} {b : β}
    (h : (x >>= f) = .ok b) : ∃ a, x = .ok a ∧ f a = .ok b := by
  cases x with
  | error e => cases h
  | ok a => exact ⟨a, rfl, h⟩

/-- A rule about literals has the same description whatever its patterns are. -/
theorem info_of_literalRule {ε : Type} {x : Except ε LiteralPatterns}
    {make : LiteralPatterns → DetectionRule} {r : DetectionRule} {info : RuleInfo}
    (h : (x >>= fun patterns => pure (make patterns)) = .ok r)
    (hmake : ∀ patterns, (make patterns).info = info) : r.info = info := by
  obtain ⟨patterns, -, h⟩ := exists_of_bind_eq_ok h
  cases h
  exact hmake patterns

/-- **What the built-in rules look at**: one of them looks at packages, and all others look at
units only. Each has the description that is declared for it, whatever the tables. -/
theorem Registry.builtin_split {t : Catalog.Tables} {rules : Registry}
    (h : Registry.builtin t = .ok rules) :
    ∃ before after : List ItemRule,
      (before ++ .legacyPackages t.bannedPackages :: after).map (·.rule) = rules ∧
      (before ++ .legacyPackages t.bannedPackages :: after).map (·.info) = Builtin.infos ∧
      ∀ i ∈ before ++ after, i.OnUnits := by
  obtain ⟨absolutePath, habsolute, h⟩ := exists_of_bind_eq_ok h
  obtain ⟨sharePath, hshare, h⟩ := exists_of_bind_eq_ok h
  obtain ⟨environmentToken, henvironment, h⟩ := exists_of_bind_eq_ok h
  obtain ⟨backslashSeparator, hbackslash, h⟩ := exists_of_bind_eq_ok h
  obtain ⟨embeddedPassword, hpassword, h⟩ := exists_of_bind_eq_ok h
  obtain ⟨integratedSecurity, hsecurity, h⟩ := exists_of_bind_eq_ok h
  cases h
  refine ⟨[.detection (Builtin.windowsNamespace t),
    .nativeInterop t.interopAttributes t.nativeLibraries, .detection (Builtin.windowsType t),
    .detection (Builtin.platformDirective t), .detection (Builtin.platformBaseType t),
    .detection (Builtin.comInterop t), .detection absolutePath, .detection sharePath,
    .detection environmentToken, .detection backslashSeparator,
    .detection (Builtin.windowsIdentity t), .detection embeddedPassword,
    .detection integratedSecurity, .detection (Builtin.legacyConfiguration t),
    .sessionStore t.inMemorySessionMarkers t.persistentStoreMarkers],
    [.detection (Builtin.legacyNamespace t), .detection (Builtin.legacyService t)], rfl, ?_, ?_⟩
  · have habsolute : absolutePath.info = _ := info_of_literalRule habsolute fun _ => rfl
    have hshare : sharePath.info = _ := info_of_literalRule hshare fun _ => rfl
    have henvironment : environmentToken.info = _ := info_of_literalRule henvironment fun _ => rfl
    have hbackslash : backslashSeparator.info = _ := info_of_literalRule hbackslash fun _ => rfl
    have hpassword : embeddedPassword.info = _ := info_of_literalRule hpassword fun _ => rfl
    have hsecurity : integratedSecurity.info = _ := info_of_literalRule hsecurity fun _ => rfl
    simp only [List.cons_append, List.nil_append, List.map_cons, List.map_nil, ItemRule.detection,
      ItemRule.ofUnits, habsolute, hshare, henvironment, hbackslash, hpassword, hsecurity]
    rfl
  · simp only [List.cons_append, List.nil_append, List.forall_mem_cons,
      ItemRule.onUnits_detection, ItemRule.onUnits_nativeInterop, ItemRule.onUnits_sessionStore,
      true_and]
    exact fun _ h => absurd h List.not_mem_nil

/-- **The built-in rules look at units and packages one by one**, each with the description that
is declared for it, whatever the tables. -/
theorem Registry.builtin_items {t : Catalog.Tables} {rules : Registry}
    (h : Registry.builtin t = .ok rules) :
    ∃ items : List ItemRule, items.map (·.rule) = rules ∧ items.map (·.info) = Builtin.infos := by
  obtain ⟨before, after, hrules, hinfos, -⟩ := Registry.builtin_split h
  exact ⟨_, hrules, hinfos⟩

end PlatformAudit
