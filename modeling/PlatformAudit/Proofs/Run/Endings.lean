import PlatformAudit.Proofs.Run.Outcome

/-!
# Exactly when a run ends how

`PlatformAudit.Ends` lists the ways in which a run may end and the condition of
each: a setting that cannot be used, then units that cannot be listed, then a
cancelled run, and otherwise success. The order matters: a setting is refused
before the source is asked, and a source that cannot list its units is fatal even
to a run that is already cancelled.

What makes a setting unusable is a text that is no pattern. Which texts the
built-in rules read is said by `PlatformAudit.Catalog.Tables.patternTexts`.
-/

namespace PlatformAudit

open Code Catalog Detect Pattern

/-! ### Texts that are no patterns -/

/-- A list can be read exactly when each of its items can. -/
theorem isOk_mapM {ε α β : Type} (f : α → Except ε β) (xs : List α) :
    (xs.mapM f).isOk = xs.all fun x => (f x).isOk := by
  induction xs with
  | nil => rfl
  | cons x xs ih =>
    rw [List.mapM_cons, List.all_cons, ← ih]
    cases f x with
    | error e => rfl
    | ok y =>
      cases xs.mapM f with
      | error e => rfl
      | ok ys => rfl

/-- A step that succeeds under a condition of its own, whatever came before it. -/
theorem isOk_bind {ε α β : Type} {x : Except ε α} {f : α → Except ε β} {b : Bool}
    (h : ∀ a, (f a).isOk = b) : (x >>= f).isOk = (x.isOk && b) := by
  cases x with
  | error e => rfl
  | ok a => exact h a

theorem isOk_bind_pure {ε α β : Type} (x : Except ε α) (g : α → β) :
    (x >>= fun a => pure (g a)).isOk = x.isOk := by
  cases x with
  | error e => rfl
  | ok a => rfl

/-- Whether a text is a pattern. -/
def isPattern (text : String) : Bool :=
  (CharPattern.parse text).isSome

theorem isOk_compilePattern (text : String) : (compilePattern text).isOk = isPattern text := by
  rw [compilePattern, isPattern]
  cases CharPattern.parse text with
  | none => rfl
  | some p => rfl

theorem isOk_compile (label text : String) (safe : List String) :
    (LiteralPatterns.compile [(label, text)] safe).isOk =
      (isPattern text && safe.all isPattern) := by
  have hsafe : (safe.mapM compilePattern).isOk = safe.all isPattern := by
    simp only [isOk_mapM, isOk_compilePattern]
  rw [LiteralPatterns.compile]
  refine (isOk_bind (b := safe.all isPattern) fun _ => ?_).trans ?_
  · rw [isOk_bind_pure, hsafe]
  · rw [isOk_mapM, List.all_cons, List.all_nil, Bool.and_true, isOk_bind_pure,
      isOk_compilePattern]

/-- The texts that the built-in rules read as patterns: those of the rules about literals, with
the one made of the names of environment variables, and the safe ones. -/
def Catalog.Tables.patternTexts (t : Tables) : List String :=
  [t.literals.absolutePath, t.literals.sharePath,
    Builtin.environmentPattern t.environmentVariables, t.literals.relativeBackslashPath,
    t.literals.embeddedPassword, t.literals.integratedSecurity] ++ t.literals.safePaths

/-- A rule about literals can be set up exactly when its texts are patterns. -/
theorem isOk_literalRule (make : LiteralPatterns → DetectionRule) (label text : String)
    (safe : List String) :
    (LiteralPatterns.compile [(label, text)] safe >>= fun p => pure (make p)).isOk =
      (isPattern text && safe.all isPattern) := by
  rw [isOk_bind_pure, isOk_compile]

/-- **The built-in rules can be set up exactly when all their texts are patterns.** -/
theorem Registry.isOk_builtin (t : Tables) :
    (Registry.builtin t).isOk = t.patternTexts.all isPattern := by
  have hchain : (Registry.builtin t).isOk =
      ((Builtin.absolutePath t).isOk && ((Builtin.sharePath t).isOk &&
        ((Builtin.environmentToken t).isOk && ((Builtin.backslashSeparator t).isOk &&
          ((Builtin.embeddedPassword t).isOk &&
            ((Builtin.integratedSecurity t).isOk && true)))))) := by
    rw [Registry.builtin]
    exact isOk_bind fun _ => isOk_bind fun _ => isOk_bind fun _ => isOk_bind fun _ =>
      isOk_bind fun _ => isOk_bind fun _ => rfl
  have habsolute : (Builtin.absolutePath t).isOk = _ := isOk_literalRule _ _ _ _
  have hshare : (Builtin.sharePath t).isOk = _ := isOk_literalRule _ _ _ _
  have henvironment : (Builtin.environmentToken t).isOk = _ := isOk_literalRule _ _ _ _
  have hbackslash : (Builtin.backslashSeparator t).isOk = _ := isOk_literalRule _ _ _ _
  have hpassword : (Builtin.embeddedPassword t).isOk = _ := isOk_literalRule _ _ _ _
  have hsecurity : (Builtin.integratedSecurity t).isOk = _ := isOk_literalRule _ _ _ _
  rw [hchain, habsolute, hshare, henvironment, hbackslash, hpassword, hsecurity,
    Tables.patternTexts, Bool.eq_iff_iff]
  simp only [List.all_append, List.all_cons, List.all_nil, Bool.and_eq_true]
  grind

theorem Filter.isOk_compile (s : FilterSettings) :
    (Filter.compile s).isOk = s.excludePatterns.all fun p => (Exclusion.compile p).isOk := by
  rw [Filter.compile, isOk_bind_pure, isOk_mapM]

theorem isOk_eq_false_iff {ε α : Type} {x : Except ε α} :
    x.isOk = false ↔ ∃ e, x = .error e := by
  cases x with
  | error e => exact ⟨fun _ => ⟨e, rfl⟩, fun _ => rfl⟩
  | ok a =>
    constructor
    · exact fun h => absurd h (by simp [Except.isOk, Except.toBool])
    · rintro ⟨e, h⟩
      cases h

/-- A text among the patterns of the tables that is none. -/
def Catalog.Tables.Unreadable (t : Tables) : Prop :=
  ∃ text ∈ t.patternTexts, CharPattern.parse text = none

/-- An exclude pattern that is no glob. -/
def FilterSettings.Unreadable (s : FilterSettings) : Prop :=
  ∃ pattern ∈ s.excludePatterns, ∃ err, Exclusion.compile pattern = .error err

theorem Registry.builtin_error_iff {t : Tables} :
    (∃ text, Registry.builtin t = .error text) ↔ t.Unreadable := by
  rw [← isOk_eq_false_iff, Registry.isOk_builtin, List.all_eq_false]
  simp only [isPattern, Bool.not_eq_true, Option.isSome_eq_false_iff, Option.isNone_iff_eq_none]
  rfl

theorem Filter.compile_error_iff {s : FilterSettings} :
    (∃ err, Filter.compile s = .error err) ↔ s.Unreadable := by
  rw [← isOk_eq_false_iff, Filter.isOk_compile, List.all_eq_false]
  simp only [Bool.not_eq_true, isOk_eq_false_iff]
  rfl

/-! ### Endings -/

/-- **The endings of a run** of some rules, and the condition of each. A run whose
settings are `unusable` is refused; a run that succeeds ends at the stage `last`. -/
structure Ends {α : Type} (unusable : Prop) (rules : List Rule) (source : Source)
    (start : RunState) (last : Stage) (result : Except RunError α × RunState) : Prop where
  config_iff : (∃ err, result.1 = .error (.config err)) ↔ unusable
  fatalLoad_iff : ∀ err, result.1 = .error (.fatalLoad err) ↔
    ¬unusable ∧ source.enumerate = .error err
  cancelled_iff : result.1 = .error .cancelled ↔
    ¬unusable ∧ (∃ paths, source.enumerate = .ok paths) ∧ result.2.cancelled = true
  ok_iff : (∃ a, result.1 = .ok a) ↔
    ¬unusable ∧ (∃ paths, source.enumerate = .ok paths) ∧ result.2.cancelled = false
  invalidTransition : ∀ current next, result.1 ≠ .error (.invalidTransition current next)
  /-- The run is cancelled in the end if it was from the start, by a load, or by a rule. -/
  cancelled_eq : ¬unusable → ∀ paths, source.enumerate = .ok paths →
    result.2.cancelled = endsCancelled rules source start paths
  stage_fatal : ∀ err, result.1 = .error (.fatalLoad err) → result.2.stage = .fatal
  stage_cancelled : result.1 = .error .cancelled → result.2.stage = .cancelled
  stage_last : ∀ a, result.1 = .ok a → result.2.stage = last

section Ends

variable {α : Type} {unusable : Prop} {rules : List Rule} {source : Source} {start t : RunState}
  {last : Stage} {paths : List String}

theorem ends_config {err : ConfigError} (h : unusable) :
    Ends (α := α) unusable rules source start last (.error (.config err), t) := by
  constructor <;> simp [h]

theorem ends_fatalLoad {err : SourceError} (h : ¬unusable) (henum : source.enumerate = .error err)
    (hstage : t.stage = .fatal) :
    Ends (α := α) unusable rules source start last (.error (.fatalLoad err), t) := by
  constructor <;> simp [h, henum, hstage]

theorem ends_cancelled (h : ¬unusable) (henum : source.enumerate = .ok paths)
    (hends : endsCancelled rules source start paths = true) (hcancelled : t.cancelled = true)
    (hstage : t.stage = .cancelled) :
    Ends (α := α) unusable rules source start last (.error .cancelled, t) := by
  constructor <;> simp [h, henum, hends, hcancelled, hstage]

theorem ends_ok {a : α} (h : ¬unusable) (henum : source.enumerate = .ok paths)
    (hends : endsCancelled rules source start paths = false) (hcancelled : t.cancelled = false)
    (hstage : t.stage = last) :
    Ends unusable rules source start last (.ok a, t) := by
  constructor <;> simp [h, henum, hends, hcancelled, hstage]

end Ends

/-- An engine can always run: it reads no settings before. -/
theorem Engine.run_ends (e : Engine) (source : Source) (clock : Clock) {start : RunState}
    (hstart : start.stage = .idle) :
    Ends False e.rules source start .running ((e.run source clock).run start) := by
  rcases e.run_cases source clock hstart with ⟨err, henum, hrun⟩ |
    ⟨paths, t, henum, hends, hrun, hstage, hcancelled⟩ | ⟨paths, henum, hends, hrun⟩
  · rw [hrun]
    exact ends_fatalLoad not_false henum rfl
  · rw [hrun]
    exact ends_cancelled not_false henum hends hcancelled hstage
  · rw [hrun]
    exact ends_ok not_false henum hends rfl rfl

theorem Engine.audit_ends (e : Engine) (source : Source) (clock : Clock) {start : RunState}
    (hstart : start.stage = .idle) :
    Ends e.settings.filter.Unreadable e.rules source start .complete
      ((e.audit source clock).run start) := by
  cases hfilter : Filter.compile e.settings.filter with
  | error err =>
    rw [e.audit_of_error source clock hfilter]
    exact ends_config (Filter.compile_error_iff.mp ⟨err, hfilter⟩)
  | ok filter =>
    have husable : ¬e.settings.filter.Unreadable := by
      rw [← Filter.compile_error_iff, hfilter]
      rintro ⟨err, herr⟩
      cases herr
    rcases e.run_cases source clock hstart with ⟨err, henum, hrun⟩ |
      ⟨paths, t, henum, hends, hrun, hstage, hcancelled⟩ | ⟨paths, henum, hends, hrun⟩
    · rw [e.audit_of_run_error source clock hfilter hrun]
      exact ends_fatalLoad husable henum rfl
    · rw [e.audit_of_run_error source clock hfilter hrun]
      exact ends_cancelled husable henum hends hcancelled hstage
    · rw [e.audit_of_run_ok source clock hfilter hrun rfl]
      exact ends_ok husable henum hends rfl rfl

/-- The built-in rules for some tables; none if a text of the tables is no pattern. -/
def Catalog.Tables.rules (t : Tables) : List Rule :=
  (Registry.builtin t).toOption.getD []

theorem audit_ends_builtin (source : Source) (tables : Tables) (settings : Settings)
    (clock : Clock) (schedule : (total : Nat) → Schedule total) {start : RunState}
    (hstart : start.stage = .idle) :
    Ends (tables.Unreadable ∨ settings.filter.Unreadable) tables.rules source start .complete
      ((audit source tables settings clock schedule).run start) := by
  cases hrules : Registry.builtin tables with
  | error text =>
    unfold audit
    rw [hrules]
    exact ends_config (Or.inl (Registry.builtin_error_iff.mp ⟨text, hrules⟩))
  | ok rules =>
    have htables : ¬tables.Unreadable := by
      rw [← Registry.builtin_error_iff, hrules]
      rintro ⟨text, htext⟩
      cases htext
    have hends := Engine.audit_ends { rules, settings, schedule := schedule rules.length } source
      clock hstart
    have hbuiltin : tables.rules = rules := by
      rw [Tables.rules, hrules]
      rfl
    unfold audit
    rw [hrules, hbuiltin]
    simpa only [htables, false_or] using hends

/-- **Exactly when a run ends how.** The three kinds of run, from any start, in either mode and by
any schedule: rules without a report, rules with a report, and the built-in rules. -/
theorem run_endings (source : Source) (clock : Clock) (cancelled : Bool) (attempts : Nat) :
    let start : RunState := { cancelled, attempts }
    (∀ e : Engine, Ends False e.rules source start .running ((e.run source clock).run start)) ∧
    (∀ e : Engine, Ends e.settings.filter.Unreadable e.rules source start .complete
      ((e.audit source clock).run start)) ∧
    ∀ (tables : Tables) (settings : Settings) (schedule : (total : Nat) → Schedule total),
      Ends (tables.Unreadable ∨ settings.filter.Unreadable) tables.rules source start .complete
        ((audit source tables settings clock schedule).run start) := by
  refine ⟨fun e => e.run_ends source clock rfl, fun e => e.audit_ends source clock rfl, ?_⟩
  exact fun tables settings schedule => audit_ends_builtin source tables settings clock schedule rfl

end PlatformAudit
