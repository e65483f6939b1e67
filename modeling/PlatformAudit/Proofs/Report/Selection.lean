import PlatformAudit.Proofs.Report.Filtering
import PlatformAudit.Proofs.Rule.Builtin

/-!
# Selecting rules selects from the report

Running some of the rules gives the part of the report that these rules have in the
report of all of them. The rules do not see each other, so a rule finds the same
whoever runs beside it; and an entry of a report bears the id of its rule, so that
leaving out rules is leaving out entries. That this survives the filter and the
sort, ties included, is because all three only leave out or reorder.

Rules of a **self-contained** registry leave the run alone, label their findings
with their own ids and do not use the id of the advice on units
(`PlatformAudit.Registry.SelfContained`). Several rules may have the same id: they
are selected together. The first condition cannot be dropped, since the selection
may leave out a rule that cancels the run.
-/

namespace PlatformAudit

open Code

namespace Registry

/-- What is asked of rules that are to be selected from. -/
structure SelfContained (rules : Registry) : Prop where
  quiet : ∀ rule ∈ rules, ∀ model, rule.cancels model = false
  labels : ∀ rule ∈ rules, rule.LabelsFindings
  unreserved : ∀ rule ∈ rules, rule.id ≠ unitAdvice.id

/-- **The built-in rules are self-contained**, whatever the tables. -/
theorem builtin_selfContained {t : Catalog.Tables} {rules : Registry}
    (h : Registry.builtin t = .ok rules) : rules.SelfContained := by
  obtain ⟨items, rfl, hinfos⟩ := builtin_items h
  refine ⟨?_, ?_, ?_⟩
  · intro rule hrule model
    obtain ⟨i, -, rfl⟩ := List.mem_map.mp hrule
    exact i.cancels_eq_false model
  · intro rule hrule
    obtain ⟨i, -, rfl⟩ := List.mem_map.mp hrule
    exact i.labelsFindings
  · intro rule hrule
    obtain ⟨i, hi, rfl⟩ := List.mem_map.mp hrule
    have hmem : i.info ∈ Builtin.infos := hinfos ▸ List.mem_map_of_mem hi
    have hids : ∀ info ∈ Builtin.infos, info.id ≠ unitAdvice.id := by decide
    rw [i.id_eq]
    exact hids i.info hmem

/-- Whether the entries of a rule are shown when rules are selected by some ids: those of the
selected rules, and the advice on units. -/
def shows (ids : List String) (id : String) : Bool :=
  id = unitAdvice.id || ids.any fun i => Text.sameIgnoringCase i.toList id.toList

/-- Rules with other ids than that of the advice are selected exactly when they are shown. -/
theorem select_eq_filter_shows {rules : Registry}
    (h : ∀ rule ∈ rules, rule.id ≠ unitAdvice.id) (ids : List String) :
    rules.select ids = rules.filter fun rule => shows ids rule.id := by
  refine List.filter_congr fun rule hrule => ?_
  rw [shows, decide_eq_false (h rule hrule), Bool.false_or]

end Registry

/-! ### What is shown of an output -/

section Output

variable {rules : Registry} (ids : List String) (model : LoadedModel)

/-- Advice on units is always shown. -/
theorem filter_shows_advice (advice : List Finding) (h : ∀ f ∈ advice, f.ruleId = unitAdvice.id) :
    advice.filter (fun f => Registry.shows ids f.ruleId) = advice := by
  refine List.filter_eq_self.mpr fun f hf => ?_
  rw [Registry.shows, h f hf, decide_eq_true rfl, Bool.true_or]

theorem filter_shows_found (h : rules.SelfContained) :
    (rules.flatMap (Rule.found model)).filter (fun f => Registry.shows ids f.ruleId) =
      (rules.select ids).flatMap (Rule.found model) := by
  rw [Registry.select_eq_filter_shows h.unreserved]
  exact filter_flatMap_of_label (Registry.shows ids) fun rule hrule f hf =>
    (h.labels rule hrule).ruleId_eq hf

/-- What the selected rules find, as it is reported. -/
theorem sort_found_select (h : rules.SelfContained) (filter : Filter) {advice : List Finding}
    (hadvice : ∀ f ∈ advice, f.ruleId = unitAdvice.id) :
    Finding.sort (filter.apply (advice ++ (rules.select ids).flatMap (Rule.found model))) =
      (Finding.sort (filter.apply (advice ++ rules.flatMap (Rule.found model)))).filter
        fun f => Registry.shows ids f.ruleId := by
  rw [Finding.filter_sort, Filter.filter_apply, List.filter_append,
    filter_shows_advice ids advice hadvice, filter_shows_found ids model h]

theorem filter_shows_failures (h : rules.SelfContained) :
    (rules.flatMap (Rule.failures model)).filter (fun f => Registry.shows ids f.ruleId) =
      (rules.select ids).flatMap (Rule.failures model) := by
  rw [Registry.select_eq_filter_shows h.unreserved]
  exact filter_flatMap_of_label (Registry.shows ids) fun rule _ f hf =>
    Rule.ruleId_eq_of_mem_failures hf

end Output

/-- The advice of a run bears the id of the advice on units. -/
theorem ruleId_of_mem_advice {advise : Bool} {attempts : List (String × LoadAttempt)}
    {f : Finding} (hf : f ∈ (Loading.after {} advise attempts).advice) :
    f.ruleId = unitAdvice.id := by
  cases advise with
  | false => exact absurd hf List.not_mem_nil
  | true =>
    obtain ⟨a, -, rfl⟩ := List.mem_map.mp hf
    rfl

/-- Rules that leave the run alone can be selected without a run becoming or ceasing to be
cancelled. -/
theorem endsCancelled_select {rules : Registry} (h : rules.SelfContained) (ids : List String)
    (source : Source) (s : RunState) (paths : List String) :
    endsCancelled (rules.select ids) source s paths = endsCancelled rules source s paths := by
  have hnone : ∀ chosen : List Rule, chosen ⊆ rules →
      chosen.any (Rule.cancels (source.modelFrom s.attempts paths)) = false := by
    intro chosen hchosen
    refine List.any_eq_false.mpr fun rule hrule => ?_
    rw [h.quiet rule (hchosen hrule)]
    exact Bool.false_ne_true
  rw [endsCancelled, endsCancelled, hnone rules (List.Subset.refl _),
    hnone (rules.select ids) fun rule hrule => (List.mem_filter.mp hrule).1]

/-! ### Reports -/

/-- **Selecting rules selects from the report.** For rules that leave the run alone,
label their findings and do not use the id of the advice on units (the built-in rules
do so, whatever the tables), a run of those with some ids ends as a run of all of them
does: with the same error, or with exactly the findings and the failures of the full
report that are advice or bear one of the ids, in the same order. -/
theorem audit_select :
    (∀ (tables : Catalog.Tables) (rules : Registry), Registry.builtin tables = .ok rules →
      rules.SelfContained) ∧
    ∀ rules : Registry, rules.SelfContained →
      ∀ (ids : List String) (settings : Settings) (schedule : Schedule rules.length)
        (schedule' : Schedule (rules.select ids).length) (source : Source) (clock clock' : Clock)
        (cancelled : Bool) (attempts : Nat),
        let full : Engine := { rules, settings, schedule }
        let part : Engine := { rules := rules.select ids, settings, schedule := schedule' }
        let start : RunState := { cancelled, attempts }
        ((part.audit source clock').run start).1.map (fun r => (r.findings, r.ruleFailures)) =
          ((full.audit source clock).run start).1.map fun r =>
            (r.findings.filter fun f => Registry.shows ids f.ruleId,
              r.ruleFailures.filter fun f => Registry.shows ids f.ruleId) := by
  refine ⟨fun _ _ => Registry.builtin_selfContained, ?_⟩
  intro rules h ids settings schedule schedule' source clock clock' cancelled attempts full part
    start
  rw [part.audit_fst source clock' rfl, full.audit_fst source clock rfl,
    part.run_fst source clock' rfl, full.run_fst source clock rfl]
  cases Filter.compile settings.filter with
  | error err => rfl
  | ok filter =>
    cases source.enumerate with
    | error err => rfl
    | ok paths =>
      simp only [part, full, endsCancelled_select h]
      cases endsCancelled rules source start paths with
      | true => rfl
      | false =>
        refine congrArg Except.ok (Prod.ext ?_ ?_)
        · exact sort_found_select ids _ h filter fun f hf => ruleId_of_mem_advice hf
        · change RuleFailure.sort _ = (RuleFailure.sort _).filter _
          rw [RuleFailure.filter_sort]
          exact congrArg RuleFailure.sort (filter_shows_failures ids _ h).symm

/-- Three rules that leave the run alone, two of them with ids that differ in case only. -/
def twoAlike : Registry :=
  [undecided "T1", crashing, undecided "t1"]

theorem audit_select_twoAlike :
    let full : Engine := { rules := twoAlike, settings := { mode := .concurrent } }
    let part : Engine := { rules := twoAlike.select ["t1"], settings := { mode := .concurrent } }
    let start : RunState := { cancelled := false }
    twoAlike.SelfContained ∧ part.rules.map Rule.id = ["T1", "t1"] ∧
      ((part.audit halfReadable epoch).run start).1.isOk = true ∧
      ((part.audit halfReadable epoch).run start).1.map (fun r => (r.findings, r.ruleFailures)) =
        ((full.audit halfReadable epoch).run start).1.map fun r =>
          (r.findings.filter fun f => Registry.shows ["t1"] f.ruleId,
            r.ruleFailures.filter fun f => Registry.shows ["t1"] f.ruleId) := by
  intro full part start
  have hlabels : crashing.LabelsFindings := by
    intro model cancelled outcome houtcome
    cases houtcome
  have hcontained : twoAlike.SelfContained := by
    refine ⟨?_, ?_, by decide⟩
    · simp only [twoAlike, List.forall_mem_cons]
      exact ⟨fun _ => rfl, fun _ => rfl, fun _ => rfl, fun _ h => absurd h List.not_mem_nil⟩
    · simp only [twoAlike, List.forall_mem_cons]
      exact ⟨undecided_labelsFindings "T1", hlabels, undecided_labelsFindings "t1",
        fun _ h => absurd h List.not_mem_nil⟩
  refine ⟨hcontained, by decide, by decide, ?_⟩
  exact audit_select.2 twoAlike hcontained ["t1"] { mode := .concurrent } (Schedule.inOrder 3)
    (Schedule.inOrder _) halfReadable epoch epoch false 0

end PlatformAudit
