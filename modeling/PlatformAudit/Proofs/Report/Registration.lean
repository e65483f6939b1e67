import PlatformAudit.Proofs.Report.StableSort
import PlatformAudit.Proofs.Run.Isolation

/-!
# The order in which rules are registered does not show

A run gathers findings rule by rule, so its raw output does depend on the order of
the rules. The report does not, although the order of a report leaves out the
severity, the category and the recommendation of a finding and the message of a
failure: entries that tie have the rule in common, and the entries of one rule keep
the order in which that rule gave them.

Two things are asked of the rules: that no two have the same id, and that each
labels its findings with its own id. The advice on units that could not be loaded
bears an id of its own; it always comes before what the rules found, so nothing has
to be asked about that id.
-/

namespace PlatformAudit

open Code

/-! ### What ties have in common -/

/-- Findings tie exactly when they have the same identity. -/
theorem Finding.order_eq_iff {a b : Finding} :
    Finding.order a b = .eq ↔
      a.file = b.file ∧ a.line = b.line ∧ a.ruleId = b.ruleId ∧ a.message = b.message := by
  simp only [Finding.order, compareLex_eq_eq, compareOn, Std.LawfulEqOrd.compare_eq_iff_eq]

/-- Failures tie exactly when they are of one rule, on one unit or both altogether. -/
theorem RuleFailure.order_eq_iff {a b : RuleFailure} :
    RuleFailure.order a b = .eq ↔ a.ruleId = b.ruleId ∧ a.unit = b.unit := by
  simp only [RuleFailure.order, compareLex_eq_eq, compareOn, Std.LawfulEqOrd.compare_eq_iff_eq]

/-! ### Who an entry belongs to -/

/-- A rule that labels its findings with its own id. -/
def Rule.LabelsFindings (rule : Rule) : Prop :=
  ∀ model cancelled outcome, (rule.analyze model cancelled).1 = .done outcome →
    ∀ f ∈ outcome.findings, f.ruleId = rule.id

theorem Rule.LabelsFindings.ruleId_eq {rule : Rule} (h : rule.LabelsFindings)
    {model : LoadedModel} {f : Finding} (hf : f ∈ rule.found model) : f.ruleId = rule.id := by
  rw [Rule.found, Rule.verdict] at hf
  cases hresult : (rule.analyze model false).1 with
  | done outcome =>
    rw [hresult] at hf
    exact h model false outcome hresult f hf
  | _ =>
    rw [hresult] at hf
    exact absurd hf List.not_mem_nil

/-- A failure of a rule bears the id of the rule. -/
theorem Rule.ruleId_eq_of_mem_failures {rule : Rule} {model : LoadedModel} {f : RuleFailure}
    (hf : f ∈ rule.failures model) : f.ruleId = rule.id := by
  rw [Rule.failures] at hf
  cases hverdict : rule.verdict model with
  | done outcome =>
    rw [hverdict] at hf
    obtain ⟨u, -, rfl⟩ := List.mem_map.mp hf
    rfl
  | failed message =>
    rw [hverdict] at hf
    rw [List.mem_singleton.mp hf]
  | cancelled =>
    rw [hverdict] at hf
    exact absurd hf List.not_mem_nil

/-! ### What the order of the rules leaves alone -/

section Permutation

variable {rules rules' : List Rule} {model : LoadedModel}

theorem endsCancelled_perm (hperm : rules.Perm rules') (source : Source) (s : RunState)
    (paths : List String) :
    endsCancelled rules source s paths = endsCancelled rules' source s paths := by
  rw [endsCancelled, endsCancelled, hperm.any_eq]

/-- **Sorted findings do not depend on the order of the rules**, whatever advice
comes before them and whatever is left out of the report. -/
theorem sort_found_perm (hperm : rules.Perm rules') (hids : (rules.map Rule.id).Nodup)
    (hlabels : ∀ rule ∈ rules, rule.LabelsFindings) (filter : Filter) (advice : List Finding) :
    Finding.sort (filter.apply (advice ++ rules.flatMap (Rule.found model))) =
      Finding.sort (filter.apply (advice ++ rules'.flatMap (Rule.found model))) := by
  have hclasses : ∀ a,
      classOf Finding.order a (filter.apply (advice ++ rules.flatMap (Rule.found model))) =
        classOf Finding.order a (filter.apply (advice ++ rules'.flatMap (Rule.found model))) := by
    intro a
    simp only [classOf, Filter.apply, List.filter_append, List.filter_filter]
    refine congrArg _ (filter_flatMap_perm hperm hids
      (fun rule hrule f hf => (hlabels rule hrule).ruleId_eq hf) fun f g hf hg => ?_)
    simp only [Bool.and_eq_true, beq_iff_eq, Finding.order_eq_iff] at hf hg
    exact hf.1.2.2.1.symm.trans hg.1.2.2.1
  exact sortBy_congr hclasses

/-- **Sorted failures do not depend on the order of the rules.** -/
theorem sort_failures_perm (hperm : rules.Perm rules') (hids : (rules.map Rule.id).Nodup) :
    RuleFailure.sort (rules.flatMap (Rule.failures model)) =
      RuleFailure.sort (rules'.flatMap (Rule.failures model)) := by
  have hclasses : ∀ a, classOf RuleFailure.order a (rules.flatMap (Rule.failures model)) =
      classOf RuleFailure.order a (rules'.flatMap (Rule.failures model)) := by
    intro a
    refine filter_flatMap_perm hperm hids (fun rule _ f hf => Rule.ruleId_eq_of_mem_failures hf)
      fun f g hf hg => ?_
    simp only [beq_iff_eq, RuleFailure.order_eq_iff] at hf hg
    exact hf.1.symm.trans hg.1
  exact sortBy_congr hclasses

end Permutation

/-- **The order in which rules are registered does not show in a report.** Rules
with different ids that label their findings with them may be registered in any
order: the run returns the same error or the same report, the time aside. -/
theorem audit_eq_of_rules_perm {rules rules' : List Rule} (hperm : rules.Perm rules')
    (hids : (rules.map Rule.id).Nodup) (hlabels : ∀ rule ∈ rules, rule.LabelsFindings)
    (settings : Settings) (schedule : Schedule rules.length) (schedule' : Schedule rules'.length)
    (source : Source) (clock clock' : Clock) (cancelled : Bool) (attempts : Nat) :
    let e : Engine := { rules, settings, schedule }
    let e' : Engine := { rules := rules', settings, schedule := schedule' }
    let start : RunState := { cancelled, attempts }
    ((e.audit source clock).run start).1.map (Report.onClock clock') =
      ((e'.audit source clock').run start).1 := by
  intro e e' start
  refine Engine.audit_fst_onClock rfl rfl (endsCancelled_perm hperm source start) ?_
  intro filter paths
  simp only [RunOutput.report, Engine.outputOf, e, e', sort_found_perm hperm hids hlabels,
    sort_failures_perm hperm hids]

/-- A rule that finds the same twice in every unit, once grave and once not, and fails on it. -/
def undecided (id : String) : Rule where
  id
  name := "undecided"
  category := .general
  analyze model cancelled :=
    (.done
      { findings := model.units.flatMap fun u => [Severity.high, Severity.low].map fun severity =>
          Finding.create id .general severity u.unit.path 1 "found" ""
        unitFailures := model.units.map fun u => { path := u.unit.path, message := "unclear" } },
      cancelled)

theorem undecided_labelsFindings (id : String) : (undecided id).LabelsFindings := by
  intro model cancelled outcome houtcome f hf
  cases houtcome
  obtain ⟨u, -, hf⟩ := List.mem_flatMap.mp hf
  obtain ⟨severity, -, rfl⟩ := List.mem_map.mp hf
  rfl

theorem audit_eq_of_rules_perm_undecided :
    let e : Engine := { rules := [undecided "T1", undecided "T2"], settings := {} }
    let e' : Engine := { rules := [undecided "T2", undecided "T1"], settings := {} }
    let start : RunState := { cancelled := false }
    e.rules.Perm e'.rules ∧ (e.rules.map Rule.id).Nodup ∧
      (∀ rule ∈ e.rules, rule.LabelsFindings) ∧
      (e.outputOf halfReadable epoch start ["a", "b"]).findings ≠
        (e'.outputOf halfReadable epoch start ["a", "b"]).findings ∧
      ((e.audit halfReadable epoch).run start).1.map (Report.onClock epoch) =
        ((e'.audit halfReadable epoch).run start).1 := by
  intro e e' start
  have hperm : e.rules.Perm e'.rules := List.Perm.swap _ _ _
  have hids : (e.rules.map Rule.id).Nodup := by decide
  have hlabels : ∀ rule ∈ e.rules, rule.LabelsFindings :=
    List.forall_mem_cons.mpr ⟨undecided_labelsFindings "T1",
      List.forall_mem_singleton.mpr (undecided_labelsFindings "T2")⟩
  refine ⟨hperm, hids, hlabels, by decide, ?_⟩
  exact audit_eq_of_rules_perm hperm hids hlabels {} (Schedule.inOrder 2) (Schedule.inOrder 2)
    halfReadable epoch epoch false 0

end PlatformAudit
