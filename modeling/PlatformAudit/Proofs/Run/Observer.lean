import Mathlib.Algebra.GroupWithZero.Nat
import PlatformAudit.Proofs.Run.Endings
import PlatformAudit.Proofs.Run.Isolation
import PlatformAudit.Proofs.Run.Stopping

/-!
# What an observer is told

An observer is told when a rule begins and when it has ended. The two modes tell it in
different orders: rules that run one after the other are announced and reported one by
one, rules that run at once are all announced first and all reported afterwards, in the
order of the rules and not in that in which they ended. What an observer may rely on is
what the two have in common (`PlatformAudit.Follows`): some of the rules, from the
first on, are announced in order, the same ones are reported in the same order, and no
rule is reported before it is announced.

How many rules these are depends on when the run was cancelled; in a run that succeeds
they are all of them. In such a run the reports can also be held against the output:
they account for every finding of a rule and for every rule that failed
(`PlatformAudit.Tallies`). The reports are made from the results of the rules before
these are put together, so this says that nothing is lost or added in between.
-/

namespace PlatformAudit

open Code

/-! ### Events -/

/-- The id of the rule, its index and the number of rules, if a rule is announced. -/
def Event.started? : Event → Option (String × Nat × Nat)
  | .started ruleId index total => some (ruleId, index, total)
  | .finished _ _ _ => none

/-- The id of the rule, the number of its findings and whether it failed, if a rule is
reported. -/
def Event.finished? : Event → Option (String × Nat × Bool)
  | .started _ _ _ => none
  | .finished ruleId findings failed => some (ruleId, findings, failed)

/-- Announcements and reports take turns, beginning with an announcement and ending with a
report. -/
def Alternates : List Event → Prop
  | [] => True
  | .started _ _ _ :: .finished _ _ _ :: events => Alternates events
  | _ => False

/-- **What an observer may rely on** if the first `begun` of some rules have begun. -/
structure Follows (mode : Mode) (rules : List Rule) (begun : Nat) (events : List Event) :
    Prop where
  begun_le : begun ≤ rules.length
  started : events.filterMap Event.started? =
    (rules.take begun).zipIdx.map fun r => (r.1.id, r.2, rules.length)
  finished : (events.filterMap Event.finished?).map (·.1) = (rules.take begun).map Rule.id
  /-- At no moment were more rules reported than announced, so each was announced before. -/
  ordered : ∀ seen, seen <+: events →
    (seen.filterMap Event.finished?).length ≤ (seen.filterMap Event.started?).length
  alternate : mode = .sequential → Alternates events

/-- Where nothing happens, everything is as it should be. -/
theorem follows_nil (mode : Mode) (rules : List Rule) : Follows mode rules 0 [] where
  begun_le := Nat.zero_le _
  started := rfl
  finished := rfl
  ordered := by
    rintro seen hseen
    rw [List.prefix_nil.mp hseen]
    exact Nat.le_refl 0
  alternate _ := trivial

/-- Where announcements and reports take turns, no report comes too early. -/
theorem Alternates.ordered {events seen : List Event} (h : Alternates events)
    (hseen : seen <+: events) :
    (seen.filterMap Event.finished?).length ≤ (seen.filterMap Event.started?).length := by
  induction events using Alternates.induct generalizing seen with
  | case1 =>
    rw [List.prefix_nil.mp hseen]
    exact Nat.le_refl 0
  | case2 id index total id' findings failed events ih =>
    -- what was seen is nothing, the announcement only, or both and more
    rcases List.prefix_cons_iff.mp hseen with rfl | ⟨rest, rfl, hrest⟩
    · exact Nat.le_refl 0
    rcases List.prefix_cons_iff.mp hrest with rfl | ⟨more, rfl, hmore⟩
    · exact Nat.zero_le _
    · exact Nat.succ_le_succ (ih h hmore)
  | case3 events hnil hturn =>
    rw [Alternates] at h
    · exact h.elim
    · exact hnil
    · exact hturn

/-! ### Reports -/

namespace Settled

/-- How many findings are reported of a rule. -/
def count : Settled → Nat
  | .done outcome => outcome.findings.length
  | _ => 0

/-- Whether a rule is reported as failed. -/
def hasFailed : Settled → Bool
  | .done outcome => !outcome.unitFailures.isEmpty
  | .failed _ => true
  | .cancelled => false

/-- What is reported of a rule. -/
def report (turn : Rule × Settled) : String × Nat × Bool :=
  (turn.1.id, turn.2.count, turn.2.hasFailed)

theorem finished_eq (s : Settled) (rule : Rule) :
    s.finished rule = .finished rule.id s.count s.hasFailed := by
  cases s <;> rfl

end Settled

/-- A rule in a run that nobody cancels is reported with what it contributes to the output. -/
theorem Rule.report_verdict (model : LoadedModel) (rule : Rule) :
    Settled.report (rule, rule.verdict model) =
      (rule.id, (rule.found model).length, !(rule.failures model).isEmpty) := by
  rw [Settled.report, Rule.found, Rule.failures]
  cases rule.verdict model with
  | done outcome => simp [Settled.count, Settled.hasFailed]
  | failed message => rfl
  | cancelled => rfl

/-- The events of a phase and its results go together: the rules that have begun are reported with
their results. -/
structure Phase.Tells (mode : Mode) (rules : List Rule) (begun : Nat) (p : Phase) : Prop where
  follows : Follows mode rules begun p.events
  reports : p.events.filterMap Event.finished? =
    ((rules.take begun).zip p.settled).map Settled.report

/-- Reports on rules that all have results bear the ids of the rules. -/
theorem ids_of_reports {rules : List Rule} {settled : List Settled}
    (h : rules.length ≤ settled.length) :
    ((rules.zip settled).map Settled.report).map (·.1) = rules.map Rule.id := by
  rw [List.map_map]
  calc (rules.zip settled).map (fun turn => turn.1.id)
      = ((rules.zip settled).map Prod.fst).map Rule.id := (List.map_map ..).symm
    _ = rules.map Rule.id := by rw [List.map_fst_zip h]

/-! ### One after the other -/

section InTurn

variable (total : Nat) (turns : List ((Rule × Nat) × Settled))

theorem alternates_told : Alternates (turns.flatMap (Settled.told total)) := by
  induction turns with
  | nil => trivial
  | cons turn turns ih =>
    obtain ⟨⟨rule, index⟩, s⟩ := turn
    cases s <;> exact ih

theorem started_told : (turns.flatMap (Settled.told total)).filterMap Event.started? =
    turns.map fun turn => (turn.1.1.id, turn.1.2, total) := by
  induction turns with
  | nil => rfl
  | cons turn turns ih =>
    simp only [List.flatMap_cons, Settled.told, List.cons_append, List.nil_append,
      List.filterMap_cons, Settled.finished_eq, Event.started?, ih, List.map_cons]

theorem finished_told : (turns.flatMap (Settled.told total)).filterMap Event.finished? =
    turns.map fun turn => Settled.report (turn.1.1, turn.2) := by
  induction turns with
  | nil => rfl
  | cons turn turns ih =>
    simp only [List.flatMap_cons, Settled.told, List.cons_append, List.nil_append,
      List.filterMap_cons, Settled.finished_eq, Event.finished?, Settled.report, ih, List.map_cons]

end InTurn

/-- **Rules that run one after the other** are announced and reported one by one. -/
theorem runInTurn_tells (model : LoadedModel) (rules : List Rule) (cancelled : Bool) :
    (runInTurn model rules.length 0 rules cancelled).Tells .sequential rules
      (untilCancelled (Rule.cancels model) cancelled rules).length := by
  obtain ⟨hlength, hevents, -⟩ := runInTurn_begun model rules.length 0 rules cancelled
  have hle := length_untilCancelled_le (Rule.cancels model) cancelled rules
  have htake := (List.prefix_iff_eq_take.mp
    (untilCancelled_isPrefix (Rule.cancels model) cancelled rules)).symm
  generalize untilCancelled (Rule.cancels model) cancelled rules = begun at *
  generalize runInTurn model rules.length 0 rules cancelled = phase at *
  have hreports : phase.events.filterMap Event.finished? =
      (begun.zip phase.settled).map Settled.report := by
    rw [hevents, finished_told]
    calc ((begun.zipIdx 0).zip phase.settled).map (fun turn => Settled.report (turn.1.1, turn.2))
        = (((begun.zipIdx 0).zip phase.settled).map (Prod.map Prod.fst id)).map
            Settled.report := by rw [List.map_map]; rfl
      _ = (begun.zip phase.settled).map Settled.report := by
          rw [← List.zip_map_left, List.zipIdx_map_fst]
  refine ⟨⟨hle, ?_, ?_, ?_, ?_⟩, ?_⟩
  · rw [hevents, started_told, htake]
    calc ((begun.zipIdx 0).zip phase.settled).map (fun turn => (turn.1.1.id, turn.1.2, rules.length))
        = (((begun.zipIdx 0).zip phase.settled).map Prod.fst).map
            (fun r => (r.1.id, r.2, rules.length)) := by rw [List.map_map]; rfl
      _ = begun.zipIdx.map fun r => (r.1.id, r.2, rules.length) := by
          rw [List.map_fst_zip (by rw [List.length_zipIdx]; exact hlength)]
  · rw [hreports, htake, ids_of_reports hlength]
  · intro seen hseen
    rw [hevents] at hseen
    exact (alternates_told _ _).ordered hseen
  · intro _
    rw [hevents]
    exact alternates_told _ _
  · rw [hreports, htake]

/-! ### All at once -/

/-- Where all announcements come before all reports, no report comes too early. -/
theorem ordered_of_append {announced reported seen : List Event}
    (hannounced : announced.filterMap Event.finished? = [])
    (hreported : reported.length ≤ (announced.filterMap Event.started?).length)
    (hseen : seen <+: announced ++ reported) :
    (seen.filterMap Event.finished?).length ≤ (seen.filterMap Event.started?).length := by
  have htake := List.prefix_iff_eq_take.mp hseen
  rw [List.take_append] at htake
  rcases Nat.le_total seen.length announced.length with hle | hle
  · -- nothing was reported yet
    rw [Nat.sub_eq_zero_of_le hle, List.take_zero, List.append_nil] at htake
    have hnone : (seen.filterMap Event.finished?).length ≤ 0 := by
      rw [htake, ← List.length_nil, ← hannounced]
      exact ((List.take_sublist _ _).filterMap _).length_le
    omega
  · -- everything was announced
    rw [List.take_of_length_le hle] at htake
    rw [htake, List.filterMap_append, List.filterMap_append, hannounced, List.nil_append,
      List.length_append]
    have hfinished := List.length_filterMap_le Event.finished?
      (reported.take (seen.length - announced.length))
    have hshown := List.length_take_le' (seen.length - announced.length) reported
    omega

/-- What is said of rules whose ends are reported, one after the other. -/
theorem filterMap_finished (turns : List (Rule × Settled)) :
    (turns.map fun turn => turn.2.finished turn.1).filterMap Event.started? = [] ∧
      (turns.map fun turn => turn.2.finished turn.1).filterMap Event.finished? =
        turns.map Settled.report := by
  simp only [Settled.finished_eq, List.filterMap_map]
  exact ⟨List.filterMap_eq_nil_iff.mpr fun _ _ => rfl, congrFun List.filterMap_eq_map _⟩

/-- What is said of rules whose beginnings are announced, one after the other. -/
theorem filterMap_started (total : Nat) (rules : List (Rule × Nat)) :
    (rules.map fun r => Event.started r.1.id r.2 total).filterMap Event.started? =
        (rules.map fun r => (r.1.id, r.2, total)) ∧
      (rules.map fun r => Event.started r.1.id r.2 total).filterMap Event.finished? = [] := by
  simp only [List.filterMap_map]
  exact ⟨congrFun List.filterMap_eq_map _, List.filterMap_eq_nil_iff.mpr fun _ _ => rfl⟩

/-- **Rules that run at once** are all announced, and then all reported. -/
theorem runAtOnce_tells (model : LoadedModel) (rules : List Rule)
    (schedule : Schedule rules.length) (cancelled : Bool) :
    (runAtOnce model rules schedule cancelled).Tells .concurrent rules rules.length := by
  have hsettled : (runAtOnce model rules schedule cancelled).settled.length = rules.length := by
    have hlength := congrArg List.length
      (Tasks.rules_run_ofRules model rules cancelled schedule.steps)
    rw [List.length_map] at hlength
    rw [runAtOnce, List.length_map, hlength]
  have hevents : (runAtOnce model rules schedule cancelled).events =
      rules.zipIdx.map (fun r => Event.started r.1.id r.2 rules.length) ++
        (rules.zip (runAtOnce model rules schedule cancelled).settled).map
          (fun turn => turn.2.finished turn.1) := by
    rw [runAtOnce, List.mapIdx_eq_zipIdx_map, List.zip_eq_zipWith, List.map_zipWith]
  generalize runAtOnce model rules schedule cancelled = phase at *
  obtain ⟨hstarted, hannounced⟩ := filterMap_started rules.length rules.zipIdx
  obtain ⟨hreported, hfinished⟩ := filterMap_finished (rules.zip phase.settled)
  have hreports : phase.events.filterMap Event.finished? =
      (rules.zip phase.settled).map Settled.report := by
    rw [hevents, List.filterMap_append, hannounced, List.nil_append, hfinished]
  refine ⟨⟨Nat.le_refl _, ?_, ?_, ?_, fun hmode => ?_⟩, ?_⟩
  · rw [hevents, List.filterMap_append, hreported, List.append_nil, List.take_length, hstarted]
  · rw [hreports, List.take_length, ids_of_reports (Nat.le_of_eq hsettled.symm)]
  · intro seen hseen
    rw [hevents] at hseen
    refine ordered_of_append hannounced ?_ hseen
    rw [hstarted, List.length_map, List.length_map, List.length_zipIdx, List.length_zip]
    exact Nat.min_le_left _ _
  · cases hmode
  · rw [hreports, List.take_length]

/-! ### Runs -/

section Phase

variable (e : Engine) (model : LoadedModel)

/-- In either mode the observer is told of the rules that have begun; these are all of them if the
run is not cancelled. -/
theorem Engine.runRules_tells (cancelled : Bool) :
    ∃ begun, (e.runRules model cancelled).Tells e.settings.mode e.rules begun ∧
      ((e.runRules model cancelled).cancelled = false → begun = e.rules.length) := by
  have hphase := e.runRules_settles model cancelled
  rw [Engine.runRules] at hphase ⊢
  split at hphase
  next hmode =>
    refine ⟨_, hmode ▸ runInTurn_tells model e.rules cancelled, fun hquiet => ?_⟩
    rw [hphase.cancelled_eq, Bool.or_eq_false_iff] at hquiet
    rw [hquiet.1, untilCancelled_of_quiet hquiet.2]
  next hmode => exact ⟨_, hmode ▸ runAtOnce_tells model e.rules e.schedule cancelled, fun _ => rfl⟩

/-- In a run that nobody cancels every rule is reported with what it contributes. -/
theorem Engine.reports_of_quiet (hquiet : e.rules.any (Rule.cancels model) = false) :
    (e.runRules model false).events.filterMap Event.finished? = e.rules.map fun rule =>
      (rule.id, (rule.found model).length, !(rule.failures model).isEmpty) := by
  have hphase := e.runRules_settles model false
  have hcancelled : (e.runRules model false).cancelled = false := by
    rw [hphase.cancelled_eq, hquiet]
    rfl
  obtain ⟨begun, htells, hbegun⟩ := e.runRules_tells model false
  rw [htells.reports, hbegun hcancelled, List.take_length, hphase.settled_eq hcancelled,
    ← List.map_prod_left_eq_zip, List.map_map]
  exact List.map_congr_left fun rule _ => rule.report_verdict model

end Phase

/-- What the observer of a run may rely on, and that it is told of all rules if the run
succeeds. -/
def Observed {α : Type} (e : Engine) (result : Except RunError α × RunState) : Prop :=
  ∃ begun, Follows e.settings.mode e.rules begun result.2.events ∧
    ∀ a, result.1 = .ok a → begun = e.rules.length

/-- **The reports of a run that gives an output**: they account for all findings but
the advice on units that could not be loaded, and a rule is reported as failed exactly
if some of the failures are its own. -/
structure Tallies (e : Engine) (source : Source) (earlier : Nat) (paths : List String)
    (out : RunOutput) (events : List Event) : Prop where
  findings : ((events.filterMap Event.finished?).map (·.2.1)).sum +
      (if e.settings.unitAdvisories then
        (failedLoads (source.attemptsFrom earlier paths)).length else 0) = out.findings.length
  failures : out.ruleFailures = e.rules.flatMap (Rule.failures (source.modelFrom earlier paths))
  failed : (events.filterMap Event.finished?).map (·.2.2) =
    e.rules.map fun rule => !(rule.failures (source.modelFrom earlier paths)).isEmpty

section Runs

variable {α : Type} {e : Engine} {source : Source} {paths : List String} {start : RunState}
  {result : Except RunError α × RunState}

/-- A run that ends before anything is said. -/
theorem observed_of_silent (hevents : result.2.events = []) (herror : ∀ a, result.1 ≠ .ok a) :
    Observed e result := by
  refine ⟨0, ?_, fun a ha => absurd ha (herror a)⟩
  rw [hevents]
  exact follows_nil _ _

/-- A run that lists its units. -/
theorem observed_of_leftBy {unusable : Prop} {last : Stage}
    (hleft : RunState.LeftBy e source paths start result.2) (hstart : start.events = [])
    (henum : source.enumerate = .ok paths)
    (hends : Ends unusable e.rules source start last result) : Observed e result := by
  -- a run that succeeds was cancelled by nobody, neither by a load nor by a rule
  have hquiet : ∀ a, result.1 = .ok a → endsCancelled e.rules source start paths = false := by
    intro a ha
    obtain ⟨husable, -, hcancelled⟩ := hends.ok_iff.mp ⟨a, ha⟩
    rw [← hends.cancelled_eq husable paths henum, hcancelled]
  rcases hleft.rules with ⟨hless, hevents, -⟩ | ⟨phase, hphase, hevents, -⟩
  · refine observed_of_silent (hevents.trans hstart) fun a ha => ?_
    obtain ⟨hload, -⟩ := Bool.or_eq_false_iff.mp (hquiet a ha)
    obtain ⟨hcancelled, hloads⟩ := Bool.or_eq_false_iff.mp hload
    rw [Source.loadsMade, hcancelled, untilCancelled_of_quiet hloads,
      Source.length_attemptsFrom] at hless
    exact Nat.lt_irrefl _ hless
  · subst hphase
    obtain ⟨begun, htells, hbegun⟩ := e.runRules_tells (source.modelFrom start.attempts paths)
      (start.cancelled || (source.attemptsFrom start.attempts paths).any (·.2.cancels))
    refine ⟨begun, ?_, fun a ha => hbegun ?_⟩
    · rw [hevents, hstart]
      exact htells.follows
    · rw [(e.runRules_settles _ _).cancelled_eq]
      exact hquiet a ha

/-- What is reported in a run that nobody cancels can be held against its output. -/
theorem Engine.outputOf_tallies (e : Engine) (source : Source) (clock : Clock) (cancelled : Bool)
    (attempts : Nat) (paths : List String)
    (hends : endsCancelled e.rules source { cancelled, attempts } paths = false) :
    Tallies e source attempts paths (e.outputOf source clock { cancelled, attempts } paths)
      (e.stateAfter source { cancelled, attempts } paths).events := by
  obtain ⟨-, hrules⟩ := Bool.or_eq_false_iff.mp hends
  have hreports := e.reports_of_quiet (source.modelFrom attempts paths) hrules
  have hfindings := (e.outputOf_accounts source clock cancelled attempts paths hends).findings
  have hevents : (e.stateAfter source { cancelled, attempts } paths).events =
    (e.runRules (source.modelFrom attempts paths) false).events := rfl
  refine ⟨?_, rfl, ?_⟩
  · rw [hevents, hreports, List.map_map, hfindings, List.length_append, List.length_flatMap,
      Nat.add_comm]
    refine congrArg (· + _) ?_
    split <;> simp
  · rw [hevents, hreports, List.map_map]
    rfl

end Runs

/-- **What an observer is told.** In a run of any rules, in either mode, however it ends, with or
without a report, the observer is told of the first rules in order, of all of them if the run
succeeds. If the run gives an output, the reports agree with it. -/
theorem observer_protocol (e : Engine) (source : Source) (clock : Clock) (cancelled : Bool)
    (attempts : Nat) :
    let start : RunState := { cancelled, attempts }
    Observed e ((e.run source clock).run start) ∧ Observed e ((e.audit source clock).run start) ∧
      ∀ out final, (e.run source clock).run start = (.ok out, final) →
        ∃ paths, source.enumerate = .ok paths ∧
          Tallies e source attempts paths out final.events := by
  intro start
  refine ⟨?_, ?_, fun out final hrun => ?_⟩
  · cases henum : source.enumerate with
    | error err =>
      rw [e.run_of_error source clock rfl henum]
      exact observed_of_silent rfl fun _ h => by cases h
    | ok paths =>
      exact observed_of_leftBy (e.run_leaves source clock rfl henum) rfl henum
        (e.run_ends source clock rfl)
  · cases hfilter : Filter.compile e.settings.filter with
    | error err =>
      rw [e.audit_of_error source clock hfilter]
      exact observed_of_silent rfl fun _ h => by cases h
    | ok filter =>
      cases henum : source.enumerate with
      | error err =>
        rw [e.audit_of_run_error source clock hfilter (e.run_of_error source clock rfl henum)]
        exact observed_of_silent rfl fun _ h => by cases h
      | ok paths =>
        exact observed_of_leftBy (e.audit_leaves source clock hfilter rfl henum) rfl henum
          (e.audit_ends source clock rfl)
  · obtain ⟨paths, henum, hends, rfl, rfl⟩ := Engine.quiet_of_run_ok rfl hrun
    exact ⟨paths, henum, e.outputOf_tallies source clock cancelled attempts paths hends⟩

/-- A rule that crashes and one that finds something, run at once over a source with a unit that
cannot be loaded. -/
theorem observer_protocol_halfReadable :
    let e : Engine := { rules := [crashing, everywhere], settings := { mode := .concurrent } }
    ∃ out final, (e.run halfReadable epoch).run { cancelled := false } = (.ok out, final) ∧
      Tallies e halfReadable 0 ["a", "b"] out final.events ∧ out.findings.length = 2 ∧
      final.events = [.started "T2" 0 2, .started "T1" 1 2, .finished "T2" 0 true,
        .finished "T1" 1 false] := by
  intro e
  have hrun : (e.run halfReadable epoch).run { cancelled := false } =
      (.ok (e.outputOf halfReadable epoch { cancelled := false } ["a", "b"]),
        e.stateAfter halfReadable { cancelled := false } ["a", "b"]) :=
    e.run_of_quiet halfReadable epoch rfl rfl rfl
  obtain ⟨-, -, htallies⟩ := observer_protocol e halfReadable epoch false 0
  obtain ⟨paths, henum, htally⟩ := htallies _ _ hrun
  obtain rfl : ["a", "b"] = paths := Except.ok.inj henum
  exact ⟨_, _, hrun, htally, rfl, by decide⟩

end PlatformAudit
