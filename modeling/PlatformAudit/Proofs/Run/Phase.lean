import PlatformAudit.Run.Execution

/-!
# What the rules of a run amount to

Rules run one after the other, or all at once by some schedule. This file shows
that it does not matter which. The answer that counts is the one that a rule gives
when nobody has cancelled the run before it:

* `PlatformAudit.Rule.verdict` – what such a rule is judged to have done;
* `PlatformAudit.Rule.cancels` – whether it cancels the run.

`PlatformAudit.Phase.Settles` says what a phase of either kind comes to: it ends
cancelled exactly when it began cancelled or one of its rules cancels, and
otherwise every rule has looked at the model once and the results are the verdicts
in the order of the rules (`PlatformAudit.Engine.runRules_settles`).

## Why the schedule does not show

A task sees only whether the run was cancelled when it began. If no rule cancels,
then no task ever sees a cancelled run, and by induction on the steps of the
schedule every task stands where its verdict puts it
(`PlatformAudit.Tasks.Undisturbed`). If some rule does cancel, then as long as the
run is not cancelled its task is still before its end
(`PlatformAudit.Tasks.Brewing`); since a schedule is fair, that task reaches its
end, and the run is cancelled by then, whoever did it. What the other tasks saw
meanwhile is of no importance, for a cancelled run has no results.
-/

namespace PlatformAudit

open Code

variable {model : LoadedModel} {rules : List Rule}

/-! ### Verdicts -/

/-- Whether a rule cancels a run that is not cancelled yet. -/
def Rule.cancels (model : LoadedModel) (rule : Rule) : Bool :=
  (rule.analyze model false).2

/-- How a rule ends in a run that nobody cancels. -/
def Rule.verdict (model : LoadedModel) (rule : Rule) : Settled :=
  .judge (rule.analyze model false).1 false

/-- Only a cancelled run makes a rule end cancelled. -/
theorem Settled.judge_ne_cancelled (result : RuleResult) :
    Settled.judge result false ≠ .cancelled := by
  cases result <;> simp [Settled.judge]

theorem Rule.verdict_ne_cancelled (rule : Rule) : rule.verdict model ≠ .cancelled :=
  Settled.judge_ne_cancelled _

/-- **What the rules come to**, however they were run: the phase ends cancelled
exactly when it began so or one of the rules cancels, and otherwise every rule has
looked at the model exactly once and has its verdict. -/
structure Phase.Settles (model : LoadedModel) (rules : List Rule) (cancelled : Bool)
    (p : Phase) : Prop where
  cancelled_eq : p.cancelled = (cancelled || rules.any (Rule.cancels model))
  settled_eq : p.cancelled = false → p.settled = rules.map (Rule.verdict model)
  analyzed_perm : p.cancelled = false → p.analyzed.Perm (List.range rules.length)

/-! ### One after the other -/

theorem runInTurn_cancelled (model : LoadedModel) (total index : Nat) (rules : List Rule)
    (cancelled : Bool) :
    (runInTurn model total index rules cancelled).cancelled =
      (cancelled || rules.any (Rule.cancels model)) := by
  induction rules generalizing index cancelled with
  | nil => simp [runInTurn]
  | cons rule rules ih =>
    cases cancelled with
    | true => simp [runInTurn]
    | false =>
      obtain ⟨result, after, hanalyze⟩ : ∃ result after,
          rule.analyze model false = (result, after) := ⟨_, _, rfl⟩
      have hcancels : rule.cancels model = after := by rw [Rule.cancels, hanalyze]
      simp only [runInTurn, hanalyze, List.any_cons, hcancels, Bool.false_or]
      split
      next hjudge =>
        -- the rule ended cancelled, so the run is
        cases after with
        | true => simp
        | false => exact absurd hjudge (Settled.judge_ne_cancelled result)
      next => exact ih (index + 1) after

/-- In a run that nobody cancels the rules are judged, and begin, in their order. -/
theorem runInTurn_of_quiet (model : LoadedModel) (total index : Nat) {rules : List Rule}
    (hquiet : rules.any (Rule.cancels model) = false) :
    (runInTurn model total index rules false).settled = rules.map (Rule.verdict model) ∧
      (runInTurn model total index rules false).analyzed = List.range' index rules.length := by
  induction rules generalizing index with
  | nil => exact ⟨rfl, rfl⟩
  | cons rule rules ih =>
    rw [List.any_cons, Bool.or_eq_false_iff] at hquiet
    obtain ⟨hrule, hrules⟩ := hquiet
    obtain ⟨hsettled, hanalyzed⟩ := ih (index + 1) hrules
    obtain ⟨result, after, hanalyze⟩ : ∃ result after,
        rule.analyze model false = (result, after) := ⟨_, _, rfl⟩
    have hafter : after = false := by rw [← hrule, Rule.cancels, hanalyze]
    have hverdict : rule.verdict model = .judge result false := by rw [Rule.verdict, hanalyze]
    subst hafter
    simp only [runInTurn, hanalyze]
    split
    next hjudge => exact absurd hjudge (Settled.judge_ne_cancelled result)
    next =>
      refine ⟨?_, ?_⟩
      · rw [List.map_cons, hverdict, hsettled]
      · rw [List.length_cons, List.range'_succ, hanalyzed]

theorem runInTurn_settles (model : LoadedModel) (rules : List Rule) (cancelled : Bool) :
    (runInTurn model rules.length 0 rules cancelled).Settles model rules cancelled := by
  have hcancelled := runInTurn_cancelled model rules.length 0 rules cancelled
  refine ⟨hcancelled, fun h => ?_, fun h => ?_⟩
  all_goals
    rw [hcancelled, Bool.or_eq_false_iff] at h
    obtain ⟨rfl, hquiet⟩ := h
    obtain ⟨hsettled, hanalyzed⟩ := runInTurn_of_quiet model rules.length 0 hquiet
  · exact hsettled
  · rw [hanalyzed, List.range_eq_range']

/-! ### The task of one rule -/

namespace TaskState

variable {rule : Rule} {state : TaskState}

/-- How many steps a task has taken. -/
def progress : TaskState → Nat
  | .pending => 0
  | .running _ _ => 1
  | .ended _ => 2
  | .collected _ => 3

theorem progress_le (state : TaskState) : state.progress ≤ 3 := by
  cases state <;> simp [progress]

theorem progress_next (rule : Rule) (model : LoadedModel) (cancelled : Bool) (state : TaskState) :
    (state.next rule model cancelled).1.progress = min 3 (state.progress + 1) := by
  cases state <;> rfl

theorem isPending_iff : state.isPending = true ↔ state.progress = 0 := by
  cases state <;> simp [isPending, progress]

theorem eq_collected_of_progress (h : state.progress = 3) : ∃ s, state = .collected s := by
  cases state with
  | collected s => exact ⟨s, rfl⟩
  | _ => simp [progress] at h

/-- A cancelled run remains cancelled. -/
theorem next_cancelled (rule : Rule) (state : TaskState) :
    (state.next rule model true).2 = true := by
  cases state <;> simp [next]

/-- **Where a task stands in a run that nobody cancels**: on the way to the verdict
of its rule. -/
def HeadsFor (model : LoadedModel) (rule : Rule) : TaskState → Prop
  | .pending => True
  | .running result cancels => rule.analyze model false = (result, cancels)
  | .ended result => (rule.analyze model false).1 = result
  | .collected settled => rule.verdict model = settled

/-- A task of a rule that does not cancel stays on its way and leaves the run alone. -/
theorem HeadsFor.next (h : state.HeadsFor model rule) (hrule : rule.cancels model = false) :
    (state.next rule model false).1.HeadsFor model rule ∧
      (state.next rule model false).2 = false := by
  cases state with
  | pending => exact ⟨rfl, rfl⟩
  | running result cancels =>
    have hanalyze : rule.analyze model false = (result, cancels) := h
    have hcancels : cancels = false := by rw [← hrule, Rule.cancels, hanalyze]
    exact ⟨by rw [TaskState.next, HeadsFor, hanalyze], by rw [TaskState.next, hcancels]; rfl⟩
  | ended result =>
    have hresult : (rule.analyze model false).1 = result := h
    exact ⟨by rw [TaskState.next, HeadsFor, Rule.verdict, hresult], rfl⟩
  | collected settled => exact ⟨h, rfl⟩

/-- A task that is still to cancel the run. -/
def Brews : TaskState → Prop
  | .pending => True
  | .running _ cancels => cancels = true
  | _ => False

/-- The task of a rule that cancels either still is to do so after a step, or has done so. -/
theorem Brews.next (h : state.Brews) (hrule : rule.cancels model = true) :
    (state.next rule model false).2 = true ∨ (state.next rule model false).1.Brews := by
  cases state with
  | pending => exact Or.inr hrule
  | running result cancels => exact Or.inl h
  | ended result => exact h.elim
  | collected settled => exact h.elim

end TaskState

/-! ### All tasks together -/

namespace Tasks

variable {t : Tasks} {rule : Rule} {state : TaskState} {i j : Nat}

/-- **What a step does**: nothing where there is no task, and otherwise it moves on
that task. -/
theorem step_cases (model : LoadedModel) (t : Tasks) (i : Nat) :
    t.tasks[i]? = none ∧ t.step model i = t ∨
      ∃ rule state, t.tasks[i]? = some (rule, state) ∧
        t.step model i =
          { tasks := t.tasks.set i (rule, (state.next rule model t.cancelled).1)
            analyzed := if state.isPending then t.analyzed ++ [i] else t.analyzed
            cancelled := (state.next rule model t.cancelled).2 } := by
  rcases h : t.tasks[i]? with _ | ⟨rule, state⟩
  · exact Or.inl ⟨rfl, by simp only [step, h]⟩
  · exact Or.inr ⟨rule, state, rfl, by simp only [step, h]⟩

/-- A step leaves the other tasks where they are. -/
theorem tasks_step_of_ne (h : i ≠ j) : (t.step model i).tasks[j]? = t.tasks[j]? := by
  rcases step_cases model t i with ⟨-, hstep⟩ | ⟨rule, state, -, hstep⟩
  · rw [hstep]
  · rw [hstep]
    exact List.getElem?_set_ne h

theorem tasks_step_self (h : t.tasks[i]? = some (rule, state)) :
    (t.step model i).tasks[i]? = some (rule, (state.next rule model t.cancelled).1) := by
  have hi : i < t.tasks.length := (List.getElem?_eq_some_iff.mp h).1
  simp only [step, h]
  exact List.getElem?_set_self hi

theorem cancelled_step (h : t.tasks[i]? = some (rule, state)) :
    (t.step model i).cancelled = (state.next rule model t.cancelled).2 := by
  simp only [step, h]

theorem rules_step (t : Tasks) (i : Nat) :
    (t.step model i).tasks.map Prod.fst = t.tasks.map Prod.fst := by
  rcases step_cases model t i with ⟨-, hstep⟩ | ⟨rule, state, htask, hstep⟩
  · rw [hstep]
  · obtain ⟨hi, hget⟩ := List.getElem?_eq_some_iff.mp htask
    rw [hstep]
    refine List.ext_getElem? fun j => ?_
    by_cases hij : i = j
    · subst hij
      simp [hi, hget]
    · simp [List.getElem?_set_ne hij]

/-- What every step keeps, every run keeps. -/
theorem run_induction {P : Tasks → Prop} (hstep : ∀ t i, P t → P (t.step model i))
    (steps : List Nat) (h : P t) : P (t.run model steps) := by
  induction steps generalizing t with
  | nil => exact h
  | cons i steps ih => exact ih (hstep t i h)

theorem rules_run (t : Tasks) (steps : List Nat) :
    (t.run model steps).tasks.map Prod.fst = t.tasks.map Prod.fst :=
  run_induction (P := fun u => u.tasks.map Prod.fst = t.tasks.map Prod.fst)
    (fun u i h => (rules_step u i).trans h) steps rfl

/-- **Every occurrence of its index moves a task on**, until it is collected. -/
theorem progress_run (model : LoadedModel) (t : Tasks) (steps : List Nat) (j : Nat) :
    ((t.run model steps).tasks[j]?).map (fun p => p.2.progress) =
      (t.tasks[j]?).map fun p => min 3 (p.2.progress + steps.count j) := by
  induction steps generalizing t with
  | nil =>
    refine Option.map_congr fun p _ => ?_
    have := p.2.progress_le
    simp only [List.count_nil]
    omega
  | cons i steps ih =>
    refine (ih (t.step model i)).trans ?_
    by_cases hij : i = j
    · subst hij
      rcases h : t.tasks[i]? with _ | ⟨rule, state⟩
      · simp [step, h]
      · have hprogress := TaskState.progress_next rule model t.cancelled state
        simp only [tasks_step_self h, Option.map_some, List.count_cons_self, hprogress,
          Option.some.injEq]
        omega
    · rw [tasks_step_of_ne hij, List.count_cons_of_ne hij]

/-! ### Runs without and with a cancellation -/

/-- A run that nobody has cancelled, with every task on the way to its verdict. -/
def Undisturbed (model : LoadedModel) (t : Tasks) : Prop :=
  t.cancelled = false ∧ ∀ (i : Nat) (rule : Rule) (state : TaskState),
    t.tasks[i]? = some (rule, state) → rule.cancels model = false ∧ state.HeadsFor model rule

theorem Undisturbed.step (h : t.Undisturbed model) (i : Nat) :
    (t.step model i).Undisturbed model := by
  obtain ⟨hcancelled, htasks⟩ := h
  rcases step_cases model t i with ⟨-, hstep⟩ | ⟨rule, state, htask, -⟩
  · rw [hstep]
    exact ⟨hcancelled, htasks⟩
  · obtain ⟨hrule, hheads⟩ := htasks i rule state htask
    obtain ⟨hnext, hquiet⟩ := hheads.next hrule
    refine ⟨by rw [cancelled_step htask, hcancelled, hquiet], fun j rule' state' hj => ?_⟩
    by_cases hij : i = j
    · subst hij
      rw [tasks_step_self htask, hcancelled] at hj
      cases hj
      exact ⟨hrule, hnext⟩
    · rw [tasks_step_of_ne hij] at hj
      exact htasks j rule' state' hj

/-- **A cancellation is certain**: the run is cancelled, or the task at `j` belongs
to a rule that cancels and is still to do so. -/
def Brewing (model : LoadedModel) (j : Nat) (t : Tasks) : Prop :=
  t.cancelled = true ∨ ∃ rule state, t.tasks[j]? = some (rule, state) ∧
    rule.cancels model = true ∧ state.Brews

theorem Brewing.step (h : t.Brewing model j) (i : Nat) : (t.step model i).Brewing model j := by
  rcases step_cases model t i with ⟨-, hstep⟩ | ⟨rule, state, htask, -⟩
  · rwa [hstep]
  · cases hcancelled : t.cancelled with
    | true => exact Or.inl (by rw [cancelled_step htask, hcancelled, TaskState.next_cancelled])
    | false =>
      obtain ⟨rule', state', hj, hrule, hbrews⟩ := h.resolve_left (by simp [hcancelled])
      by_cases hij : i = j
      · subst hij
        rw [htask] at hj
        cases hj
        rcases hbrews.next hrule with hdone | hbrews'
        · exact Or.inl (by rw [cancelled_step htask, hcancelled, hdone])
        · exact Or.inr ⟨rule, _, by rw [tasks_step_self htask, hcancelled], hrule, hbrews'⟩
      · exact Or.inr ⟨rule', state', by rwa [tasks_step_of_ne hij], hrule, hbrews⟩

/-- The rules that have begun are those whose tasks are no longer pending, each once. -/
def Begun (t : Tasks) : Prop :=
  t.analyzed.Nodup ∧ ∀ j, j ∈ t.analyzed ↔
    ∃ rule state, t.tasks[j]? = some (rule, state) ∧ 0 < state.progress

theorem Begun.step (model : LoadedModel) (h : t.Begun) (i : Nat) : (t.step model i).Begun := by
  obtain ⟨hnodup, hmem⟩ := h
  rcases step_cases model t i with ⟨-, hstep⟩ | ⟨rule, state, htask, hstep⟩
  · rw [hstep]
    exact ⟨hnodup, hmem⟩
  · -- whatever the task at `i` did before, it has begun after the step
    have hbegun : ∀ j, (∃ rule state, (t.step model i).tasks[j]? = some (rule, state) ∧
        0 < state.progress) ↔ j ∈ t.analyzed ∨ j = i := by
      intro j
      by_cases hij : i = j
      · subst hij
        refine ⟨fun _ => Or.inr rfl, fun _ => ⟨rule, _, tasks_step_self htask, ?_⟩⟩
        rw [TaskState.progress_next]
        omega
      · rw [tasks_step_of_ne hij, hmem j]
        exact ⟨Or.inl, fun h => h.resolve_right fun hji => hij hji.symm⟩
    have hanalyzed : (t.step model i).analyzed =
        if state.isPending then t.analyzed ++ [i] else t.analyzed := by rw [hstep]
    unfold Begun
    rw [hanalyzed]
    split
    next hpending =>
      have hfresh : i ∉ t.analyzed := by
        rw [hmem i]
        rintro ⟨rule', state', htask', hprogress⟩
        rw [htask] at htask'
        cases htask'
        exact absurd hprogress (by rw [TaskState.isPending_iff.mp hpending]; omega)
      refine ⟨?_, fun j => by rw [hbegun j, List.mem_append, List.mem_singleton]⟩
      refine List.nodup_append.mpr ⟨hnodup, List.pairwise_singleton _ i, ?_⟩
      rintro a ha b hb rfl
      exact hfresh (List.mem_singleton.mp hb ▸ ha)
    next hpending =>
      have hprogress : 0 < state.progress :=
        Nat.pos_of_ne_zero fun h0 => hpending (TaskState.isPending_iff.mpr h0)
      have hi : i ∈ t.analyzed := (hmem i).mpr ⟨rule, state, htask, hprogress⟩
      refine ⟨hnodup, fun j => ?_⟩
      rw [hbegun j]
      exact ⟨Or.inl, fun h => h.elim id fun hji => hji ▸ hi⟩

/-! ### What the tasks of a fair schedule come to -/

variable {cancelled : Bool}

theorem tasks_ofRules (rules : List Rule) (cancelled : Bool) (i : Nat) :
    (ofRules rules cancelled).tasks[i]? = rules[i]?.map fun rule => (rule, .pending) :=
  List.getElem?_map

/-- **Every task is collected.** -/
theorem collected_of_fair (schedule : Schedule rules.length)
    (h : ((ofRules rules cancelled).run model schedule.steps).tasks[i]? = some (rule, state)) :
    ∃ s, state = .collected s := by
  have hprogress := progress_run model (ofRules rules cancelled) schedule.steps i
  rw [h, tasks_ofRules] at hprogress
  rcases hrule : rules[i]? with _ | rule'
  · simp [hrule] at hprogress
  · have hfair := schedule.fair i (List.getElem?_eq_some_iff.mp hrule).1
    simp only [hrule, Option.map_some, Option.some.injEq] at hprogress
    have hpending : TaskState.pending.progress = 0 := rfl
    exact TaskState.eq_collected_of_progress (by omega)

/-- A cancellation that is certain has happened by the end. -/
theorem Brewing.cancelled_of_fair (schedule : Schedule rules.length)
    (h : (ofRules rules cancelled).Brewing model j) :
    ((ofRules rules cancelled).run model schedule.steps).cancelled = true := by
  rcases run_induction (P := Brewing model j) (fun t i h => h.step i) schedule.steps h with
    hcancelled | ⟨rule, state, htask, -, hbrews⟩
  · exact hcancelled
  · obtain ⟨s, rfl⟩ := collected_of_fair schedule htask
    exact hbrews.elim

theorem undisturbed_ofRules (hquiet : rules.any (Rule.cancels model) = false) :
    (ofRules rules false).Undisturbed model := by
  refine ⟨rfl, fun i rule state h => ?_⟩
  rw [tasks_ofRules] at h
  obtain ⟨rule', hrule', heq⟩ := Option.map_eq_some_iff.mp h
  cases heq
  exact ⟨by simpa using List.any_eq_false.mp hquiet rule (List.mem_of_getElem? hrule'), trivial⟩

theorem begun_ofRules (rules : List Rule) (cancelled : Bool) : (ofRules rules cancelled).Begun := by
  refine ⟨List.Pairwise.nil, fun j => ⟨fun h => absurd h List.not_mem_nil, ?_⟩⟩
  rintro ⟨rule, state, h, hprogress⟩
  rw [tasks_ofRules] at h
  obtain ⟨rule', -, heq⟩ := Option.map_eq_some_iff.mp h
  cases heq
  exact absurd hprogress (Nat.lt_irrefl 0)

theorem rules_run_ofRules (model : LoadedModel) (rules : List Rule) (cancelled : Bool)
    (steps : List Nat) :
    ((ofRules rules cancelled).run model steps).tasks.map Prod.fst = rules := by
  rw [rules_run, ofRules, List.map_map]
  exact List.map_id rules

/-- All rules have begun by the end, each once. -/
theorem analyzed_perm_of_fair (model : LoadedModel) (schedule : Schedule rules.length)
    (cancelled : Bool) :
    ((ofRules rules cancelled).run model schedule.steps).analyzed.Perm
      (List.range rules.length) := by
  obtain ⟨hnodup, hmem⟩ := run_induction (P := Begun) (fun _ i h => Begun.step model h i)
    schedule.steps (begun_ofRules rules cancelled)
  have hlength := congrArg List.length (rules_run_ofRules model rules cancelled schedule.steps)
  rw [List.length_map] at hlength
  refine (List.perm_ext_iff_of_nodup hnodup List.nodup_range).mpr fun i => ?_
  rw [hmem i, List.mem_range]
  constructor
  · rintro ⟨rule, state, htask, -⟩
    exact hlength ▸ (List.getElem?_eq_some_iff.mp htask).1
  · intro hi
    obtain ⟨⟨rule, state⟩, htask⟩ : ∃ task, _ = some task :=
      ⟨_, List.getElem?_eq_getElem (hlength.symm ▸ hi)⟩
    obtain ⟨s, rfl⟩ := collected_of_fair schedule htask
    exact ⟨rule, _, htask, Nat.zero_lt_succ 2⟩

end Tasks

theorem runAtOnce_cancelled (model : LoadedModel) (rules : List Rule)
    (schedule : Schedule rules.length) (cancelled : Bool) :
    (runAtOnce model rules schedule cancelled).cancelled =
      (cancelled || rules.any (Rule.cancels model)) := by
  change ((Tasks.ofRules rules cancelled).run model schedule.steps).cancelled = _
  cases hcancelled : cancelled with
  | true => exact Tasks.Brewing.cancelled_of_fair (j := 0) schedule (Or.inl rfl)
  | false =>
    rw [Bool.false_or]
    cases hany : rules.any (Rule.cancels model) with
    | true =>
      obtain ⟨rule, hmem, hrule⟩ := List.any_eq_true.mp hany
      obtain ⟨j, hj⟩ := List.mem_iff_getElem?.mp hmem
      refine Tasks.Brewing.cancelled_of_fair (j := j) schedule
        (Or.inr ⟨rule, .pending, ?_, hrule, trivial⟩)
      rw [Tasks.tasks_ofRules, hj, Option.map_some]
    | false =>
      exact (Tasks.run_induction (P := Tasks.Undisturbed model) (fun _ i h => h.step i)
        schedule.steps (Tasks.undisturbed_ofRules hany)).1

/-- In a run that nobody cancels every task is collected with the verdict of its rule. -/
theorem runAtOnce_settled (schedule : Schedule rules.length)
    (hquiet : rules.any (Rule.cancels model) = false) :
    (runAtOnce model rules schedule false).settled = rules.map (Rule.verdict model) := by
  obtain ⟨-, htasks⟩ := Tasks.run_induction (P := Tasks.Undisturbed model) (fun _ i h => h.step i)
    schedule.steps (Tasks.undisturbed_ofRules hquiet)
  let final := (Tasks.ofRules rules false).run model schedule.steps
  calc final.tasks.map (·.2.settled)
      = (final.tasks.map Prod.fst).map (Rule.verdict model) := by
        rw [List.map_map]
        refine List.map_congr_left fun ⟨rule, state⟩ hmem => ?_
        obtain ⟨i, hi⟩ := List.mem_iff_getElem?.mp hmem
        obtain ⟨s, rfl⟩ := Tasks.collected_of_fair schedule hi
        exact (htasks i rule _ hi).2.symm
    _ = rules.map (Rule.verdict model) :=
        congrArg _ (Tasks.rules_run_ofRules model rules false schedule.steps)

theorem runAtOnce_settles (model : LoadedModel) (rules : List Rule)
    (schedule : Schedule rules.length) (cancelled : Bool) :
    (runAtOnce model rules schedule cancelled).Settles model rules cancelled := by
  have hcancelled := runAtOnce_cancelled model rules schedule cancelled
  refine ⟨hcancelled, fun h => ?_, fun _ => Tasks.analyzed_perm_of_fair model schedule cancelled⟩
  rw [hcancelled, Bool.or_eq_false_iff] at h
  obtain ⟨rfl, hquiet⟩ := h
  exact runAtOnce_settled schedule hquiet

/-- **The mode and the schedule do not show**: the rules of an engine come to the
same in either mode. -/
theorem Engine.runRules_settles (e : Engine) (model : LoadedModel) (cancelled : Bool) :
    (e.runRules model cancelled).Settles model e.rules cancelled := by
  rw [Engine.runRules]
  split
  · exact runInTurn_settles model e.rules cancelled
  · exact runAtOnce_settles model e.rules e.schedule cancelled

end PlatformAudit
