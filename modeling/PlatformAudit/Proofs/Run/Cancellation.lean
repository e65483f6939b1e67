import PlatformAudit.Proofs.Run.Crew
import PlatformAudit.Proofs.Run.Observer

/-!
# A cancelled run stops

A run may be cancelled before it begins, by a load, or by a rule, and a rule that works
unit by unit may cancel it at any unit. Wherever it happens, the run ends in the error
of a cancelled run, which has no findings, and nothing that comes after in the order of
the run is begun any more: no unit is loaded (`PlatformAudit.StopsPromptly`), and when
rules run one after the other no rule begins and none is called on a further unit.

When all rules run at once, a rule may have asked whether the run is cancelled, and been let
through to a unit, just before another rule cancels. It is then called on that unit, and on
no other (`PlatformAudit.ScansStop`). That this does happen is
`PlatformAudit.call_after_cancellation`.

Who looks for the cancellation differs from place to place: the next load, the next
rule, the next unit, or the check at the end of the run if there is no next one. The
statements below do not follow these places. They bound what was handled by the position
of what cancelled, and that bound is the same for all loops
(`PlatformAudit.length_untilCancelled_le_of_cancels`).
-/

namespace PlatformAudit

open Code

/-! ### Loads and rules -/

/-- **What a run still does once it is cancelled**: it makes no further load, if its rules run one
after the other it begins no further rule, and it ends in the error of a cancelled run. -/
structure StopsPromptly {α : Type} (e : Engine) (source : Source) (paths : List String)
    (start : RunState) (result : Except RunError α × RunState) : Prop where
  loads_of_start : start.cancelled = true → result.2.attempts = start.attempts
  loads_of_load : ∀ i path, paths[i]? = some path →
    (source.load (start.attempts + i) path).cancels = true →
      result.2.attempts ≤ start.attempts + (i + 1)
  /-- A load cancelled the run, perhaps the last one, so no rule begins. -/
  rules_of_load : e.settings.mode = .sequential →
    (start.cancelled || (source.attemptsFrom start.attempts paths).any (·.2.cancels)) = true →
      result.2.events = start.events ∧ result.2.analyses = start.analyses
  /-- A rule cancelled the run, so no rule after it begins. -/
  rules_of_rule : e.settings.mode = .sequential → ∀ i rule, e.rules[i]? = some rule →
    rule.cancels (source.modelFrom start.attempts paths) = true →
      (∀ id index total, .started id index total ∈ result.2.events → index ≤ i) ∧
        ∀ look ∈ result.2.analyses, look.1 ≤ i
  /-- Whoever cancelled the run, it has no output. -/
  ends : endsCancelled e.rules source start paths = true → result.1 = .error .cancelled

/-- The attempt to load a unit, by the position of its path. -/
theorem Code.Source.getElem?_attemptsFrom (source : Source) (earlier : Nat) {paths : List String}
    {i : Nat} {path : String} (h : paths[i]? = some path) :
    (source.attemptsFrom earlier paths)[i]? = some (path, source.load (earlier + i) path) := by
  induction paths generalizing earlier i with
  | nil => simp at h
  | cons first paths ih =>
    cases i with
    | zero =>
      obtain rfl : first = path := by simpa using h
      rfl
    | succ i =>
      have hrest := ih (earlier + 1) (i := i) (by simpa using h)
      rw [Nat.add_assoc, Nat.add_comm 1] at hrest
      exact hrest

/-- A rule that is announced among rules in turn is one of those that begin. -/
theorem index_lt_of_started {model : LoadedModel} {total : Nat} {rules : List Rule}
    {cancelled : Bool} {id : String} {index n : Nat}
    (h : .started id index n ∈ (runInTurn model total 0 rules cancelled).events) :
    index < (untilCancelled (Rule.cancels model) cancelled rules).length := by
  obtain ⟨-, hevents, -⟩ := runInTurn_begun model total 0 rules cancelled
  rw [hevents] at h
  obtain ⟨⟨⟨rule, k⟩, settled⟩, hturn, htold⟩ := List.mem_flatMap.mp h
  -- the other event of a turn is a report
  obtain rfl : index = k := by
    simp only [Settled.told, Settled.finished_eq, List.mem_cons, Event.started.injEq,
      reduceCtorEq, List.not_mem_nil, or_false] at htold
    exact htold.2.1
  have hbegun := List.of_mem_zip hturn
  simpa using (List.mem_zipIdx hbegun.1).2.1

section Runs

variable {α : Type} {e : Engine} {source : Source} {paths : List String} {start : RunState}
  {result : Except RunError α × RunState}

/-- What a run in turn has begun, by its events and by the models its rules looked at. -/
theorem RunState.LeftBy.begun_lt (hleft : RunState.LeftBy e source paths start result.2)
    (hevents : start.events = []) (hanalyses : start.analyses = [])
    (hmode : e.settings.mode = .sequential) :
    let begun := untilCancelled (Rule.cancels (source.modelFrom start.attempts paths))
      (start.cancelled || (source.attemptsFrom start.attempts paths).any (·.2.cancels)) e.rules
    (∀ id index total, .started id index total ∈ result.2.events → index < begun.length) ∧
      ∀ look ∈ result.2.analyses, look.1 < begun.length := by
  intro begun
  rcases hleft.rules with ⟨-, hevents', hanalyses'⟩ | ⟨phase, hphase, hevents', hanalyses'⟩
  · rw [hevents', hanalyses', hevents, hanalyses]
    exact ⟨fun _ _ _ h => absurd h List.not_mem_nil, fun _ h => absurd h List.not_mem_nil⟩
  · simp only [Engine.runRules, hmode] at hphase
    subst hphase
    rw [hevents', hanalyses', hevents, hanalyses]
    constructor
    · intro id index total h
      exact index_lt_of_started h
    · intro look hlook
      obtain ⟨index, hindex, rfl⟩ := List.mem_map.mp hlook
      rw [(runInTurn_begun _ _ _ _ _).2.2] at hindex
      simpa using hindex

/-- A run that leaves behind what it should and ends as it should stops promptly. -/
theorem stopsPromptly_of_leftBy {unusable : Prop} {last : Stage}
    (hleft : RunState.LeftBy e source paths start result.2) (hevents : start.events = [])
    (hanalyses : start.analyses = []) (henum : source.enumerate = .ok paths)
    (husable : ¬unusable) (hends : Ends unusable e.rules source start last result) :
    StopsPromptly e source paths start result where
  loads_of_start hstart := by
    rw [hleft.attempts_eq, Source.loadsMade, hstart, untilCancelled_true]
    rfl
  loads_of_load i path hpath hcancels := by
    have hmade : (source.loadsMade start.cancelled start.attempts paths).length ≤ i + 1 :=
      length_untilCancelled_le_of_cancels start.cancelled
        (source.getElem?_attemptsFrom start.attempts hpath) hcancels
    rw [hleft.attempts_eq]
    exact Nat.add_le_add_left hmade _
  rules_of_load hmode hcancelled := by
    rcases hleft.rules with ⟨-, hsame⟩ | ⟨phase, hphase, hevents', hanalyses'⟩
    · exact hsame
    · simp only [Engine.runRules, hmode, hcancelled] at hphase
      subst hphase
      obtain ⟨-, htold, hanalyzed⟩ := runInTurn_begun
        (source.modelFrom start.attempts paths) e.rules.length 0 e.rules true
      rw [untilCancelled_true] at htold hanalyzed
      rw [hevents', hanalyses', htold, hanalyzed]
      exact ⟨List.append_nil _, List.append_nil _⟩
  rules_of_rule hmode i rule hrule hcancels := by
    obtain ⟨hstarted, hlooks⟩ := hleft.begun_lt hevents hanalyses hmode
    have hbegun := length_untilCancelled_le_of_cancels
      (start.cancelled || (source.attemptsFrom start.attempts paths).any (·.2.cancels))
      hrule hcancels
    constructor
    · intro id index total h
      exact Nat.le_of_lt_succ (Nat.lt_of_lt_of_le (hstarted id index total h) hbegun)
    · intro look h
      exact Nat.le_of_lt_succ (Nat.lt_of_lt_of_le (hlooks look h) hbegun)
  ends hcancelled := by
    refine hends.cancelled_iff.mpr ⟨husable, ⟨paths, henum⟩, ?_⟩
    rw [hends.cancelled_eq husable paths henum, hcancelled]

end Runs

/-! ### Units -/

/-- **What rules still do with units once a run is cancelled.** The rules are at work in any
interleaving and from any start, and those that work unit by unit take three steps for a unit: they
ask whether the run is cancelled, are called, and return. -/
structure ScansStop (e : Engine) (model : LoadedModel) (cancelled : Bool)
    (workers : List Worker) : Prop where
  /-- Once the run is cancelled, by whomever, a rule is called at most once more, and only on a unit
  that it was let through to before. -/
  looks_of_cancelled : ∀ steps more,
    ((Crew.ofWorkers workers cancelled).run model steps).cancelled = true →
      ∃ late, ((Crew.ofWorkers workers cancelled).run model (steps ++ more)).looks =
          ((Crew.ofWorkers workers cancelled).run model steps).looks ++ late ∧
        (late.map (·.rule)).Nodup ∧
        ∀ look ∈ late, ((Crew.ofWorkers workers cancelled).run model steps).LetThrough look.rule
          look.unit
  /-- If the rules work one after the other, no rule is called on a further unit. -/
  looks_in_turn : ∀ steps more, Crew.InTurn (steps ++ more) →
    ((Crew.ofWorkers workers cancelled).run model steps).cancelled = true →
      ((Crew.ofWorkers workers cancelled).run model (steps ++ more)).looks =
        ((Crew.ofWorkers workers cancelled).run model steps).looks
  /-- With enough steps for all rules, this comes to what the run of the engine comes to. -/
  agrees : ∀ steps, Crew.Enough model workers.length steps →
    let final := (Crew.ofWorkers workers cancelled).run model steps
    final.cancelled = (e.runRules model cancelled).cancelled ∧
      (final.cancelled = false →
        final.workers.map (·.2.settled) = (e.runRules model cancelled).settled)
  /-- A rule that works alone, as rules in turn do, is called on the units up to and including
  the first that makes it cancel the run, and gives what the rule gives. -/
  alone : ∀ w ∈ workers, ∀ inspect ∈ w.inspect?,
    w.rule.cancels model = model.units.any (fun u => (inspect u).cancels) ∧
      ∀ before, ∃ n, (Crew.ofWorkers [w] before).run model (List.replicate n 0) =
        { workers := [(w, .task (.ended (w.rule.analyze model before).1))]
          looks := (untilCancelled (fun u => (inspect u).cancels) before model.units).map
            fun u => ⟨0, u, inspect u⟩
          cancelled := (w.rule.analyze model before).2 }

/-- A scan cancels the run exactly if one of its calls does. -/
theorem scanUnits_cancels (inspect : LoadedUnit → Inspection) (units : List LoadedUnit) :
    (scanUnits inspect units false).2 = units.any fun u => (inspect u).cancels := by
  induction units with
  | nil => rfl
  | cons u us ih =>
    rw [← resume_empty, resume_cons_false, List.any_cons]
    cases hcancels : (inspect u).cancels with
    | true => rw [resume_true_snd, Bool.true_or]
    | false =>
      -- what was found at the first unit is of no importance for the rest
      rw [Bool.false_or, ← ih, resume]
      rcases scanUnits inspect us false with ⟨result, after⟩
      cases result <;> rfl

theorem scansStop_of_rules {e : Engine} {workers : List Worker}
    (hworkers : workers.map (·.rule) = e.rules) (model : LoadedModel) (cancelled : Bool) :
    ScansStop e model cancelled workers where
  looks_of_cancelled steps more hcancelled := by
    obtain ⟨late, hlooks, hnodup, hlate⟩ := Crew.looks_run_of_cancelled hcancelled more
    rw [Crew.run_append]
    exact ⟨late, hlooks, hnodup, fun look hlook => (hlate look hlook).2⟩
  looks_in_turn _ _ hturn hcancelled := Crew.looks_run_in_turn hturn hcancelled
  agrees steps hsteps := by
    intro final
    have hphase := e.runRules_settles model cancelled
    have hfinal : final.cancelled = (cancelled || e.rules.any (Rule.cancels model)) := by
      rw [← hworkers]
      exact Crew.cancelled_of_enough hsteps cancelled
    have hsame : final.cancelled = (e.runRules model cancelled).cancelled := by
      rw [hfinal, hphase.cancelled_eq]
    refine ⟨hsame, fun hquiet => ?_⟩
    rw [hphase.settled_eq (hsame ▸ hquiet), ← hworkers]
    rw [hfinal, Bool.or_eq_false_iff] at hquiet
    obtain ⟨rfl, hrules⟩ := hquiet
    exact Crew.settled_of_enough hsteps (hworkers ▸ hrules)
  alone w _ inspect hinspect := by
    have hanalyze := w.analyze_eq inspect hinspect model
    constructor
    · rw [Rule.cancels, hanalyze, scanUnits_cancels]
    · intro before
      rw [hanalyze]
      exact ⟨_, Crew.run_alone model hinspect before⟩

/-- **A cancelled run stops promptly and has no output.** In a run of any rules over any source, in
either mode, with or without a report, from the moment at which the run is cancelled nothing
further is loaded, and the run ends in the error of a cancelled run. If rules run one after the
other, no further rule begins and none is called on a further unit; if they run at once, a rule is
called at most on the one unit that it was let through to before. -/
theorem cancellation_stops (e : Engine) (source : Source) (clock : Clock) (cancelled : Bool)
    (attempts : Nat) {paths : List String} (henum : source.enumerate = .ok paths)
    {workers : List Worker} (hworkers : workers.map (·.rule) = e.rules) :
    let start : RunState := { cancelled, attempts }
    StopsPromptly e source paths start ((e.run source clock).run start) ∧
      (∀ filter, Filter.compile e.settings.filter = .ok filter →
        StopsPromptly e source paths start ((e.audit source clock).run start)) ∧
      ScansStop e (source.modelFrom attempts paths)
        (cancelled || (source.attemptsFrom attempts paths).any (·.2.cancels)) workers := by
  intro start
  refine ⟨?_, fun filter hfilter => ?_, scansStop_of_rules hworkers _ _⟩
  · exact stopsPromptly_of_leftBy (e.run_leaves source clock rfl henum) rfl rfl henum not_false
      (e.run_ends source clock rfl)
  · have husable : ¬e.settings.filter.Unreadable := by
      rw [← Filter.compile_error_iff, hfilter]
      rintro ⟨err, herr⟩
      cases herr
    exact stopsPromptly_of_leftBy (e.audit_leaves source clock hfilter rfl henum) rfl rfl henum
      husable (e.audit_ends source clock rfl)

/-- A source of three units. -/
def threeUnits : Source where
  sourceId := "three"
  enumerate := .ok ["a", "b", "c"]
  load _ path :=
    { result := .ok { unit := { path, root := { kind := .compilationUnit, line := 1 } } } }

/-- A rule that works unit by unit and cancels the run at one of them. -/
def cancelsAt (path : String) : Worker where
  rule :=
    { id := "T3"
      name := "cancels"
      category := .general
      analyze := fun model =>
        scanUnits (fun u => { findings := [], cancels := u.unit.path == path }) model.units }
  inspect? := some fun u => { findings := [], cancels := u.unit.path == path }
  analyze_eq := by
    rintro inspect ⟨⟩ model cancelled
    rfl

/-- The calls of rules on units, by the index of the rule and the path of the unit. -/
def Crew.calls (c : Crew) : List (Nat × String) :=
  c.looks.map fun look => (look.rule, look.unit.unit.path)

/-- Calls of one rule on one unit, none of them twice, are one call or none. -/
theorem calls_of_nodup {late : List Look} {call : Nat × String}
    (hnodup : (late.map (·.rule)).Nodup)
    (h : ∀ look ∈ late, (look.rule, look.unit.unit.path) = call) :
    (late.map fun look => (look.rule, look.unit.unit.path)) ∈ [[], [call]] := by
  match late with
  | [] => exact List.mem_cons_self ..
  | [look] =>
    rw [List.map_singleton, h look (List.mem_cons_self ..)]
    exact List.mem_cons_of_mem _ (List.mem_cons_self ..)
  | look :: other :: _ =>
    have hsame := (h look (.head _)).trans (h other (.tail _ (.head _))).symm
    exact absurd (List.mem_cons.mpr (.inl (Prod.mk.inj hsame).1)) (List.nodup_cons.mp hnodup).1

/-- The first of two rules cancels the run at the second of three units. The other one is not called
at all if it comes after the first. If both work at once, and the other one was let through to its
second unit before, it is called on that unit or not, and on no other. -/
theorem cancellation_stops_threeUnits :
    let e : Engine := { rules := [(cancelsAt "b").rule, (cancelsAt "d").rule], settings := {} }
    let result := (e.run threeUnits epoch).run { cancelled := false }
    let crew := Crew.ofWorkers [cancelsAt "b", cancelsAt "d"] false
    let model := threeUnits.modelFrom 0 ["a", "b", "c"]
    let steps := [0, 0, 0, 0, 1, 1, 1, 1, 1, 0, 0, 0]
    result.1 = .error .cancelled ∧
      (∀ id index total, .started id index total ∈ result.2.events → index ≤ 0) ∧
      (∀ more, Crew.InTurn (List.replicate 7 0 ++ more) →
        (crew.run model (List.replicate 7 0 ++ more)).calls = [(0, "a"), (0, "b")]) ∧
      (crew.run model steps).cancelled = true ∧
      ∀ more, (crew.run model (steps ++ more)).calls ∈
        [[(0, "a"), (1, "a"), (0, "b")], [(0, "a"), (1, "a"), (0, "b"), (1, "b")]] := by
  have hentry (i : Nat) (path : String) (h : [none, some "b"][i]? = some (some path)) :
      (i, path) = (1, "b") := by
    rcases i with _ | _ | i <;> cases h
    rfl
  intro e result crew model steps
  have henum : threeUnits.enumerate = .ok ["a", "b", "c"] := rfl
  have hworkers : [cancelsAt "b", cancelsAt "d"].map (·.rule) = e.rules := rfl
  obtain ⟨hrun, -, hscans⟩ := cancellation_stops e threeUnits epoch false 0 henum hworkers
  have hscans : ScansStop e model false [cancelsAt "b", cancelsAt "d"] := hscans
  have hcancels : (cancelsAt "b").rule.cancels model = true := by decide
  have hcancelled : (crew.run model steps).cancelled = true := by decide
  refine ⟨hrun.ends (by decide), (hrun.rules_of_rule rfl 0 _ rfl hcancels).1, ?_, hcancelled, ?_⟩
  · intro more hturn
    have hlooks := hscans.looks_in_turn (List.replicate 7 0) more hturn (by decide)
    exact (congrArg (List.map _) hlooks).trans (by decide)
  · intro more
    obtain ⟨late, hlooks, hnodup, hlate⟩ : ∃ late,
        (crew.run model (steps ++ more)).looks = (crew.run model steps).looks ++ late ∧
        (late.map (·.rule)).Nodup ∧
        ∀ look ∈ late, (crew.run model steps).LetThrough look.rule look.unit :=
      hscans.looks_of_cancelled steps more hcancelled
    have hadmitted : ((crew.run model steps).workers.map fun worker =>
        worker.2.admitted?).map (·.map (·.unit.path)) = [none, some "b"] := by decide
    have honly : ∀ look ∈ late, (look.rule, look.unit.unit.path) = (1, "b") := by
      intro look hlook
      refine hentry look.rule look.unit.unit.path ?_
      rw [← hadmitted, List.getElem?_map, (hlate look hlook).admitted?]
      rfl
    have hcalls : (crew.run model (steps ++ more)).calls = (crew.run model steps).calls ++
        late.map fun look => (look.rule, look.unit.unit.path) := by
      rw [Crew.calls, hlooks, List.map_append]
      rfl
    have hbefore : (crew.run model steps).calls = [(0, "a"), (1, "a"), (0, "b")] := by decide
    rw [hcalls, hbefore]
    exact List.mem_map_of_mem (f := ([(0, "a"), (1, "a"), (0, "b")] ++ ·))
      (calls_of_nodup hnodup honly)

/-- **A rule can be called on a unit after another one has cancelled the run.** Here it is let
through to the first unit, and called on it when the other rule has been called on the same unit
and has cancelled. -/
theorem call_after_cancellation :
    let crew := Crew.ofWorkers [cancelsAt "a", cancelsAt "d"] false
    let model := threeUnits.modelFrom 0 ["a", "b", "c"]
    (¬∀ steps more, (crew.run model steps).cancelled = true →
      (crew.run model (steps ++ more)).looks = (crew.run model steps).looks) ∧
    (crew.run model [1, 1, 0, 0, 0, 0]).cancelled = true ∧
    (crew.run model [1, 1, 0, 0, 0, 0]).calls = [(0, "a")] ∧
    (crew.run model [1, 1, 0, 0, 0, 0, 1]).calls = [(0, "a"), (1, "a")] := by
  intro crew model
  have hcancelled : (crew.run model [1, 1, 0, 0, 0, 0]).cancelled = true := by decide
  have hbefore : (crew.run model [1, 1, 0, 0, 0, 0]).calls = [(0, "a")] := by decide
  have hafter : (crew.run model [1, 1, 0, 0, 0, 0, 1]).calls = [(0, "a"), (1, "a")] := by decide
  refine ⟨fun hall => ?_, hcancelled, hbefore, hafter⟩
  have hsame := congrArg (List.map fun look => (look.rule, look.unit.unit.path))
    (hall [1, 1, 0, 0, 0, 0] [1] hcancelled)
  exact absurd (hafter.symm.trans (hsame.trans hbefore)) (by decide)

end PlatformAudit
