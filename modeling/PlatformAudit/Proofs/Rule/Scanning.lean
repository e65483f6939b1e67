import PlatformAudit.Proofs.Run.Stopping

/-!
# Scans of units

A rule that looks at one unit after the other is driven by `PlatformAudit.scanUnits`.
What such a scan comes to depends on one thing only: whether the run is cancelled when
the scan comes to some unit (`PlatformAudit.CancelledAt`). If it is, the scan stops there
and reports nothing. If it is not, the scan gathers the findings of the units that the
rule could look at and one failure for each of the others, in the order of the units
(`PlatformAudit.gathered`). In particular a rule that cancels at the last unit is not
stopped, as the scan does not come to another one.

That a scan stops in time cannot be seen in its result. So a scan is also described in
which to look at a unit is an action (`PlatformAudit.scanUnitsM`). If this action writes
the unit down, then what is written down at the end are the units that the rule has
looked at (`PlatformAudit.recordedScan`).

The main statement is `PlatformAudit.scanUnits_isolates`.
-/

namespace PlatformAudit

open Code

/-! ### The item at which a loop stops -/

section Loops

variable {α : Type} {cancels : α → Bool} {cancelled : Bool} {x : α} {xs : List α} {n : Nat}

variable (cancels cancelled xs n) in
/-- The run is cancelled when a loop comes to the item with number `n`, either from the
start or by an earlier item. -/
def CancelledAt : Prop :=
  cancelled = true ∨ ∃ x ∈ xs.take n, cancels x = true

theorem cancelledAt_zero : CancelledAt cancels cancelled xs 0 ↔ cancelled = true := by
  simp [CancelledAt]

/-- What an item does to the run is what the rest of the loop starts with. -/
theorem cancelledAt_cons_succ :
    CancelledAt cancels false (x :: xs) (n + 1) ↔ CancelledAt cancels (cancels x) xs n := by
  simp [CancelledAt]

theorem not_cancelledAt_of_quiet (h : ∀ x ∈ xs, cancels x = false) :
    ¬CancelledAt cancels false xs n := by
  rintro (hstart | ⟨x, hx, hcancels⟩)
  · exact Bool.false_ne_true hstart
  · rw [h x (List.mem_of_mem_take hx)] at hcancels
    exact Bool.false_ne_true hcancels

/-- A loop that is not stopped at its first item starts in a run that is not cancelled, and
is not stopped in the rest either. -/
theorem not_cancelledAt_cons
    (h : ∀ n < (x :: xs).length, ¬CancelledAt cancels cancelled (x :: xs) n) :
    cancelled = false ∧ ∀ n < xs.length, ¬CancelledAt cancels (cancels x) xs n := by
  have hstart : cancelled = false := by
    simpa using mt cancelledAt_zero.mpr (h 0 (Nat.succ_pos _))
  subst hstart
  refine ⟨rfl, fun n hn => ?_⟩
  rw [← cancelledAt_cons_succ]
  exact h (n + 1) (Nat.succ_lt_succ hn)

/-- **A loop handles the items before the first one that it comes to in a cancelled run.** -/
theorem untilCancelled_eq_take (h : CancelledAt cancels cancelled xs n)
    (hfirst : ∀ k < n, ¬CancelledAt cancels cancelled xs k) :
    untilCancelled cancels cancelled xs = xs.take n := by
  induction xs generalizing cancelled n with
  | nil => simp
  | cons x xs ih =>
    cases n with
    | zero => rw [cancelledAt_zero.mp h, untilCancelled_true, List.take_zero]
    | succ n =>
      have hstart : cancelled = false := by
        simpa using mt cancelledAt_zero.mpr (hfirst 0 (Nat.succ_pos n))
      subst hstart
      rw [untilCancelled, List.take_succ_cons, ih (cancelledAt_cons_succ.mp h) fun k hk => ?_]
      rw [← cancelledAt_cons_succ]
      exact hfirst (k + 1) (Nat.succ_lt_succ hk)

/-- A loop that comes to no item in a cancelled run handles all of them. -/
theorem untilCancelled_eq_self (h : ∀ n < xs.length, ¬CancelledAt cancels cancelled xs n) :
    untilCancelled cancels cancelled xs = xs := by
  induction xs generalizing cancelled with
  | nil => simp
  | cons x xs ih =>
    obtain ⟨rfl, hrest⟩ := not_cancelledAt_cons h
    rw [untilCancelled, ih hrest]

end Loops

/-! ### What a scan finds -/

section Results

variable {inspect : LoadedUnit → Inspection} {units : List LoadedUnit} {cancelled : Bool}

variable (inspect) in
/-- What a rule finds in some units: the findings of those that it could look at, and the
failures of the others. -/
def gathered (units : List LoadedUnit) : Outcome where
  findings := (units.filter fun u => (inspect u).failure.isNone).flatMap
    fun u => (inspect u).findings
  unitFailures := units.filterMap fun u =>
    (inspect u).failure.map fun f => { path := u.unit.path, message := f.full }

/-- A unit contributes its findings or its failure, and never both. -/
theorem gathered_cons (u : LoadedUnit) (us : List LoadedUnit) :
    gathered inspect (u :: us) =
      ((inspect u).outcome u.unit.path).append (gathered inspect us) := by
  cases h : (inspect u).failure <;> simp [gathered, Inspection.outcome, Outcome.append, h]

theorem gathered_append (before after : List LoadedUnit) :
    gathered inspect (before ++ after) =
      (gathered inspect before).append (gathered inspect after) := by
  simp [gathered, Outcome.append]

/-- A scan that comes to a unit in a cancelled run reports nothing. -/
theorem scanUnits_of_cancelledAt {n : Nat} (hn : n < units.length)
    (h : CancelledAt (fun u => (inspect u).cancels) cancelled units n) :
    scanUnits inspect units cancelled = (.cancelled, true) := by
  induction units generalizing cancelled n with
  | nil => simp at hn
  | cons u us ih =>
    cases cancelled with
    | true => rfl
    | false =>
      cases n with
      | zero => exact absurd (cancelledAt_zero.mp h) Bool.false_ne_true
      | succ n => rw [scanUnits, ih (Nat.lt_of_succ_lt_succ hn) (cancelledAt_cons_succ.mp h)]

/-- A scan that comes to no unit in a cancelled run reports what it has gathered. -/
theorem scanUnits_of_not_cancelledAt
    (h : ∀ n < units.length, ¬CancelledAt (fun u => (inspect u).cancels) cancelled units n) :
    (scanUnits inspect units cancelled).1 = .done (gathered inspect units) := by
  -- the invariant starts from either state: a rule may have cancelled at the unit before, and
  -- is not stopped for it if that was the last one
  induction units generalizing cancelled with
  | nil => rfl
  | cons u us ih =>
    obtain ⟨rfl, hrest⟩ := not_cancelledAt_cons h
    have hus := ih hrest
    rw [scanUnits, gathered_cons]
    revert hus
    rcases scanUnits inspect us (inspect u).cancels with ⟨result, after⟩
    rintro rfl
    rfl

/-- A rule that does not cancel is not stopped. -/
theorem scanUnits_of_quiet_units (h : ∀ u ∈ units, (inspect u).cancels = false) :
    (scanUnits inspect units false).1 = .done (gathered inspect units) :=
  scanUnits_of_not_cancelledAt fun _ _ => not_cancelledAt_of_quiet h

end Results

/-! ### The units that a scan looks at -/

/-- Looks at one unit after the other until the run is cancelled, where to look at a unit is
an action. -/
def scanUnitsM {m : Type → Type} [Monad m] (inspect : LoadedUnit → m Inspection) :
    List LoadedUnit → (cancelled : Bool) → m (RuleResult × Bool)
  | [], cancelled => pure (.done {}, cancelled)
  | _ :: _, true => pure (.cancelled, true)
  | u :: us, false => do
    let i ← inspect u
    match ← scanUnitsM inspect us i.cancels with
    | (.done rest, cancelled) => pure (.done ((i.outcome u.unit.path).append rest), cancelled)
    | stopped => pure stopped

/-- Writes a unit down before it looks at it. -/
def recording (inspect : LoadedUnit → Inspection) (u : LoadedUnit) :
    StateM (List LoadedUnit) Inspection := do
  modify (· ++ [u])
  return inspect u

theorem run_recording (inspect : LoadedUnit → Inspection) (u : LoadedUnit)
    (calls : List LoadedUnit) :
    (recording inspect u).run calls = pure (inspect u, calls ++ [u]) :=
  rfl

/-- **A scan looks at the units that it handles, at each of them once and in their order**, and
to write them down makes no difference to its result. -/
theorem run_scanUnitsM_recording (inspect : LoadedUnit → Inspection) (units : List LoadedUnit)
    (cancelled : Bool) (calls : List LoadedUnit) :
    (scanUnitsM (recording inspect) units cancelled).run calls =
      (scanUnits inspect units cancelled,
        calls ++ untilCancelled (fun u => (inspect u).cancels) cancelled units) := by
  -- the rest of a scan starts with the first unit on its record
  induction units generalizing cancelled calls with
  | nil =>
    rw [untilCancelled_nil, List.append_nil]
    rfl
  | cons u us ih =>
    cases cancelled with
    | true =>
      rw [untilCancelled_true, List.append_nil]
      rfl
    | false =>
      have hrest := ih (inspect u).cancels (calls ++ [u])
      rw [scanUnitsM, scanUnits, untilCancelled, List.append_cons, StateT.run_bind, run_recording,
        pure_bind, StateT.run_bind, hrest]
      rcases scanUnits inspect us (inspect u).cancels with ⟨result, after⟩
      cases result <;> rfl

/-- A scan, with the units that the rule looks at. -/
def recordedScan (inspect : LoadedUnit → Inspection) (units : List LoadedUnit)
    (cancelled : Bool) : (RuleResult × Bool) × List LoadedUnit :=
  (scanUnitsM (recording inspect) units cancelled).run []

theorem recordedScan_eq (inspect : LoadedUnit → Inspection) (units : List LoadedUnit)
    (cancelled : Bool) :
    recordedScan inspect units cancelled =
      (scanUnits inspect units cancelled,
        untilCancelled (fun u => (inspect u).cancels) cancelled units) :=
  run_scanUnitsM_recording inspect units cancelled []

/-! ### The failure of one unit -/

/-- **Scans isolate units.** Let a rule look at the units of a model one after the other.

* If the run is cancelled when the rule comes to a unit, then the rule ends as cancelled, and it
  has looked at the units before the first such unit.
* If not, the rule ends with the findings of the units that it could look at and with one failure
  for each other unit, both in the order of the units, and it has looked at all units. What it
  had found in a unit before it failed there is lost.
* What a rule that does not cancel makes of two lists of units, one after the other, is what it
  makes of the first and then what it makes of the second. -/
theorem scanUnits_isolates (inspect : LoadedUnit → Inspection) (model : LoadedModel)
    (cancelled : Bool) :
    let result := (scanUnits inspect model.units cancelled).1
    let calls := (recordedScan inspect model.units cancelled).2
    let CancelledBefore (n : Nat) :=
      cancelled = true ∨ ∃ u ∈ model.units.take n, (inspect u).cancels = true
    (recordedScan inspect model.units cancelled).1 = scanUnits inspect model.units cancelled ∧
    (∀ n < model.units.length, CancelledBefore n → (∀ k < n, ¬CancelledBefore k) →
      result = .cancelled ∧ calls = model.units.take n) ∧
    ((∀ n < model.units.length, ¬CancelledBefore n) →
      result = .done
        { findings := (model.units.filter fun u => (inspect u).failure.isNone).flatMap
            fun u => (inspect u).findings
          unitFailures := model.units.filterMap fun u =>
            (inspect u).failure.map fun f => { path := u.unit.path, message := f.full } } ∧
      calls = model.units) ∧
    ∀ before after, (∀ u ∈ before ++ after, (inspect u).cancels = false) →
      ∃ a b, (scanUnits inspect before false).1 = .done a ∧
        (scanUnits inspect after false).1 = .done b ∧
        (scanUnits inspect (before ++ after) false).1 =
          .done { findings := a.findings ++ b.findings
                  unitFailures := a.unitFailures ++ b.unitFailures } := by
  rw [recordedScan_eq]
  refine ⟨rfl, ?_, ?_, ?_⟩
  · intro n hn hcancelled hfirst
    exact ⟨congrArg Prod.fst (scanUnits_of_cancelledAt hn hcancelled),
      untilCancelled_eq_take hcancelled hfirst⟩
  · intro hnever
    exact ⟨scanUnits_of_not_cancelledAt hnever, untilCancelled_eq_self hnever⟩
  · intro before after hquiet
    refine ⟨gathered inspect before, gathered inspect after, ?_, ?_, ?_⟩
    · exact scanUnits_of_quiet_units fun u hu => hquiet u (List.mem_append_left after hu)
    · exact scanUnits_of_quiet_units fun u hu => hquiet u (List.mem_append_right before hu)
    · rw [scanUnits_of_quiet_units hquiet, gathered_append]
      rfl

end PlatformAudit
