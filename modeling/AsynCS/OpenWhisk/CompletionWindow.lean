import AsynCS.Lib.Runs

/-!
# The completion window of the backend-pressure run

The controller keeps a window of requests in flight: each terminal completion launches the next
logical id, until the target is launched, the plateau policy stops the run, or the deadline is
reached.  The run returns one vector of outcomes.

* `initialLaunches`: the first window, with the clock read before each launch.
* `completion`: one completion before the deadline.
* `step`: what the run does next; its output is the request it launches.
* `Accounts`: the window, the ids, the deadline and the stop latch are kept, and a vector that is
  returned has one outcome for each launched id.
* `accounts_iff`: the runs that account for every launch.  A completion that is not terminal ends
  the run with the outcomes so far, and the requests that are still in flight are lost.
-/

namespace AsynCS
namespace OpenWhisk
namespace CompletionWindow

/-- Ids are 32-bit integers. -/
def nextInt (n : ℤ) : ℤ := if n = 2 ^ 31 - 1 then -(2 ^ 31) else n + 1

/-- What one blocking invocation came to. -/
structure BackendPressureActivationResult where
  status : String
  reason : String
  deriving DecidableEq

namespace BackendPressureActivationResult

def completed (r : BackendPressureActivationResult) : Bool := r.status == "completed"

def failed (r : BackendPressureActivationResult) : Bool := r.status == "failed"

end BackendPressureActivationResult

/-- The outcome of one logical request.  A failed invocation is recovered to a reason. -/
structure BackendPressureOutcome where
  logicalRequestId : ℤ
  result : Except String BackendPressureActivationResult
  sourceScheduleLagNs : ℤ

/-- The invocation ran and ended, with success or without. -/
def BackendPressureOutcome.terminalResult (o : BackendPressureOutcome) : Bool :=
  match o.result with
  | .ok result => result.completed || result.failed
  | .error _ => false

/-- Why an outcome is not terminal. -/
def BackendPressureOutcome.reason (o : BackendPressureOutcome) : String :=
  match o.result with
  | .ok result => result.reason
  | .error error => error

/-- The plateau policy: its decision, beside the rates that it measures. -/
structure PlateauState (ρ : Type) where
  measures : ρ
  stop : Bool
  stopReason : String

/-- What a run is asked to do.  The rates of the plateau policy are floating-point, so its
evaluation is a parameter. -/
structure Request (ρ : Type) where
  plannedLogicalRequests : ℤ
  completionWindowSize : Option ℤ
  completionWindowTimeoutSec : ℤ
  runStartMonoNs : ℤ
  plateauEnabled : Bool
  initialMeasures : ρ
  evaluatePlateauCompletion : PlateauState ρ → List ℤ → ℤ → PlateauState ρ

/-- One launch: the logical id and the clock at its submission. -/
structure Launch where
  logicalRequestId : ℤ
  submitMonoNs : ℤ

/-- The first reason to stop. -/
structure StopDecision (ρ : Type) where
  decision : String
  reason : String
  plateauState : PlateauState ρ
  completionCount : ℕ
  elapsedNs : ℤ

/-- What the run reports when it ends. -/
structure RunDecision where
  submitted : ℤ
  decision : String
  reason : String

/-- The arguments of `loop`, and the vector once the run has returned it. -/
structure WindowState (ρ : Type) where
  nextLogicalRequestId : ℤ
  inFlight : List ℤ
  accumulated : List BackendPressureOutcome
  completionTimesNs : List ℤ
  plateauState : PlateauState ρ
  stopDecision : Option (StopDecision ρ)
  returned : Option (RunDecision × List BackendPressureOutcome)

/-- The future that completes first: the deadline, or a request with its outcome.  A completion
reads the clock twice: when it is seen, and before the refill. -/
inductive WindowEvent where
  | deadline
  | completion (outcome : BackendPressureOutcome) (completionMonoNs refillSubmitMonoNs : ℤ)

/-! ## Transitions -/

/-- What follows from a terminal completion. -/
structure Transition where
  nextLogicalRequestId : ℤ
  inFlightAfterCompletion : ℕ
  refillLogicalRequestId : Option ℤ
  stopLatched : Bool
  deriving DecidableEq

def afterTerminalCompletion (nextLogicalRequestId : ℤ) (remainingInFlight : ℕ)
    (targetLogicalRequests : ℤ) (plateauStopNow stopAlreadyLatched refillAllowed : Bool) :
    Transition :=
  let stopLatched := stopAlreadyLatched || plateauStopNow
  if (!stopLatched && refillAllowed && nextLogicalRequestId ≤ targetLogicalRequests) = true then
    ⟨nextInt nextLogicalRequestId, remainingInFlight + 1, some nextLogicalRequestId, false⟩
  else
    ⟨nextLogicalRequestId, remainingInFlight, none, stopLatched⟩

variable {ρ : Type}

namespace Request

variable (c : Request ρ)

def windowSize : ℤ := min (c.completionWindowSize.getD 1) c.plannedLogicalRequests

def deadlineMonoNs : ℤ := c.runStartMonoNs + c.completionWindowTimeoutSec * 1000000000

def deadlineReached (observedMonoNs : ℤ) : Bool := c.deadlineMonoNs ≤ observedMonoNs

/-- The outcome of a request that is in flight when the deadline is reached. -/
def timedOutInFlight (logicalRequestId : ℤ) : BackendPressureOutcome :=
  ⟨logicalRequestId, .error "completion_window_timeout_inflight", 0⟩

/-- The end of a run at its deadline: the requests in flight get an outcome each. -/
def timeoutRunResult (s : WindowState ρ) : WindowState ρ :=
  { s with
    returned := some (⟨s.nextLogicalRequestId - 1, "timeout", "completion_window_timeout"⟩,
      s.accumulated ++ s.inFlight.map timedOutInFlight) }

/-- The head of the loop: the run ends when nothing is in flight. -/
def loop (s : WindowState ρ) : WindowState ρ :=
  if s.inFlight.isEmpty = true then
    let decision : RunDecision :=
      match s.stopDecision with
      | some d => ⟨s.accumulated.length, d.decision, d.reason⟩
      | none =>
        ⟨s.accumulated.length, "complete",
          if c.plateauEnabled && decide ((s.accumulated.length : ℤ) < c.plannedLogicalRequests) then
            "completion_window_plateau_stop"
          else "completion_window_target_complete"⟩
    { s with returned := some (decision, s.accumulated) }
  else s

/-- The plateau policy stopped the run earlier. -/
def stopAlreadyLatched (s : WindowState ρ) : Bool := s.stopDecision.any fun d => d.plateauState.stop

def completionElapsedNs (completionMonoNs : ℤ) : ℤ := max 0 (completionMonoNs - c.runStartMonoNs)

/-- The plateau policy at a terminal completion. -/
def evaluatedPlateauState (s : WindowState ρ) (completionMonoNs : ℤ) : PlateauState ρ :=
  c.evaluatePlateauCompletion s.plateauState s.completionTimesNs
    (c.completionElapsedNs completionMonoNs)

/-- The requests in flight without the one that completed. -/
def remaining (s : WindowState ρ) (outcome : BackendPressureOutcome) : List ℤ :=
  s.inFlight.filter fun id => id != outcome.logicalRequestId

def terminalTransition (s : WindowState ρ) (outcome : BackendPressureOutcome)
    (completionMonoNs refillSubmitMonoNs : ℤ) : Transition :=
  afterTerminalCompletion s.nextLogicalRequestId (remaining s outcome).length
    c.plannedLogicalRequests (c.evaluatedPlateauState s completionMonoNs).stop
    (stopAlreadyLatched s) !c.deadlineReached refillSubmitMonoNs

/-- The arguments of the next call of `loop`, after a terminal completion. -/
def afterTerminal (s : WindowState ρ) (outcome : BackendPressureOutcome)
    (completionMonoNs refillSubmitMonoNs : ℤ) : WindowState ρ :=
  let evaluated := c.evaluatedPlateauState s completionMonoNs
  let transition := c.terminalTransition s outcome completionMonoNs refillSubmitMonoNs
  let targetReached := decide (c.plannedLogicalRequests < s.nextLogicalRequestId)
  let nextInFlight := remaining s outcome ++ transition.refillLogicalRequestId.toList
  let latchedStopReason :=
    ((s.stopDecision.map fun d => d.plateauState.stopReason).filter (· ≠ "")).getD
      evaluated.stopReason
  let newPlateauState :=
    if transition.stopLatched = true then
      { evaluated with stop := true, stopReason := latchedStopReason }
    else evaluated
  let completedSoFar := s.accumulated.length + 1
  { nextLogicalRequestId := transition.nextLogicalRequestId
    inFlight := nextInFlight
    accumulated := s.accumulated ++ [outcome]
    completionTimesNs := s.completionTimesNs ++ [c.completionElapsedNs completionMonoNs]
    plateauState := newPlateauState
    stopDecision := s.stopDecision.or <|
      if evaluated.stop = true then
        some ⟨"complete", "completion_window_plateau_stop", newPlateauState, completedSoFar,
          c.completionElapsedNs completionMonoNs⟩
      else if (targetReached && nextInFlight.isEmpty) = true then
        some ⟨"complete", "completion_window_target_complete", newPlateauState, completedSoFar,
          c.completionElapsedNs completionMonoNs⟩
      else none
    returned := none }

/-- A terminal completion before the deadline, and the request that is launched. -/
def terminalCompletion (s : WindowState ρ) (outcome : BackendPressureOutcome)
    (completionMonoNs refillSubmitMonoNs : ℤ) : WindowState ρ × Option Launch :=
  let next := c.afterTerminal s outcome completionMonoNs refillSubmitMonoNs
  let transition := c.terminalTransition s outcome completionMonoNs refillSubmitMonoNs
  (if c.deadlineReached refillSubmitMonoNs = true then timeoutRunResult next else c.loop next,
    transition.refillLogicalRequestId.map fun id => ⟨id, refillSubmitMonoNs⟩)

/-- A completion before the deadline.  One that is not terminal ends the run: the vector has the
outcomes so far and this one. -/
def completion (s : WindowState ρ) (outcome : BackendPressureOutcome)
    (completionMonoNs refillSubmitMonoNs : ℤ) : WindowState ρ × Option Launch :=
  if outcome.terminalResult = true then
    c.terminalCompletion s outcome completionMonoNs refillSubmitMonoNs
  else
    ({ s with
        inFlight := []
        returned := some (⟨s.nextLogicalRequestId - 1, "invalid_non_terminal_completion_signal",
          outcome.reason⟩, s.accumulated ++ [outcome]) }, none)

/-- One step of the run.  A completion that is seen at the deadline or later counts as the
deadline; a request that is not in flight has no future to complete. -/
def step (s : WindowState ρ) (event : WindowEvent) : WindowState ρ × Option Launch :=
  if s.returned.isSome = true then (s, none)
  else
    match event with
    | .deadline => (timeoutRunResult s, none)
    | .completion outcome completionMonoNs refillSubmitMonoNs =>
      if outcome.logicalRequestId ∉ s.inFlight then (s, none)
      else if c.deadlineReached completionMonoNs = true then (timeoutRunResult s, none)
      else c.completion s outcome completionMonoNs refillSubmitMonoNs

/-! ## The first window -/

/-- The launches of the first window, the next id, and whether the deadline was observed.  `clock`
gives the readings of the clock, one before each launch. -/
def initialLaunches (clock : ℕ → ℤ) : ℕ → ℤ → List Launch → ℤ × List Launch × Bool
  | 0, next, initial => (next, initial, false)
  | fuel + 1, next, initial =>
    if next ≤ c.windowSize then
      if c.deadlineReached (clock initial.length) = true then (next, initial, true)
      else initialLaunches clock fuel (nextInt next) (initial ++ [⟨next, clock initial.length⟩])
    else (next, initial, false)

/-- What the first window comes to; it has no more launches than its size. -/
def firstWindow (clock : ℕ → ℤ) : ℤ × List Launch × Bool :=
  c.initialLaunches clock c.windowSize.toNat 1 []

/-- The state in which the run waits for its first completion. -/
def start (clock : ℕ → ℤ) : WindowState ρ :=
  let first := c.firstWindow clock
  let initial : WindowState ρ :=
    { nextLogicalRequestId := first.1
      inFlight := first.2.1.map (·.logicalRequestId)
      accumulated := []
      completionTimesNs := []
      plateauState := ⟨c.initialMeasures, false, ""⟩
      stopDecision := none
      returned := none }
  if first.2.2 = true then timeoutRunResult initial else c.loop initial

/-- All launches of the run with the given history. -/
def launches (clock : ℕ → ℤ) (h : List (Record (WindowState ρ) WindowEvent (Option Launch))) :
    List Launch :=
  (c.firstWindow clock).2.1 ++ h.reverse.filterMap (·.output)

/-! ## The property -/

/-- **The run accounts for every launch**, at one point of it. -/
structure Accounts (clock : ℕ → ℤ) (h : List (Record (WindowState ρ) WindowEvent (Option Launch)))
    (s : WindowState ρ) : Prop where
  /-- At most `windowSize` requests are in flight. -/
  window : s.inFlight.length ≤ c.windowSize.toNat
  /-- The ids are 1, 2, … in the order of launch. -/
  consecutive : (c.launches clock h).map (·.logicalRequestId) =
    (List.range (c.launches clock h).length).map fun i : ℕ => (i : ℤ) + 1
  withinTarget : ∀ l ∈ c.launches clock h, l.logicalRequestId ≤ c.plannedLogicalRequests
  beforeDeadline : ∀ l ∈ c.launches clock h, l.submitMonoNs < c.deadlineMonoNs
  /-- No launch once the stop is latched, nor in the step that latches it. -/
  afterLatch : ∀ r ∈ h, (stopAlreadyLatched r.pre || stopAlreadyLatched (c.step r.pre r.input).1) =
    true → r.output = none
  /-- One outcome for each launched id. -/
  accounted : ∀ decision result, s.returned = some (decision, result) →
    (result.map (·.logicalRequestId)).Perm ((c.launches clock h).map (·.logicalRequestId))

/-- The step is no completion that is not terminal while other requests are in flight. -/
def keepsAccount (s : WindowState ρ) : WindowEvent → Prop
  | .deadline => True
  | .completion outcome completionMonoNs _ =>
    s.returned = none → outcome.logicalRequestId ∈ s.inFlight →
      c.deadlineReached completionMonoNs = false → outcome.terminalResult = false →
        s.inFlight.length ≤ 1

/-! ## What one step does -/

theorem afterTerminalCompletion_cases (next : ℤ) (remaining : ℕ) (target : ℤ)
    (plateauStopNow already allowed : Bool) :
    (next ≤ target ∧ plateauStopNow = false ∧ already = false ∧ allowed = true ∧
      afterTerminalCompletion next remaining target plateauStopNow already allowed =
        ⟨nextInt next, remaining + 1, some next, false⟩) ∨
    afterTerminalCompletion next remaining target plateauStopNow already allowed =
      ⟨next, remaining, none, already || plateauStopNow⟩ := by
  unfold afterTerminalCompletion
  by_cases h : (!(already || plateauStopNow) && allowed && decide (next ≤ target)) = true
  · left
    refine ⟨?_, ?_, ?_, ?_, if_pos h⟩ <;> simp_all
  · right
    exact if_neg h

@[simp] theorem stopAlreadyLatched_timeoutRunResult (s : WindowState ρ) :
    stopAlreadyLatched (timeoutRunResult s) = stopAlreadyLatched s := rfl

variable {c}

/-- The loop waits, or returns the outcomes so far when nothing is in flight. -/
theorem loop_cases (s : WindowState ρ) :
    c.loop s = s ∨
      s.inFlight = [] ∧
        ∃ decision, c.loop s = { s with returned := some (decision, s.accumulated) } := by
  unfold loop
  split
  · next h => exact .inr ⟨List.isEmpty_iff.mp h, _, rfl⟩
  · exact .inl rfl

@[simp] theorem stopAlreadyLatched_loop (s : WindowState ρ) :
    stopAlreadyLatched (c.loop s) = stopAlreadyLatched s := by
  rcases loop_cases (c := c) s with h | ⟨-, decision, h⟩
  · rw [h]
  · rw [h]
    rfl

/-- **A terminal completion**: the outcome is added, the request leaves the window, and the next id
is launched or nothing is. -/
theorem afterTerminal_cases (s : WindowState ρ) (outcome : BackendPressureOutcome)
    (completionMonoNs refillSubmitMonoNs : ℤ) :
    ((c.terminalCompletion s outcome completionMonoNs refillSubmitMonoNs).2 =
          some ⟨s.nextLogicalRequestId, refillSubmitMonoNs⟩ ∧
        (c.afterTerminal s outcome completionMonoNs refillSubmitMonoNs).inFlight =
          remaining s outcome ++ [s.nextLogicalRequestId] ∧
        (c.afterTerminal s outcome completionMonoNs refillSubmitMonoNs).nextLogicalRequestId =
          nextInt s.nextLogicalRequestId ∧
        s.nextLogicalRequestId ≤ c.plannedLogicalRequests ∧
        c.deadlineReached refillSubmitMonoNs = false ∧ stopAlreadyLatched s = false ∧
        stopAlreadyLatched (c.afterTerminal s outcome completionMonoNs refillSubmitMonoNs) =
          false) ∨
      ((c.terminalCompletion s outcome completionMonoNs refillSubmitMonoNs).2 = none ∧
        (c.afterTerminal s outcome completionMonoNs refillSubmitMonoNs).inFlight =
          remaining s outcome ∧
        (c.afterTerminal s outcome completionMonoNs refillSubmitMonoNs).nextLogicalRequestId =
          s.nextLogicalRequestId) := by
  rcases afterTerminalCompletion_cases s.nextLogicalRequestId (remaining s outcome).length
      c.plannedLogicalRequests (c.evaluatedPlateauState s completionMonoNs).stop
      (stopAlreadyLatched s) (!c.deadlineReached refillSubmitMonoNs) with
    ⟨hle, hstop, hlatch, hallowed, htr⟩ | htr
  · rw [← terminalTransition] at htr
    refine .inl ⟨?_, ?_, ?_, hle, by simpa using hallowed, hlatch, ?_⟩
    · simp [terminalCompletion, htr]
    · simp [afterTerminal, htr]
    · simp [afterTerminal, htr]
    · -- something is in flight, so no decision is taken
      have hdecision :
          (c.afterTerminal s outcome completionMonoNs refillSubmitMonoNs).stopDecision =
            s.stopDecision := by
        simp [afterTerminal, htr, hstop]
      rw [stopAlreadyLatched, hdecision]
      exact hlatch
  · rw [← terminalTransition] at htr
    refine .inr ⟨?_, ?_, ?_⟩
    · simp [terminalCompletion, htr]
    · simp [afterTerminal, htr]
    · simp [afterTerminal, htr]

/-- **One step**: the run has returned or the request is not in flight; or it ends at the deadline;
or a completion is terminal, or not. -/
theorem step_cases (s : WindowState ρ) (event : WindowEvent) :
    c.step s event = (s, none) ∨
    s.returned = none ∧
      (c.step s event = (timeoutRunResult s, none) ∨
        ∃ outcome completionMonoNs refillSubmitMonoNs,
          event = .completion outcome completionMonoNs refillSubmitMonoNs ∧
          outcome.logicalRequestId ∈ s.inFlight ∧ c.deadlineReached completionMonoNs = false ∧
          c.step s event = c.completion s outcome completionMonoNs refillSubmitMonoNs) := by
  unfold step
  by_cases hr : s.returned.isSome = true
  · exact .inl (if_pos hr)
  · rw [if_neg hr]
    have hnone : s.returned = none := by simpa using hr
    cases event with
    | deadline => exact .inr ⟨hnone, .inl rfl⟩
    | completion outcome completionMonoNs refillSubmitMonoNs =>
      by_cases hin : outcome.logicalRequestId ∈ s.inFlight
      · by_cases hd : c.deadlineReached completionMonoNs = true
        · refine .inr ⟨hnone, .inl ?_⟩
          simp only [hin, not_true, if_false, hd, if_true]
        · refine .inr ⟨hnone, .inr
            ⟨outcome, completionMonoNs, refillSubmitMonoNs, rfl, hin, ?_, ?_⟩⟩
          · simpa using hd
          · simp only [hin, not_true, if_false, hd, Bool.false_eq_true]
      · exact .inl (by simp only [hin, not_false_eq_true, if_true])

/-- A completion that is not terminal, before the deadline. -/
theorem step_of_not_terminal {s : WindowState ρ} {outcome : BackendPressureOutcome}
    {completionMonoNs : ℤ} (refillSubmitMonoNs : ℤ) (hr : s.returned = none)
    (hin : outcome.logicalRequestId ∈ s.inFlight) (hd : c.deadlineReached completionMonoNs = false)
    (hterminal : outcome.terminalResult = false) :
    c.step s (.completion outcome completionMonoNs refillSubmitMonoNs) =
      ({ s with
          inFlight := []
          returned := some (⟨s.nextLogicalRequestId - 1, "invalid_non_terminal_completion_signal",
            outcome.reason⟩, s.accumulated ++ [outcome]) }, none) := by
  rw [Request.step, if_neg (by simp [hr])]
  simp only [hin, not_true, if_false, hd, Bool.false_eq_true]
  rw [completion, if_neg (by simp [hterminal])]

/-! ## The invariant -/

/-- What the run keeps, with the launches so far. -/
structure Sound (c : Request ρ) (launched : List Launch) (s : WindowState ρ) : Prop where
  next : s.nextLogicalRequestId = launched.length + 1
  consecutive : launched.map (·.logicalRequestId) =
    (List.range launched.length).map fun i : ℕ => (i : ℤ) + 1
  count : launched.length ≤ c.plannedLogicalRequests.toNat
  window : s.inFlight.length ≤ c.windowSize.toNat
  early : ∀ l ∈ launched, c.deadlineReached l.submitMonoNs = false
  waiting : s.returned = none → (s.accumulated.map (·.logicalRequestId) ++ s.inFlight).Perm
    (launched.map (·.logicalRequestId))
  accounted : ∀ decision result, s.returned = some (decision, result) →
    (result.map (·.logicalRequestId)).Perm (launched.map (·.logicalRequestId))

namespace Sound

variable {launched : List Launch} {s : WindowState ρ}

theorem nodup (hs : Sound c launched s) : (launched.map (·.logicalRequestId)).Nodup := by
  rw [hs.consecutive]
  exact List.nodup_range.map fun i j hij => by simpa using hij

theorem timeoutRunResult (hs : Sound c launched s) (hr : s.returned = none) :
    Sound c launched (timeoutRunResult s) := by
  refine ⟨hs.next, hs.consecutive, hs.count, hs.window, hs.early, nofun, ?_⟩
  intro decision result hres
  cases hres
  have hids : ((s.inFlight.map timedOutInFlight).map (·.logicalRequestId)) = s.inFlight := by
    rw [List.map_map]
    exact List.map_id' _
  rw [List.map_append, hids]
  exact hs.waiting hr

theorem loop (hs : Sound c launched s) (hr : s.returned = none) : Sound c launched (c.loop s) := by
  rcases loop_cases (c := c) s with h | ⟨hempty, decision, h⟩
  · rw [h]
    exact hs
  · rw [h]
    refine ⟨hs.next, hs.consecutive, hs.count, hs.window, hs.early, nofun, ?_⟩
    intro decision' result hres
    cases hres
    have hw := hs.waiting hr
    rw [hempty, List.append_nil] at hw
    exact hw

/-- The request that completes and the remaining ones are those in flight. -/
theorem remaining_perm (hs : Sound c launched s) (hr : s.returned = none)
    {outcome : BackendPressureOutcome} (hin : outcome.logicalRequestId ∈ s.inFlight) :
    (outcome.logicalRequestId :: remaining s outcome).Perm s.inFlight := by
  have hnodup : s.inFlight.Nodup :=
    (List.nodup_append.mp ((hs.waiting hr).nodup_iff.mpr hs.nodup)).2.1
  rw [remaining, ← hnodup.erase_eq_filter]
  exact (List.perm_cons_erase hin).symm

/-- A launch of the next id. -/
theorem consecutive_snoc (hs : Sound c launched s) (submitMonoNs : ℤ) :
    (launched ++ [(⟨s.nextLogicalRequestId, submitMonoNs⟩ : Launch)]).map (·.logicalRequestId) =
      (List.range (launched ++ [(⟨s.nextLogicalRequestId, submitMonoNs⟩ : Launch)]).length).map
        fun i : ℕ => (i : ℤ) + 1 := by
  rw [List.map_append, hs.consecutive, List.length_append, List.length_singleton,
    List.range_succ, List.map_append, List.map_singleton, List.map_singleton, hs.next]

theorem afterTerminal (htarget : c.plannedLogicalRequests < 2 ^ 31 - 1)
    (hs : Sound c launched s) (hr : s.returned = none) {outcome : BackendPressureOutcome}
    (hin : outcome.logicalRequestId ∈ s.inFlight) (completionMonoNs refillSubmitMonoNs : ℤ) :
    Sound c
      (launched ++ (c.terminalCompletion s outcome completionMonoNs refillSubmitMonoNs).2.toList)
      (c.afterTerminal s outcome completionMonoNs refillSubmitMonoNs) := by
  have hperm := hs.remaining_perm hr hin
  have hlen := hperm.length_eq
  have hwindow := hs.window
  have hcount := hs.count
  have hnext := hs.next
  rw [List.length_cons] at hlen
  -- the outcome takes the place of the request that completed
  have hwaiting : ((s.accumulated ++ [outcome]).map (·.logicalRequestId) ++
      remaining s outcome).Perm (launched.map (·.logicalRequestId)) := by
    rw [List.map_append, List.append_assoc]
    exact (hperm.append_left _).trans (hs.waiting hr)
  rcases afterTerminal_cases (c := c) s outcome completionMonoNs refillSubmitMonoNs with
    ⟨hlaunch, hinFlight, hnext', hle, hearly, -, -⟩ | ⟨hlaunch, hinFlight, hnext'⟩
  · rw [hlaunch, Option.toList_some]
    refine ⟨?_, hs.consecutive_snoc _, ?_, ?_, ?_, fun _ => ?_, nofun⟩
    · rw [hnext', nextInt, if_neg (by omega), List.length_append, List.length_singleton, hnext]
      push_cast
      ring
    · rw [List.length_append, List.length_singleton]
      omega
    · rw [hinFlight, List.length_append, List.length_singleton]
      omega
    · intro l hl
      rcases List.mem_append.mp hl with hl | hl
      · exact hs.early l hl
      · rw [List.mem_singleton.mp hl]
        exact hearly
    · rw [hinFlight, List.map_append, ← List.append_assoc]
      exact hwaiting.append_right _
  · rw [hlaunch, Option.toList_none, List.append_nil]
    refine ⟨hnext'.trans hnext, hs.consecutive, hcount, ?_, hs.early, fun _ => ?_, nofun⟩
    · rw [hinFlight]
      omega
    · rw [hinFlight]
      exact hwaiting

/-- A completion that is not terminal, of the only request in flight. -/
theorem notTerminal (hs : Sound c launched s) (hr : s.returned = none)
    {outcome : BackendPressureOutcome} (hin : outcome.logicalRequestId ∈ s.inFlight)
    (hone : s.inFlight.length ≤ 1) (decision : RunDecision) :
    Sound c launched
      { s with inFlight := [], returned := some (decision, s.accumulated ++ [outcome]) } := by
  refine ⟨hs.next, hs.consecutive, hs.count, Nat.zero_le _, hs.early, nofun, ?_⟩
  intro decision' result hres
  cases hres
  have hids : s.inFlight = [outcome.logicalRequestId] := by
    obtain ⟨id, hid⟩ := List.length_eq_one_iff.mp
      (le_antisymm hone (List.length_pos_of_mem hin))
    rw [hid] at hin ⊢
    rw [List.mem_singleton.mp hin]
  have hw := hs.waiting hr
  rw [hids] at hw
  rw [List.map_append]
  exact hw

/-- **Step lemma.**  A step that keeps account keeps the invariant. -/
theorem step (htarget : c.plannedLogicalRequests < 2 ^ 31 - 1) (hs : Sound c launched s)
    {event : WindowEvent} (hkeep : c.keepsAccount s event) :
    Sound c (launched ++ (c.step s event).2.toList) (c.step s event).1 := by
  rcases step_cases (c := c) s event with h | ⟨hr, h | ⟨outcome, completionMonoNs,
    refillSubmitMonoNs, rfl, hin, hdeadline, h⟩⟩
  · rw [h, Option.toList_none, List.append_nil]
    exact hs
  · rw [h, Option.toList_none, List.append_nil]
    exact hs.timeoutRunResult hr
  · rw [h, completion]
    split
    · have hafter := hs.afterTerminal htarget hr hin completionMonoNs refillSubmitMonoNs
      rw [terminalCompletion] at hafter ⊢
      split
      · exact hafter.timeoutRunResult rfl
      · exact hafter.loop rfl
    · next hterminal =>
      rw [Option.toList_none, List.append_nil]
      exact hs.notTerminal hr hin (hkeep hr hin hdeadline (by simpa using hterminal)) _

end Sound

/-! ## The first window -/

/-- The first window has the ids from 1 on, as many as its size and before the deadline. -/
theorem initialLaunches_spec (clock : ℕ → ℤ) {fuel : ℕ} {next : ℤ} {initial : List Launch}
    (hwindow : c.windowSize < 2 ^ 31 - 1) (hnext : next = initial.length + 1)
    (hids : initial.map (·.logicalRequestId) =
      (List.range initial.length).map fun i : ℕ => (i : ℤ) + 1)
    (hsize : initial.length ≤ c.windowSize.toNat)
    (hearly : ∀ l ∈ initial, c.deadlineReached l.submitMonoNs = false) :
    let first := c.initialLaunches clock fuel next initial
    first.1 = first.2.1.length + 1 ∧
      first.2.1.map (·.logicalRequestId) =
        (List.range first.2.1.length).map (fun i : ℕ => (i : ℤ) + 1) ∧
      first.2.1.length ≤ c.windowSize.toNat ∧
      ∀ l ∈ first.2.1, c.deadlineReached l.submitMonoNs = false := by
  induction fuel generalizing next initial with
  | zero => exact ⟨hnext, hids, hsize, hearly⟩
  | succ fuel ih =>
    rw [initialLaunches]
    split
    · next hle =>
      split
      · exact ⟨hnext, hids, hsize, hearly⟩
      · next hd =>
        refine ih ?_ ?_ ?_ ?_
        · rw [nextInt, if_neg (by omega), hnext, List.length_append, List.length_singleton]
          push_cast
          ring
        · rw [List.map_append, hids, List.length_append, List.length_singleton, List.range_succ,
            List.map_append, List.map_singleton, List.map_singleton, hnext]
        · rw [List.length_append, List.length_singleton]
          omega
        · intro l hl
          rcases List.mem_append.mp hl with hl | hl
          · exact hearly l hl
          · rw [List.mem_singleton.mp hl]
            simpa using hd
    · exact ⟨hnext, hids, hsize, hearly⟩

/-- The first window is full, unless the deadline was observed. -/
theorem windowSize_lt_of_initialLaunches (clock : ℕ → ℤ) {fuel : ℕ} {next : ℤ}
    {initial : List Launch} (hwindow : c.windowSize < 2 ^ 31 - 1)
    (hfuel : c.windowSize < next + fuel)
    (hnone : (c.initialLaunches clock fuel next initial).2.2 = false) :
    c.windowSize < (c.initialLaunches clock fuel next initial).1 := by
  induction fuel generalizing next initial with
  | zero => simpa [initialLaunches] using hfuel
  | succ fuel ih =>
    rw [initialLaunches] at hnone ⊢
    split
    · next hle =>
      rw [if_pos hle] at hnone
      split
      · next hd => simp [hd] at hnone
      · next hd =>
        rw [if_neg hd] at hnone
        refine ih ?_ hnone
        rw [nextInt, if_neg (by omega)]
        push_cast at hfuel
        omega
    · next hle => exact not_le.mp hle

/-- The run starts with its first window in flight. -/
theorem sound_start (htarget : c.plannedLogicalRequests < 2 ^ 31 - 1) (clock : ℕ → ℤ) :
    Sound c (c.launches clock []) (c.start clock) := by
  have hwindow : c.windowSize ≤ c.plannedLogicalRequests := min_le_right _ _
  obtain ⟨hnext, hids, hsize, hearly⟩ := @initialLaunches_spec _ c clock
    c.windowSize.toNat 1 [] (by omega) rfl rfl (Nat.zero_le _) nofun
  have hs : Sound c (c.firstWindow clock).2.1
      { nextLogicalRequestId := (c.firstWindow clock).1
        inFlight := (c.firstWindow clock).2.1.map (·.logicalRequestId)
        accumulated := []
        completionTimesNs := []
        plateauState := ⟨c.initialMeasures, false, ""⟩
        stopDecision := none
        returned := none } := by
    refine ⟨hnext, hids, ?_, ?_, hearly, fun _ => .refl _, nofun⟩
    · exact hsize.trans (Int.toNat_le_toNat hwindow)
    · rw [List.length_map]
      exact hsize
  rw [launches, List.reverse_nil, List.filterMap_nil, List.append_nil]
  unfold start
  simp only
  split
  · exact hs.timeoutRunResult rfl
  · exact hs.loop rfl

/-! ## Runs -/

@[simp] theorem launches_cons (clock : ℕ → ℤ)
    (r : Record (WindowState ρ) WindowEvent (Option Launch))
    (h : List (Record (WindowState ρ) WindowEvent (Option Launch))) :
    c.launches clock (r :: h) = c.launches clock h ++ r.output.toList := by
  rw [launches, launches, List.reverse_cons, List.filterMap_append, List.append_assoc]
  cases hr : r.output <;> simp [hr]

/-- A latched stop, before the step or after it, launches nothing. -/
theorem output_eq_none_of_latched (s : WindowState ρ) (event : WindowEvent)
    (hlatch : (stopAlreadyLatched s || stopAlreadyLatched (c.step s event).1) = true) :
    (c.step s event).2 = none := by
  rcases step_cases (c := c) s event with h | ⟨hr, h | ⟨outcome, completionMonoNs,
    refillSubmitMonoNs, rfl, hin, hdeadline, h⟩⟩
  · rw [h]
  · rw [h]
  · rw [h, completion] at hlatch ⊢
    split
    · next hterminal =>
      rw [if_pos hterminal] at hlatch
      rcases afterTerminal_cases (c := c) s outcome completionMonoNs refillSubmitMonoNs with
        ⟨-, -, -, -, hearly, hbefore, hafter⟩ | ⟨hnone, -, -⟩
      · rw [hbefore, terminalCompletion, hearly, if_neg (by decide), stopAlreadyLatched_loop,
          hafter] at hlatch
        exact absurd hlatch (by decide)
      · exact hnone
    · rfl

/-- A run whose steps keep account keeps the invariant. -/
theorem sound_of_reach (htarget : c.plannedLogicalRequests < 2 ^ 31 - 1) {clock : ℕ → ℤ}
    {h : List (Record (WindowState ρ) WindowEvent (Option Launch))} {s : WindowState ρ}
    (hr : Reach c.step (c.start clock) h s) (hkeep : ∀ r ∈ h, c.keepsAccount r.pre r.input) :
    Sound c (c.launches clock h) s := by
  refine hr.invariant (fun h s => (∀ r ∈ h, c.keepsAccount r.pre r.input) →
    Sound c (c.launches clock h) s) (fun _ => sound_start htarget clock) ?_ hkeep
  intro h s event _ ih hkeep
  rw [launches_cons]
  exact (ih fun r hm => hkeep r (List.mem_cons_of_mem _ hm)).step htarget
    (hkeep _ List.mem_cons_self)

/-- Ids that are consecutive and few are within the target. -/
theorem Sound.withinTarget {launched : List Launch} {s : WindowState ρ}
    (hs : Sound c launched s) {l : Launch} (hl : l ∈ launched) :
    l.logicalRequestId ≤ c.plannedLogicalRequests := by
  have hcount := hs.count
  have hmem : l.logicalRequestId ∈ launched.map (·.logicalRequestId) := List.mem_map_of_mem hl
  rw [hs.consecutive] at hmem
  obtain ⟨i, hi, hid⟩ := List.mem_map.mp hmem
  rw [List.mem_range] at hi
  omega

/-- **Run lemma.**  A run whose steps keep account accounts for every launch. -/
theorem accounts_of_reach (htarget : c.plannedLogicalRequests < 2 ^ 31 - 1) {clock : ℕ → ℤ}
    {h : List (Record (WindowState ρ) WindowEvent (Option Launch))} {s : WindowState ρ}
    (hr : Reach c.step (c.start clock) h s) (hkeep : ∀ r ∈ h, c.keepsAccount r.pre r.input) :
    c.Accounts clock h s := by
  have hs := sound_of_reach htarget hr hkeep
  refine ⟨hs.window, hs.consecutive, fun l hl => hs.withinTarget hl, ?_, ?_, hs.accounted⟩
  · intro l hl
    have hearly := hs.early l hl
    rw [deadlineReached, decide_eq_false_iff_not] at hearly
    exact not_le.mp hearly
  · intro r hm hlatch
    obtain ⟨t, -, -, -, hout⟩ := hr.of_mem hm
    rw [hout]
    exact output_eq_none_of_latched r.pre r.input hlatch

/-- A run that accounts for every launch keeps account in every step: a completion that is not
terminal returns one outcome for all the requests in flight. -/
theorem keepsAccount_of_throughout (htarget : c.plannedLogicalRequests < 2 ^ 31 - 1)
    {clock : ℕ → ℤ} {h : List (Record (WindowState ρ) WindowEvent (Option Launch))}
    {s : WindowState ρ} (hr : Reach c.step (c.start clock) h s)
    (hall : Throughout c.step (c.start clock) (c.Accounts clock) h) :
    ∀ r ∈ h, c.keepsAccount r.pre r.input := by
  induction hr with
  | start => exact List.forall_mem_nil _
  | @step h s prior event ih =>
    have hkeep := ih fun t s' hsub => hall t s' (hsub.trans (List.suffix_cons _ _))
    have hs := sound_of_reach htarget prior hkeep
    refine List.forall_mem_cons.mpr ⟨?_, hkeep⟩
    cases event with
    | deadline => trivial
    | completion outcome completionMonoNs refillSubmitMonoNs =>
      intro (hnone : s.returned = none) hin hdeadline hterminal
      have haccounts := hall _ _ List.suffix_rfl
        (prior.step (.completion outcome completionMonoNs refillSubmitMonoNs))
      have hstep := step_of_not_terminal refillSubmitMonoNs hnone hin hdeadline hterminal
      have hlost := (haccounts.accounted _ _ (congrArg (fun r => r.1.returned) hstep)).length_eq
      have hwaiting := (hs.waiting hnone).length_eq
      rw [launches_cons, congrArg Prod.snd hstep] at hlost
      simp only [List.length_map, List.length_append, List.length_singleton, Option.toList_none,
        List.length_nil] at hlost hwaiting
      change s.inFlight.length ≤ 1
      omega

/-- **The completion window.**  A run with a target below the largest id accounts for every launch
exactly when no completion in it that is not terminal comes while other requests are in flight. -/
theorem accounts_iff (htarget : c.plannedLogicalRequests < 2 ^ 31 - 1) (clock : ℕ → ℤ)
    {h : List (Record (WindowState ρ) WindowEvent (Option Launch))} {s : WindowState ρ}
    (hr : Reach c.step (c.start clock) h s) :
    Throughout c.step (c.start clock) (c.Accounts clock) h ↔
      ∀ r ∈ h, c.keepsAccount r.pre r.input :=
  ⟨keepsAccount_of_throughout htarget hr,
    Throughout.of_records fun _ _ hr' hkeep => accounts_of_reach htarget hr' hkeep⟩

instance (s : WindowState ρ) (event : WindowEvent) : Decidable (c.keepsAccount s event) := by
  cases event <;> unfold keepsAccount <;> infer_instance

end Request

/-- A run of three requests, two at a time. -/
def sampleRequest : Request Unit where
  plannedLogicalRequests := 3
  completionWindowSize := some 2
  completionWindowTimeoutSec := 1
  runStartMonoNs := 0
  plateauEnabled := false
  initialMeasures := ()
  evaluatePlateauCompletion p _ _ := p

/-- An invocation with the given status. -/
def sampleOutcome (logicalRequestId : ℤ) (status : String) : BackendPressureOutcome :=
  ⟨logicalRequestId, .ok ⟨status, ""⟩, 0⟩

/-- The second request completes first; the third one is not ready, when it is the only one left. -/
def sampleRun : List (Record (WindowState Unit) WindowEvent (Option Launch)) × WindowState Unit :=
  runOn sampleRequest.step [] (sampleRequest.start fun _ => 0)
    [.completion (sampleOutcome 2 "completed") 10 11, .completion (sampleOutcome 1 "failed") 20 21,
      .completion (sampleOutcome 3 "not_ready") 30 31]

theorem sampleRun_accounts :
    Throughout sampleRequest.step (sampleRequest.start fun _ => 0)
      (sampleRequest.Accounts fun _ => 0) sampleRun.1 :=
  (Request.accounts_iff (by decide) (fun _ => 0) (reach_runOn _ _ .start)).mpr (by decide)

/-- The first of two requests in flight is not ready, and the second has no outcome. -/
theorem notReadyRun_loses_outcome :
    ¬ ∀ (c : Request Unit) (clock : ℕ → ℤ)
        (h : List (Record (WindowState Unit) WindowEvent (Option Launch))) (s : WindowState Unit),
      Reach c.step (c.start clock) h s → c.Accounts clock h s := by
  intro hall
  have hlost := (hall sampleRequest (fun _ => 0) _ _
    (reach_runOn _ [.completion (sampleOutcome 1 "not_ready") 10 11] .start)).accounted _ _ rfl
  exact absurd hlost.length_eq (by decide)

end CompletionWindow
end OpenWhisk
end AsynCS
