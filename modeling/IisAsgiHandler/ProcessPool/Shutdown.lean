import IisAsgiHandler.ProcessPool.Replacement

/-!
# Stopping a pool

The exit event is the last handle of a wait, and Windows returns the first that
is signalled.  A wait that begins or ends after `Stop` leaves the loop exactly
when no watched process has terminated.
-/

namespace IisAsgiHandler
namespace ProcessPool

/-- Windows waits as documented; all other calls have any outcome. -/
def WaitsAsDocumented (state : PoolState) : PoolLabel → Prop
  | .waitReturns waitResult => WindowsWait state waitResult
  | _ => True

instance (state : PoolState) (waitResult : UInt32) :
    Decidable (WindowsWait state waitResult) :=
  inferInstanceAs (Decidable
    (if maximumWaitObjects < state.waitCount then waitResult = waitFailed
      else waitResult ≠ waitFailed ∧
        ∀ index < (waitResult - waitObject0).toNat,
          state.signalled index = false))

instance (state : PoolState) (label : PoolLabel) :
    Decidable (WaitsAsDocumented state label) :=
  match label with
  | .waitReturns waitResult =>
      inferInstanceAs (Decidable (WindowsWait state waitResult))
  | .loop | .createProcess _ | .assign _ | .resume _ | .terminate _ | .wait
  | .processTerminates _ | .stop | .destroy | .workerDies =>
      inferInstanceAs (Decidable True)

/-! ## The property -/

/-- `Stop` was called; and a wait has returned since then. -/
structure StopTally where
  stopped : Bool := false
  due : Bool := false

def StopTally.read (tally : StopTally) : PoolEvent → StopTally
  | .stopped => { tally with stopped := true }
  | .returned _ => { tally with due := tally.due || tally.stopped }
  | _ => tally

def stopTally (trace : List PoolEvent) : StopTally :=
  trace.foldl StopTally.read {}

theorem stopTally_append (trace events : List PoolEvent) :
    stopTally (trace ++ events) = events.foldl StopTally.read (stopTally trace) :=
  List.foldl_append

/-- The thread has left its loop. -/
def PoolStage.Left (stage : PoolStage) : Prop :=
  stage = .exited ∨ stage = .closed

/-- Once a wait has returned after `Stop`, the thread has left its loop, and
starts no more processes. -/
structure StopsAtOnce (trace : List PoolEvent) (state : PoolState) : Prop where
  left : (stopTally trace).due = true → state.stage.Left
  starts : EventMachine.Justified
    (fun before event => (stopTally before).due = true →
      ∀ process, event ≠ .started process)
    trace

/-- A wait that returns after `Stop` watches no process that has terminated. -/
def NoneTerminated (state : PoolState) : PoolLabel → Prop
  | .waitReturns _ => state.exitSet = true →
      ∀ entry ∈ state.processes, state.hasTerminated entry.process = false
  | _ => True

instance (state : PoolState) (label : PoolLabel) :
    Decidable (NoneTerminated state label) :=
  match label with
  | .waitReturns _ => inferInstanceAs (Decidable (state.exitSet = true →
      ∀ entry ∈ state.processes, state.hasTerminated entry.process = false))
  | .loop | .createProcess _ | .assign _ | .resume _ | .terminate _ | .wait
  | .processTerminates _ | .stop | .destroy | .workerDies =>
      inferInstanceAs (Decidable True)

/-! ## Runs -/

/-- There are no more entries than the pool is large, and `Stop` is noted. -/
structure Sized
    (numProcesses : Nat) (trace : List PoolEvent) (state : PoolState) : Prop where
  size : state.stage.Holds numProcesses state.processes.length
  stopped : (stopTally trace).stopped = state.exitSet

variable {numProcesses : Nat}
variable {trace events : List PoolEvent}
variable {state next : PoolState}
variable {label : PoolLabel}

theorem PoolStage.Holds.length_le
    {stage : PoolStage}
    {length : Nat}
    (holds : stage.Holds numProcesses length) :
    length ≤ numProcesses := by
  cases stage with
  | topUp attempt => exact holds.1.trans holds.2
  | created attempt process => exact holds.1.trans (Nat.le_of_lt holds.2)
  | assigned attempt process succeeded =>
      exact holds.1.trans (Nat.le_of_lt holds.2)
  | terminating attempt process => exact holds.1.trans (Nat.le_of_lt holds.2)
  | _ => exact holds

/-- What a wait does to the entries, to the stage and to `Stop`. -/
inductive Waited (state : PoolState) (waitResult : UInt32) :
    PoolState → List PoolEvent → Prop
  | exits (last : (waitResult - waitObject0).toNat = state.processes.length) :
      Waited state waitResult { state with stage := .exited }
        [.returned waitResult, .exited]
  | erases
      (less : (waitResult - waitObject0).toNat < state.processes.length) :
      Waited state waitResult
        { state with
          processes := state.processes.eraseIdx (waitResult - waitObject0).toNat
          stage := .head }
        [.returned waitResult, .erased state.processes
          (state.processes.eraseIdx (waitResult - waitObject0).toNat)]
  | goesRound
      (outside : state.processes.length < (waitResult - waitObject0).toNat) :
      Waited state waitResult { state with stage := .head }
        [.returned waitResult]

theorem waited_afterWait (state : PoolState) (waitResult : UInt32) :
    Waited state waitResult (state.afterWait waitResult).1
      (state.afterWait waitResult).2 := by
  unfold PoolState.afterWait
  by_cases last : (waitResult - waitObject0).toNat = state.processes.length
  · rw [if_pos last]
    exact .exits last
  · rw [if_neg last]
    by_cases less : (waitResult - waitObject0).toNat < state.processes.length
    · rw [if_pos less]
      exact .erases less
    · rw [if_neg less]
      exact .goesRound (by omega)

theorem Sized.waited
    {waitResult : UInt32}
    (sized : Sized numProcesses trace state)
    (waited : Waited state waitResult next events) :
    Sized numProcesses (trace ++ events) next := by
  have length := sized.size.length_le
  have stopped := sized.stopped
  cases waited with
  | exits last =>
      refine ⟨length, ?_⟩
      rw [stopTally_append]
      exact stopped
  | erases less =>
      refine ⟨(List.length_eraseIdx_le _ _).trans length, ?_⟩
      rw [stopTally_append]
      exact stopped
  | goesRound outside =>
      refine ⟨length, ?_⟩
      rw [stopTally_append]
      exact stopped

theorem Sized.step
    (sized : Sized numProcesses trace state)
    (poolStep : PoolStep numProcesses state label next events) :
    Sized numProcesses (trace ++ events) next := by
  have size := sized.size
  have stopped := sized.stopped
  cases poolStep with
  | loop stage =>
      rw [List.append_nil]
      exact ⟨⟨Nat.le_refl _, size.length_le⟩, stopped⟩
  | createFails stage missing =>
      rw [stage] at size
      rw [List.append_nil]
      exact ⟨⟨Nat.le_succ_of_le size.1, missing⟩, stopped⟩
  | create stage missing fresh =>
      rw [stage] at size
      refine ⟨⟨size.1, missing⟩, ?_⟩
      rw [stopTally_append]
      exact stopped
  | assign stage =>
      rw [stage] at size
      rw [List.append_nil]
      exact ⟨size, stopped⟩
  | resume stage =>
      rw [stage] at size
      rw [List.append_nil]
      unfold PoolState.resume
      split
      · exact ⟨size, stopped⟩
      · refine ⟨⟨?_, Nat.succ_le_of_lt size.2⟩, stopped⟩
        rw [List.length_append, List.length_singleton]
        exact Nat.succ_le_succ size.1
  | terminate stage =>
      rw [stage] at size
      rw [List.append_nil]
      exact ⟨⟨Nat.le_succ_of_le size.1, Nat.succ_le_of_lt size.2⟩, stopped⟩
  | wait stage full =>
      refine ⟨size.length_le, ?_⟩
      rw [stopTally_append]
      exact stopped
  | waitReturns stage returns => exact sized.waited (waited_afterWait state _)
  | processTerminates =>
      rw [List.append_nil]
      exact ⟨size, stopped⟩
  | stop =>
      refine ⟨size, ?_⟩
      rw [stopTally_append]
      rfl
  | destroy stage =>
      rw [List.append_nil]
      exact ⟨size.length_le, stopped⟩
  | workerDies =>
      rw [List.append_nil]
      exact ⟨size.length_le, stopped⟩

theorem Sized.of_run
    {allowed : PoolState → PoolLabel → Prop}
    {labels : List PoolLabel}
    (run : EventMachine.Run (processPool numProcesses) allowed {} labels trace
      state) :
    Sized numProcesses trace state :=
  run.preserves_trace (Sized numProcesses) ⟨Nat.zero_le _, rfl⟩
    fun _ _ _ _ _ sized _ steps => sized.step (poolStep_of_processPool steps)

/-- After `Stop`, a wait of a pool that is not too large returns for the exit
event exactly when no watched process has terminated. -/
theorem last_iff
    {waitResult : UInt32}
    (few : state.processes.length ≤ 63)
    (returns : state.CanReturn waitResult)
    (windows : WindowsWait state waitResult) :
    (waitResult - waitObject0).toNat = state.processes.length ↔
      ∀ entry ∈ state.processes, state.hasTerminated entry.process = false := by
  have count : state.waitCount.toNat = state.processes.length + 1 := by
    refine UInt32.toNat_ofNat_of_lt' ?_
    rw [UInt32.size]
    omega
  have documented : waitResult ≠ waitFailed ∧
      ∀ index < (waitResult - waitObject0).toNat,
        state.signalled index = false := by
    rwa [WindowsWait, if_neg] at windows
    rw [UInt32.lt_iff_toNat_lt, count]
    simp only [maximumWaitObjects, UInt32.reduceToNat]
    omega
  obtain ⟨succeeded, lowest⟩ := documented
  obtain ⟨inside, signalled⟩ := returns.resolve_left succeeded
  rw [UInt32.lt_iff_toNat_lt, count] at inside
  constructor
  · intro last entry member
    obtain ⟨index, found⟩ := List.mem_iff_getElem?.mp member
    have less := (List.getElem?_eq_some_iff.mp found).1
    have silent := lowest index (by omega)
    rwa [PoolState.signalled, found] at silent
  · intro running
    by_contra other
    have less : (waitResult - waitObject0).toNat < state.processes.length := by
      omega
    have found := List.getElem?_eq_getElem less
    rw [PoolState.signalled, found] at signalled
    have runs := running _ (List.getElem_mem less)
    exact Bool.noConfusion (runs.symm.trans signalled)

/-! ## One step -/

theorem Waited.due
    {waitResult : UInt32}
    (waited : Waited state waitResult next events)
    (tally : StopTally) :
    (events.foldl StopTally.read tally).due = (tally.due || tally.stopped) := by
  cases waited with
  | exits _ => rfl
  | erases _ => rfl
  | goesRound _ => rfl

theorem Waited.not_started
    {waitResult : UInt32}
    (waited : Waited state waitResult next events) :
    ∀ event ∈ events, ∀ process, event ≠ .started process := by
  cases waited with
  | exits _ => simp
  | erases _ => simp
  | goesRound _ => simp

theorem Waited.left_iff
    {waitResult : UInt32}
    (waited : Waited state waitResult next events) :
    next.stage.Left ↔
      (waitResult - waitObject0).toNat = state.processes.length := by
  cases waited with
  | exits last => exact iff_of_true (.inl rfl) last
  | erases less =>
      refine iff_of_false ?_ (Nat.ne_of_lt less)
      rintro (exited | closed)
      · cases exited
      · cases closed
  | goesRound outside =>
      refine iff_of_false ?_ (Nat.ne_of_gt outside)
      rintro (exited | closed)
      · cases exited
      · cases closed

theorem not_left_of_eq
    {stage : PoolStage}
    (same : state.stage = stage)
    (exited : stage ≠ .exited)
    (closed : stage ≠ .closed) :
    ¬ state.stage.Left := by
  rw [same]
  exact not_or.mpr ⟨exited, closed⟩

/-- The thread does not come back. -/
theorem left_step
    (poolStep : PoolStep numProcesses state label next events)
    (left : state.stage.Left) :
    next.stage.Left := by
  cases poolStep with
  | loop stage => exact absurd left (not_left_of_eq stage (by simp) (by simp))
  | createFails stage _ =>
      exact absurd left (not_left_of_eq stage (by simp) (by simp))
  | create stage _ _ =>
      exact absurd left (not_left_of_eq stage (by simp) (by simp))
  | assign stage =>
      exact absurd left (not_left_of_eq stage (by simp) (by simp))
  | resume stage =>
      exact absurd left (not_left_of_eq stage (by simp) (by simp))
  | terminate stage =>
      exact absurd left (not_left_of_eq stage (by simp) (by simp))
  | wait stage _ => exact absurd left (not_left_of_eq stage (by simp) (by simp))
  | waitReturns stage _ =>
      exact absurd left (not_left_of_eq stage (by simp) (by simp))
  | processTerminates => exact left
  | stop => exact left
  | destroy _ => exact .inr rfl
  | workerDies => exact .inr rfl

/-- A process is started by a thread in its loop, and then nothing else shows. -/
theorem started_step
    {process : Nat}
    (poolStep : PoolStep numProcesses state label next events)
    (started : .started process ∈ events) :
    events = [.started process] ∧ ¬ state.stage.Left := by
  cases poolStep with
  | create stage missing fresh =>
      rw [List.mem_singleton.mp started]
      exact ⟨rfl, not_left_of_eq stage (by simp) (by simp)⟩
  | waitReturns stage returns =>
      exact absurd rfl
        ((waited_afterWait state _).not_started _ started process)
  | wait stage full => simp at started
  | stop => simp at started
  | _ => cases started

/-- Only the return of a wait can be due. -/
theorem due_step
    (poolStep : PoolStep numProcesses state label next events)
    (noWait : ∀ waitResult, label ≠ .waitReturns waitResult)
    (tally : StopTally) :
    (events.foldl StopTally.read tally).due = tally.due := by
  cases poolStep with
  | waitReturns stage returns => exact absurd rfl (noWait _)
  | _ => rfl

theorem starts_step
    (stops : StopsAtOnce trace state)
    (poolStep : PoolStep numProcesses state label next events) :
    EventMachine.Justified
      (fun before event => (stopTally before).due = true →
        ∀ process, event ≠ .started process)
      (trace ++ events) := by
  rw [EventMachine.Justified.append_iff]
  refine ⟨stops.starts, ?_⟩
  rintro before event after split isDue process rfl
  have started : .started process ∈ events := by simp [split]
  obtain ⟨alone, running⟩ := started_step poolStep started
  have first : before = [] := by
    rw [alone] at split
    cases before with
    | nil => rfl
    | cons head rest => simp at split
  rw [first, List.append_nil] at isDue
  exact running (stops.left isDue)

/-- A step keeps the property exactly when it is no wait that misses the exit
event. -/
theorem stopsAtOnce_step_iff
    (few : numProcesses ≤ 63)
    (sized : Sized numProcesses trace state)
    (stops : StopsAtOnce trace state)
    (windows : WaitsAsDocumented state label)
    (poolStep : PoolStep numProcesses state label next events) :
    StopsAtOnce (trace ++ events) next ↔ NoneTerminated state label := by
  have starts := starts_step stops poolStep
  by_cases isWait : ∃ waitResult, label = .waitReturns waitResult
  · obtain ⟨waitResult, rfl⟩ := isWait
    cases poolStep with
    | waitReturns stage returns =>
        have waited := waited_afterWait state waitResult
        have last := last_iff (sized.size.length_le.trans few) returns windows
        have running := not_left_of_eq stage (by simp) (by simp)
        have notDue : (stopTally trace).due = false :=
          eq_false_of_ne_true fun due => running (stops.left due)
        have due : (stopTally (trace ++ (state.afterWait waitResult).2)).due =
            state.exitSet := by
          rw [stopTally_append, waited.due, notDue, Bool.false_or,
            sized.stopped]
        constructor
        · intro after exitSet
          exact last.mp (waited.left_iff.mp (after.left (due.trans exitSet)))
        · intro none
          refine ⟨fun isDue => ?_, starts⟩
          exact waited.left_iff.mpr
            (last.mpr (none (due.symm.trans isDue)))
  · have noWait : ∀ waitResult, label ≠ .waitReturns waitResult :=
      fun waitResult same => isWait ⟨waitResult, same⟩
    refine iff_of_true ⟨fun isDue => ?_, starts⟩ ?_
    · rw [stopTally_append, due_step poolStep noWait] at isDue
      exact left_step poolStep (stops.left isDue)
    · cases label with
      | waitReturns waitResult => exact absurd rfl (noWait waitResult)
      | _ => trivial

/-- In a pool of up to 63 processes, a wait that returns after `Stop` ends the
loop, and no process is started any more, exactly in the runs in which no such
wait watches a process that has terminated. -/
theorem stop_takes_effect_iff
    {labels : List PoolLabel}
    (few : numProcesses + 1 ≤ 64)
    (run : EventMachine.Run (processPool numProcesses) WaitsAsDocumented {}
      labels trace state) :
    EventMachine.Throughout (processPool numProcesses) WaitsAsDocumented {}
        (fun _ trace state => StopsAtOnce trace state) labels ↔
      EventMachine.EachStep (processPool numProcesses) WaitsAsDocumented {}
        (fun _ state label => NoneTerminated state label) labels := by
  have initially : StopsAtOnce [] {} :=
    ⟨fun due => Bool.noConfusion due, EventMachine.Justified.nil⟩
  refine run.throughout_iff initially ?_
  intro labels trace state label next events run stops windows steps
  exact stopsAtOnce_step_iff (by omega) (Sized.of_run run) stops windows
    (poolStep_of_processPool steps)

/-- A pool of one process that is stopped while it waits. -/
def stopSample : List PoolLabel :=
  [.loop, .createProcess (some 4), .assign true, .resume true, .wait, .stop,
    .waitReturns 1, .destroy]

theorem stop_takes_effect_sample :
    ∃ trace state,
      EventMachine.Run (processPool 1) WaitsAsDocumented {} stopSample trace
        state ∧
      .exited ∈ trace ∧
      EventMachine.Throughout (processPool 1) WaitsAsDocumented {}
        (fun _ trace state => StopsAtOnce trace state) stopSample := by
  have checked : EventMachine.checks (processPool 1)
      (fun state label => WaitsAsDocumented state label ∧
        NoneTerminated state label) {} stopSample
      (fun _ trace => .exited ∈ trace) = true := by
    decide +kernel
  obtain ⟨trace, state, run, exited⟩ := EventMachine.Run.of_checks checked
  have documented : EventMachine.Run (processPool 1) WaitsAsDocumented {}
      stopSample trace state :=
    run.mono fun _ _ allowed => allowed.1
  exact ⟨trace, state, documented, exited,
    (stop_takes_effect_iff (by decide) documented).mpr
      (run.eachStep (fun _ _ allowed => allowed.1)
        fun _ _ _ allowed => allowed.2)⟩

/-- The process terminates as well: the wait returns for it, and another one is
started. -/
theorem stop_is_overtaken :
    ∃ trace state,
      EventMachine.Run (processPool 1) WaitsAsDocumented {}
        [.loop, .createProcess (some 4), .assign true, .resume true, .wait,
          .stop, .processTerminates 0, .waitReturns 0, .loop,
          .createProcess (some 8)]
        trace state ∧
      trace = [.started 0, .waits [⟨4, 0⟩], .stopped, .returned 0,
        .erased [⟨4, 0⟩] [], .started 1] ∧
      ¬ StopsAtOnce trace state := by
  have checked : EventMachine.checks (processPool 1) WaitsAsDocumented {}
      [.loop, .createProcess (some 4), .assign true, .resume true, .wait, .stop,
        .processTerminates 0, .waitReturns 0, .loop, .createProcess (some 8)]
      (fun _ trace => trace =
        [.started 0, .waits [⟨4, 0⟩], .stopped, .returned 0,
          .erased [⟨4, 0⟩] [], .started 1]) = true := by
    decide +kernel
  obtain ⟨trace, state, run, rfl⟩ := EventMachine.Run.of_checks checked
  refine ⟨_, state, run, rfl, ?_⟩
  intro stops
  exact stops.starts [.started 0, .waits [⟨4, 0⟩], .stopped, .returned 0,
    .erased [⟨4, 0⟩] []] (.started 1) [] rfl rfl 1 rfl

end ProcessPool
end IisAsgiHandler
