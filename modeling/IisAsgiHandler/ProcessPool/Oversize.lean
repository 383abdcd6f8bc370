import IisAsgiHandler.ProcessPool.Shutdown
import Mathlib.Data.List.Infix

/-!
# Pools that are too large

A wait takes at most 64 handles.  Once a pool watches 64 processes and the exit
event, every wait fails at once: nothing is removed any more, whatever
terminates, and the thread goes round its loop for ever, whether or not it has
been told to stop.
-/

namespace IisAsgiHandler
namespace ProcessPool

/-- Windows waits as documented, and the worker process lives; processes are
created and terminated with any outcome. -/
def WindowsWorks (state : PoolState) (label : PoolLabel) : Prop :=
  WaitsAsDocumented state label ∧ label ≠ .workerDies

instance (state : PoolState) (label : PoolLabel) :
    Decidable (WindowsWorks state label) :=
  inferInstanceAs (Decidable (_ ∧ _))

/-- A wait has begun for so many processes. -/
def Oversize (trace : List PoolEvent) (watched : List ScopedHandle) : Prop :=
  .waits watched ∈ trace ∧ maximumWaitObjects.toNat ≤ watched.length

/-- How a pool goes on after a wait for so many processes. -/
def Spins (watched : List ScopedHandle) : PoolEvent → Prop
  | .waits later => watched <+: later
  | .returned waitResult => waitResult = waitFailed
  | .erased _ _ | .exited => False
  | .started _ | .stopped => True

variable {numProcesses : Nat}
variable {state next : PoolState}
variable {label : PoolLabel}
variable {trace events : List PoolEvent}
variable {watched : List ScopedHandle}

/-- A wait for too many handles fails. -/
theorem waitFailed_of_large
    {waitResult : UInt32}
    (handles : Handles numProcesses state)
    (large : maximumWaitObjects.toNat ≤ state.processes.length)
    (windows : WindowsWait state waitResult) :
    waitResult = waitFailed := by
  rwa [WindowsWait, if_pos] at windows
  rw [UInt32.lt_iff_toNat_lt, handles.waitCount_toNat]
  exact Nat.lt_succ_of_le large

/-- A failed wait changes nothing. -/
theorem afterWait_failed (handles : Handles numProcesses state) :
    state.afterWait waitFailed =
      ({ state with stage := .head }, [.returned waitFailed]) := by
  have outside : state.processes.length < (waitFailed - waitObject0).toNat :=
    handles.length_lt
  unfold PoolState.afterWait
  rw [if_neg (Nat.ne_of_gt outside), if_neg (Nat.lt_asymm outside)]

/-- While a pool is too large, entries are only appended, and the thread stays
in its loop. -/
theorem large_step
    (handles : Handles numProcesses state)
    (large : maximumWaitObjects.toNat ≤ state.processes.length)
    (inLoop : ¬ state.stage.Left)
    (works : WindowsWorks state label)
    (poolStep : PoolStep numProcesses state label next events) :
    state.processes <+: next.processes ∧ ¬ next.stage.Left ∧
      ∀ event ∈ events, Spins state.processes event := by
  have atHead : ¬ PoolStage.head.Left := by simp [PoolStage.Left]
  have toppingUp : ∀ attempt, ¬ (PoolStage.topUp attempt).Left := by
    simp [PoolStage.Left]
  have creating : ∀ attempt process,
      ¬ (PoolStage.created attempt process).Left ∧
        (∀ assigned, ¬ (PoolStage.assigned attempt process assigned).Left) ∧
        ¬ (PoolStage.terminating attempt process).Left := by
    simp [PoolStage.Left]
  cases poolStep with
  | loop stage | createFails stage missing | terminate stage =>
      exact ⟨List.prefix_rfl, toppingUp _, by simp⟩
  | create stage missing fresh =>
      exact ⟨List.prefix_rfl, (creating _ _).1, by simp [Spins]⟩
  | assign stage => exact ⟨List.prefix_rfl, (creating _ _).2.1 _, by simp⟩
  | resume stage =>
      unfold PoolState.resume
      split
      · exact ⟨List.prefix_rfl, (creating _ _).2.2, by simp⟩
      · exact ⟨List.prefix_append _ _, toppingUp _, by simp⟩
  | wait stage full =>
      exact ⟨List.prefix_rfl, by simp [PoolStage.Left], by simp [Spins]⟩
  | waitReturns stage returns =>
      rw [waitFailed_of_large handles large works.1, afterWait_failed handles]
      exact ⟨List.prefix_rfl, atHead, by simp [Spins]⟩
  | processTerminates => exact ⟨List.prefix_rfl, inLoop, by simp⟩
  | stop => exact ⟨List.prefix_rfl, inLoop, by simp [Spins]⟩
  | destroy stage => exact absurd (.inl stage) inLoop
  | workerDies => exact absurd rfl works.2

/-- A wait that returns is not a new one. -/
theorem Waited.not_waits
    {waitResult : UInt32}
    (waited : Waited state waitResult next events)
    (watched : List ScopedHandle) :
    .waits watched ∉ events := by
  cases waited <;> simp

/-- A wait begins with nothing else shown. -/
theorem waits_alone
    (poolStep : PoolStep numProcesses state label next events)
    (waits : .waits watched ∈ events) :
    events = [.waits watched] ∧ watched = state.processes ∧
      next = { state with stage := .waiting } := by
  cases poolStep with
  | wait stage full =>
      cases List.mem_singleton.mp waits
      exact ⟨rfl, rfl, rfl⟩
  | waitReturns stage returns =>
      exact absurd waits ((waited_afterWait state _).not_waits watched)
  | _ => simp at waits

/-- A longer pool goes on in the same way. -/
theorem Spins.mono
    {more : List ScopedHandle}
    {event : PoolEvent}
    (longer : watched <+: more)
    (spins : Spins more event) :
    Spins watched event := by
  cases event with
  | waits later => exact longer.trans spins
  | _ => exact spins

/-! ## Runs -/

/-- Whatever a pool does after a wait for too many. -/
structure Spinning
    (numProcesses : Nat) (trace : List PoolEvent) (state : PoolState) :
    Prop where
  handles : Handles numProcesses state
  kept : ∀ watched, Oversize trace watched →
    watched <+: state.processes ∧ ¬ state.stage.Left
  spins : EventMachine.Justified
    (fun before event => ∀ watched, Oversize before watched →
      Spins watched event)
    trace

theorem Spinning.step
    (spinning : Spinning numProcesses trace state)
    (works : WindowsWorks state label)
    (steps : processPool numProcesses state label = some (next, events)) :
    Spinning numProcesses (trace ++ events) next := by
  have poolStep := poolStep_of_processPool steps
  have oversize : ∀ watched, Oversize trace watched →
      watched <+: next.processes ∧ ¬ next.stage.Left ∧
        ∀ event ∈ events, Spins watched event := by
    intro watched large
    obtain ⟨kept, inLoop⟩ := spinning.kept watched large
    obtain ⟨grows, stays, spins⟩ := large_step spinning.handles
      (large.2.trans kept.length_le) inLoop works poolStep
    exact ⟨kept.trans grows, stays, fun event member =>
      (spins event member).mono kept⟩
  refine ⟨spinning.handles.step steps, ?_, ?_⟩
  · rintro watched ⟨begun, large⟩
    rcases List.mem_append.mp begun with earlier | now
    · obtain ⟨kept, stays, -⟩ := oversize watched ⟨earlier, large⟩
      exact ⟨kept, stays⟩
    · obtain ⟨-, rfl, rfl⟩ := waits_alone poolStep now
      exact ⟨List.prefix_rfl, not_left_of_eq rfl (by simp) (by simp)⟩
  · rw [EventMachine.Justified.append_iff]
    refine ⟨spinning.spins, ?_⟩
    rintro before event after split watched ⟨begun, large⟩
    rcases List.mem_append.mp begun with earlier | now
    · exact (oversize watched ⟨earlier, large⟩).2.2 event (by simp [split])
    · -- A wait that has just begun is the last event of its step.
      obtain ⟨alone, -, -⟩ := waits_alone poolStep
        (split ▸ List.mem_append_left _ now)
      have length := congrArg List.length (split.symm.trans alone)
      have nonempty := List.length_pos_of_mem now
      simp only [List.length_append, List.length_cons, List.length_nil] at length
      omega

theorem Spinning.of_run
    {labels : List PoolLabel}
    (run : EventMachine.Run (processPool numProcesses) WindowsWorks {} labels
      trace state) :
    Spinning numProcesses trace state := by
  refine run.preserves_trace (Spinning numProcesses) ?_ ?_
  · exact ⟨Handles.initial, by simp [Oversize], EventMachine.Justified.nil⟩
  · intro trace state label next events spinning works steps
    exact spinning.step works steps

/-- Once a pool has waited for more handles than a wait takes, every wait fails,
no entry is removed, and the thread does not leave its loop, whatever
terminates and whether or not it is told to stop. -/
theorem oversize_pool_spins
    {labels : List PoolLabel}
    (run : EventMachine.Run (processPool numProcesses) WindowsWorks {} labels
      trace state) :
    EventMachine.Justified
        (fun before event => ∀ watched, Oversize before watched →
          Spins watched event)
        trace ∧
      ∀ watched, Oversize trace watched →
        watched <+: state.processes ∧ ¬ state.stage.Left := by
  have spinning := Spinning.of_run run
  exact ⟨spinning.spins, spinning.kept⟩

/-- All 64 processes are started. -/
def fillSample : List PoolLabel :=
  .loop :: (List.range 64).flatMap (fun handle =>
    [.createProcess (some (UInt32.ofNat (handle + 1))), .assign true,
      .resume true]) ++ [.wait]

/-- The pool is stopped, a process terminates, and the thread goes round its
loop. -/
def oversizeSample : List PoolLabel :=
  fillSample ++
    [.stop, .processTerminates 0, .waitReturns waitFailed, .loop, .wait]

theorem oversize_pool_spins_sample :
    ∃ trace state,
      EventMachine.Run (processPool 64) WindowsWorks {} oversizeSample trace
        state ∧
      state.exitSet = true ∧ state.hasTerminated 0 = true ∧
      ¬ state.stage.Left := by
  have checked : EventMachine.checks (processPool 64) WindowsWorks {}
      oversizeSample
      (fun state trace => state.exitSet = true ∧
        state.hasTerminated 0 = true ∧ .waits state.processes ∈ trace ∧
        64 ≤ state.processes.length) = true := by
    decide +kernel
  obtain ⟨trace, state, run, isStopped, terminated, waits, large⟩ :=
    EventMachine.Run.of_checks checked
  refine ⟨trace, state, run, isStopped, terminated, ?_⟩
  exact ((oversize_pool_spins run).2 state.processes ⟨waits, large⟩).2

end ProcessPool
end IisAsgiHandler
