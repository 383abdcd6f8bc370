import IisAsgiHandler.ProcessPool.ApplicationStop
import IisAsgiHandler.ProcessPool.BoundedWork
import Mathlib.Algebra.Order.BigOperators.Group.List
import Mathlib.Algebra.Order.Ring.Nat

/-!
# A stop that returns

When no pool is too large, `OnGlobalApplicationStop` returns.  Its destructors
wait for threads that have been told to stop, and such a thread is never stuck
and has a bounded amount of work left: each process that terminates in the
meantime costs one more turn of its loop.
-/

namespace IisAsgiHandler
namespace ProcessPool

open GlobalModule (Pool Module onGlobalApplicationStop)

/-! ## The thread of one pool -/

variable {numProcesses : Nat}
variable {state after : PoolState}

/-- When a handle is signalled, some handle is the first. -/
theorem exists_windowsWait
    (few : numProcesses ≤ 63)
    (handles : Handles numProcesses state)
    {position : Nat}
    (inside : position ≤ state.processes.length)
    (isSignalled : state.signalled position = true) :
    ∃ waitResult, state.CanReturn waitResult ∧ WindowsWait state waitResult := by
  have signalled : ∃ index, state.signalled index = true :=
    ⟨position, isSignalled⟩
  have least := (Nat.find_min' signalled isSignalled).trans inside
  have fewEntries := handles.size.length_le.trans few
  have value : (UInt32.ofNat (Nat.find signalled) - waitObject0).toNat =
      Nat.find signalled := by
    rw [waitObject0, UInt32.sub_zero]
    refine UInt32.toNat_ofNat_of_lt' ?_
    rw [UInt32.size]
    omega
  refine ⟨UInt32.ofNat (Nat.find signalled), .inr ⟨?_, ?_⟩, ?_⟩
  · rw [UInt32.lt_iff_toNat_lt, value, handles.waitCount_toNat]
    omega
  · rw [value]
    exact Nat.find_spec signalled
  · refine (windowsWait_iff handles fewEntries _).mpr ⟨?_, ?_⟩
    · intro failed
      have bound := handles.length_lt
      rw [← failed] at bound
      rw [waitObject0, UInt32.sub_zero] at value
      omega
    · intro index less
      rw [value] at less
      exact eq_false_of_ne_true (Nat.find_min signalled less)

/-- Steps that Windows can always take. -/
theorem windowsWorks_of_mem :
    ∀ label ∈ [PoolLabel.loop, .createProcess none, .assign true, .resume true,
      .terminate true, .wait, .stop, .destroy], WindowsWorks state label := by
  simp [WindowsWorks, WaitsAsDocumented]

/-- A thread that has been told to stop is not stuck. -/
theorem exists_work
    (few : numProcesses ≤ 63)
    (handles : Handles numProcesses state)
    (exitSet : state.exitSet = true)
    (inLoop : ¬ state.stage.Left) :
    ∃ label next events, label.works = true ∧ WindowsWorks state label ∧
      processPool numProcesses state label = some (next, events) := by
  obtain ⟨processes, stage, started, isSet⟩ := state
  cases stage with
  | head => exact ⟨.loop, _, _, rfl, windowsWorks_of_mem _ (by simp), rfl⟩
  | topUp attempt =>
      by_cases missing : attempt < numProcesses
      · exact ⟨.createProcess none, _, _, rfl, windowsWorks_of_mem _ (by simp),
          if_pos missing⟩
      · exact ⟨.wait, _, _, rfl, windowsWorks_of_mem _ (by simp),
          if_neg missing⟩
  | created attempt process =>
      exact ⟨.assign true, _, _, rfl, windowsWorks_of_mem _ (by simp), rfl⟩
  | assigned attempt process succeeded =>
      exact ⟨.resume true, _, _, rfl, windowsWorks_of_mem _ (by simp), rfl⟩
  | terminating attempt process =>
      exact ⟨.terminate true, _, _, rfl, windowsWorks_of_mem _ (by simp), rfl⟩
  | waiting =>
      obtain ⟨waitResult, returns, windows⟩ := exists_windowsWait few handles
        (Nat.le_refl _) (by simpa [PoolState.signalled] using exitSet)
      exact ⟨.waitReturns waitResult, _, _, rfl,
        ⟨windows, by simp⟩, if_pos returns⟩
  | exited => exact absurd (.inl rfl) inLoop
  | closed => exact absurd (.inr rfl) inLoop

theorem processPool_destroy (stage : state.stage = .exited) :
    processPool numProcesses state .destroy = some (state.closeJob, []) := by
  obtain ⟨processes, _, started, exitSet⟩ := state
  subst stage
  rfl

theorem Waited.exitSet
    {waitResult : UInt32}
    {events : List PoolEvent}
    (waited : Waited state waitResult after events) :
    after.exitSet = state.exitSet := by
  cases waited <;> rfl

/-- Only the destructor and the death of the worker process close a job, and
`Stop` is not taken back. -/
theorem opened_step
    {label : PoolLabel}
    {events : List PoolEvent}
    (poolStep : PoolStep numProcesses state label after events)
    (kept : label ≠ .destroy ∧ label ≠ .workerDies)
    (opened : state.stage ≠ .closed) :
    after.stage ≠ .closed ∧ (state.exitSet = true → after.exitSet = true) := by
  cases poolStep with
  | resume stage =>
      unfold PoolState.resume
      split
      · exact ⟨by simp, id⟩
      · exact ⟨by simp, id⟩
  | @waitReturns waitResult stage returns =>
      have waited := waited_afterWait state waitResult
      exact ⟨waited.not_closed, fun exitSet => waited.exitSet.trans exitSet⟩
  | processTerminates => exact ⟨opened, id⟩
  | stop => exact ⟨opened, fun _ => rfl⟩
  | destroy => exact absurd rfl kept.1
  | workerDies => exact absurd rfl kept.2
  | loop | createFails | create | assign | terminate | wait =>
      exact ⟨by simp [PoolState.create, PoolState.assign, PoolState.terminate],
        id⟩

/-- There are no more open handles than the pool is large, and no more steps
left than those of a turn. -/
theorem workLeft_parts_le (handles : Handles numProcesses state) :
    state.entries.length ≤ numProcesses ∧
      state.stage.stepsLeft numProcesses ≤ turnSteps numProcesses := by
  have size := handles.size
  rw [PoolState.entries, List.length_append]
  cases stage : state.stage with
  | topUp attempt =>
      rw [stage] at size
      obtain ⟨length, attempts⟩ := size
      simp only [PoolStage.pending, PoolStage.stepsLeft, turnSteps,
        List.length_nil]
      omega
  | created attempt process | assigned attempt process succeeded
  | terminating attempt process =>
      rw [stage] at size
      obtain ⟨length, attempts⟩ := size
      simp only [PoolStage.pending, PoolStage.stepsLeft, turnSteps,
        List.length_singleton]
      omega
  | head | waiting | exited | closed =>
      rw [stage] at size
      exact ⟨size, by simp [PoolStage.stepsLeft, turnSteps]⟩

/-- What is left is no more than a turn, and one for each open handle. -/
theorem workLeft_le_turns (handles : Handles numProcesses state) :
    state.workLeft numProcesses ≤
      turnSteps numProcesses * (numProcesses + 1) := by
  obtain ⟨entries, steps⟩ := workLeft_parts_le handles
  have ended : state.endedEntries ≤ numProcesses :=
    List.countP_le_length.trans entries
  calc state.workLeft numProcesses
      ≤ state.stage.stepsLeft numProcesses +
          turnSteps numProcesses * state.endedEntries :=
        workLeft_le numProcesses state
    _ ≤ turnSteps numProcesses + turnSteps numProcesses * numProcesses :=
        Nat.add_le_add steps (Nat.mul_le_mul_left _ ended)
    _ = turnSteps numProcesses * (numProcesses + 1) := by
        rw [Nat.mul_add, Nat.mul_one, Nat.add_comm]

/-! ## The notification -/

/-- The steps that are not terminations of processes. -/
def ModuleLabel.works : ModuleLabel → Bool
  | .thread _ label => label.works
  | _ => true

def ModuleLabel.terminates : ModuleLabel → Bool
  | .thread _ label => label.terminates
  | _ => false

/-- The steps that are left of `m_pools.clear()`: two for each destructor. -/
def NotificationStage.stepsLeft : NotificationStage → Nat
  | .idle => 0
  | .clearing rest => 2 * rest.length + 1
  | .joining _ rest => 2 * rest.length + 2

/-- `OnGlobalApplicationStop` has not returned, and Windows works. -/
def Stopping (running : RunningModule) (label : ModuleLabel) : Prop :=
  running.stage ≠ .idle ∧ PoolsMeet WindowsWorks running label

instance (running : RunningModule) (label : ModuleLabel) :
    Decidable (Stopping running label) :=
  inferInstanceAs (Decidable (_ ∧ _))

namespace RunningModule

/-- The work that is left to some pools. -/
def poolsWork (running : RunningModule) (pools : List Pool) : Nat :=
  (pools.map fun pool =>
    (running.threads pool.number).workLeft pool.numProcesses).sum

/-- The steps that are left when nothing terminates any more. -/
def workLeft (running : RunningModule) : Nat :=
  running.stage.stepsLeft + running.poolsWork running.module.mPools

/-- The pools whose destructors have not returned are open, and the one whose
thread is joined has been told to stop. -/
def Opened (running : RunningModule) : Prop :=
  match running.stage with
  | .idle => ∀ pool ∈ running.module.mPools,
      (running.threads pool.number).stage ≠ .closed
  | .clearing rest =>
      ∀ pool ∈ rest, (running.threads pool.number).stage ≠ .closed
  | .joining pool rest =>
      (running.threads pool.number).exitSet = true ∧
        ∀ other ∈ pool :: rest, (running.threads other.number).stage ≠ .closed

end RunningModule

variable {running next : RunningModule}
variable {label : ModuleLabel}
variable {trace events : List ModuleEvent}

/-- The handles of each thread are right, for the size of its pool. -/
theorem Apart.handles
    {pool : Pool}
    (apart : Apart WindowsWorks trace running)
    (held : pool ∈ running.module.mPools) :
    Handles pool.numProcesses (running.threads pool.number) := by
  obtain ⟨size, labels, run, sizes⟩ := apart.runs pool.number
  rw [sizes pool held rfl]
  exact Handles.of_run run

/-- One thread takes a step, and the work of the others stays as it is. -/
theorem poolsWork_update
    {pools : List Pool}
    {pool : Pool}
    (running : RunningModule)
    (after : PoolState)
    (distinct : (pools.map Pool.number).Nodup)
    (held : pool ∈ pools)
    (stage : NotificationStage) :
    RunningModule.poolsWork { running with
        stage := stage
        threads := Function.update running.threads pool.number after } pools +
        (running.threads pool.number).workLeft pool.numProcesses =
      running.poolsWork pools + after.workLeft pool.numProcesses := by
  obtain ⟨front, back, rfl⟩ := List.append_of_mem held
  rw [List.map_append, List.map_cons, List.nodup_middle, List.nodup_cons,
    List.mem_append, not_or] at distinct
  have others : ∀ other ∈ front ++ back,
      Function.update running.threads pool.number after other.number =
        running.threads other.number := by
    intro other member
    apply Function.update_of_ne
    intro same
    rcases List.mem_append.mp member with before | behind
    · exact distinct.1.1 (same ▸ List.mem_map_of_mem before)
    · exact distinct.1.2 (same ▸ List.mem_map_of_mem behind)
  have same : ∀ part : List Pool, (∀ other ∈ part, other ∈ front ++ back) →
      part.map (fun other => PoolState.workLeft other.numProcesses
        (Function.update running.threads pool.number after other.number)) =
      part.map fun other => PoolState.workLeft other.numProcesses
        (running.threads other.number) :=
    fun part inside => List.map_congr_left fun other member => by
      rw [others other (inside other member)]
  simp only [RunningModule.poolsWork, List.map_append, List.map_cons,
    List.sum_append, List.sum_cons, Function.update_self,
    same front fun _ => List.mem_append_left back,
    same back fun _ => List.mem_append_right front]
  omega

/-- The thread of the notifications does its part of a call. -/
theorem stepsLeft_of_call
    {call : PoolCall}
    (calls : running.call label = some call) :
    label.works.toNat + call.stage.stepsLeft ≤
        call.label.works.toNat + running.stage.stepsLeft ∧
      label.terminates = call.label.terminates := by
  cases label with
  | stop =>
      rw [RunningModule.call] at calls
      split at calls
      next stage =>
        cases calls
        rw [stage]
        exact ⟨by simp [ModuleLabel.works, PoolLabel.works,
          NotificationStage.stepsLeft]; omega, rfl⟩
      next => contradiction
  | join =>
      rw [RunningModule.call] at calls
      split at calls
      next stage =>
        cases calls
        rw [stage]
        exact ⟨by simp [ModuleLabel.works, PoolLabel.works,
          NotificationStage.stepsLeft]; omega, rfl⟩
      next => contradiction
  | thread number own =>
      rw [RunningModule.call] at calls
      split at calls
      next =>
        split at calls
        next =>
          cases calls
          exact ⟨Nat.le_refl _, rfl⟩
        next => contradiction
      next => contradiction
  | applicationStart | applicationStop | cleared => contradiction

/-- Each step uses up some of the work that is left, and only a termination adds
to it. -/
theorem moduleWork_step
    (apart : Apart WindowsWorks trace running)
    (small : ∀ pool ∈ running.module.mPools, pool.numProcesses ≤ 63)
    (stopping : Stopping running label)
    (moduleStep : ModuleStep running label next events) :
    label.works.toNat + next.workLeft ≤
      running.workLeft + turnSteps 63 * label.terminates.toNat := by
  cases moduleStep with
  | applicationStart stage | applicationStop stage =>
      exact absurd stage stopping.1
  | cleared stage =>
      simp only [RunningModule.workLeft, stage, NotificationStage.stepsLeft,
        RunningModule.poolsWork, onGlobalApplicationStop, List.map_nil,
        List.sum_nil, ModuleLabel.works, Bool.toNat_true]
      omega
  | @pool _ call after shown calls steps =>
      have held := apart.housed.held (poolCalled_of_call calls)
      have few := small call.pool held
      have spent := workLeft_step few (apart.handles held)
        (stopping.2 call calls) (poolStep_of_processPool steps)
      have others := poolsWork_update running after apart.housed.distinct held
        call.stage
      obtain ⟨own, terminates⟩ := stepsLeft_of_call calls
      have turn : turnSteps call.pool.numProcesses * call.label.terminates.toNat ≤
          turnSteps 63 * call.label.terminates.toNat := by
        apply Nat.mul_le_mul_right
        unfold turnSteps
        omega
      rw [terminates]
      simp only [RunningModule.workLeft] at others ⊢
      omega

/-- A pool that takes a step is not closed by it, unless it is destroyed. -/
theorem opened_update
    {target : Nat}
    {own : PoolLabel}
    {after : PoolState}
    {shown : List PoolEvent}
    (steps : processPool numProcesses (running.threads target) own =
      some (after, shown))
    (kept : own ≠ .destroy ∧ own ≠ .workerDies)
    (number : Nat)
    (opened : (running.threads number).stage ≠ .closed) :
    (Function.update running.threads target after number).stage ≠ .closed ∧
      ((running.threads number).exitSet = true →
        (Function.update running.threads target after number).exitSet =
          true) := by
  by_cases same : number = target
  · subst same
    rw [Function.update_self]
    exact opened_step (poolStep_of_processPool steps) kept opened
  · rw [Function.update_of_ne same]
    exact ⟨opened, id⟩

theorem opened_moduleStep
    (apart : Apart WindowsWorks trace running)
    (opened : running.Opened)
    (moduleStep : ModuleStep running label next events) :
    next.Opened := by
  cases moduleStep with
  | applicationStart stage loads =>
      obtain ⟨pools, held, built, numbers⟩ := built_of_start loads
      simp only [RunningModule.Opened, stage] at opened ⊢
      intro pool member
      rw [held, List.mem_append] at member
      rcases member with old | new
      · exact opened pool old
      · have isNumber : pool.number ∈ pools.map Pool.number :=
          List.mem_map_of_mem new
        rw [numbers, List.mem_range'_1] at isNumber
        rw [(apart.unbuilt pool.number isNumber.1).1]
        simp
  | applicationStop stage =>
      simpa only [RunningModule.Opened, stage] using opened
  | cleared stage => simp [RunningModule.Opened, onGlobalApplicationStop]
  | @pool _ call after shown calls steps =>
      cases poolCalled_of_call calls with
      | @stop pool rest stage =>
          simp only [RunningModule.Opened, stage] at opened ⊢
          have stays := opened_update steps (by simp)
          refine ⟨?_, fun other member => (stays other.number (opened other member)).1⟩
          rw [Function.update_self]
          cases steps
          rfl
      | @join pool rest stage =>
          simp only [RunningModule.Opened, stage] at opened ⊢
          intro other member
          have different : other.number ≠ pool.number := by
            have clears := apart.housed.clears
            rw [stage] at clears
            obtain ⟨done, held, -⟩ := clears
            have distinct := apart.housed.distinct
            rw [held, List.map_append, List.map_cons] at distinct
            have apartFromRest := (List.nodup_cons.mp distinct.of_append_right).1
            intro same
            exact apartFromRest (same ▸ List.mem_map_of_mem member)
          rw [Function.update_of_ne different]
          exact opened.2 other (List.mem_cons_of_mem pool member)
      | @thread pool own held ofThread =>
          have kept : own ≠ .destroy ∧ own ≠ .workerDies := by
            constructor
            · rintro rfl
              contradiction
            · rintro rfl
              contradiction
          have stays := opened_update steps kept
          unfold RunningModule.Opened at opened ⊢
          simp only at opened ⊢
          split at opened
          · exact fun other member => (stays other.number (opened other member)).1
          · exact fun other member => (stays other.number (opened other member)).1
          · exact ⟨(stays _ (opened.2 _ List.mem_cons_self)).2 opened.1,
              fun other member => (stays other.number (opened.2 other member)).1⟩

/-- A call that its pool can answer is a step of the module. -/
theorem exists_step_of_call
    {call : PoolCall}
    {after : PoolState}
    {shown : List PoolEvent}
    (calls : running.call label = some call)
    (windows : WindowsWorks (running.threads call.pool.number) call.label)
    (steps : processPool call.pool.numProcesses
      (running.threads call.pool.number) call.label = some (after, shown)) :
    PoolsMeet WindowsWorks running label ∧
      ∃ next events, RunningModule.step running label = some (next, events) := by
  constructor
  · intro other isCall
    cases Option.some.inj (calls.symm.trans isCall)
    exact windows
  · cases label with
    | applicationStart | applicationStop | cleared => contradiction
    | stop | join | thread =>
        simp only [RunningModule.step, calls, RunningModule.enact, steps]
        exact ⟨_, _, rfl⟩

/-- A pool is found by its number. -/
theorem find?_number
    {pool : Pool}
    {pools : List Pool}
    (distinct : (pools.map Pool.number).Nodup)
    (held : pool ∈ pools) :
    pools.find? (·.number = pool.number) = some pool := by
  cases found : pools.find? (·.number = pool.number) with
  | none =>
      have missing := List.find?_eq_none.mp found pool held
      simp at missing
  | some other =>
      have same : other.number = pool.number := by
        simpa using List.find?_some found
      rw [List.inj_on_of_nodup_map distinct (List.mem_of_find?_eq_some found)
        held same]

/-! ## Runs -/

/-- What is known while the pools are destroyed. -/
structure Dismantles (running : RunningModule) : Prop where
  apart : ∃ trace, Apart WindowsWorks trace running
  opened : running.Opened
  small : ∀ pool ∈ running.module.mPools, pool.numProcesses ≤ 63

namespace Dismantles

theorem step
    (dismantles : Dismantles running)
    (stopping : Stopping running label)
    (steps : RunningModule.step running label = some (next, events)) :
    Dismantles next := by
  have moduleStep := moduleStep_of_step steps
  obtain ⟨trace, apart⟩ := dismantles.apart
  refine ⟨⟨_, apart.step stopping.2 moduleStep⟩,
    opened_moduleStep apart dismantles.opened moduleStep, ?_⟩
  cases moduleStep with
  | applicationStart stage | applicationStop stage =>
      exact absurd stage stopping.1
  | cleared stage => simp [onGlobalApplicationStop]
  | pool calls steps => exact dismantles.small

theorem of_run
    {labels : List ModuleLabel}
    (run : EventMachine.Run RunningModule.step (PoolsMeet WindowsWorks) {} labels
      trace running)
    (small : ∀ pool ∈ running.module.mPools, pool.numProcesses ≤ 63) :
    Dismantles running := by
  refine ⟨⟨trace, Apart.of_run run⟩, ?_, small⟩
  refine (run.preserves
    (fun running => (∃ trace, Apart WindowsWorks trace running) ∧
      running.Opened)
    ⟨⟨[], Apart.initial⟩, by simp [RunningModule.Opened]⟩ ?_).2
  rintro running label next events ⟨⟨trace, apart⟩, opened⟩ meets steps
  have moduleStep := moduleStep_of_step steps
  exact ⟨⟨_, apart.step meets moduleStep⟩,
    opened_moduleStep apart opened moduleStep⟩

/-- While a thread is joined it is not stuck, and then its pool is
destroyed. -/
theorem exists_join
    {pool : Pool}
    {rest : List Pool}
    (dismantles : Dismantles running)
    (stage : running.stage = .joining pool rest) :
    ∃ label next events, label.works = true ∧
      PoolsMeet WindowsWorks running label ∧
      RunningModule.step running label = some (next, events) := by
  obtain ⟨trace, apart⟩ := dismantles.apart
  have opened := dismantles.opened
  simp only [RunningModule.Opened, stage] at opened
  obtain ⟨exitSet, opened⟩ := opened
  have held : pool ∈ running.module.mPools := by
    have clears := apart.housed.clears
    rw [stage] at clears
    obtain ⟨done, held, -⟩ := clears
    simp [held]
  by_cases exited : (running.threads pool.number).stage = .exited
  · have calls : running.call .join =
        some ⟨pool, .destroy, .clearing rest⟩ := by
      rw [RunningModule.call, stage]
    obtain ⟨meets, next, events, moduleSteps⟩ := exists_step_of_call calls
      (windowsWorks_of_mem _ (by simp)) (processPool_destroy exited)
    exact ⟨.join, next, events, rfl, meets, moduleSteps⟩
  · have inLoop : ¬ (running.threads pool.number).stage.Left :=
      not_or.mpr ⟨exited, opened pool List.mem_cons_self⟩
    obtain ⟨own, _, _, works, windows, steps⟩ :=
      exists_work (dismantles.small pool held) (apart.handles held) exitSet inLoop
    have ofThread : own.ofThread = true := by
      cases own with
      | stop | destroy | workerDies => contradiction
      | _ => rfl
    have calls : running.call (.thread pool.number own) =
        some ⟨pool, own, running.stage⟩ := by
      simp only [RunningModule.call, find?_number apart.housed.distinct held,
        ofThread, if_true]
    obtain ⟨meets, next, events, moduleSteps⟩ :=
      exists_step_of_call calls windows steps
    exact ⟨.thread pool.number own, next, events, works, meets, moduleSteps⟩

/-- Until it has returned, the notification is not stuck. -/
theorem exists_step
    (dismantles : Dismantles running)
    (called : running.stage ≠ .idle) :
    ∃ label next events, label.works = true ∧ Stopping running label ∧
      RunningModule.step running label = some (next, events) := by
  cases stage : running.stage with
  | idle => exact absurd stage called
  | clearing pools =>
      cases pools with
      | nil =>
          have steps : RunningModule.step running .cleared =
              some ({ running with
                module := onGlobalApplicationStop running.module
                stage := .idle }, [.applicationStopped]) := by
            simp only [RunningModule.step, stage]
          refine ⟨.cleared, _, _, rfl, ⟨called, ?_⟩, steps⟩
          intro call isCall
          cases isCall
      | cons pool rest =>
          have calls : running.call .stop =
              some ⟨pool, .stop, .joining pool rest⟩ := by
            rw [RunningModule.call, stage]
          have steps : processPool pool.numProcesses
              (running.threads pool.number) .stop =
              some ({ running.threads pool.number with exitSet := true },
                [.stopped]) := rfl
          obtain ⟨meets, next, events, moduleSteps⟩ := exists_step_of_call calls
            (windowsWorks_of_mem _ (by simp)) steps
          exact ⟨.stop, next, events, rfl, ⟨called, meets⟩, moduleSteps⟩
  | joining pool rest =>
      obtain ⟨label, next, events, works, meets, steps⟩ :=
        dismantles.exists_join stage
      exact ⟨label, next, events, works, ⟨called, meets⟩, steps⟩

/-- What is left is bounded by the number of pools. -/
theorem workLeft_le (dismantles : Dismantles running) :
    running.workLeft ≤ 2 * running.module.mPools.length + 1 +
      turnSteps 63 * (64 * running.module.mPools.length) := by
  obtain ⟨trace, apart⟩ := dismantles.apart
  have stages : running.stage.stepsLeft ≤
      2 * running.module.mPools.length + 1 := by
    have clears := apart.housed.clears
    cases stage : running.stage with
    | idle => exact Nat.zero_le _
    | clearing rest =>
        rw [stage] at clears
        obtain ⟨done, held, -⟩ := clears
        simp only [held, NotificationStage.stepsLeft, List.length_append]
        omega
    | joining pool rest =>
        rw [stage] at clears
        obtain ⟨done, held, -⟩ := clears
        simp only [held, NotificationStage.stepsLeft, List.length_append,
          List.length_cons]
        omega
  have each : ∀ work ∈ running.module.mPools.map (fun pool =>
      (running.threads pool.number).workLeft pool.numProcesses),
      work ≤ turnSteps 63 * 64 := by
    intro work member
    obtain ⟨pool, held, rfl⟩ := List.mem_map.mp member
    have few := dismantles.small pool held
    refine (workLeft_le_turns (apart.handles held)).trans ?_
    exact Nat.mul_le_mul (by unfold turnSteps; omega) (by omega)
  have sum := List.sum_le_card_nsmul _ _ each
  rw [List.length_map, Nat.nsmul_eq_mul, Nat.mul_comm, Nat.mul_assoc] at sum
  exact Nat.add_le_add stages sum

end Dismantles

/-- The notification returns in the step that makes it idle. -/
theorem stopped_of_idle
    {reached : RunningModule}
    {labels : List ModuleLabel}
    (called : reached.stage ≠ .idle)
    (run : EventMachine.Run RunningModule.step Stopping reached labels trace
      running) :
    running.stage = .idle → .applicationStopped ∈ trace := by
  refine run.preserves_trace
    (fun trace running => running.stage = .idle → .applicationStopped ∈ trace)
    (fun idle => absurd idle called) ?_
  intro trace running label next events _ stopping steps idle
  cases moduleStep_of_step steps with
  | applicationStart stage | applicationStop stage =>
      exact absurd stage stopping.1
  | cleared => simp
  | pool calls =>
      cases poolCalled_of_call calls with
      | stop | join => cases idle
      | thread held ofThread => exact absurd idle stopping.1

/-- When `OnGlobalApplicationStop` has been called and no pool is larger than 63,
it returns:  it is never stuck, and it and the threads of the pools take at most
a bounded number of steps for each pool and for each process that terminates in
the meantime. -/
theorem application_stop_returns
    {past labels : List ModuleLabel}
    {pastTrace : List ModuleEvent}
    {reached : RunningModule}
    (reaches : EventMachine.Run RunningModule.step (PoolsMeet WindowsWorks) {}
      past pastTrace reached)
    (small : ∀ pool ∈ reached.module.mPools, pool.numProcesses ≤ 63)
    (called : reached.stage ≠ .idle)
    (run : EventMachine.Run RunningModule.step Stopping reached labels trace
      running) :
    labels.countP ModuleLabel.works ≤
        2 * reached.module.mPools.length + 1 +
          turnSteps 63 * (64 * reached.module.mPools.length +
            labels.countP ModuleLabel.terminates) ∧
      (running.stage = .idle → .applicationStopped ∈ trace) ∧
      (running.stage ≠ .idle →
        ∃ label next events, label.works = true ∧ Stopping running label ∧
          RunningModule.step running label = some (next, events)) := by
  have dismantles := Dismantles.of_run reaches small
  refine ⟨?_, stopped_of_idle called run, fun goesOn => ?_⟩
  · rw [← run.count_eq_countP ModuleLabel.works,
      ← run.count_eq_countP ModuleLabel.terminates]
    have paid := run.count_le_of_potential Dismantles RunningModule.workLeft
      (fun _ _ _ _ dismantles stopping steps => by
        obtain ⟨trace, apart⟩ := dismantles.apart
        exact ⟨dismantles.step stopping steps, moduleWork_step apart
          dismantles.small stopping (moduleStep_of_step steps)⟩)
      dismantles
    refine (Nat.le_of_add_right_le paid).trans ?_
    rw [Nat.mul_add, ← Nat.add_assoc]
    exact Nat.add_le_add_right dismantles.workLeft_le _
  · have kept : Dismantles running := run.preserves Dismantles dismantles
      fun _ _ _ _ dismantles stopping steps => dismantles.step stopping steps
    exact kept.exists_step goesOn

/-- Both processes of a pool run, and the application stops. -/
def stopIsCalled : List ModuleLabel :=
  [.applicationStart (GlobalModule.samplePools "a.exe"), .thread 0 .loop,
    .thread 0 (.createProcess (some 4)), .thread 0 (.assign true),
    .thread 0 (.resume true), .thread 0 (.createProcess (some 8)),
    .thread 0 (.assign true), .thread 0 (.resume true), .thread 0 .wait,
    .applicationStop]

/-- A process terminates before the thread notices the exit event. -/
def stopReturns : List ModuleLabel :=
  [.stop, .thread 0 (.processTerminates 0), .thread 0 (.waitReturns 0),
    .thread 0 .loop, .thread 0 (.createProcess none), .thread 0 .wait,
    .thread 0 (.waitReturns 1), .join, .cleared]

theorem application_stop_returns_sample :
    ∃ reached trace running,
      EventMachine.Run RunningModule.step Stopping reached stopReturns trace
        running ∧
      reached.module.mPools.length = 1 ∧
      stopReturns.countP ModuleLabel.works ≤ 3 + turnSteps 63 * 65 ∧
      .applicationStopped ∈ trace := by
  have checked : EventMachine.checks RunningModule.step
      (PoolsMeet WindowsWorks) {} stopIsCalled
      (fun reached _ => (∀ pool ∈ reached.module.mPools,
          pool.numProcesses ≤ 63) ∧
        reached.stage ≠ .idle ∧ reached.module.mPools.length = 1 ∧
        EventMachine.checks RunningModule.step Stopping reached stopReturns
          (fun running _ => running.stage = .idle) = true) = true := by
    decide +kernel
  obtain ⟨_, reached, reaches, small, called, single, checked⟩ :=
    EventMachine.Run.of_checks checked
  obtain ⟨trace, running, run, idle⟩ := EventMachine.Run.of_checks checked
  obtain ⟨bounded, returns, -⟩ :=
    application_stop_returns reaches small called run
  rw [single] at bounded
  exact ⟨reached, trace, running, run, single, bounded, returns idle⟩

end ProcessPool
end IisAsgiHandler
