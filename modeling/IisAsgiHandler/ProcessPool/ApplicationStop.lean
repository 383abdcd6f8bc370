import IisAsgiHandler.Library.Components
import IisAsgiHandler.ProcessPool.Oversize
import IisAsgiHandler.ProcessPool.RunningModule

/-!
# When an application stops

The destructor of a pool joins its thread and closes its job, so nothing of a
pool runs any more once the notification has returned, if the processes that
were not in the job could be terminated.  A pool that is too large keeps it from
returning.
-/

namespace IisAsgiHandler
namespace ProcessPool

variable {running next : RunningModule}
variable {label : ModuleLabel}
variable {trace events : List ModuleEvent}

/-! ## What a stop leaves -/

/-- All processes of a pool have terminated. -/
def PoolState.Ended (state : PoolState) : Prop :=
  ∀ (process : Nat) (os : OsProcess), state.started[process]? = some os →
    os.terminated = true

/-- Closing the job of a pool whose thread has left its loop ends them. -/
theorem ended_closeJob
    {numProcesses : Nat}
    {state : PoolState}
    (books : Books numProcesses state)
    (exited : state.stage = .exited) :
    state.closeJob.Ended := by
  intro process os found
  rw [PoolState.closeJob, List.getElem?_map] at found
  obtain ⟨before, foundBefore, rfl⟩ := Option.map_eq_some_iff.mp found
  cases ran : before.terminated with
  | true => simp
  | false =>
      have idle : state.stage.Idle := by
        rw [exited]
        exact ⟨rfl, by simp⟩
      have inJob := (books.running.pooled idle foundBefore ran).2.1
      simp [inJob]

theorem Waited.not_closed
    {state after : PoolState}
    {waitResult : UInt32}
    {shown : List PoolEvent}
    (waited : Waited state waitResult after shown) :
    after.stage ≠ .closed := by
  cases waited <;> simp

/-- Only the destructor closes the job, while the worker process lives, and
what has ended stays so. -/
theorem ended_step
    {numProcesses : Nat}
    {state after : PoolState}
    {own : PoolLabel}
    {shown : List PoolEvent}
    (books : Books numProcesses state)
    (ended : state.stage = .closed → state.Ended)
    (lives : own ≠ .workerDies)
    (poolStep : PoolStep numProcesses state own after shown)
    (closed : after.stage = .closed) :
    after.Ended := by
  cases poolStep with
  | destroy exited => exact ended_closeJob books exited
  | stop => exact ended closed
  | processTerminates =>
      intro process os found
      rw [PoolState.getElem?_change] at found
      obtain ⟨before, foundBefore, rfl⟩ := Option.map_eq_some_iff.mp found
      split
      · rfl
      · exact ended closed process before foundBefore
  | workerDies => exact absurd rfl lives
  | resume stage =>
      unfold PoolState.resume at closed
      split at closed <;> cases closed
  | waitReturns stage returns =>
      exact absurd closed (waited_afterWait state _).not_closed
  | loop | createFails | create | assign | terminate | wait => cases closed

theorem ended_of_run
    {numProcesses : Nat}
    {state : PoolState}
    {labels : List PoolLabel}
    {shown : List PoolEvent}
    (run : EventMachine.Run (processPool numProcesses)
      (Lives TerminationSucceeds) {} labels shown state) :
    state.stage = .closed → state.Ended := by
  have law : Books numProcesses state ∧ (state.stage = .closed → state.Ended) := by
    refine run.preserves
      (fun state => Books numProcesses state ∧
        (state.stage = .closed → state.Ended))
      ⟨Books.initial, fun closed => by cases closed⟩ ?_
    rintro state own after shown ⟨books, ended⟩ ⟨terminates, lives⟩ steps
    exact ⟨books.step terminates steps,
      ended_step books ended lives (poolStep_of_processPool steps)⟩
  exact law.2

/-- The module holds a pool, and its job is open. -/
def RunningModule.Holds (running : RunningModule) (number : Nat) : Prop :=
  (running.threads number).stage ≠ .closed ∧
    ∃ pool ∈ running.module.mPools, pool.number = number

/-- A pool whose processes have not all ended is held. -/
theorem Apart.holds
    (apart : Apart TerminationSucceeds trace running)
    {number : Nat}
    (runs : ¬ (running.threads number).Ended) :
    running.Holds number := by
  obtain ⟨size, labels, alone, -⟩ := apart.runs number
  have opened : (running.threads number).stage ≠ .closed := fun closed =>
    runs (ended_of_run alone closed)
  refine ⟨opened, ?_⟩
  by_contra unheld
  by_cases built : number < running.module.built
  · apply opened
    apply apart.housed.gone number built
    intro pool member isNumber
    exact unheld ⟨pool, member, isNumber⟩
  · apply runs
    rw [(apart.unbuilt number (Nat.le_of_not_lt built)).1]
    intro process os found
    simp at found

/-- Once a pool has waited for more handles than a wait takes,
`OnGlobalApplicationStop` does not return any more. -/
theorem oversize_pool_blocks_stop
    {labels : List ModuleLabel}
    (run : EventMachine.Run RunningModule.step (PoolsMeet WindowsWorks) {}
      labels trace running) :
    EventMachine.Justified
      (fun before event =>
        (∃ number watched, Oversize (poolEvents number before) watched) →
        event ≠ .applicationStopped)
      trace := by
  refine (run.preserves_trace
    (fun trace running => Apart WindowsWorks trace running ∧
      EventMachine.Justified
        (fun before event =>
          (∃ number watched, Oversize (poolEvents number before) watched) →
          event ≠ .applicationStopped)
        trace)
    ⟨Apart.initial, EventMachine.Justified.nil⟩ ?_).2
  rintro trace running label next events ⟨apart, blocked⟩ meets steps
  have moduleStep := moduleStep_of_step steps
  refine ⟨apart.step meets moduleStep, ?_⟩
  rw [EventMachine.Justified.append_iff]
  refine ⟨blocked, ?_⟩
  cases moduleStep with
  | cleared stage =>
      rw [EventMachine.Justified.singleton, List.append_nil]
      rintro ⟨number, watched, oversize⟩
      obtain ⟨size, labels, alone, -⟩ := apart.runs number
      have works : EventMachine.Run (processPool size) WindowsWorks {} labels
          (poolEvents number trace) (running.threads number) :=
        alone.mono fun _ _ lives => lives.1
      obtain ⟨kept, inLoop⟩ := (Spinning.of_run works).kept watched oversize
      by_cases built : number < running.module.built
      · exact absurd (.inr (apart.housed.closed_of_cleared stage built)) inLoop
      · have large := oversize.2.trans kept.length_le
        rw [(apart.unbuilt number (Nat.le_of_not_lt built)).1] at large
        contradiction
  | applicationStart | applicationStop | pool =>
      apply EventMachine.Justified.of_forall
      simp

/-- A pool of 64 processes is filled and waits, and its application stops. -/
def oversizeStop : List ModuleLabel :=
  .applicationStart (some { items := [some { properties :=
    [(wide "executable", some (wide "a.exe")),
      (wide "arguments", some []), (wide "count", some (wide "64"))] }] }) ::
  fillSample.map (.thread 0) ++
  [.applicationStop, .stop, .thread 0 (.waitReturns waitFailed)]

/-- The notification never returns. -/
theorem oversize_pool_blocks_stop_sample :
    ∃ trace running,
      EventMachine.Run RunningModule.step (PoolsMeet WindowsWorks) {}
        oversizeStop trace running ∧
      ∀ labels later last,
        EventMachine.Run RunningModule.step (PoolsMeet WindowsWorks) running
          labels later last →
        .applicationStopped ∉ later := by
  have checked : EventMachine.checks RunningModule.step
      (PoolsMeet WindowsWorks) {} oversizeStop
      (fun running trace =>
        .waits (running.threads 0).processes ∈ poolEvents 0 trace ∧
          maximumWaitObjects.toNat ≤ (running.threads 0).processes.length) =
      true := by
    decide +kernel
  obtain ⟨trace, running, run, waits, large⟩ :=
    EventMachine.Run.of_checks checked
  refine ⟨trace, running, run, ?_⟩
  intro labels later last more member
  obtain ⟨before, after, split⟩ := List.append_of_mem member
  have blocked := oversize_pool_blocks_stop (run.append more)
  apply blocked (trace ++ before) .applicationStopped after _ _ rfl
  · rw [split, List.append_assoc]
  · refine ⟨0, (running.threads 0).processes, ?_, large⟩
    rw [poolEvents_append]
    exact List.mem_append_left _ waits

end ProcessPool
end IisAsgiHandler
