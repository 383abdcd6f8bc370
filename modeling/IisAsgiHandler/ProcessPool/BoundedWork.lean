import IisAsgiHandler.Library.BoundedCalls
import IisAsgiHandler.ProcessPool.Oversize
import Mathlib.Data.List.Perm.Basic

/-!
# The work of a pool

The thread of a pool that is not too large works only when there is a reason
to: it fills the pool once, and goes round its loop once for each process that
terminates, whatever its attempts to create processes come to.

The work that is left is read off the stage, and off the open handles of
processes that have terminated.
-/

namespace IisAsgiHandler
namespace ProcessPool

/-- The steps of the pool's thread. -/
def PoolLabel.works : PoolLabel → Bool
  | .processTerminates _ | .stop | .destroy | .workerDies => false
  | _ => true

def PoolLabel.terminates : PoolLabel → Bool
  | .processTerminates _ => true
  | _ => false

/-- The steps of one turn of the outer loop, at most: up to four for each
attempt. -/
def turnSteps (numProcesses : Nat) : Nat := 4 * numProcesses + 3

/-- The steps that are left of a turn. -/
def PoolStage.stepsLeft (numProcesses : Nat) : PoolStage → Nat
  | .head => turnSteps numProcesses
  | .topUp attempt => 4 * (numProcesses - attempt) + 2
  | .created attempt _ => 4 * (numProcesses - (attempt + 1)) + 5
  | .assigned attempt _ _ => 4 * (numProcesses - (attempt + 1)) + 4
  | .terminating attempt _ => 4 * (numProcesses - (attempt + 1)) + 3
  | .waiting => 1
  | .exited | .closed => 0

namespace PoolState

/-- The open handles of processes that have terminated. -/
def endedEntries (state : PoolState) : Nat :=
  state.entries.countP fun entry => state.hasTerminated entry.process

/-- The steps that are left when nothing terminates any more. -/
def workLeft (numProcesses : Nat) (state : PoolState) : Nat :=
  match state.stage with
  | .exited | .closed => 0
  | stage =>
      stage.stepsLeft numProcesses +
        turnSteps numProcesses * state.endedEntries

variable {state next : PoolState}

theorem hasTerminated_change_eq
    {process other : Nat}
    {how : OsProcess → OsProcess}
    (same : ∀ os, (how os).terminated = os.terminated ∨ process ≠ other) :
    (state.change process how).hasTerminated other =
      state.hasTerminated other := by
  rw [hasTerminated, hasTerminated, getElem?_change]
  cases state.started[other]? with
  | none => rfl
  | some os =>
      rw [Option.map_some, Option.any_some, Option.any_some]
      split
      next isOther =>
        rcases same os with kept | different
        · exact kept
        · exact absurd isOther different
      next => rfl

/-- Entries are counted alike where the same processes have terminated. -/
theorem endedEntries_eq
    (entries : next.entries = state.entries)
    (same : ∀ entry ∈ state.entries,
      next.hasTerminated entry.process = state.hasTerminated entry.process) :
    next.endedEntries = state.endedEntries := by
  unfold endedEntries
  rw [entries]
  refine List.countP_congr fun entry member => ?_
  rw [same entry member]

theorem endedEntries_create
    {numProcesses attempt : Nat}
    (handles : Handles numProcesses state)
    (stage : state.stage = .topUp attempt)
    (handle : Handle) :
    (state.create attempt handle).endedEntries = state.endedEntries := by
  have entries : (state.create attempt handle).entries =
      state.entries ++ [⟨handle, state.started.length⟩] := by
    rw [PoolState.entries, PoolState.entries, stage]
    simp [create, PoolStage.pending]
  have fresh : (state.create attempt handle).hasTerminated
      state.started.length = false := by
    simp [hasTerminated, create]
  unfold endedEntries
  rw [entries, List.countP_append, List.countP_singleton]
  simp only [fresh, Bool.false_eq_true, if_false, Nat.add_zero]
  refine List.countP_congr fun entry member => ?_
  have known := handles.opened.known entry member
  rw [hasTerminated, hasTerminated, create, List.getElem?_append_left known]

/-- A process that is set up becomes an entry of the pool. -/
theorem endedEntries_resume
    {attempt : Nat}
    {process : ScopedHandle}
    {assigned : Bool}
    (stage : state.stage = .assigned attempt process assigned)
    (succeeds : Bool) :
    (state.resume attempt process assigned succeeds).endedEntries =
      state.endedEntries := by
  have same : ∀ entry : ScopedHandle,
      (state.resume attempt process assigned succeeds).hasTerminated
        entry.process = state.hasTerminated entry.process := by
    intro entry
    have unchanged : (state.change process.process fun os =>
        { os with resumed := os.resumed || succeeds }).hasTerminated
          entry.process = state.hasTerminated entry.process :=
      hasTerminated_change_eq fun _ => .inl rfl
    unfold resume
    split <;> exact unchanged
  refine endedEntries_eq ?_ fun entry _ => same entry
  unfold resume
  split <;> simp [PoolState.entries, stage, PoolStage.pending, change]

/-- A process that could not be set up is not listed. -/
theorem endedEntries_terminate
    {numProcesses attempt : Nat}
    {process : ScopedHandle}
    (handles : Handles numProcesses state)
    (stage : state.stage = .terminating attempt process)
    (succeeds : Bool) :
    (state.terminate attempt process succeeds).endedEntries ≤
      state.endedEntries := by
  have entries : state.entries = state.processes ++ [process] := by
    rw [PoolState.entries, stage]
    rfl
  have distinct := handles.opened.distinct
  rw [show state.processes ++ state.stage.pending = state.entries from rfl,
    entries, List.map_append, List.map_singleton, List.nodup_append] at distinct
  have others : (state.terminate attempt process succeeds).endedEntries =
      state.processes.countP fun entry => state.hasTerminated entry.process := by
    unfold endedEntries
    rw [show (state.terminate attempt process succeeds).entries =
      state.processes from List.append_nil _]
    refine List.countP_congr fun entry member => ?_
    have different : process.process ≠ entry.process := by
      intro same
      exact distinct.2.2 entry.process (List.mem_map_of_mem member)
        process.process (List.mem_singleton.mpr rfl) same.symm
    have unchanged : (state.change process.process fun os =>
        { os with terminated := os.terminated || succeeds }).hasTerminated
          entry.process = state.hasTerminated entry.process :=
      hasTerminated_change_eq fun _ => .inr different
    exact iff_of_eq (congrArg (· = true) unchanged)
  rw [others]
  unfold endedEntries
  rw [entries, List.countP_append]
  exact Nat.le_add_right _ _

/-- One element with a key is counted once more at most. -/
theorem countP_le_of_distinct
    {α : Type}
    {key : α → Nat}
    {counted after : α → Bool}
    {target : Nat}
    (elements : List α)
    (distinct : (elements.map key).Nodup)
    (same : ∀ element ∈ elements, key element ≠ target →
      after element = counted element) :
    elements.countP after ≤ elements.countP counted + 1 := by
  induction elements with
  | nil => exact Nat.zero_le _
  | cons first rest inductionHypothesis =>
      rw [List.map_cons, List.nodup_cons] at distinct
      obtain ⟨unique, distinct⟩ := distinct
      rw [List.countP_cons, List.countP_cons]
      by_cases isTarget : key first = target
      · have others : rest.countP after = rest.countP counted := by
          refine List.countP_congr fun element member => ?_
          rw [same element (List.mem_cons_of_mem first member)]
          rintro rfl
          exact unique (isTarget ▸ List.mem_map_of_mem member)
        rw [others]
        split <;> omega
      · rw [same first List.mem_cons_self isTarget]
        have fewer := inductionHypothesis distinct fun element member =>
          same element (List.mem_cons_of_mem first member)
        omega

theorem endedEntries_processTerminates
    {numProcesses : Nat}
    (handles : Handles numProcesses state)
    (process : Nat) :
    (state.change process fun os => { os with terminated := true }).endedEntries ≤
      state.endedEntries + 1 :=
  countP_le_of_distinct state.entries handles.opened.distinct
    fun _ _ different => hasTerminated_change_eq fun _ => .inr different.symm

/-- The entry of a terminated process is removed. -/
theorem endedEntries_eraseIdx
    {index : Nat}
    {entry : ScopedHandle}
    (stage : state.stage = .waiting)
    (found : state.processes[index]? = some entry)
    (terminated : state.hasTerminated entry.process = true) :
    endedEntries { state with
        processes := state.processes.eraseIdx index
        stage := .head } + 1 = state.endedEntries := by
  obtain ⟨inside, isEntry⟩ := List.getElem?_eq_some_iff.mp found
  have permuted := (List.getElem_cons_eraseIdx_perm inside).countP_eq
    fun entry => state.hasTerminated entry.process
  rw [isEntry, List.countP_cons, if_pos terminated] at permuted
  have before : state.entries = state.processes := by
    rw [PoolState.entries, stage]
    exact List.append_nil _
  have after : PoolState.entries { state with
      processes := state.processes.eraseIdx index
      stage := .head } = state.processes.eraseIdx index :=
    List.append_nil _
  unfold endedEntries
  rw [before, after, ← permuted]
  rfl

end PoolState

variable {numProcesses : Nat}
variable {state next : PoolState}
variable {label : PoolLabel}
variable {events : List PoolEvent}

theorem workLeft_le (numProcesses : Nat) (state : PoolState) :
    state.workLeft numProcesses ≤ state.stage.stepsLeft numProcesses +
      turnSteps numProcesses * state.endedEntries := by
  unfold PoolState.workLeft
  split
  · exact Nat.zero_le _
  · exact Nat.zero_le _
  · exact Nat.le_refl _

theorem workLeft_of_inLoop (inLoop : ¬ state.stage.Left) :
    state.workLeft numProcesses = state.stage.stepsLeft numProcesses +
      turnSteps numProcesses * state.endedEntries := by
  unfold PoolState.workLeft
  split
  next stage => exact absurd (.inl stage) inLoop
  next stage => exact absurd (.inr stage) inLoop
  next => rfl

theorem workLeft_of_left (left : state.stage.Left) :
    state.workLeft numProcesses = 0 := by
  unfold PoolState.workLeft
  rcases left with stage | stage <;> rw [stage]

/-- A step of the thread goes on in its turn. -/
theorem workLeft_goes
    {worked : Nat}
    (inLoop : ¬ state.stage.Left)
    (goes : worked + next.stage.stepsLeft numProcesses ≤
      state.stage.stepsLeft numProcesses)
    (ended : next.endedEntries ≤ state.endedEntries) :
    worked + next.workLeft numProcesses ≤ state.workLeft numProcesses := by
  have after := workLeft_le numProcesses next
  have more := Nat.mul_le_mul_left (turnSteps numProcesses) ended
  rw [workLeft_of_inLoop inLoop]
  omega

/-- Where a wait returns for a terminated process, a turn is paid for by its
entry. -/
theorem workLeft_waitReturns
    {waitResult : UInt32}
    (few : numProcesses ≤ 63)
    (handles : Handles numProcesses state)
    (windows : WindowsWait state waitResult)
    (stage : state.stage = .waiting)
    (returns : state.CanReturn waitResult) :
    1 + (state.afterWait waitResult).1.workLeft numProcesses ≤
      state.workLeft numProcesses := by
  have inLoop := not_left_of_eq stage (by simp) (by simp)
  have fewEntries := handles.size.length_le.trans few
  have after := PoolState.afterWait_spec handles returns
  generalize (state.afterWait waitResult).1 = next at after ⊢
  generalize (state.afterWait waitResult).2 = events at after
  rw [workLeft_of_inLoop inLoop, stage]
  cases after with
  | exits last exitSet =>
      rw [workLeft_of_left (.inl rfl)]
      exact Nat.le_add_right 1 _
  | erases succeeded found terminated =>
      have fewer := PoolState.endedEntries_eraseIdx stage found terminated
      have left := workLeft_le numProcesses { state with
        processes := state.processes.eraseIdx (waitResult - waitObject0).toNat
        stage := .head }
      rw [← fewer, Nat.mul_add, Nat.mul_one]
      simp only [PoolStage.stepsLeft] at left ⊢
      omega
  | fails failed =>
      exact absurd failed
        ((windowsWait_iff handles fewEntries waitResult).mp windows).1

/-- Each step of the thread uses up some of the work that is left, and only a
termination adds to it. -/
theorem workLeft_step
    (few : numProcesses ≤ 63)
    (handles : Handles numProcesses state)
    (works : WindowsWorks state label)
    (poolStep : PoolStep numProcesses state label next events) :
    label.works.toNat + next.workLeft numProcesses ≤
      state.workLeft numProcesses +
        turnSteps numProcesses * label.terminates.toNat := by
  have entriesAt : ∀ {stage : PoolStage} (after : PoolStage),
      state.stage = stage → after.pending = stage.pending →
      PoolState.endedEntries { state with stage := after } =
        state.endedEntries := by
    intro stage after atStage pending
    refine PoolState.endedEntries_eq ?_ fun _ _ => rfl
    simp only [PoolState.entries, atStage, pending]
  cases poolStep with
  | loop stage =>
      refine workLeft_goes (not_left_of_eq stage (by simp) (by simp)) ?_
        (entriesAt _ stage rfl).le
      simp only [stage, PoolStage.stepsLeft, PoolLabel.works, turnSteps,
        Bool.toNat_true]
      omega
  | createFails stage missing =>
      refine workLeft_goes (not_left_of_eq stage (by simp) (by simp)) ?_
        (entriesAt _ stage rfl).le
      simp only [stage, PoolStage.stepsLeft, PoolLabel.works, Bool.toNat_true]
      omega
  | create stage missing fresh =>
      refine workLeft_goes (not_left_of_eq stage (by simp) (by simp)) ?_
        (PoolState.endedEntries_create handles stage _).le
      simp only [stage, PoolState.create, PoolStage.stepsLeft, PoolLabel.works,
        Bool.toNat_true]
      omega
  | assign stage =>
      refine workLeft_goes (not_left_of_eq stage (by simp) (by simp)) ?_ ?_
      · simp only [stage, PoolState.assign, PoolStage.stepsLeft,
          PoolLabel.works, Bool.toNat_true]
        omega
      · refine (PoolState.endedEntries_eq ?_ fun entry _ => ?_).le
        · simp [PoolState.entries, PoolState.assign, stage, PoolStage.pending,
            PoolState.change]
        · exact PoolState.hasTerminated_change_eq fun _ => .inl rfl
  | resume stage =>
      refine workLeft_goes (not_left_of_eq stage (by simp) (by simp)) ?_
        (PoolState.endedEntries_resume stage _).le
      unfold PoolState.resume
      split
      · simp only [stage, PoolStage.stepsLeft, PoolLabel.works, Bool.toNat_true]
        omega
      · simp only [stage, PoolStage.stepsLeft, PoolLabel.works, Bool.toNat_true]
        omega
  | terminate stage =>
      refine workLeft_goes (not_left_of_eq stage (by simp) (by simp)) ?_
        (PoolState.endedEntries_terminate handles stage _)
      simp only [stage, PoolState.terminate, PoolStage.stepsLeft,
        PoolLabel.works, Bool.toNat_true]
      omega
  | wait stage full =>
      refine workLeft_goes (not_left_of_eq stage (by simp) (by simp)) ?_
        (entriesAt _ stage rfl).le
      simp only [stage, PoolStage.stepsLeft, PoolLabel.works, Bool.toNat_true]
      omega
  | waitReturns stage returns =>
      exact workLeft_waitReturns few handles works.1 stage returns
  | @processTerminates process =>
      rw [PoolLabel.works, Bool.toNat_false, Nat.zero_add, PoolLabel.terminates,
        Bool.toNat_true, Nat.mul_one]
      by_cases left : state.stage.Left
      · have after : (state.change process fun os =>
            { os with terminated := true }).workLeft numProcesses = 0 :=
          workLeft_of_left left
        rw [after]
        exact Nat.zero_le _
      · have after := workLeft_le numProcesses
          (state.change process fun os => { os with terminated := true })
        have more := Nat.mul_le_mul_left (turnSteps numProcesses)
          (PoolState.endedEntries_processTerminates handles process)
        rw [Nat.mul_add, Nat.mul_one] at more
        rw [workLeft_of_inLoop left]
        simp only [PoolState.change] at after more ⊢
        omega
  | stop => exact (Nat.zero_add _).le
  | destroy | workerDies =>
      rw [workLeft_of_left (.inr rfl)]
      exact Nat.zero_le _

/-! ## Runs -/

/-- The thread of a pool of up to 63 processes takes at most the steps of one
turn, and of one more for each process that terminates, whatever creations come
to and whether or not it is told to stop. -/
theorem pool_work_is_bounded
    {labels : List PoolLabel}
    {trace : List PoolEvent}
    (few : numProcesses ≤ 63)
    (run : EventMachine.Run (processPool numProcesses) WindowsWorks {} labels
      trace state) :
    labels.countP PoolLabel.works ≤
      turnSteps numProcesses * (1 + labels.countP PoolLabel.terminates) := by
  rw [← run.count_eq_countP PoolLabel.works,
    ← run.count_eq_countP PoolLabel.terminates]
  have paid := run.count_le_of_potential (Handles numProcesses)
    (PoolState.workLeft numProcesses)
    (fun _ _ _ _ handles works steps => ⟨handles.step steps,
      workLeft_step few handles works (poolStep_of_processPool steps)⟩)
    Handles.initial
  have fresh : ({} : PoolState).workLeft numProcesses =
      turnSteps numProcesses := rfl
  rw [fresh] at paid
  rw [Nat.mul_add, Nat.mul_one]
  exact Nat.le_of_add_right_le paid

/-- Of three attempts one fails, one adds a process, and one leaves a process
that is neither assigned nor terminated.  The pool makes three more when the
process that it has terminates. -/
def boundedSample : List PoolLabel :=
  [.loop, .createProcess none, .createProcess (some 4), .assign true,
    .resume true, .createProcess (some 8), .assign false, .resume true,
    .terminate false, .wait, .processTerminates 0, .waitReturns 0, .loop,
    .createProcess none, .createProcess none, .createProcess none, .wait]

theorem pool_work_is_bounded_sample :
    ∃ trace state,
      EventMachine.Run (processPool 3) WindowsWorks {} boundedSample trace
        state ∧
      boundedSample.countP PoolLabel.works ≤ 30 := by
  have checked : EventMachine.checks (processPool 3) WindowsWorks {}
      boundedSample (fun _ _ => True) = true := by
    decide +kernel
  obtain ⟨trace, state, run, -⟩ := EventMachine.Run.of_checks checked
  exact ⟨trace, state, run, pool_work_is_bounded (by decide) run⟩

end ProcessPool
end IisAsgiHandler
