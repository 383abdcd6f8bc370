import IisAsgiHandler.ProcessPool.Basic
import Mathlib.Data.List.Nodup
import Mathlib.Order.Interval.Finset.Nat

/-!
# Bookkeeping of a pool

At every loop head the pool holds at most its size in entries, all of different
processes, and whatever still runs is one of them.  Only the entry of a
terminated process is ever removed, also where the wait fails.
-/

namespace IisAsgiHandler
namespace ProcessPool

/-! ## Steps -/

/-- The steps of a pool. -/
inductive PoolStep (numProcesses : Nat) (state : PoolState) :
    PoolLabel → PoolState → List PoolEvent → Prop
  | loop (stage : state.stage = .head) :
      PoolStep numProcesses state .loop
        { state with stage := .topUp state.processes.length } []
  | createFails {attempt : Nat}
      (stage : state.stage = .topUp attempt)
      (missing : attempt < numProcesses) :
      PoolStep numProcesses state (.createProcess none)
        { state with stage := .topUp (attempt + 1) } []
  | create {attempt : Nat} {handle : Handle}
      (stage : state.stage = .topUp attempt)
      (missing : attempt < numProcesses)
      (fresh : state.IsFresh handle) :
      PoolStep numProcesses state (.createProcess (some handle))
        (state.create attempt handle) [.started state.started.length]
  | assign {attempt : Nat} {process : ScopedHandle} {succeeds : Bool}
      (stage : state.stage = .created attempt process) :
      PoolStep numProcesses state (.assign succeeds)
        (state.assign attempt process succeeds) []
  | resume {attempt : Nat} {process : ScopedHandle} {assigned succeeds : Bool}
      (stage : state.stage = .assigned attempt process assigned) :
      PoolStep numProcesses state (.resume succeeds)
        (state.resume attempt process assigned succeeds) []
  | terminate {attempt : Nat} {process : ScopedHandle} {succeeds : Bool}
      (stage : state.stage = .terminating attempt process) :
      PoolStep numProcesses state (.terminate succeeds)
        (state.terminate attempt process succeeds) []
  | wait {attempt : Nat}
      (stage : state.stage = .topUp attempt)
      (full : numProcesses ≤ attempt) :
      PoolStep numProcesses state .wait
        { state with stage := .waiting } [.waits state.processes]
  | waitReturns {waitResult : UInt32}
      (stage : state.stage = .waiting)
      (returns : state.CanReturn waitResult) :
      PoolStep numProcesses state (.waitReturns waitResult)
        (state.afterWait waitResult).1 (state.afterWait waitResult).2
  | processTerminates {process : Nat} :
      PoolStep numProcesses state (.processTerminates process)
        (state.change process fun os => { os with terminated := true }) []
  | stop :
      PoolStep numProcesses state .stop { state with exitSet := true }
        [.stopped]
  | destroy (stage : state.stage = .exited) :
      PoolStep numProcesses state .destroy state.closeJob []
  | workerDies : PoolStep numProcesses state .workerDies state.closeJob []

/-- Each step of the machine is one of the steps. -/
theorem poolStep_of_processPool
    {numProcesses : Nat}
    {state next : PoolState}
    {label : PoolLabel}
    {events : List PoolEvent}
    (steps : processPool numProcesses state label = some (next, events)) :
    PoolStep numProcesses state label next events := by
  obtain ⟨processes, stage, started, exitSet⟩ := state
  cases label with
  | loop =>
      cases stage with
      | head =>
          cases steps
          exact .loop rfl
      | _ => cases steps
  | createProcess handle =>
      cases stage with
      | topUp attempt =>
          cases handle with
          | none =>
              change (if attempt < numProcesses then _ else _) = _ at steps
              split at steps
              next missing =>
                cases steps
                exact .createFails rfl missing
              next => cases steps
          | some handle =>
              change (if _ ∧ _ then _ else _) = _ at steps
              split at steps
              next permitted =>
                cases steps
                exact .create rfl permitted.1 permitted.2
              next => cases steps
      | _ => cases handle <;> cases steps
  | assign succeeds =>
      cases stage with
      | created attempt process =>
          cases steps
          exact .assign rfl
      | _ => cases steps
  | resume succeeds =>
      cases stage with
      | assigned attempt process assigned =>
          cases steps
          exact .resume rfl
      | _ => cases steps
  | terminate succeeds =>
      cases stage with
      | terminating attempt process =>
          cases steps
          exact .terminate rfl
      | _ => cases steps
  | wait =>
      cases stage with
      | topUp attempt =>
          change (if attempt < numProcesses then _ else _) = _ at steps
          split at steps
          next => cases steps
          next full =>
            cases steps
            exact .wait rfl (Nat.le_of_not_lt full)
      | _ => cases steps
  | waitReturns waitResult =>
      cases stage with
      | waiting =>
          change (if _ then _ else _) = _ at steps
          split at steps
          next returns =>
            have step : PoolStep numProcesses _ (.waitReturns waitResult) _ _ :=
              .waitReturns rfl returns
            rw [Option.some.inj steps] at step
            exact step
          next => cases steps
      | _ => cases steps
  | processTerminates process =>
      cases steps
      exact .processTerminates
  | stop =>
      cases steps
      exact .stop
  | destroy =>
      cases stage with
      | exited =>
          cases steps
          exact .destroy rfl
      | _ => cases steps
  | workerDies =>
      cases steps
      exact .workerDies

/-! ## The invariant -/

/-- Open handles of different processes, among those started so far. -/
structure OpenHandles (entries : List ScopedHandle) (started : Nat) : Prop where
  distinct : (entries.map ScopedHandle.process).Nodup
  handles : (entries.map ScopedHandle.handle).Nodup
  valid : ∀ entry ∈ entries,
    entry.handle ≠ 0 ∧ entry.handle ≠ invalidHandleValue
  known : ∀ entry ∈ entries, entry.process < started

namespace OpenHandles

variable {entries fewer : List ScopedHandle}
variable {started : Nat}

theorem sublist
    (opened : OpenHandles entries started)
    (fewerOpen : fewer.Sublist entries) :
    OpenHandles fewer started where
  distinct := (fewerOpen.map _).nodup opened.distinct
  handles := (fewerOpen.map _).nodup opened.handles
  valid entry member := opened.valid entry (fewerOpen.subset member)
  known entry member := opened.known entry (fewerOpen.subset member)

/-- A new process has a handle that no other process has. -/
theorem snoc
    (opened : OpenHandles entries started)
    {handle : Handle}
    (valid : handle ≠ 0 ∧ handle ≠ invalidHandleValue)
    (fresh : ∀ entry ∈ entries, entry.handle ≠ handle) :
    OpenHandles (entries ++ [⟨handle, started⟩]) (started + 1) := by
  refine ⟨?_, ?_, ?_, ?_⟩
  · rw [List.map_append, List.map_singleton]
    refine List.nodup_append.mpr ⟨opened.distinct, List.nodup_singleton _, ?_⟩
    intro process member other isNew
    obtain ⟨entry, present, rfl⟩ := List.mem_map.mp member
    rw [List.mem_singleton.mp isNew]
    exact Nat.ne_of_lt (opened.known entry present)
  · rw [List.map_append, List.map_singleton]
    refine List.nodup_append.mpr ⟨opened.handles, List.nodup_singleton _, ?_⟩
    intro other member new isNew
    obtain ⟨entry, present, rfl⟩ := List.mem_map.mp member
    rw [List.mem_singleton.mp isNew]
    exact fresh entry present
  · intro entry member
    rcases List.mem_append.mp member with present | new
    · exact opened.valid entry present
    · rw [List.mem_singleton.mp new]
      exact valid
  · intro entry member
    rcases List.mem_append.mp member with present | new
    · exact Nat.lt_succ_of_lt (opened.known entry present)
    · rw [List.mem_singleton.mp new]
      exact Nat.lt_succ_self started

/-- The handles that differ from failure and from the pseudo-handle are so few
that no index of an entry is the result of a failed wait. -/
theorem length_lt (opened : OpenHandles entries started) :
    entries.length < waitFailed.toNat := by
  let values := (entries.map ScopedHandle.handle).map UInt32.toNat
  have nodup : values.Nodup := opened.handles.map fun _ _ => UInt32.toNat_inj.mp
  have inside : values.toFinset ⊆ Finset.Ico 1 waitFailed.toNat := by
    intro value member
    simp only [values, List.mem_toFinset, List.mem_map] at member
    obtain ⟨handle, ⟨entry, present, rfl⟩, rfl⟩ := member
    have valid := opened.valid entry present
    have positive : entry.handle.toNat ≠ 0 := fun zero =>
      valid.1 (UInt32.toNat_inj.mp zero)
    have other : entry.handle.toNat ≠ invalidHandleValue.toNat := fun equal =>
      valid.2 (UInt32.toNat_inj.mp equal)
    have bound := entry.handle.toNat_lt
    rw [Finset.mem_Ico]
    simp only [invalidHandleValue, waitFailed, UInt32.reduceToNat] at other ⊢
    omega
  have bounded := Finset.card_le_card inside
  rw [List.toFinset_card_of_nodup nodup, Nat.card_Ico, List.length_map,
    List.length_map] at bounded
  simp only [waitFailed, UInt32.reduceToNat] at bounded ⊢
  omega

end OpenHandles

/-- The entry of the process that is being created. -/
def PoolStage.pending : PoolStage → List ScopedHandle
  | .created _ process => [process]
  | .assigned _ process _ => [process]
  | .terminating _ process => [process]
  | _ => []

/-- The thread is not creating a process, and the job is open. -/
def PoolStage.Idle (stage : PoolStage) : Prop :=
  stage.pending = [] ∧ stage ≠ .closed

/-- How many entries there can be: no more than attempts have been made. -/
def PoolStage.Holds (numProcesses length : Nat) : PoolStage → Prop
  | .topUp attempt => length ≤ attempt ∧ attempt ≤ numProcesses
  | .created attempt _ => length ≤ attempt ∧ attempt < numProcesses
  | .assigned attempt _ _ => length ≤ attempt ∧ attempt < numProcesses
  | .terminating attempt _ => length ≤ attempt ∧ attempt < numProcesses
  | _ => length ≤ numProcesses

/-- A process that is being created; once the job is closed, any. -/
def PoolStage.Creates (process : Nat) (os : OsProcess) : PoolStage → Prop
  | .created _ entry => entry.process = process
  | .assigned _ entry succeeded =>
      entry.process = process ∧ (succeeded = true → os.inJob = true)
  | .terminating _ entry => entry.process = process
  | .closed => True
  | _ => False

theorem PoolStage.Creates.mono
    {stage : PoolStage}
    {process : Nat}
    {before after : OsProcess}
    (kept : before.inJob = true → after.inJob = true)
    (creates : stage.Creates process before) :
    stage.Creates process after := by
  cases stage with
  | assigned attempt entry succeeded =>
      exact ⟨creates.1, fun isAssigned => kept (creates.2 isAssigned)⟩
  | _ => exact creates

theorem PoolStage.idle_of_eq
    {stage other : PoolStage}
    (equal : stage = other)
    (pending : other.pending = [])
    (isOpen : other ≠ .closed) :
    stage.Idle := by
  rw [equal]
  exact ⟨pending, isOpen⟩

theorem PoolStage.Idle.not_creates
    {stage : PoolStage}
    {process : Nat}
    {os : OsProcess}
    (idle : stage.Idle) : ¬ stage.Creates process os := by
  cases stage with
  | created attempt entry => exact absurd idle.1 (List.cons_ne_nil _ _)
  | assigned attempt entry succeeded =>
      exact absurd idle.1 (List.cons_ne_nil _ _)
  | terminating attempt entry => exact absurd idle.1 (List.cons_ne_nil _ _)
  | closed => exact absurd rfl idle.2
  | _ => exact id

namespace PoolState

/-- An entry of the pool, in the job and resumed. -/
def Pooled (state : PoolState) (process : Nat) (os : OsProcess) : Prop :=
  (∃ entry ∈ state.processes, entry.process = process) ∧
    os.inJob = true ∧ os.resumed = true

variable {state : PoolState}

theorem getElem?_change
    (process other : Nat)
    (how : OsProcess → OsProcess) :
    (state.change process how).started[other]? =
      state.started[other]?.map (if process = other then how else id) := by
  rw [change, List.getElem?_modify]
  split <;> simp

end PoolState

/-- The open handles of a pool, and how many of them are entries. -/
structure Handles (numProcesses : Nat) (state : PoolState) : Prop where
  size : state.stage.Holds numProcesses state.processes.length
  opened : OpenHandles (state.processes ++ state.stage.pending)
    state.started.length

namespace Handles

variable {numProcesses : Nat}
variable {state : PoolState}

theorem initial : Handles numProcesses {} where
  size := Nat.zero_le _
  opened := ⟨List.nodup_nil, List.nodup_nil, by simp [PoolStage.pending],
    by simp [PoolStage.pending]⟩

theorem tracked (handles : Handles numProcesses state) :
    OpenHandles state.processes state.started.length :=
  handles.opened.sublist (List.sublist_append_left _ _)

theorem length_lt (handles : Handles numProcesses state) :
    state.processes.length < waitFailed.toNat :=
  handles.tracked.length_lt

theorem waitCount_toNat (handles : Handles numProcesses state) :
    state.waitCount.toNat = state.processes.length + 1 := by
  have few := handles.length_lt
  simp only [waitFailed, UInt32.reduceToNat] at few
  rw [PoolState.waitCount, UInt32.toNat_ofNat_of_lt']
  rw [UInt32.size]
  omega

/-- The thread moves while no process is being created. -/
theorem move
    (handles : Handles numProcesses state)
    {stage : PoolStage}
    (stays : stage.pending = [])
    (holds : stage.Holds numProcesses state.processes.length) :
    Handles numProcesses { state with stage := stage } where
  size := holds
  opened := by
    rw [stays, List.append_nil]
    exact handles.tracked

theorem change
    (handles : Handles numProcesses state)
    (target : Nat)
    (how : OsProcess → OsProcess) :
    Handles numProcesses (state.change target how) where
  size := handles.size
  opened := by
    rw [PoolState.change, List.length_modify]
    exact handles.opened

/-! ## The calls of `CreateProcess` -/

theorem create
    (handles : Handles numProcesses state)
    {attempt : Nat}
    {handle : Handle}
    (stage : state.stage = .topUp attempt)
    (missing : attempt < numProcesses)
    (fresh : state.IsFresh handle) :
    Handles numProcesses (state.create attempt handle) := by
  have size := handles.size
  rw [stage] at size
  refine ⟨⟨size.1, missing⟩, ?_⟩
  have longer := handles.tracked.snoc ⟨fresh.1, fresh.2.1⟩ fresh.2.2
  simpa [PoolState.create, PoolStage.pending] using longer

theorem assign
    (handles : Handles numProcesses state)
    {attempt : Nat}
    {process : ScopedHandle}
    (stage : state.stage = .created attempt process)
    (succeeds : Bool) :
    Handles numProcesses (state.assign attempt process succeeds) := by
  obtain ⟨size, opened⟩ := handles.change process.process
    (fun os => { os with inJob := os.inJob || succeeds })
  have sameStage : (state.change process.process fun os =>
      { os with inJob := os.inJob || succeeds }).stage =
      .created attempt process := stage
  rw [sameStage] at size opened
  exact ⟨size, opened⟩

/-- A process is listed once it is in the job and resumed. -/
theorem resume
    (handles : Handles numProcesses state)
    {attempt : Nat}
    {process : ScopedHandle}
    {assigned : Bool}
    (stage : state.stage = .assigned attempt process assigned)
    (succeeds : Bool) :
    Handles numProcesses (state.resume attempt process assigned succeeds) := by
  obtain ⟨size, opened⟩ := handles.change process.process
    (fun os => { os with resumed := os.resumed || succeeds })
  have sameStage : (state.change process.process fun os =>
      { os with resumed := os.resumed || succeeds }).stage =
      .assigned attempt process assigned := stage
  rw [sameStage] at size opened
  unfold PoolState.resume
  split
  next => exact ⟨size, opened⟩
  next =>
    have bounds : _ ∧ _ := size
    refine ⟨⟨?_, Nat.succ_le_of_lt bounds.2⟩, ?_⟩
    · rw [List.length_append, List.length_singleton]
      exact Nat.succ_le_succ bounds.1
    · simpa [PoolStage.pending] using opened

/-- The handle of a process that could not be set up is closed, whether or not
it is terminated. -/
theorem terminate
    (handles : Handles numProcesses state)
    {attempt : Nat}
    {process : ScopedHandle}
    (stage : state.stage = .terminating attempt process)
    (succeeds : Bool) :
    Handles numProcesses (state.terminate attempt process succeeds) := by
  obtain ⟨size, opened⟩ := handles.change process.process
    (fun os => { os with terminated := os.terminated || succeeds })
  have sameStage : (state.change process.process fun os =>
      { os with terminated := os.terminated || succeeds }).stage =
      .terminating attempt process := stage
  rw [sameStage] at size opened
  have bounds : _ ∧ _ := size
  exact ⟨⟨Nat.le_succ_of_le bounds.1, Nat.succ_le_of_lt bounds.2⟩,
    opened.sublist (List.Sublist.append_left (List.nil_sublist _) _)⟩

/-! ## The wait and the end -/

theorem eraseIdx
    (handles : Handles numProcesses state)
    (stage : state.stage = .waiting)
    (index : Nat) :
    Handles numProcesses { state with
      processes := state.processes.eraseIdx index, stage := .head } := by
  have size := handles.size
  rw [stage] at size
  refine ⟨(List.length_eraseIdx_le _ _).trans size, ?_⟩
  change OpenHandles (state.processes.eraseIdx index ++ []) _
  rw [List.append_nil]
  exact handles.tracked.sublist (List.eraseIdx_sublist _ _)

theorem closeJob (handles : Handles numProcesses state) :
    Handles numProcesses state.closeJob := by
  constructor
  · have size := handles.size
    change state.processes.length ≤ numProcesses
    cases stage : state.stage with
    | topUp attempt =>
        rw [stage] at size
        exact size.1.trans size.2
    | created attempt process =>
        rw [stage] at size
        exact size.1.trans (Nat.le_of_lt size.2)
    | assigned attempt process succeeded =>
        rw [stage] at size
        exact size.1.trans (Nat.le_of_lt size.2)
    | terminating attempt process =>
        rw [stage] at size
        exact size.1.trans (Nat.le_of_lt size.2)
    | _ =>
        rw [stage] at size
        exact size
  · change OpenHandles (state.processes ++ []) _
    rw [List.append_nil, PoolState.closeJob, List.length_map]
    exact handles.tracked

end Handles

/-- Whatever runs is pooled, unless it is being created. -/
def PoolState.Accounted (state : PoolState) : Prop :=
  ∀ (process : Nat) (os : OsProcess),
    state.started[process]? = some os → os.terminated = false →
    state.Pooled process os ∨ state.stage.Creates process os

namespace PoolState.Accounted

variable {state : PoolState}
variable {attempt : Nat}
variable {process : ScopedHandle}

theorem pooled
    (accounted : state.Accounted)
    (idle : state.stage.Idle)
    {process : Nat}
    {os : OsProcess}
    (found : state.started[process]? = some os)
    (runs : os.terminated = false) :
    state.Pooled process os :=
  (accounted process os found runs).resolve_right idle.not_creates

/-- The thread moves while no process is being created. -/
theorem move
    (accounted : state.Accounted)
    (idle : state.stage.Idle)
    (stage : PoolStage) :
    PoolState.Accounted { state with stage := stage } :=
  fun _ _ found runs => .inl (accounted.pooled idle found runs)

/-- Processes gain properties, and terminate, between the calls. -/
theorem change
    (accounted : state.Accounted)
    (target : Nat)
    (how : OsProcess → OsProcess)
    (stays : ∀ os, (how os).terminated = false → os.terminated = false)
    (inJob : ∀ os, os.inJob = true → (how os).inJob = true)
    (resumed : ∀ os, os.resumed = true → (how os).resumed = true) :
    (state.change target how).Accounted := by
  intro process os found runs
  rw [getElem?_change] at found
  obtain ⟨before, foundBefore, rfl⟩ := Option.map_eq_some_iff.mp found
  by_cases same : target = process
  · rw [if_pos same] at runs ⊢
    rcases accounted process before foundBefore (stays _ runs) with
      ⟨entry, member, ran⟩ | creates
    · exact .inl ⟨entry, inJob _ member, resumed _ ran⟩
    · exact .inr (creates.mono (inJob before))
  · rw [if_neg same] at runs ⊢
    exact accounted process before foundBefore runs

theorem create
    (accounted : state.Accounted)
    (stage : state.stage = .topUp attempt)
    (handle : Handle) :
    (state.create attempt handle).Accounted := by
  intro process os found runs
  have idle := PoolStage.idle_of_eq stage rfl (by simp)
  simp only [PoolState.create, List.getElem?_append] at found
  split at found
  · exact .inl (accounted.pooled idle found runs)
  · have inside := (List.getElem?_eq_some_iff.mp found).1
    have isNew : state.started.length = process := by
      simp only [List.length_singleton] at inside
      omega
    exact .inr isNew

theorem assign
    (accounted : state.Accounted)
    (stage : state.stage = .created attempt process)
    (succeeds : Bool) :
    (state.assign attempt process succeeds).Accounted := by
  have changed := accounted.change process.process
    (fun os => { os with inJob := os.inJob || succeeds })
    (fun _ runs => runs) (by simp +contextual) (fun _ resumed => resumed)
  have sameStage : (state.change process.process fun os =>
      { os with inJob := os.inJob || succeeds }).stage =
      .created attempt process := stage
  intro other os found runs
  rcases changed other os found runs with pooled | creates
  · exact .inl pooled
  · rw [sameStage] at creates
    have same : process.process = other := creates
    refine .inr ⟨same, ?_⟩
    intro assigned
    rw [PoolState.assign, getElem?_change, if_pos same] at found
    obtain ⟨before, _, rfl⟩ := Option.map_eq_some_iff.mp found
    simp [assigned]

/-- What is listed has been assigned and resumed. -/
theorem resume
    {assigned : Bool}
    (accounted : state.Accounted)
    (stage : state.stage = .assigned attempt process assigned)
    (succeeds : Bool) :
    (state.resume attempt process assigned succeeds).Accounted := by
  have changed := accounted.change process.process
    (fun os => { os with resumed := os.resumed || succeeds })
    (fun _ runs => runs) (fun _ member => member) (by simp +contextual)
  have sameStage : (state.change process.process fun os =>
      { os with resumed := os.resumed || succeeds }).stage =
      .assigned attempt process assigned := stage
  unfold PoolState.resume
  split
  next =>
    intro other os found runs
    rcases changed other os found runs with pooled | creates
    · exact .inl pooled
    · rw [sameStage] at creates
      exact .inr creates.1
  next succeeded =>
    have both : assigned = true ∧ succeeds = true := by simpa using succeeded
    intro other os found runs
    rcases changed other os found runs with
      ⟨⟨entry, member, same⟩, inJob⟩ | creates
    · exact .inl ⟨⟨entry, List.mem_append_left _ member, same⟩, inJob⟩
    · rw [sameStage] at creates
      have same : process.process = other := creates.1
      refine .inl ⟨⟨process, by simp, same⟩, creates.2 both.1, ?_⟩
      rw [getElem?_change, if_pos same] at found
      obtain ⟨before, _, rfl⟩ := Option.map_eq_some_iff.mp found
      simp [both.2]

/-- A process that could not be set up is terminated, and never listed. -/
theorem terminate
    (accounted : state.Accounted)
    (stage : state.stage = .terminating attempt process) :
    (state.terminate attempt process true).Accounted := by
  have changed := accounted.change process.process
    (fun os => { os with terminated := os.terminated || true })
    (by simp) (fun _ member => member) (fun _ resumed => resumed)
  have sameStage : (state.change process.process fun os =>
      { os with terminated := os.terminated || true }).stage =
      .terminating attempt process := stage
  intro other os found runs
  rcases changed other os found runs with pooled | creates
  · exact .inl pooled
  · rw [sameStage] at creates
    have same : process.process = other := creates
    rw [PoolState.terminate, getElem?_change, if_pos same] at found
    obtain ⟨before, _, rfl⟩ := Option.map_eq_some_iff.mp found
    simp at runs

/-- The entry of a process that has terminated may be removed. -/
theorem eraseIdx
    (accounted : state.Accounted)
    (idle : state.stage.Idle)
    {index : Nat}
    {entry : ScopedHandle}
    (found : state.processes[index]? = some entry)
    (terminated : state.hasTerminated entry.process = true) :
    PoolState.Accounted { state with
      processes := state.processes.eraseIdx index, stage := .head } := by
  intro process os foundOs runs
  obtain ⟨⟨other, member, same⟩, ran⟩ := accounted.pooled idle foundOs runs
  obtain ⟨position, foundOther⟩ := List.mem_iff_getElem?.mp member
  have elsewhere : position ≠ index := by
    rintro rfl
    rw [foundOther] at found
    cases found
    rw [same, PoolState.hasTerminated, foundOs] at terminated
    simp [runs] at terminated
  have stays : other ∈ state.processes.eraseIdx index :=
    List.mem_eraseIdx_iff_getElem?.mpr ⟨position, elsewhere, foundOther⟩
  exact .inl ⟨⟨other, stays, same⟩, ran⟩

/-- Once the job is closed, nothing is asked of the pool any more. -/
theorem closeJob (state : PoolState) : state.closeJob.Accounted :=
  fun _ _ _ _ => .inr trivial

end PoolState.Accounted

/-- The books of a pool: its open handles, and what may be running. -/
structure Books (numProcesses : Nat) (state : PoolState) : Prop
    extends Handles numProcesses state where
  running : state.Accounted

theorem Books.initial {numProcesses : Nat} : Books numProcesses {} where
  toHandles := Handles.initial
  running := by simp [PoolState.Accounted]

/-- What a return of the wait does.  A failed wait changes nothing: its result
is no index of the pool. -/
inductive AfterWait (state : PoolState) (waitResult : UInt32) :
    PoolState → List PoolEvent → Prop
  | exits
      (last : (waitResult - waitObject0).toNat = state.processes.length)
      (exitSet : state.exitSet = true) :
      AfterWait state waitResult { state with stage := .exited }
        [.returned waitResult, .exited]
  | erases {entry : ScopedHandle}
      (succeeded : waitResult ≠ waitFailed)
      (found : state.processes[(waitResult - waitObject0).toNat]? = some entry)
      (terminated : state.hasTerminated entry.process = true) :
      AfterWait state waitResult
        { state with
          processes := state.processes.eraseIdx (waitResult - waitObject0).toNat
          stage := .head }
        [.returned waitResult, .erased state.processes
          (state.processes.eraseIdx (waitResult - waitObject0).toNat)]
  | fails (failed : waitResult = waitFailed) :
      AfterWait state waitResult { state with stage := .head }
        [.returned waitResult]

theorem PoolState.afterWait_spec
    {numProcesses : Nat}
    {state : PoolState}
    {waitResult : UInt32}
    (handles : Handles numProcesses state)
    (returns : state.CanReturn waitResult) :
    AfterWait state waitResult (state.afterWait waitResult).1
      (state.afterWait waitResult).2 := by
  have few := handles.length_lt
  have zero : waitResult - waitObject0 = waitResult := UInt32.sub_zero waitResult
  rcases returns with failed | ⟨inside, signalled⟩
  · have outside : ¬ (waitResult - waitObject0).toNat ≤
        state.processes.length := by
      rw [zero, failed]
      omega
    unfold afterWait
    rw [if_neg fun equal => outside (Nat.le_of_eq equal),
      if_neg fun less => outside (Nat.le_of_lt less)]
    exact .fails failed
  · have small : (waitResult - waitObject0).toNat ≤ state.processes.length := by
      have bound := UInt32.lt_iff_toNat_lt.mp inside
      rw [handles.waitCount_toNat] at bound
      exact Nat.le_of_lt_succ bound
    unfold afterWait
    by_cases last :
        (waitResult - waitObject0).toNat = state.processes.length
    · rw [if_pos last]
      have none : state.processes[(waitResult - waitObject0).toNat]? = none :=
        List.getElem?_eq_none (Nat.le_of_eq last.symm)
      rw [PoolState.signalled, none] at signalled
      exact .exits last signalled
    · rw [if_neg last]
      have less : (waitResult - waitObject0).toNat < state.processes.length :=
        Nat.lt_of_le_of_ne small last
      rw [if_pos less]
      have found := List.getElem?_eq_getElem less
      rw [PoolState.signalled, found] at signalled
      refine .erases ?_ found signalled
      rintro rfl
      rw [zero] at less
      omega

/-- Windows terminates the processes it is asked to. -/
def TerminationSucceeds (_ : PoolState) (label : PoolLabel) : Prop :=
  label ≠ .terminate false

instance (state : PoolState) (label : PoolLabel) :
    Decidable (TerminationSucceeds state label) :=
  inferInstanceAs (Decidable (_ ≠ _))

namespace Handles

variable {numProcesses : Nat}
variable {state next : PoolState}
variable {label : PoolLabel}
variable {events : List PoolEvent}

theorem afterWait
    {waitResult : UInt32}
    (handles : Handles numProcesses state)
    (stage : state.stage = .waiting)
    (after : AfterWait state waitResult next events) :
    Handles numProcesses next := by
  have size := handles.size
  rw [stage] at size
  cases after with
  | exits last exitSet => exact handles.move rfl size
  | erases succeeded found terminated => exact handles.eraseIdx stage _
  | fails failed => exact handles.move rfl size

/-- Whatever Windows answers, the handles are right. -/
theorem step
    (handles : Handles numProcesses state)
    (steps : processPool numProcesses state label = some (next, events)) :
    Handles numProcesses next := by
  have size := handles.size
  cases poolStep_of_processPool steps with
  | loop stage =>
      rw [stage] at size
      exact handles.move rfl ⟨Nat.le_refl _, size⟩
  | createFails stage missing =>
      rw [stage] at size
      exact handles.move rfl ⟨Nat.le_succ_of_le size.1, missing⟩
  | create stage missing fresh => exact handles.create stage missing fresh
  | assign stage => exact handles.assign stage _
  | resume stage => exact handles.resume stage _
  | terminate stage => exact handles.terminate stage _
  | wait stage full =>
      rw [stage] at size
      exact handles.move rfl (size.1.trans size.2)
  | waitReturns stage returns =>
      exact handles.afterWait stage (PoolState.afterWait_spec handles returns)
  | processTerminates => exact handles.change _ _
  | stop => exact ⟨handles.size, handles.opened⟩
  | destroy stage => exact handles.closeJob
  | workerDies => exact handles.closeJob

/-- The handles are right throughout every run. -/
theorem of_run
    {allowed : PoolState → PoolLabel → Prop}
    {labels : List PoolLabel}
    {trace : List PoolEvent}
    (run : EventMachine.Run (processPool numProcesses) allowed {} labels trace
      state) :
    Handles numProcesses state :=
  run.preserves (Handles numProcesses) initial
    fun _ _ _ _ handles _ steps => handles.step steps

end Handles

namespace Books

variable {numProcesses : Nat}
variable {state next : PoolState}
variable {label : PoolLabel}
variable {events : List PoolEvent}

/-- What runs stays accounted for, unless Windows fails to terminate it. -/
theorem accounted_step
    (books : Books numProcesses state)
    (terminates : TerminationSucceeds state label)
    (steps : processPool numProcesses state label = some (next, events)) :
    next.Accounted := by
  have running := books.running
  cases poolStep_of_processPool steps with
  | loop stage | createFails stage missing | wait stage full =>
      exact running.move (PoolStage.idle_of_eq stage rfl (by simp)) _
  | create stage missing fresh => exact running.create stage _
  | assign stage => exact running.assign stage _
  | resume stage => exact running.resume stage _
  | terminate stage =>
      rename_i succeeds
      cases succeeds with
      | false => exact absurd rfl terminates
      | true => exact running.terminate stage
  | waitReturns stage returns =>
      have idle := PoolStage.idle_of_eq stage rfl (by simp)
      have after := PoolState.afterWait_spec books.toHandles returns
      generalize (state.afterWait _).1 = next at after ⊢
      generalize (state.afterWait _).2 = events at after
      cases after with
      | exits last exitSet => exact running.move idle _
      | erases succeeded found terminated =>
          exact running.eraseIdx idle found terminated
      | fails failed => exact running.move idle _
  | processTerminates =>
      exact running.change _ _ (by simp) (fun _ member => member)
        (fun _ resumed => resumed)
  | stop => exact running
  | destroy stage => exact .closeJob state
  | workerDies => exact .closeJob state

theorem step
    (books : Books numProcesses state)
    (terminates : TerminationSucceeds state label)
    (steps : processPool numProcesses state label = some (next, events)) :
    Books numProcesses next :=
  ⟨books.toHandles.step steps, books.accounted_step terminates steps⟩

/-- The books are right throughout every run. -/
theorem of_run
    {labels : List PoolLabel}
    {trace : List PoolEvent}
    (run : EventMachine.Run (processPool numProcesses) TerminationSucceeds {}
      labels trace state) :
    Books numProcesses state :=
  run.preserves (Books numProcesses) initial
    fun _ _ _ _ books terminates steps => books.step terminates steps

end Books

/-! ## Runs -/

/-- What a pool has at a loop head. -/
structure HeadHolds (numProcesses : Nat) (state : PoolState) : Prop where
  atMost : state.processes.length ≤ numProcesses
  distinct : (state.processes.map ScopedHandle.process).Nodup
  running : ∀ (process : Nat) (os : OsProcess),
    state.started[process]? = some os → os.terminated = false →
    state.Pooled process os

/-- What a step does to the entries. -/
inductive EntriesStep (state : PoolState) :
    PoolLabel → List ScopedHandle → Prop
  | kept {label : PoolLabel} : EntriesStep state label state.processes
  | pushed {process : ScopedHandle} :
      EntriesStep state (.resume true) (state.processes ++ [process])
  | erased {waitResult : UInt32} {entry : ScopedHandle}
      (succeeded : waitResult ≠ waitFailed)
      (found : state.processes[(waitResult - waitObject0).toNat]? = some entry)
      (terminated : state.hasTerminated entry.process = true) :
      EntriesStep state (.waitReturns waitResult)
        (state.processes.eraseIdx (waitResult - waitObject0).toNat)

theorem Handles.entriesStep
    {numProcesses : Nat}
    {state next : PoolState}
    {label : PoolLabel}
    {events : List PoolEvent}
    (handles : Handles numProcesses state)
    (steps : processPool numProcesses state label = some (next, events)) :
    EntriesStep state label next.processes := by
  cases poolStep_of_processPool steps with
  | resume stage =>
      unfold PoolState.resume
      split
      next => exact .kept
      next succeeded =>
        simp only [Bool.or_eq_true, Bool.not_eq_eq_eq_not, Bool.not_true,
          not_or, Bool.not_eq_false] at succeeded
        rw [succeeded.2]
        exact .pushed
  | waitReturns stage returns =>
      have after := PoolState.afterWait_spec handles returns
      generalize (state.afterWait _).1 = next at after ⊢
      generalize (state.afterWait _).2 = events at after
      cases after with
      | exits last exitSet => exact .kept
      | erases succeeded found terminated =>
          exact .erased succeeded found terminated
      | fails failed => exact .kept
  | _ => exact .kept

/-- In every run, the books are right at every loop head, a step removes an
entry only when its process has terminated, and the index of a failed wait is
past the exit event. -/
theorem bookkeeping
    {numProcesses : Nat}
    {labels : List PoolLabel}
    {trace : List PoolEvent}
    {state : PoolState}
    (run : EventMachine.Run (processPool numProcesses) TerminationSucceeds {}
      labels trace state) :
    (state.stage = .head → HeadHolds numProcesses state) ∧
      (∀ label next events,
        processPool numProcesses state label = some (next, events) →
        EntriesStep state label next.processes) ∧
      state.processes.length < (waitFailed - waitObject0).toNat := by
  have books := Books.of_run run
  refine ⟨?_, fun _ _ _ steps => books.entriesStep steps, books.length_lt⟩
  intro stage
  have size := books.size
  rw [stage] at size
  refine ⟨size, books.tracked.distinct, ?_⟩
  intro process os found runs
  exact books.running.pooled (PoolStage.idle_of_eq stage rfl (by simp)) found runs

/-- A process that is not assigned is terminated and started again, and one of
two that terminate is replaced. -/
def bookkeepingSample : List PoolLabel :=
  [.loop, .createProcess (some 4), .assign true, .resume true,
    .createProcess (some 8), .assign false, .resume true, .terminate true,
    .wait, .waitReturns waitFailed, .loop, .createProcess (some 8),
    .assign true, .resume true, .wait, .processTerminates 0, .waitReturns 0]

theorem bookkeeping_sample :
    ∃ trace state,
      EventMachine.Run (processPool 2) TerminationSucceeds {} bookkeepingSample
        trace state ∧
      state.stage = .head ∧ state.processes = [⟨8, 2⟩] ∧
      HeadHolds 2 state := by
  have checked : EventMachine.checks (processPool 2) TerminationSucceeds {}
      bookkeepingSample (fun state _ =>
        state.stage = .head ∧ state.processes = [⟨8, 2⟩]) = true := by
    decide +kernel
  obtain ⟨trace, state, run, stage, processes⟩ :=
    EventMachine.Run.of_checks checked
  exact ⟨trace, state, run, stage, processes, (bookkeeping run).1 stage⟩

end ProcessPool
end IisAsgiHandler
