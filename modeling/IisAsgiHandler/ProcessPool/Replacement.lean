import IisAsgiHandler.ProcessPool.Bookkeeping

/-!
# Replacing terminated processes

`::WaitForMultipleObjects` takes at most 64 handles, one of which is the exit
event.  Pools of up to 63 processes replace whatever terminates.  A larger pool
never waits, and a negative count is a huge `size_t`.
-/

namespace IisAsgiHandler
namespace ProcessPool

/-! ## Windows -/

def maximumWaitObjects : UInt32 := 64

/-- The documented results of `::WaitForMultipleObjects`: failure for too many
handles, and otherwise the first that is signalled. -/
def WindowsWait (state : PoolState) (waitResult : UInt32) : Prop :=
  if maximumWaitObjects < state.waitCount then waitResult = waitFailed
  else
    waitResult ≠ waitFailed ∧
      ∀ index < (waitResult - waitObject0).toNat, state.signalled index = false

/-- Windows waits as documented, and all creations succeed. -/
def CreationSucceeds (state : PoolState) : PoolLabel → Prop
  | .createProcess handle => handle.isSome = true
  | .assign succeeds => succeeds = true
  | .resume succeeds => succeeds = true
  | .waitReturns waitResult => WindowsWait state waitResult
  | _ => True

/-! ## The property -/

/-- The entries of the last wait, and the processes started since then. -/
structure Tally where
  watched : Option (List ScopedHandle) := none
  starts : Nat := 0

def Tally.read (tally : Tally) : PoolEvent → Tally
  | .started _ => { tally with starts := tally.starts + 1 }
  | .waits watched => { watched := some watched, starts := 0 }
  | _ => tally

def tally (trace : List PoolEvent) : Tally :=
  trace.foldl Tally.read {}

/-- One entry has been removed, of a process that has terminated, and a new one
appended. -/
def OneReplaced
    (state : PoolState) (before after : List ScopedHandle) : Prop :=
  ∃ (index : Nat) (entry new : ScopedHandle),
    before[index]? = some entry ∧
      state.hasTerminated entry.process = true ∧
      after = before.eraseIdx index ++ [new]

/-- How a wait follows the events before it. -/
def WaitLaw (size : Nat) (state : PoolState) (before : List PoolEvent) :
    PoolEvent → Prop
  | .waits next =>
      next.length = size ∧
        match (tally before).watched with
        | none => (tally before).starts = size
        | some watched =>
            (tally before).starts = 1 ∧ OneReplaced state watched next
  | _ => True

/-- A run of a pool that replaces what terminates. -/
structure Replacing
    (size : Nat) (trace : List PoolEvent) (state : PoolState) : Prop where
  /-- Until the first wait, no more processes are started than configured. -/
  starts : (tally trace).watched = none → (tally trace).starts ≤ size
  /-- As many are watched by each wait, and between two waits one process is
  replaced. -/
  waits : EventMachine.Justified (WaitLaw size state) trace
  /-- A wait returns for a watched handle that is signalled. -/
  signalled : state.stage = .waiting → ∀ waitResult,
    state.CanReturn waitResult → WindowsWait state waitResult →
    waitResult - waitObject0 < state.waitCount ∧
      state.signalled (waitResult - waitObject0).toNat = true
  /-- When a watched process has terminated, the wait returns ... -/
  returns : state.stage = .waiting →
    (∃ entry ∈ state.processes, state.hasTerminated entry.process = true) →
    ∃ waitResult, state.CanReturn waitResult ∧ WindowsWait state waitResult
  /-- ... and, without the exit event, an entry of such a process goes. -/
  removes : state.stage = .waiting → state.exitSet = false → ∀ waitResult,
    state.CanReturn waitResult → WindowsWait state waitResult →
    ∃ (index : Nat) (entry : ScopedHandle),
      state.processes[index]? = some entry ∧
        state.hasTerminated entry.process = true ∧
        (state.afterWait waitResult).1 =
          { state with
            processes := state.processes.eraseIdx index, stage := .head }

/-- Every run with a configured count replaces what terminates. -/
def ReplacesTerminated (count : Int32) : Prop :=
  ∀ labels trace state,
    EventMachine.Run (processPool (numProcessesOf count)) CreationSucceeds {}
      labels trace state →
    Replacing count.toInt.toNat trace state

/-! ## Terminated processes -/

namespace PoolState

variable {state : PoolState}

theorem hasTerminated_iff {process : Nat} :
    state.hasTerminated process = true ↔
      ∃ os, state.started[process]? = some os ∧ os.terminated = true := by
  rw [hasTerminated]
  exact Option.any_eq_true _ _

theorem afterWait_started (waitResult : UInt32) :
    (state.afterWait waitResult).1.started = state.started := by
  simp only [afterWait]
  split
  · rfl
  · split <;> rfl

theorem hasTerminated_change
    {process other : Nat}
    {how : OsProcess → OsProcess}
    (stays : ∀ os, os.terminated = true → (how os).terminated = true)
    (terminated : state.hasTerminated other = true) :
    (state.change process how).hasTerminated other = true := by
  obtain ⟨os, found, ended⟩ := hasTerminated_iff.mp terminated
  refine hasTerminated_iff.mpr
    ⟨(if process = other then how else id) os, ?_, ?_⟩
  · rw [getElem?_change, found, Option.map_some]
  · split
    · exact stays os ended
    · exact ended

theorem hasTerminated_closeJob
    {process : Nat}
    (terminated : state.hasTerminated process = true) :
    state.closeJob.hasTerminated process = true := by
  obtain ⟨os, found, ended⟩ := hasTerminated_iff.mp terminated
  refine hasTerminated_iff.mpr
    ⟨{ os with terminated := os.terminated || os.inJob }, ?_, ?_⟩
  · rw [closeJob, List.getElem?_map, found, Option.map_some]
  · rw [ended, Bool.true_or]

end PoolState

/-- A process that has terminated stays so. -/
theorem hasTerminated_step
    {numProcesses process : Nat}
    {state next : PoolState}
    {label : PoolLabel}
    {events : List PoolEvent}
    (steps : processPool numProcesses state label = some (next, events))
    (terminated : state.hasTerminated process = true) :
    next.hasTerminated process = true := by
  cases poolStep_of_processPool steps with
  | create stage missing fresh =>
      obtain ⟨os, found, ended⟩ := PoolState.hasTerminated_iff.mp terminated
      refine PoolState.hasTerminated_iff.mpr ⟨os, ?_, ended⟩
      have inside := (List.getElem?_eq_some_iff.mp found).1
      rw [PoolState.create, List.getElem?_append_left inside]
      exact found
  | assign stage =>
      exact PoolState.hasTerminated_change (fun _ ended => ended) terminated
  | resume stage =>
      unfold PoolState.resume
      split <;>
        exact PoolState.hasTerminated_change (fun _ ended => ended) terminated
  | terminate stage =>
      refine PoolState.hasTerminated_change ?_ terminated
      intro os ended
      rw [ended, Bool.true_or]
  | waitReturns stage returns =>
      rw [PoolState.hasTerminated, PoolState.afterWait_started]
      exact terminated
  | processTerminates =>
      exact PoolState.hasTerminated_change (fun _ _ => rfl) terminated
  | destroy stage => exact PoolState.hasTerminated_closeJob terminated
  | workerDies => exact PoolState.hasTerminated_closeJob terminated
  | _ => exact terminated

/-! ## Counting -/

theorem tally_append (trace events : List PoolEvent) :
    tally (trace ++ events) = events.foldl Tally.read (tally trace) :=
  List.foldl_append

/-- Where the thread is when all creations succeed: as many attempts have been
made as there are entries. -/
def PoolStage.Exact (numProcesses length : Nat) : PoolStage → Prop
  | .topUp attempt => attempt = length
  | .created attempt _ => attempt = length
  | .assigned attempt _ succeeded => attempt = length ∧ succeeded = true
  | .terminating _ _ => False
  | .waiting => length = numProcesses
  | .exited => length = numProcesses
  | _ => True

/-- In a wait, or after the last one. -/
def PoolStage.waits : PoolStage → Bool
  | .waiting => true
  | .exited => true
  | _ => false

/-- The open handles: those of the pool, and that of a new process. -/
def PoolState.entries (state : PoolState) : List ScopedHandle :=
  state.processes ++ state.stage.pending

/-- How the open handles come from the last wait. -/
inductive Phase (size : Nat) (state : PoolState) : Tally → Prop
  | filling {starts : Nat}
      (between : state.stage.waits = false)
      (count : state.entries.length = starts) :
      Phase size state ⟨none, starts⟩
  | watching
      (within : state.stage.waits = true) :
      Phase size state ⟨some state.processes, 0⟩
  | replacing {watched news : List ScopedHandle} {index : Nat}
      {entry : ScopedHandle}
      (between : state.stage.waits = false)
      (full : watched.length = size)
      (found : watched[index]? = some entry)
      (terminated : state.hasTerminated entry.process = true)
      (rest : state.entries = watched.eraseIdx index ++ news) :
      Phase size state ⟨some watched, news.length⟩
  | closed {tally : Tally} (stage : state.stage = .closed) :
      Phase size state tally

namespace Phase

variable {size : Nat}
variable {state next : PoolState}
variable {counted : Tally}

/-- Steps that leave the open handles alone. -/
theorem frame
    (phase : Phase size state counted)
    (kept : ∀ process, state.hasTerminated process = true →
      next.hasTerminated process = true)
    (entries : next.entries = state.entries)
    (waits : next.stage.waits = state.stage.waits)
    (within : state.stage.waits = true → next.processes = state.processes)
    (opened : state.stage ≠ .closed ∨ next.stage = .closed) :
    Phase size next counted := by
  cases phase with
  | filling between count =>
      rw [← waits] at between
      rw [← entries] at count
      exact .filling between count
  | watching isWithin =>
      rw [← within isWithin]
      rw [← waits] at isWithin
      exact .watching isWithin
  | replacing between full found terminated rest =>
      rw [← waits] at between
      rw [← entries] at rest
      exact .replacing between full found (kept _ terminated) rest
  | closed stage => exact .closed (opened.resolve_left fun open' => open' stage)

/-- A new process adds its handle. -/
theorem start
    (phase : Phase size state counted)
    (opened : state.stage ≠ .closed)
    (outside : state.stage.waits = false)
    (kept : ∀ process, state.hasTerminated process = true →
      next.hasTerminated process = true)
    {new : ScopedHandle}
    (entries : next.entries = state.entries ++ [new])
    (between : next.stage.waits = false)
    (process : Nat) :
    Phase size next (counted.read (.started process)) := by
  cases phase with
  | filling _ count =>
      refine .filling between ?_
      rw [entries, List.length_append, count, List.length_singleton]
  | watching within =>
      rw [outside] at within
      contradiction
  | @replacing watched news index entry _ full found terminated rest =>
      have longer : next.entries = watched.eraseIdx index ++ (news ++ [new]) := by
        rw [entries, rest, List.append_assoc]
      have phase := Phase.replacing between full found (kept _ terminated)
        longer
      rw [List.length_append, List.length_singleton] at phase
      exact phase
  | closed stage => exact absurd stage opened

end Phase

/-- Up to the limit, Windows returns the first handle that is signalled. -/
theorem windowsWait_iff
    {size : Nat}
    {state : PoolState}
    (handles : Handles size state)
    (few : state.processes.length ≤ 63)
    (waitResult : UInt32) :
    WindowsWait state waitResult ↔
      waitResult ≠ waitFailed ∧
        ∀ index < (waitResult - waitObject0).toNat,
          state.signalled index = false := by
  unfold WindowsWait
  rw [if_neg]
  rw [UInt32.lt_iff_toNat_lt, handles.waitCount_toNat]
  simp only [maximumWaitObjects, UInt32.reduceToNat]
  omega

/-- A small pool in which all creations succeed. -/
structure Replaced
    (size : Nat) (trace : List PoolEvent) (state : PoolState) : Prop where
  handles : Handles size state
  exact : state.stage.Exact size state.processes.length
  phase : Phase size state (tally trace)
  starts : (tally trace).watched = none → (tally trace).starts ≤ size
  waits : EventMachine.Justified (WaitLaw size state) trace

namespace Replaced

variable {size : Nat}
variable {trace : List PoolEvent}
variable {state next : PoolState}
variable {label : PoolLabel}
variable {events : List PoolEvent}

theorem initial : Replaced size [] {} where
  handles := Handles.initial
  exact := trivial
  phase := .filling rfl rfl
  starts := fun _ => Nat.zero_le size
  waits := EventMachine.Justified.nil

theorem exact_step
    (replaced : Replaced size trace state)
    (allowed : CreationSucceeds state label)
    (steps : processPool size state label = some (next, events)) :
    next.stage.Exact size next.processes.length := by
  have attempts := replaced.exact
  have holds := replaced.handles.size
  cases poolStep_of_processPool steps with
  | loop stage => exact rfl
  | createFails stage missing => cases allowed
  | create stage missing fresh =>
      rw [stage] at attempts
      exact attempts
  | assign stage =>
      rw [stage] at attempts
      exact ⟨attempts, allowed⟩
  | resume stage =>
      rw [stage] at attempts
      have succeeds : _ = true := allowed
      have assigned : _ = true := attempts.2
      unfold PoolState.resume
      rw [succeeds, assigned]
      change _ + 1 = (_ ++ [_]).length
      rw [attempts.1, List.length_append, List.length_singleton]
      rfl
  | terminate stage =>
      rw [stage] at attempts
      exact attempts.elim
  | wait stage full =>
      rw [stage] at attempts holds
      have equal : _ = state.processes.length := attempts
      exact Nat.le_antisymm (holds.1.trans holds.2) (equal ▸ full)
  | waitReturns stage returns =>
      rw [stage] at attempts
      have after := PoolState.afterWait_spec replaced.handles returns
      generalize (state.afterWait _).1 = next at after ⊢
      generalize (state.afterWait _).2 = events at after
      cases after with
      | exits last exitSet => exact attempts
      | erases succeeded found terminated => exact trivial
      | fails failed => exact trivial
  | processTerminates => exact attempts
  | stop => exact attempts
  | destroy stage => exact trivial
  | workerDies => exact trivial

/-- A return of the wait removes an entry or ends the thread. -/
theorem phase_afterWait
    (small : size ≤ 63)
    (replaced : Replaced size trace state)
    (stage : state.stage = .waiting)
    {waitResult : UInt32}
    (windows : WindowsWait state waitResult)
    (after : AfterWait state waitResult next events) :
    Phase size next (tally (trace ++ events)) := by
  have full : state.processes.length = size := by
    have attempts := replaced.exact
    rw [stage] at attempts
    exact attempts
  have counted : tally trace = ⟨some state.processes, 0⟩ := by
    have phase := replaced.phase
    generalize tally trace = counted at phase ⊢
    cases phase with
    | filling between _ =>
        rw [stage] at between
        contradiction
    | watching _ => rfl
    | replacing between _ _ _ _ =>
        rw [stage] at between
        contradiction
    | closed isClosed =>
        rw [stage] at isClosed
        contradiction
  rw [tally_append, counted]
  cases after with
  | exits last exitSet => exact .watching rfl
  | erases succeeded found terminated =>
      let erased := state.processes.eraseIdx (waitResult - waitObject0).toNat
      let after : PoolState := { state with processes := erased, stage := .head }
      have ended : after.hasTerminated _ = true := terminated
      have rest : after.entries = erased ++ ([] : List ScopedHandle) := rfl
      exact Phase.replacing rfl full found ended rest
  | fails failed =>
      have few : state.processes.length ≤ 63 := full ▸ small
      exact absurd failed ((windowsWait_iff replaced.handles few _).mp windows).1

theorem phase_step
    (small : size ≤ 63)
    (replaced : Replaced size trace state)
    (allowed : CreationSucceeds state label)
    (steps : processPool size state label = some (next, events)) :
    Phase size next (tally (trace ++ events)) := by
  have attempts := replaced.exact
  have phase := replaced.phase
  have kept : ∀ process, state.hasTerminated process = true →
      next.hasTerminated process = true :=
    fun _ terminated => hasTerminated_step steps terminated
  cases poolStep_of_processPool steps with
  | loop stage =>
      rw [List.append_nil]
      refine phase.frame kept ?_ ?_ (fun _ => rfl) (.inl (by simp [stage]))
      · rw [PoolState.entries, PoolState.entries, stage]
        rfl
      · rw [stage]
        rfl
  | createFails stage missing => cases allowed
  | create stage missing fresh =>
      rename_i attempt handle
      have entries : (state.create attempt handle).entries =
          state.entries ++ [⟨handle, state.started.length⟩] := by
        simp [PoolState.entries, PoolState.create, PoolStage.pending, stage]
      rw [tally_append]
      exact phase.start (by simp [stage]) (by rw [stage]; rfl) kept entries
        rfl state.started.length
  | assign stage =>
      rw [List.append_nil]
      refine phase.frame kept ?_ ?_ (fun _ => rfl) (.inl (by simp [stage]))
      · rw [PoolState.entries, PoolState.entries, stage]
        rfl
      · rw [stage]
        rfl
  | resume stage =>
      rw [stage] at attempts
      have succeeds : _ = true := allowed
      have assigned : _ = true := attempts.2
      rw [List.append_nil]
      rw [succeeds, assigned] at kept ⊢
      refine phase.frame kept ?_ ?_ ?_ (.inl (by simp [stage]))
      · rw [PoolState.entries, PoolState.entries, stage]
        exact List.append_nil _
      · rw [stage]
        rfl
      · rw [stage]
        intro within
        cases within
  | terminate stage =>
      rw [stage] at attempts
      exact attempts.elim
  | wait stage full =>
      rw [tally_append]
      exact .watching rfl
  | waitReturns stage returns =>
      exact phase_afterWait small replaced stage allowed
        (PoolState.afterWait_spec replaced.handles returns)
  | processTerminates =>
      rw [List.append_nil]
      refine phase.frame kept rfl rfl (fun _ => rfl) ?_
      by_cases closed : state.stage = .closed
      · exact .inr closed
      · exact .inl closed
  | stop =>
      rw [tally_append]
      refine phase.frame kept rfl rfl (fun _ => rfl) ?_
      by_cases closed : state.stage = .closed
      · exact .inr closed
      · exact .inl closed
  | destroy stage => exact .closed rfl
  | workerDies => exact .closed rfl

/-- Before the first wait, the started processes are the entries. -/
theorem starts_step
    (small : size ≤ 63)
    (replaced : Replaced size trace state)
    (allowed : CreationSucceeds state label)
    (steps : processPool size state label = some (next, events)) :
    (tally (trace ++ events)).watched = none →
      (tally (trace ++ events)).starts ≤ size := by
  have phase := replaced.phase_step small allowed steps
  have handles := replaced.handles.step steps
  cases poolStep_of_processPool steps with
  | create stage missing fresh =>
      intro filling
      generalize tally (trace ++ _) = counted at phase filling ⊢
      cases phase with
      | filling between count =>
          have bounds : _ ∧ _ := handles.size
          rw [← count, PoolState.entries, List.length_append]
          exact Nat.lt_of_le_of_lt bounds.1 bounds.2
      | watching within => cases filling
      | replacing between same found terminated rest => cases filling
      | closed isClosed => cases isClosed
  | wait stage full =>
      intro filling
      rw [tally_append] at filling
      cases filling
  | waitReturns stage returns =>
      have after := PoolState.afterWait_spec replaced.handles returns
      generalize (state.afterWait _).1 = next at after
      generalize (state.afterWait _).2 = events at after ⊢
      rw [tally_append]
      cases after <;> exact replaced.starts
  | _ =>
      rw [tally_append]
      exact replaced.starts

/-- Where a wait begins, the entries are as many as configured, and one of them
is new. -/
theorem waitLaw
    (replaced : Replaced size trace state)
    {attempt : Nat}
    (stage : state.stage = .topUp attempt)
    (full : state.processes.length = size) :
    WaitLaw size state trace (.waits state.processes) := by
  have entries : state.entries = state.processes := by
    rw [PoolState.entries, stage]
    exact List.append_nil _
  refine ⟨full, ?_⟩
  have phase := replaced.phase
  generalize tally trace = counted at phase ⊢
  cases phase with
  | filling between count =>
      rw [entries, full] at count
      exact count.symm
  | watching within =>
      rw [stage] at within
      contradiction
  | @replacing watched news index entry between same found terminated rest =>
      have inside := (List.getElem?_eq_some_iff.mp found).1
      rw [entries] at rest
      have lengths := congrArg List.length rest
      rw [List.length_append, List.length_eraseIdx_of_lt inside, full, same]
        at lengths
      rw [same] at inside
      have single : news.length = 1 := by omega
      obtain ⟨new, rfl⟩ := List.length_eq_one_iff.mp single
      exact ⟨rfl, index, entry, new, found, terminated, rest⟩
  | closed isClosed =>
      rw [stage] at isClosed
      contradiction

theorem waits_step
    (replaced : Replaced size trace state)
    (allowed : CreationSucceeds state label)
    (steps : processPool size state label = some (next, events)) :
    EventMachine.Justified (WaitLaw size next) (trace ++ events) := by
  have earlier : EventMachine.Justified (WaitLaw size next) trace := by
    refine replaced.waits.mono ?_
    intro before event law
    cases event with
    | waits after =>
        refine ⟨law.1, ?_⟩
        have rest := law.2
        generalize (tally before).watched = watched at rest ⊢
        cases watched with
        | none => exact rest
        | some watched =>
            obtain ⟨starts, index, entry, new, found, ended, equal⟩ := rest
            exact ⟨starts, index, entry, new, found,
              hasTerminated_step steps ended, equal⟩
    | _ => exact trivial
  refine (EventMachine.Justified.append_iff _ _).mpr ⟨earlier, ?_⟩
  have quiet : (∀ event ∈ events, ∀ watched, event ≠ .waits watched) →
      EventMachine.Justified
        (fun before => WaitLaw size next (trace ++ before)) events := by
    intro other
    refine EventMachine.Justified.of_forall ?_
    intro event member before
    cases event with
    | waits watched => exact absurd rfl (other _ member watched)
    | _ => exact trivial
  have attempts := replaced.exact_step allowed steps
  cases poolStep_of_processPool steps with
  | wait stage full =>
      rw [EventMachine.Justified.singleton, List.append_nil]
      exact replaced.waitLaw stage attempts
  | waitReturns stage returns =>
      refine quiet ?_
      have after := PoolState.afterWait_spec replaced.handles returns
      generalize (state.afterWait _).1 = next at after
      generalize (state.afterWait _).2 = events at after ⊢
      cases after <;> simp
  | _ => exact quiet (by simp)

theorem step
    (small : size ≤ 63)
    (replaced : Replaced size trace state)
    (allowed : CreationSucceeds state label)
    (steps : processPool size state label = some (next, events)) :
    Replaced size (trace ++ events) next where
  handles := replaced.handles.step steps
  exact := replaced.exact_step allowed steps
  phase := replaced.phase_step small allowed steps
  starts := replaced.starts_step small allowed steps
  waits := replaced.waits_step allowed steps

theorem of_run
    (small : size ≤ 63)
    {labels : List PoolLabel}
    (run : EventMachine.Run (processPool size) CreationSucceeds {} labels trace
      state) :
    Replaced size trace state :=
  run.preserves_trace (Replaced size) initial
    fun _ _ _ _ _ replaced allowed steps => replaced.step small allowed steps

theorem length_eq
    (replaced : Replaced size trace state)
    (stage : state.stage = .waiting) :
    state.processes.length = size := by
  have attempts := replaced.exact
  rw [stage] at attempts
  exact attempts

/-- When a process has terminated, some watched handle is the first that is
signalled. -/
theorem returns
    (small : size ≤ 63)
    (replaced : Replaced size trace state)
    (stage : state.stage = .waiting)
    (ended : ∃ entry ∈ state.processes,
      state.hasTerminated entry.process = true) :
    ∃ waitResult, state.CanReturn waitResult ∧ WindowsWait state waitResult := by
  obtain ⟨entry, member, terminated⟩ := ended
  obtain ⟨position, found⟩ := List.mem_iff_getElem?.mp member
  have signalled : ∃ index, state.signalled index = true := by
    refine ⟨position, ?_⟩
    rw [PoolState.signalled, found]
    exact terminated
  have least : Nat.find signalled ≤ position := by
    refine Nat.find_min' signalled ?_
    rw [PoolState.signalled, found]
    exact terminated
  have inside := (List.getElem?_eq_some_iff.mp found).1
  have bound := replaced.handles.length_lt
  have zero : ∀ waitResult : UInt32, waitResult - waitObject0 = waitResult :=
    UInt32.sub_zero
  have value : (UInt32.ofNat (Nat.find signalled)).toNat =
      Nat.find signalled := by
    refine UInt32.toNat_ofNat_of_lt' ?_
    simp only [waitFailed, UInt32.reduceToNat] at bound
    rw [UInt32.size]
    omega
  have few : state.processes.length ≤ 63 := replaced.length_eq stage ▸ small
  refine ⟨UInt32.ofNat (Nat.find signalled), .inr ⟨?_, ?_⟩, ?_⟩
  · rw [zero, UInt32.lt_iff_toNat_lt, value, replaced.handles.waitCount_toNat]
    omega
  · rw [zero, value]
    exact Nat.find_spec signalled
  · refine (windowsWait_iff replaced.handles few _).mpr ⟨?_, ?_⟩
    · intro failed
      rw [← failed, value] at bound
      omega
    · intro index less
      rw [zero, value] at less
      exact eq_false_of_ne_true (Nat.find_min signalled less)

theorem removes
    (small : size ≤ 63)
    (replaced : Replaced size trace state)
    (stage : state.stage = .waiting)
    (running : state.exitSet = false)
    {waitResult : UInt32}
    (returns : state.CanReturn waitResult)
    (windows : WindowsWait state waitResult) :
    ∃ (index : Nat) (entry : ScopedHandle),
      state.processes[index]? = some entry ∧
        state.hasTerminated entry.process = true ∧
        (state.afterWait waitResult).1 =
          { state with
            processes := state.processes.eraseIdx index, stage := .head } := by
  have few : state.processes.length ≤ 63 := replaced.length_eq stage ▸ small
  have after := PoolState.afterWait_spec replaced.handles returns
  generalize (state.afterWait _).1 = next at after ⊢
  generalize (state.afterWait _).2 = events at after
  cases after with
  | exits last exitSet =>
      rw [running] at exitSet
      contradiction
  | erases succeeded found terminated => exact ⟨_, _, found, terminated, rfl⟩
  | fails failed =>
      exact absurd failed ((windowsWait_iff replaced.handles few _).mp windows).1

/-- A small pool replaces what terminates. -/
theorem replacing
    (small : size ≤ 63)
    (replaced : Replaced size trace state) :
    Replacing size trace state where
  starts := replaced.starts
  waits := replaced.waits
  signalled stage waitResult returns windows := by
    have few : state.processes.length ≤ 63 := replaced.length_eq stage ▸ small
    have succeeded := ((windowsWait_iff replaced.handles few _).mp windows).1
    exact returns.resolve_left succeeded
  returns stage ended := replaced.returns small stage ended
  removes stage running _ returns windows :=
    replaced.removes small stage running returns windows

end Replaced

/-! ## Pools that do not -/

theorem processPool_createProcess
    {size attempt : Nat}
    {state : PoolState}
    {handle : Handle}
    (stage : state.stage = .topUp attempt)
    (wanted : attempt < size)
    (fresh : state.IsFresh handle) :
    processPool size state (.createProcess (some handle)) =
      some (state.create attempt handle, [.started state.started.length]) := by
  obtain ⟨processes, _, started, exitSet⟩ := state
  subst stage
  exact if_pos ⟨wanted, fresh⟩

theorem processPool_wait
    {size attempt : Nat}
    {state : PoolState}
    (stage : state.stage = .topUp attempt)
    (full : size ≤ attempt) :
    processPool size state .wait =
      some ({ state with stage := .waiting }, [.waits state.processes]) := by
  obtain ⟨processes, _, started, exitSet⟩ := state
  subst stage
  exact if_neg (Nat.not_lt.mpr full)

/-- Any number of processes can be created before the first wait, as long as
there are handles for them. -/
theorem filled
    {size : Nat}
    (number : Nat)
    (wanted : number ≤ size)
    (open' : number + 1 < waitFailed.toNat) :
    ∃ labels trace state,
      EventMachine.Run (processPool size) CreationSucceeds {} labels trace
        state ∧
      state.stage = .topUp number ∧ state.processes.length = number ∧
      (∀ entry ∈ state.processes, entry.handle.toNat ≤ number) ∧
      tally trace = ⟨none, number⟩ := by
  induction number with
  | zero =>
      have entered : processPool size {} .loop =
          some ({ stage := .topUp 0 }, []) := rfl
      have run : EventMachine.Run (processPool size) CreationSucceeds {}
          [.loop] [] { stage := .topUp 0 } :=
        EventMachine.Run.refl.step (by trivial) entered
      exact ⟨_, _, _, run, rfl, rfl, by simp, rfl⟩
  | succ number inductionHypothesis =>
      obtain ⟨labels, trace, state, run, stage, length, handles, counted⟩ :=
        inductionHypothesis (Nat.le_of_succ_le wanted) (by omega)
      let handle := UInt32.ofNat (number + 1)
      have value : handle.toNat = number + 1 := by
        refine UInt32.toNat_ofNat_of_lt' ?_
        simp only [waitFailed, UInt32.reduceToNat] at open'
        rw [UInt32.size]
        omega
      have fresh : state.IsFresh handle := by
        refine ⟨?_, ?_, ?_⟩
        · intro equal
          rw [equal] at value
          simp at value
        · intro equal
          rw [equal] at value
          simp only [invalidHandleValue, waitFailed, UInt32.reduceToNat]
            at value open'
          omega
        · intro entry member equal
          have bound := handles entry member
          rw [equal, value] at bound
          omega
      let new : ScopedHandle := ⟨handle, state.started.length⟩
      let created := state.create number handle
      let assigned := created.assign number new true
      let resumed := assigned.resume number new true true
      have first : processPool size state (.createProcess (some handle)) =
          some (created, [.started state.started.length]) :=
        processPool_createProcess stage wanted fresh
      have second : processPool size created (.assign true) =
          some (assigned, []) := rfl
      have third : processPool size assigned (.resume true) =
          some (resumed, []) := rfl
      have longer :=
        ((run.step (by rfl) first).step (by rfl) second).step (by rfl) third
      have processes : resumed.processes = state.processes ++ [new] := rfl
      refine ⟨_, _, _, longer, rfl, ?_, ?_, ?_⟩
      · rw [processes, List.length_append, length, List.length_singleton]
      · intro entry member
        rw [processes] at member
        rcases List.mem_append.mp member with present | isNew
        · exact Nat.le_succ_of_le (handles entry present)
        · rw [List.mem_singleton.mp isNew]
          exact Nat.le_of_eq value
      · simp [tally_append, counted, Tally.read]

/-- A pool that is too large only ever has failing waits. -/
theorem not_replacing_of_large
    {size : Nat}
    (large : 64 ≤ size)
    (open' : size + 1 < waitFailed.toNat) :
    ∃ labels trace state,
      EventMachine.Run (processPool size) CreationSucceeds {} labels trace
        state ∧
      ¬ Replacing size trace state := by
  obtain ⟨labels, trace, state, run, stage, length, _, _⟩ :=
    filled size (Nat.le_refl size) open'
  let waiting : PoolState := { state with stage := .waiting }
  have waits : processPool size state .wait =
      some (waiting, [.waits state.processes]) :=
    processPool_wait stage (Nat.le_refl size)
  refine ⟨_, _, _, run.step (by trivial) waits, ?_⟩
  intro replacing
  have tooMany : WindowsWait waiting waitFailed := by
    unfold WindowsWait
    rw [if_pos]
    have count : waiting.waitCount.toNat = size + 1 := by
      rw [← length]
      refine UInt32.toNat_ofNat_of_lt' ?_
      simp only [waitFailed, UInt32.reduceToNat] at open'
      rw [length, UInt32.size]
      omega
    rw [UInt32.lt_iff_toNat_lt, count]
    simp only [maximumWaitObjects, UInt32.reduceToNat]
    omega
  have inside := (replacing.signalled rfl waitFailed (.inl rfl) tooMany).1
  have bound := waiting.waitCount.toNat_lt
  rw [UInt32.lt_iff_toNat_lt] at inside
  simp only [waitFailed, waitObject0, UInt32.sub_zero, UInt32.reduceToNat]
    at inside
  omega

/-! ## Counts -/

theorem numProcessesOf_of_nonneg
    {count : Int32}
    (nonneg : 0 ≤ count.toInt) :
    numProcessesOf count = count.toInt.toNat := by
  have wide : (0 : Int64) ≤ count.toInt64 := by
    rw [Int64.le_iff_toInt_le, Int32.toInt_toInt64]
    exact nonneg
  rw [numProcessesOf, Int64.toNat_toUInt64_of_le wide, Int64.toNatClampNeg,
    Int32.toInt_toInt64]

theorem numProcessesOf_pos_of_neg
    {count : Int32}
    (negative : count.toInt < 0) :
    0 < numProcessesOf count := by
  refine Nat.pos_of_ne_zero ?_
  intro zero
  have narrow : count.toInt64.toUInt64 = 0 := UInt64.toNat_inj.mp zero
  have wide : count.toInt64 = 0 := by
    rw [← Int64.toInt64_toUInt64 count.toInt64, narrow]
    rfl
  have equal := congrArg Int64.toInt wide
  rw [Int32.toInt_toInt64] at equal
  rw [equal] at negative
  exact absurd negative (by decide)

/-- Terminated processes are replaced exactly for counts from 0 to 63. -/
theorem replacesTerminated_iff (count : Int32) :
    ReplacesTerminated count ↔ 0 ≤ count.toInt ∧ count.toInt ≤ 63 := by
  constructor
  · intro replaces
    by_contra outside
    by_cases negative : count.toInt < 0
    · obtain ⟨labels, trace, state, run, _, _, _, counted⟩ :=
        filled 1 (numProcessesOf_pos_of_neg negative) (by decide)
      have starts := (replaces labels trace state run).starts
      rw [counted, Int.toNat_of_nonpos (Int.le_of_lt negative)] at starts
      exact absurd (starts rfl) (by decide)
    · have nonneg : 0 ≤ count.toInt := Int.not_lt.mp negative
      have bound := count.toInt_lt
      have equal := numProcessesOf_of_nonneg nonneg
      have large : 64 ≤ numProcessesOf count := by omega
      have open' : numProcessesOf count + 1 < waitFailed.toNat := by
        simp only [waitFailed, UInt32.reduceToNat]
        omega
      obtain ⟨labels, trace, state, run, fails⟩ :=
        not_replacing_of_large large open'
      rw [equal] at fails
      exact fails (replaces labels trace state run)
  · rintro ⟨nonneg, few⟩ labels trace state run
    have equal := numProcessesOf_of_nonneg nonneg
    have small : numProcessesOf count ≤ 63 := by omega
    rw [← equal]
    exact (Replaced.of_run small run).replacing small

/-- With 64 processes, the wait fails. -/
theorem not_replacesTerminated_64 : ¬ ReplacesTerminated 64 := by
  intro replaces
  obtain ⟨labels, trace, state, run, fails⟩ :=
    not_replacing_of_large (Nat.le_refl 64) (by decide)
  exact fails (replaces labels trace state run)

end ProcessPool
end IisAsgiHandler
