import IisAsgiHandler.Library.EventMachine

/-!
# The thread of a pool

`ThreadMain` tops the pool up, waits for a process or for the exit event, and
goes round.  The steps are single calls of Windows, with any outcome; between
them processes terminate, the pool is stopped, and the worker process may die.
-/

namespace IisAsgiHandler
namespace ProcessPool

/-- A `HANDLE`.  Windows keeps its significant bits in the low 32. -/
abbrev Handle := UInt32

def invalidHandleValue : Handle := 0xffffffff

def waitObject0 : UInt32 := 0

def waitFailed : UInt32 := 0xffffffff

/-- `count` of the configuration as the `size_t` of the constructor. -/
def numProcessesOf (count : Int32) : Nat :=
  count.toInt64.toUInt64.toNat

/-- What Windows knows of a process that was created suspended. -/
structure OsProcess where
  inJob : Bool := false
  resumed : Bool := false
  terminated : Bool := false
  deriving DecidableEq

/-- An open handle of a process; processes are numbered as they are started. -/
structure ScopedHandle where
  handle : Handle
  process : Nat
  deriving DecidableEq

/-- Where the thread is; an attempt is a turn of the top-up loop. -/
inductive PoolStage where
  /-- At the head of the outer loop. -/
  | head
  | topUp (attempt : Nat)
  /-- `::CreateProcess` has succeeded. -/
  | created (attempt : Nat) (process : ScopedHandle)
  /-- `::AssignProcessToJobObject` has returned. -/
  | assigned (attempt : Nat) (process : ScopedHandle) (assigned : Bool)
  /-- One of the two calls failed. -/
  | terminating (attempt : Nat) (process : ScopedHandle)
  /-- In `::WaitForMultipleObjects`. -/
  | waiting
  | exited
  /-- The job is closed: the pool is destroyed or the worker process gone. -/
  | closed
  deriving DecidableEq

/-- The pool, and the processes it has started so far. -/
structure PoolState where
  processes : List ScopedHandle := []
  stage : PoolStage := .head
  started : List OsProcess := []
  exitSet : Bool := false
  deriving DecidableEq

inductive PoolLabel where
  /-- Enter the top-up loop. -/
  | loop
  /-- `::CreateProcess` fails, or returns a handle. -/
  | createProcess (handle : Option Handle)
  | assign (succeeds : Bool)
  | resume (succeeds : Bool)
  | terminate (succeeds : Bool)
  /-- Leave the top-up loop and call `::WaitForMultipleObjects`. -/
  | wait
  | waitReturns (waitResult : UInt32)
  | processTerminates (process : Nat)
  /-- `Stop`. -/
  | stop
  /-- The thread was joined; the members are destroyed. -/
  | destroy
  | workerDies
  deriving DecidableEq

inductive PoolEvent where
  | started (process : Nat)
  /-- A wait begins, with the entries whose handles it watches. -/
  | waits (watched : List ScopedHandle)
  | returned (waitResult : UInt32)
  | erased (before after : List ScopedHandle)
  | stopped
  | exited
  deriving DecidableEq

namespace PoolState

def change (state : PoolState) (process : Nat) (how : OsProcess → OsProcess) :
    PoolState :=
  { state with started := state.started.modify process how }

def hasTerminated (state : PoolState) (process : Nat) : Bool :=
  state.started[process]?.any (·.terminated)

/-! ## `CreateProcess` -/

/-- A handle that is not open yet.  Neither failure nor the pseudo-handle of the
current process is one. -/
def IsFresh (state : PoolState) (handle : Handle) : Prop :=
  handle ≠ 0 ∧ handle ≠ invalidHandleValue ∧
    ∀ entry ∈ state.processes, entry.handle ≠ handle

instance (state : PoolState) (handle : Handle) :
    Decidable (state.IsFresh handle) :=
  inferInstanceAs (Decidable (_ ∧ _ ∧ _))

/-- The new process is suspended and in no job. -/
def create (state : PoolState) (attempt : Nat) (handle : Handle) : PoolState :=
  { state with
    started := state.started ++ [{}]
    stage := .created attempt ⟨handle, state.started.length⟩ }

def assign
    (state : PoolState) (attempt : Nat) (process : ScopedHandle)
    (succeeds : Bool) : PoolState :=
  { state.change process.process fun os =>
      { os with inJob := os.inJob || succeeds } with
    stage := .assigned attempt process succeeds }

/-- The thread is resumed whether or not the process was assigned. -/
def resume
    (state : PoolState) (attempt : Nat) (process : ScopedHandle)
    (assigned succeeds : Bool) : PoolState :=
  let state := state.change process.process fun os =>
    { os with resumed := os.resumed || succeeds }
  if !assigned || !succeeds then
    { state with stage := .terminating attempt process }
  else
    { state with
      processes := state.processes ++ [process]
      stage := .topUp (attempt + 1) }

def terminate
    (state : PoolState) (attempt : Nat) (process : ScopedHandle)
    (succeeds : Bool) : PoolState :=
  { state.change process.process fun os =>
      { os with terminated := os.terminated || succeeds } with
    stage := .topUp (attempt + 1) }

/-! ## The wait -/

/-- `handles.size()` as the `DWORD` that is passed on. -/
def waitCount (state : PoolState) : UInt32 :=
  UInt32.ofNat (state.processes.length + 1)

/-- Whether a watched handle is signalled; the last is the exit event. -/
def signalled (state : PoolState) (index : Nat) : Bool :=
  match state.processes[index]? with
  | some entry => state.hasTerminated entry.process
  | none => state.exitSet

/-- The results a wait can have: the index of a signalled handle, or failure. -/
def CanReturn (state : PoolState) (waitResult : UInt32) : Prop :=
  waitResult = waitFailed ∨
    waitResult - waitObject0 < state.waitCount ∧
      state.signalled (waitResult - waitObject0).toNat = true

instance (state : PoolState) (waitResult : UInt32) :
    Decidable (state.CanReturn waitResult) :=
  inferInstanceAs (Decidable (_ ∨ _ ∧ _))

/-- The rest of the loop's body.  A failed wait goes round like any other. -/
def afterWait (state : PoolState) (waitResult : UInt32) :
    PoolState × List PoolEvent :=
  let signaledIdx := waitResult - waitObject0
  if signaledIdx.toNat = state.processes.length then
    ({ state with stage := .exited }, [.returned waitResult, .exited])
  else if signaledIdx.toNat < state.processes.length then
    let remaining := state.processes.eraseIdx signaledIdx.toNat
    ({ state with processes := remaining, stage := .head },
      [.returned waitResult, .erased state.processes remaining])
  else ({ state with stage := .head }, [.returned waitResult])

/-- Closing the job terminates the processes in it. -/
def closeJob (state : PoolState) : PoolState :=
  { state with
    started := state.started.map fun os =>
      { os with terminated := os.terminated || os.inJob }
    stage := .closed }

end PoolState

/-- A pool of a given size, in a worker process that may die at any time. -/
def processPool (numProcesses : Nat) :
    EventMachine PoolState PoolLabel PoolEvent := fun state label =>
  match label, state.stage with
  | .loop, .head =>
      some ({ state with stage := .topUp state.processes.length }, [])
  | .createProcess none, .topUp attempt =>
      if attempt < numProcesses then
        some ({ state with stage := .topUp (attempt + 1) }, [])
      else none
  | .createProcess (some handle), .topUp attempt =>
      if attempt < numProcesses ∧ state.IsFresh handle then
        some (state.create attempt handle, [.started state.started.length])
      else none
  | .assign succeeds, .created attempt process =>
      some (state.assign attempt process succeeds, [])
  | .resume succeeds, .assigned attempt process assigned =>
      some (state.resume attempt process assigned succeeds, [])
  | .terminate succeeds, .terminating attempt process =>
      some (state.terminate attempt process succeeds, [])
  | .wait, .topUp attempt =>
      if attempt < numProcesses then none
      else some ({ state with stage := .waiting }, [.waits state.processes])
  | .waitReturns waitResult, .waiting =>
      if state.CanReturn waitResult then some (state.afterWait waitResult)
      else none
  | .processTerminates process, _ =>
      some (state.change process fun os => { os with terminated := true }, [])
  | .stop, _ => some ({ state with exitSet := true }, [.stopped])
  | .destroy, .exited => some (state.closeJob, [])
  | .workerDies, _ => some (state.closeJob, [])
  | _, _ => none

end ProcessPool
end IisAsgiHandler
