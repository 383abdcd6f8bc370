import IisAsgiHandler.ProcessPool.GlobalModule
import IisAsgiHandler.ProcessPool.Bookkeeping
import Mathlib.Logic.Function.Basic

/-!
# The module with its pools

The notifications of the server and the threads of all pools, in any order.  A
notification that an application has stopped destroys the pools one after the
other, and waits for the thread of each.  Every pool runs as it would alone, so
what holds of one pool holds of each.
-/

namespace IisAsgiHandler
namespace ProcessPool

open GlobalModule
  (Pool Module AppHostElement AppHostSection buildPool getProperty loadElements
    loadConfiguration onGlobalApplicationStart onGlobalApplicationStop)

/-! ## The machine -/

/-- Where the thread of the notifications is; they come one at a time. -/
inductive NotificationStage where
  | idle
  /-- In `m_pools.clear()`, with the pools that are still to be destroyed. -/
  | clearing (rest : List Pool)
  /-- In a destructor, which has called `Stop` and joins the thread. -/
  | joining (pool : Pool) (rest : List Pool)
  deriving DecidableEq

/-- The module with the threads of the pools, by the numbers of the pools. -/
structure RunningModule where
  module : Module := {}
  stage : NotificationStage := .idle
  threads : Nat → PoolState := fun _ => {}

inductive ModuleLabel where
  /-- `OnGlobalApplicationStart`, from its call to its return. -/
  | applicationStart (processPools : Option AppHostSection)
  /-- `OnGlobalApplicationStop` is called. -/
  | applicationStop
  /-- The destructor of the next pool calls `Stop`. -/
  | stop
  /-- The thread of that pool is joined, and the pool is gone. -/
  | join
  /-- `m_pools.clear()` returns. -/
  | cleared
  /-- A step of a pool's thread, or of its processes. -/
  | thread (number : Nat) (label : PoolLabel)
  deriving DecidableEq

inductive ModuleEvent where
  | applicationStarted
  | applicationStopped
  | pool (number : Nat) (event : PoolEvent)
  deriving DecidableEq

/-- The labels that are not left to the destructor. -/
def PoolLabel.ofThread : PoolLabel → Bool
  | .stop | .destroy | .workerDies => false
  | _ => true

/-- What is asked of a pool, and where the thread of the notifications is
then. -/
structure PoolCall where
  pool : Pool
  label : PoolLabel
  stage : NotificationStage

namespace RunningModule

def call (running : RunningModule) : ModuleLabel → Option PoolCall
  | .stop =>
      match running.stage with
      | .clearing (pool :: rest) => some ⟨pool, .stop, .joining pool rest⟩
      | _ => none
  | .join =>
      match running.stage with
      | .joining pool rest => some ⟨pool, .destroy, .clearing rest⟩
      | _ => none
  | .thread number label =>
      match running.module.mPools.find? (·.number = number) with
      | some pool =>
          if label.ofThread then some ⟨pool, label, running.stage⟩ else none
      | none => none
  | _ => none

/-- A pool does what it is asked. -/
def enact (running : RunningModule) (call : PoolCall) :
    Option (RunningModule × List ModuleEvent) :=
  match processPool call.pool.numProcesses (running.threads call.pool.number)
      call.label with
  | none => none
  | some (next, events) =>
      some ({ running with
        stage := call.stage
        threads := Function.update running.threads call.pool.number next },
        events.map (.pool call.pool.number))

/-- What a label does.  An exception that leaves a notification has no
successor. -/
def step : EventMachine RunningModule ModuleLabel ModuleEvent
  | running, .applicationStart processPools =>
      match running.stage, onGlobalApplicationStart running.module processPools with
      | .idle, some module =>
          some ({ running with module := module }, [.applicationStarted])
      | _, _ => none
  | running, .applicationStop =>
      match running.stage with
      | .idle =>
          some ({ running with stage := .clearing running.module.mPools }, [])
      | _ => none
  | running, .cleared =>
      match running.stage with
      | .clearing [] =>
          some ({ running with
            module := onGlobalApplicationStop running.module
            stage := .idle }, [.applicationStopped])
      | _ => none
  | running, label =>
      match running.call label with
      | none => none
      | some call => running.enact call

end RunningModule

/-- A condition on the steps of every pool. -/
def PoolsMeet
    (condition : PoolState → PoolLabel → Prop)
    (running : RunningModule) (label : ModuleLabel) : Prop :=
  ∀ call ∈ running.call label,
    condition (running.threads call.pool.number) call.label

instance
    (condition : PoolState → PoolLabel → Prop)
    [∀ state label, Decidable (condition state label)]
    (running : RunningModule) (label : ModuleLabel) :
    Decidable (PoolsMeet condition running label) :=
  inferInstanceAs (Decidable (∀ call ∈ running.call label, _))

/-- What the thread of one pool has shown. -/
def poolEvents (number : Nat) (trace : List ModuleEvent) : List PoolEvent :=
  trace.filterMap fun
    | .pool other event => if other = number then some event else none
    | _ => none

/-! ## Steps -/

variable {running next : RunningModule}
variable {label : ModuleLabel}
variable {trace events : List ModuleEvent}

/-- The cases of a call. -/
inductive PoolCalled (running : RunningModule) : PoolCall → Prop
  | stop {pool : Pool} {rest : List Pool}
      (stage : running.stage = .clearing (pool :: rest)) :
      PoolCalled running ⟨pool, .stop, .joining pool rest⟩
  | join {pool : Pool} {rest : List Pool}
      (stage : running.stage = .joining pool rest) :
      PoolCalled running ⟨pool, .destroy, .clearing rest⟩
  | thread {pool : Pool} {own : PoolLabel}
      (held : pool ∈ running.module.mPools)
      (ofThread : own.ofThread = true) :
      PoolCalled running ⟨pool, own, running.stage⟩

theorem poolCalled_of_call
    {call : PoolCall}
    (calls : running.call label = some call) :
    PoolCalled running call := by
  cases label with
  | stop =>
      rw [RunningModule.call] at calls
      split at calls
      · cases calls
        exact .stop ‹_›
      · contradiction
  | join =>
      rw [RunningModule.call] at calls
      split at calls
      · cases calls
        exact .join ‹_›
      · contradiction
  | thread number own =>
      rw [RunningModule.call] at calls
      split at calls
      · rename_i pool found
        split at calls
        · cases calls
          exact .thread (List.mem_of_find?_eq_some found) ‹_›
        · contradiction
      · contradiction
  | _ => contradiction

/-- The steps of the module. -/
inductive ModuleStep (running : RunningModule) :
    ModuleLabel → RunningModule → List ModuleEvent → Prop
  | applicationStart {processPools : Option AppHostSection} {module : Module}
      (stage : running.stage = .idle)
      (loads : onGlobalApplicationStart running.module processPools =
        some module) :
      ModuleStep running (.applicationStart processPools)
        { running with module := module } [.applicationStarted]
  | applicationStop (stage : running.stage = .idle) :
      ModuleStep running .applicationStop
        { running with stage := .clearing running.module.mPools } []
  | cleared (stage : running.stage = .clearing []) :
      ModuleStep running .cleared
        { running with
          module := onGlobalApplicationStop running.module, stage := .idle }
        [.applicationStopped]
  | pool {label : ModuleLabel} {call : PoolCall} {after : PoolState}
      {shown : List PoolEvent}
      (calls : running.call label = some call)
      (steps : processPool call.pool.numProcesses
        (running.threads call.pool.number) call.label = some (after, shown)) :
      ModuleStep running label
        { running with
          stage := call.stage
          threads := Function.update running.threads call.pool.number after }
        (shown.map (.pool call.pool.number))

theorem moduleStep_of_step
    (steps : RunningModule.step running label = some (next, events)) :
    ModuleStep running label next events := by
  unfold RunningModule.step at steps
  split at steps
  · split at steps
    · cases steps
      exact .applicationStart ‹_› ‹_›
    · contradiction
  · split at steps
    · cases steps
      exact .applicationStop ‹_›
    · contradiction
  · split at steps
    · cases steps
      exact .cleared ‹_›
    · contradiction
  · split at steps
    · contradiction
    · unfold RunningModule.enact at steps
      split at steps
      · contradiction
      · cases steps
        exact .pool ‹_› ‹_›

/-! ## The pools that are built -/

/-- Building pools leaves those that were there, and numbers the new ones. -/
structure Built (module next : Module) (pools : List Pool) : Prop where
  held : next.mPools = module.mPools ++ pools
  built : next.built = module.built + pools.length
  numbers : pools.map Pool.number = List.range' module.built pools.length

theorem number_of_buildPool
    {number : Nat}
    {item : Option AppHostElement}
    {pool : Pool}
    (builds : buildPool number item = .ok pool) :
    pool.number = number := by
  cases item with
  | none => contradiction
  | some element =>
      cases foundExecutable : getProperty element (wide "executable") with
      | error error => simp [buildPool, foundExecutable, bind, Except.bind] at builds
      | ok executable =>
          cases foundArguments : getProperty element (wide "arguments") with
          | error error =>
              simp [buildPool, foundExecutable, foundArguments, bind, Except.bind]
                at builds
          | ok arguments =>
              simp only [buildPool, foundExecutable, foundArguments, bind, Except.bind]
                at builds
              split at builds
              · contradiction
              · split at builds
                · contradiction
                · cases builds
                  rfl

/-- Whether or not an element fails to load, those before it are built. -/
theorem built_loadElements
    (items : List (Option AppHostElement))
    (module : Module) :
    ∃ pools, Built module (loadElements module items).1 pools := by
  induction items generalizing module with
  | nil => exact ⟨[], by simp [loadElements], by simp [loadElements], rfl⟩
  | cons item items ih =>
      unfold loadElements
      split
      · exact ⟨[], by simp, by simp, rfl⟩
      · rename_i pool builds
        obtain ⟨pools, held, built, numbers⟩ := ih
          { mPools := module.mPools ++ [pool], built := module.built + 1 }
        refine ⟨pool :: pools, ?_, ?_, ?_⟩
        · rw [held, List.append_assoc, List.singleton_append]
        · simp only [built, List.length_cons]
          omega
        · rw [List.map_cons, numbers, number_of_buildPool builds,
            List.length_cons, List.range'_succ]

theorem built_of_start
    {module after : Module}
    {processPools : Option AppHostSection}
    (loads : onGlobalApplicationStart module processPools = some after) :
    ∃ pools, Built module after pools := by
  have unchanged : ∃ pools, Built module module pools :=
    ⟨[], by simp, by simp, rfl⟩
  have loaded : ∃ pools, Built module
      (loadConfiguration module processPools).1 pools := by
    unfold loadConfiguration
    split
    · exact unchanged
    · split
      · exact unchanged
      · split
        · exact unchanged
        · exact built_loadElements _ module
  unfold onGlobalApplicationStart at loads
  split at loads
  · contradiction
  · rename_i result equal
    cases loads
    rw [equal] at loaded
    exact loaded

/-! ## The pools that are held -/

/-- The destructors that have returned were those of the first pools. -/
def NotificationStage.Clears (pools : List Pool) (gone : Pool → Prop) :
    NotificationStage → Prop
  | .idle => True
  | .clearing rest => ∃ done, pools = done ++ rest ∧ ∀ pool ∈ done, gone pool
  | .joining pool rest =>
      ∃ done, pools = done ++ pool :: rest ∧ ∀ other ∈ done, gone other

/-- The pools have different numbers, and one that is no longer held is
closed. -/
structure Housed (running : RunningModule) : Prop where
  distinct : (running.module.mPools.map Pool.number).Nodup
  known : ∀ pool ∈ running.module.mPools, pool.number < running.module.built
  gone : ∀ number < running.module.built,
    (∀ pool ∈ running.module.mPools, pool.number ≠ number) →
    (running.threads number).stage = .closed
  clears : running.stage.Clears running.module.mPools
    fun pool => (running.threads pool.number).stage = .closed

/-- A pool that is closed stays so. -/
theorem closed_step
    {numProcesses : Nat}
    {state after : PoolState}
    {own : PoolLabel}
    {shown : List PoolEvent}
    (steps : processPool numProcesses state own = some (after, shown))
    (closed : state.stage = .closed) :
    after.stage = .closed := by
  cases poolStep_of_processPool steps with
  | processTerminates | stop => exact closed
  | workerDies => rfl
  | loop stage | createFails stage _ | create stage _ _ | assign stage
  | resume stage | terminate stage | wait stage _ | waitReturns stage _
  | destroy stage =>
      rw [closed] at stage
      contradiction

namespace Housed

/-- Only pools that are held are called. -/
theorem held
    {call : PoolCall}
    (housed : Housed running)
    (called : PoolCalled running call) :
    call.pool ∈ running.module.mPools := by
  have clears := housed.clears
  cases called with
  | stop stage =>
      rw [stage] at clears
      obtain ⟨done, held, -⟩ := clears
      simp [held]
  | join stage =>
      rw [stage] at clears
      obtain ⟨done, held, -⟩ := clears
      simp [held]
  | thread held ofThread => exact held

theorem applicationStart
    {module : Module}
    {pools : List Pool}
    (housed : Housed running)
    (idle : running.stage = .idle)
    (built : Built running.module module pools) :
    Housed { running with module := module } := by
  have fresh : ∀ pool ∈ pools, running.module.built ≤ pool.number ∧
      pool.number < running.module.built + pools.length := by
    intro pool member
    have isNumber : pool.number ∈ pools.map Pool.number :=
      List.mem_map_of_mem member
    rw [built.numbers, List.mem_range'_1] at isNumber
    exact isNumber
  refine ⟨?_, ?_, ?_, ?_⟩
  · rw [built.held, List.map_append, List.nodup_append]
    refine ⟨housed.distinct, ?_, ?_⟩
    · rw [built.numbers]
      exact List.nodup_range'
    · intro old isOld new isNew
      obtain ⟨pool, held, rfl⟩ := List.mem_map.mp isOld
      obtain ⟨other, added, rfl⟩ := List.mem_map.mp isNew
      have less := housed.known pool held
      have more := (fresh other added).1
      omega
  · intro pool member
    rw [built.built]
    rw [built.held, List.mem_append] at member
    rcases member with old | new
    · exact Nat.lt_add_right _ (housed.known pool old)
    · exact (fresh pool new).2
  · intro number less unheld
    rw [built.built] at less
    by_cases old : number < running.module.built
    · apply housed.gone number old
      intro pool member
      exact unheld pool (built.held ▸ List.mem_append_left _ member)
    · have isNew : number ∈ pools.map Pool.number := by
        rw [built.numbers, List.mem_range'_1]
        omega
      obtain ⟨pool, added, isNumber⟩ := List.mem_map.mp isNew
      exact absurd isNumber
        (unheld pool (built.held ▸ List.mem_append_right _ added))
  · rw [idle]
    trivial

/-- When all destructors have returned, every pool is closed. -/
theorem closed_of_cleared
    (housed : Housed running)
    (stage : running.stage = .clearing [])
    {number : Nat}
    (less : number < running.module.built) :
    (running.threads number).stage = .closed := by
  have clears := housed.clears
  rw [stage] at clears
  obtain ⟨done, held, gone⟩ := clears
  rw [List.append_nil] at held
  by_cases isHeld : ∃ pool ∈ running.module.mPools, pool.number = number
  · obtain ⟨pool, member, rfl⟩ := isHeld
    exact gone pool (held ▸ member)
  · apply housed.gone number less
    intro pool member isNumber
    exact isHeld ⟨pool, member, isNumber⟩

theorem cleared
    (housed : Housed running)
    (stage : running.stage = .clearing []) :
    Housed { running with
      module := onGlobalApplicationStop running.module, stage := .idle } where
  distinct := List.nodup_nil
  known := by simp [onGlobalApplicationStop]
  gone _ less _ := housed.closed_of_cleared stage less
  clears := trivial

theorem called
    {call : PoolCall}
    {after : PoolState}
    {shown : List PoolEvent}
    (housed : Housed running)
    (called : PoolCalled running call)
    (steps : processPool call.pool.numProcesses
      (running.threads call.pool.number) call.label = some (after, shown)) :
    Housed { running with
      stage := call.stage
      threads := Function.update running.threads call.pool.number after } := by
  have stays : ∀ number, (running.threads number).stage = .closed →
      (Function.update running.threads call.pool.number after number).stage =
        .closed := by
    intro number closed
    by_cases same : number = call.pool.number
    · rw [same, Function.update_self]
      exact closed_step steps (same ▸ closed)
    · rw [Function.update_of_ne same]
      exact closed
  have clears := housed.clears
  refine ⟨housed.distinct, housed.known, ?_, ?_⟩
  · intro number less unheld
    exact stays number (housed.gone number less unheld)
  · cases called with
    | stop stage =>
        rw [stage] at clears
        obtain ⟨done, held, gone⟩ := clears
        exact ⟨done, held, fun other member => stays _ (gone other member)⟩
    | @join pool rest stage =>
        rw [stage] at clears
        obtain ⟨done, held, gone⟩ := clears
        refine ⟨done ++ [pool], by simp [held], ?_⟩
        intro other member
        rcases List.mem_append.mp member with earlier | last
        · exact stays _ (gone other earlier)
        · cases List.mem_singleton.mp last
          have destroyed : after.stage = .closed := by
            cases poolStep_of_processPool steps with
            | destroy exited => rfl
          show (Function.update running.threads pool.number after
            pool.number).stage = .closed
          rw [Function.update_self]
          exact destroyed
    | thread held ofThread =>
        cases atStage : running.stage with
        | idle => trivial
        | clearing rest =>
            rw [atStage] at clears
            obtain ⟨done, held, gone⟩ := clears
            exact ⟨done, held, fun other member => stays _ (gone other member)⟩
        | joining pool rest =>
            rw [atStage] at clears
            obtain ⟨done, held, gone⟩ := clears
            exact ⟨done, held, fun other member => stays _ (gone other member)⟩

theorem step
    (housed : Housed running)
    (moduleStep : ModuleStep running label next events) :
    Housed next := by
  cases moduleStep with
  | applicationStart stage loads =>
      obtain ⟨pools, built⟩ := built_of_start loads
      exact housed.applicationStart stage built
  | applicationStop stage =>
      exact ⟨housed.distinct, housed.known, housed.gone, [], rfl, by simp⟩
  | cleared stage => exact housed.cleared stage
  | pool calls steps => exact housed.called (poolCalled_of_call calls) steps

end Housed

/-! ## The threads -/

theorem poolEvents_append
    (number : Nat)
    (trace events : List ModuleEvent) :
    poolEvents number (trace ++ events) =
      poolEvents number trace ++ poolEvents number events := by
  unfold poolEvents
  rw [List.filterMap_append]

theorem poolEvents_self
    (number : Nat)
    (shown : List PoolEvent) :
    poolEvents number (shown.map (.pool number)) = shown := by
  unfold poolEvents
  rw [List.filterMap_map]
  simp

theorem poolEvents_ne
    {number other : Nat}
    (different : other ≠ number)
    (shown : List PoolEvent) :
    poolEvents number (shown.map (.pool other)) = [] := by
  unfold poolEvents
  rw [List.filterMap_map]
  simp [different]

/-- A condition on the steps of a pool, and the worker process lives. -/
def Lives (condition : PoolState → PoolLabel → Prop)
    (state : PoolState) (own : PoolLabel) : Prop :=
  condition state own ∧ own ≠ .workerDies

/-- Every pool has run as it would alone, with the size that it was given. -/
structure Apart
    (condition : PoolState → PoolLabel → Prop)
    (trace : List ModuleEvent) (running : RunningModule) : Prop where
  housed : Housed running
  unbuilt : ∀ number, running.module.built ≤ number →
    running.threads number = {} ∧ poolEvents number trace = []
  runs : ∀ number, ∃ size labels,
    EventMachine.Run (processPool size) (Lives condition) {} labels
        (poolEvents number trace) (running.threads number) ∧
      ∀ pool ∈ running.module.mPools, pool.number = number →
        pool.numProcesses = size

namespace Apart

variable {condition : PoolState → PoolLabel → Prop}

theorem initial : Apart condition [] {} where
  housed := ⟨List.nodup_nil, by simp, by simp, trivial⟩
  unbuilt _ _ := ⟨rfl, rfl⟩
  runs _ := ⟨0, [], EventMachine.Run.refl, by simp⟩

/-- The notifications move no thread. -/
theorem quiet
    {module : Module}
    {stage : NotificationStage}
    {event : List ModuleEvent}
    (apart : Apart condition trace running)
    (housed : Housed { running with module := module, stage := stage })
    (silent : ∀ number, poolEvents number event = [])
    (grows : running.module.built ≤ module.built)
    (held : ∀ pool ∈ module.mPools, pool ∈ running.module.mPools ∨
      running.module.built ≤ pool.number) :
    Apart condition (trace ++ event)
      { running with module := module, stage := stage } where
  housed := housed
  unbuilt number unbuilt := by
    rw [poolEvents_append, silent, List.append_nil]
    exact apart.unbuilt number (grows.trans unbuilt)
  runs number := by
    rw [poolEvents_append, silent, List.append_nil]
    by_cases old : number < running.module.built
    · obtain ⟨size, labels, run, sizes⟩ := apart.runs number
      refine ⟨size, labels, run, ?_⟩
      intro pool member isNumber
      rcases held pool member with isOld | isNew
      · exact sizes pool isOld isNumber
      · omega
    · -- A pool with a new number has not run yet.
      obtain ⟨start, silentTrace⟩ := apart.unbuilt number (Nat.le_of_not_lt old)
      rw [start, silentTrace]
      by_cases new : ∃ pool ∈ module.mPools, pool.number = number
      · obtain ⟨pool, member, rfl⟩ := new
        refine ⟨pool.numProcesses, [], EventMachine.Run.refl, ?_⟩
        intro other isHeld same
        rw [List.inj_on_of_nodup_map housed.distinct isHeld member same]
      · refine ⟨0, [], EventMachine.Run.refl, ?_⟩
        intro pool member isNumber
        exact absurd ⟨pool, member, isNumber⟩ new

/-- One pool takes a step, and the others do not see it. -/
theorem called
    {call : PoolCall}
    {after : PoolState}
    {shown : List PoolEvent}
    (apart : Apart condition trace running)
    (called : PoolCalled running call)
    (meets : condition (running.threads call.pool.number) call.label)
    (steps : processPool call.pool.numProcesses
      (running.threads call.pool.number) call.label = some (after, shown)) :
    Apart condition (trace ++ shown.map (.pool call.pool.number))
      { running with
        stage := call.stage
        threads := Function.update running.threads call.pool.number after } where
  housed := apart.housed.called called steps
  unbuilt number unbuilt := by
    have known := apart.housed.known _ (apart.housed.held called)
    have different : call.pool.number ≠ number :=
      Nat.ne_of_lt (Nat.lt_of_lt_of_le known unbuilt)
    rw [poolEvents_append, poolEvents_ne different, List.append_nil]
    show Function.update running.threads call.pool.number after number = _ ∧ _
    rw [Function.update_of_ne different.symm]
    exact apart.unbuilt number unbuilt
  runs number := by
    obtain ⟨size, labels, run, sizes⟩ := apart.runs number
    rw [poolEvents_append]
    show ∃ size labels, EventMachine.Run (processPool size) (Lives condition) {}
      labels _ (Function.update running.threads call.pool.number after number) ∧ _
    by_cases same : call.pool.number = number
    · subst same
      have isSize := sizes call.pool (apart.housed.held called) rfl
      have lives : call.label ≠ .workerDies := by
        cases called with
        | thread held ofThread =>
            rintro rfl
            contradiction
        | _ => simp
      rw [poolEvents_self, Function.update_self]
      exact ⟨size, _, run.step ⟨meets, lives⟩ (isSize ▸ steps), sizes⟩
    · rw [poolEvents_ne same, List.append_nil,
        Function.update_of_ne (Ne.symm same)]
      exact ⟨size, labels, run, sizes⟩

theorem step
    (apart : Apart condition trace running)
    (meets : PoolsMeet condition running label)
    (moduleStep : ModuleStep running label next events) :
    Apart condition (trace ++ events) next := by
  have housed := apart.housed.step moduleStep
  cases moduleStep with
  | applicationStart stage loads =>
      obtain ⟨pools, held, built, numbers⟩ := built_of_start loads
      refine apart.quiet housed (fun _ => rfl) (by omega) ?_
      intro pool member
      rw [held, List.mem_append] at member
      rcases member with old | new
      · exact .inl old
      · have isNumber : pool.number ∈ pools.map Pool.number :=
          List.mem_map_of_mem new
        rw [numbers, List.mem_range'_1] at isNumber
        exact .inr isNumber.1
  | applicationStop stage =>
      exact apart.quiet housed (fun _ => rfl) (Nat.le_refl _)
        fun pool member => .inl member
  | cleared stage =>
      exact apart.quiet housed (fun _ => rfl) (Nat.le_refl _) (by
        simp [onGlobalApplicationStop])
  | pool calls steps =>
      exact apart.called (poolCalled_of_call calls) (meets _ calls) steps

/-- In every run of the module, every pool runs as it would alone. -/
theorem of_run
    {labels : List ModuleLabel}
    (run : EventMachine.Run RunningModule.step (PoolsMeet condition) {} labels
      trace running) :
    Apart condition trace running :=
  run.preserves_trace (Apart condition) initial
    fun _ _ _ _ _ apart meets steps =>
      apart.step meets (moduleStep_of_step steps)

end Apart

end ProcessPool
end IisAsgiHandler
