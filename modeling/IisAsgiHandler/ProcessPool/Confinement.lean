import IisAsgiHandler.ProcessPool.Shutdown

/-!
# The job of a pool

A process is created suspended and assigned to the job before its thread is
resumed.  The thread is resumed also when the assignment fails, so the process
then runs outside of the job until it is terminated, if it ever is.
-/

namespace IisAsgiHandler
namespace ProcessPool

/-- What runs is in the job, and nothing runs once the job is closed. -/
structure Confined (state : PoolState) : Prop where
  inJob : ∀ (process : Nat) (os : OsProcess),
    state.started[process]? = some os → os.resumed = true →
    os.terminated = false → os.inJob = true
  closed : state.stage = .closed → ∀ (process : Nat) (os : OsProcess),
    state.started[process]? = some os → os.resumed = true →
    os.terminated = true

/-- The process that could not be assigned to the job. -/
def PoolStage.unassigned : PoolStage → Option ScopedHandle
  | .assigned _ process false => some process
  | _ => none

/-- Where `ResumeThread` succeeds, the process was assigned to the job, or it
has terminated already. -/
def ResumesInJob (state : PoolState) (label : PoolLabel) : Prop :=
  label = .resume true → ∀ process ∈ state.stage.unassigned,
    state.hasTerminated process.process = true

instance (state : PoolState) (label : PoolLabel) :
    Decidable (ResumesInJob state label) :=
  inferInstanceAs (Decidable (_ = _ → ∀ _ ∈ _, _ = true))

variable {numProcesses : Nat}
variable {state next : PoolState}
variable {label : PoolLabel}
variable {events : List PoolEvent}

/-- The process that is being created is suspended. -/
structure Suspended (state : PoolState) : Prop where
  created : ∀ attempt process, state.stage = .created attempt process →
    ∃ os, state.started[process.process]? = some os ∧ os.inJob = false ∧
      os.resumed = false
  assigned : ∀ attempt process assigned,
    state.stage = .assigned attempt process assigned →
    ∃ os, state.started[process.process]? = some os ∧ os.inJob = assigned ∧
      os.resumed = false

/-! ## Steps -/

/-- A process that runs after a step ran before it, and stayed in the job. -/
def Carries (state next : PoolState) : Prop :=
  ∀ (process : Nat) (os : OsProcess), next.started[process]? = some os →
    os.resumed = true → os.terminated = false →
    ∃ before, state.started[process]? = some before ∧ before.resumed = true ∧
      before.terminated = false ∧ (before.inJob = true → os.inJob = true)

theorem Confined.carry
    (confined : Confined state)
    (carries : Carries state next)
    (stays : next.stage = .closed → state.stage = .closed) :
    Confined next := by
  refine ⟨?_, ?_⟩
  · intro process os found resumed runs
    obtain ⟨before, foundBefore, wasResumed, ran, kept⟩ :=
      carries process os found resumed runs
    exact kept (confined.inJob process before foundBefore wasResumed ran)
  · intro closed process os found resumed
    by_contra runs
    obtain ⟨before, foundBefore, wasResumed, ran, -⟩ :=
      carries process os found resumed (eq_false_of_ne_true runs)
    have terminated :=
      confined.closed (stays closed) process before foundBefore wasResumed
    rw [ran] at terminated
    contradiction

theorem carries_of_started (same : next.started = state.started) :
    Carries state next := by
  intro process os found resumed runs
  rw [same] at found
  exact ⟨os, found, resumed, runs, id⟩

/-- A change that resumes nothing and takes nothing out of the job. -/
theorem carries_change
    (target : Nat)
    (how : OsProcess → OsProcess)
    (started : next.started = (state.change target how).started)
    (resumed : ∀ os, (how os).resumed = os.resumed)
    (terminated : ∀ os, (how os).terminated = false → os.terminated = false)
    (inJob : ∀ os, os.inJob = true → (how os).inJob = true) :
    Carries state next := by
  intro process os found isResumed runs
  rw [started, PoolState.getElem?_change] at found
  obtain ⟨before, foundBefore, rfl⟩ := Option.map_eq_some_iff.mp found
  by_cases same : target = process
  · rw [if_pos same] at isResumed runs ⊢
    exact ⟨before, foundBefore, (resumed before).symm.trans isResumed,
      terminated before runs, inJob before⟩
  · rw [if_neg same] at isResumed runs ⊢
    exact ⟨before, foundBefore, isResumed, runs, id⟩

/-- A new process is suspended. -/
theorem carries_create (attempt : Nat) (handle : Handle) :
    Carries state (state.create attempt handle) := by
  intro process os found resumed runs
  rw [PoolState.create, List.getElem?_append] at found
  split at found
  · exact ⟨os, found, resumed, runs, id⟩
  · have new := List.mem_singleton.mp (List.mem_of_getElem? found)
    rw [new] at resumed
    cases resumed

theorem Confined.waited
    {waitResult : UInt32}
    (confined : Confined state)
    (waited : Waited state waitResult next events) :
    Confined next := by
  cases waited with
  | exits _ => exact confined.carry (carries_of_started rfl) (by simp)
  | erases _ => exact confined.carry (carries_of_started rfl) (by simp)
  | goesRound _ => exact confined.carry (carries_of_started rfl) (by simp)

theorem Confined.closeJob (confined : Confined state) :
    Confined state.closeJob := by
  have ended : ∀ (process : Nat) (os : OsProcess),
      state.closeJob.started[process]? = some os → os.resumed = true →
      os.terminated = true := by
    intro process os found resumed
    rw [PoolState.closeJob, List.getElem?_map] at found
    obtain ⟨before, foundBefore, rfl⟩ := Option.map_eq_some_iff.mp found
    cases ran : before.terminated with
    | true => simp
    | false =>
        have inJob := confined.inJob process before foundBefore resumed ran
        simp [inJob]
  refine ⟨?_, fun _ => ended⟩
  intro process os found resumed runs
  rw [ended process os found resumed] at runs
  contradiction

/-- A process that is resumed outside of the job is not confined, unless it has
terminated. -/
theorem confined_resume_iff
    {attempt : Nat}
    {process : ScopedHandle}
    {assigned : Bool}
    (confined : Confined state)
    (suspended : Suspended state)
    (stage : state.stage = .assigned attempt process assigned) :
    Confined (state.resume attempt process assigned true) ↔
      (assigned = false → state.hasTerminated process.process = true) := by
  obtain ⟨os, found, rfl, -⟩ :=
    suspended.assigned attempt process assigned stage
  have started : (state.resume attempt process os.inJob true).started =
      (state.change process.process fun os =>
        { os with resumed := os.resumed || true }).started := by
    unfold PoolState.resume
    split <;> rfl
  have running : (state.resume attempt process os.inJob true).stage ≠
      .closed := by
    unfold PoolState.resume
    split <;> simp
  have hasTerminated : state.hasTerminated process.process = os.terminated := by
    rw [PoolState.hasTerminated, found]
    rfl
  rw [hasTerminated]
  constructor
  · intro after outside
    have foundAfter : (state.resume attempt process os.inJob true).started[
        process.process]? = some { os with resumed := os.resumed || true } := by
      rw [started, PoolState.getElem?_change, found, if_pos rfl]
      rfl
    by_contra runs
    have inJob := after.inJob _ _ foundAfter (Bool.or_true os.resumed)
      (eq_false_of_ne_true runs)
    rw [outside] at inJob
    contradiction
  · intro safe
    refine ⟨?_, fun closed => absurd closed running⟩
    intro other after foundAfter resumed runs
    rw [started, PoolState.getElem?_change] at foundAfter
    obtain ⟨before, foundBefore, rfl⟩ := Option.map_eq_some_iff.mp foundAfter
    by_cases same : process.process = other
    · rw [if_pos same] at runs ⊢
      rw [← same, found] at foundBefore
      cases foundBefore
      by_contra outside
      have ended := safe (eq_false_of_ne_true outside)
      exact Bool.noConfusion (ended.symm.trans runs)
    · rw [if_neg same] at resumed runs ⊢
      exact confined.inJob other before foundBefore resumed runs

theorem confined_step_iff
    (confined : Confined state)
    (suspended : Suspended state)
    (poolStep : PoolStep numProcesses state label next events) :
    Confined next ↔ ResumesInJob state label := by
  cases poolStep with
  | loop stage =>
      exact iff_of_true (confined.carry (carries_of_started rfl) (by simp))
        (by simp [ResumesInJob])
  | createFails stage missing =>
      exact iff_of_true (confined.carry (carries_of_started rfl) (by simp))
        (by simp [ResumesInJob])
  | create stage missing fresh =>
      exact iff_of_true
        (confined.carry (carries_create _ _) (by simp [PoolState.create]))
        (by simp [ResumesInJob])
  | assign stage =>
      refine iff_of_true (confined.carry ?_ (by simp [PoolState.assign]))
        (by simp [ResumesInJob])
      exact carries_change _ _ rfl (fun _ => rfl) (fun _ => id)
        (by simp +contextual)
  | resume stage =>
      rename_i attempt process assigned succeeds
      cases succeeds with
      | true =>
          rw [confined_resume_iff confined suspended stage, ResumesInJob, stage]
          cases assigned with
          | true => simp [PoolStage.unassigned]
          | false => simp [PoolStage.unassigned]
      | false =>
          refine iff_of_true (confined.carry ?_ ?_) (by simp [ResumesInJob])
          · refine carries_change process.process
              (fun os => { os with resumed := os.resumed || false }) ?_
              (fun os => Bool.or_false os.resumed) (fun _ => id) (fun _ => id)
            simp [PoolState.resume]
          · simp [PoolState.resume]
  | terminate stage =>
      refine iff_of_true (confined.carry ?_ (by simp [PoolState.terminate]))
        (by simp [ResumesInJob])
      exact carries_change _ _ rfl (fun _ => rfl) (by simp +contextual)
        (fun _ => id)
  | wait stage full =>
      exact iff_of_true (confined.carry (carries_of_started rfl) (by simp))
        (by simp [ResumesInJob])
  | waitReturns stage returns =>
      exact iff_of_true (confined.waited (waited_afterWait state _))
        (by simp [ResumesInJob])
  | processTerminates =>
      refine iff_of_true (confined.carry ?_ id) (by simp [ResumesInJob])
      exact carries_change _ _ rfl (fun _ => rfl) (by simp) (fun _ => id)
  | stop =>
      exact iff_of_true (confined.carry (carries_of_started rfl) id) (by simp [ResumesInJob])
  | destroy stage => exact iff_of_true confined.closeJob (by simp [ResumesInJob])
  | workerDies => exact iff_of_true confined.closeJob (by simp [ResumesInJob])

/-- A stage in which no suspended process is being created. -/
theorem Suspended.of_stage
    (created : ∀ attempt process, next.stage ≠ .created attempt process)
    (assigned : ∀ attempt process succeeded,
      next.stage ≠ .assigned attempt process succeeded) :
    Suspended next :=
  ⟨fun attempt process stage => absurd stage (created attempt process),
    fun attempt process succeeded stage =>
      absurd stage (assigned attempt process succeeded)⟩

/-- A process that terminates stays as it was otherwise. -/
theorem Suspended.processTerminates
    (suspended : Suspended state)
    (process : Nat) :
    Suspended (state.change process fun os => { os with terminated := true }) := by
  have stays : ∀ {other : Nat} {os : OsProcess} {inJob : Bool},
      state.started[other]? = some os → os.inJob = inJob → os.resumed = false →
      ∃ after, (state.change process fun os =>
          { os with terminated := true }).started[other]? = some after ∧
        after.inJob = inJob ∧ after.resumed = false := by
    intro other os inJob found isIn resumed
    rw [PoolState.getElem?_change, found, Option.map_some]
    refine ⟨_, rfl, ?_⟩
    split
    · exact ⟨isIn, resumed⟩
    · exact ⟨isIn, resumed⟩
  constructor
  · intro attempt entry stage
    obtain ⟨os, found, outside, resumed⟩ := suspended.created attempt entry stage
    exact stays found outside resumed
  · intro attempt entry succeeded stage
    obtain ⟨os, found, isIn, resumed⟩ :=
      suspended.assigned attempt entry succeeded stage
    exact stays found isIn resumed

theorem Suspended.waited
    {waitResult : UInt32}
    (waited : Waited state waitResult next events) :
    Suspended next := by
  cases waited with
  | exits _ => exact .of_stage (by simp) (by simp)
  | erases _ => exact .of_stage (by simp) (by simp)
  | goesRound _ => exact .of_stage (by simp) (by simp)

theorem Suspended.step
    (suspended : Suspended state)
    (poolStep : PoolStep numProcesses state label next events) :
    Suspended next := by
  cases poolStep with
  | create stage missing fresh =>
      refine ⟨?_, by simp [PoolState.create]⟩
      rintro _ _ ⟨⟩
      exact ⟨{}, by simp [PoolState.create], rfl, rfl⟩
  | assign stage =>
      rename_i attempt process succeeds
      obtain ⟨os, found, outside, resumed⟩ :=
        suspended.created attempt process stage
      refine ⟨by simp [PoolState.assign], ?_⟩
      rintro _ _ _ ⟨⟩
      refine ⟨{ os with inJob := os.inJob || succeeds }, ?_, ?_, resumed⟩
      · rw [PoolState.assign, PoolState.getElem?_change, found, if_pos rfl]
        rfl
      · rw [outside, Bool.false_or]
  | resume stage =>
      unfold PoolState.resume
      split
      · exact .of_stage (by simp) (by simp)
      · exact .of_stage (by simp) (by simp)
  | terminate stage =>
      exact .of_stage (by simp [PoolState.terminate])
        (by simp [PoolState.terminate])
  | waitReturns stage returns => exact .waited (waited_afterWait state _)
  | processTerminates => exact suspended.processTerminates _
  | stop => exact ⟨suspended.created, suspended.assigned⟩
  | destroy stage =>
      exact .of_stage (by simp [PoolState.closeJob])
        (by simp [PoolState.closeJob])
  | workerDies =>
      exact .of_stage (by simp [PoolState.closeJob])
        (by simp [PoolState.closeJob])
  | _ => exact .of_stage (by simp) (by simp)

theorem Suspended.of_run
    {allowed : PoolState → PoolLabel → Prop}
    {labels : List PoolLabel}
    {trace : List PoolEvent}
    (run : EventMachine.Run (processPool numProcesses) allowed {} labels trace
      state) :
    Suspended state :=
  run.preserves Suspended (.of_stage (by simp) (by simp))
    fun _ _ _ _ suspended _ steps =>
      suspended.step (poolStep_of_processPool steps)

/-- In every state of a run what runs is in the job, and nothing runs once the
job is closed, exactly when no process that could not be assigned is resumed. -/
theorem confined_iff
    {labels : List PoolLabel}
    {trace : List PoolEvent}
    (run : EventMachine.Run (processPool numProcesses) EventMachine.always {}
      labels trace state) :
    EventMachine.Throughout (processPool numProcesses) EventMachine.always {}
        (fun _ _ state => Confined state) labels ↔
      EventMachine.EachStep (processPool numProcesses) EventMachine.always {}
        (fun _ state label => ResumesInJob state label) labels := by
  refine run.throughout_iff ⟨by simp, by simp⟩ ?_
  intro labels trace state label next events run confined _ steps
  exact confined_step_iff confined (Suspended.of_run run)
    (poolStep_of_processPool steps)

/-- A process that is neither assigned nor resumed, then one that is both, and
the death of the worker process. -/
def confinedSample : List PoolLabel :=
  [.loop, .createProcess (some 4), .assign false, .resume false,
    .terminate false, .wait, .waitReturns waitFailed, .loop,
    .createProcess (some 8), .assign true, .resume true, .workerDies]

theorem confined_sample :
    ∃ trace state,
      EventMachine.Run (processPool 1) EventMachine.always {} confinedSample
        trace state ∧
      state.started = [{}, { inJob := true, resumed := true, terminated := true }] ∧
      EventMachine.Throughout (processPool 1) EventMachine.always {}
        (fun _ _ state => Confined state) confinedSample := by
  have checked : EventMachine.checks (processPool 1) ResumesInJob {}
      confinedSample
      (fun state _ => state.started =
        [{}, { inJob := true, resumed := true, terminated := true }]) = true := by
    decide +kernel
  obtain ⟨trace, state, run, started⟩ := EventMachine.Run.of_checks checked
  have anyRun : EventMachine.Run (processPool 1) EventMachine.always {}
      confinedSample trace state :=
    run.mono fun _ _ _ => trivial
  exact ⟨trace, state, anyRun, started, (confined_iff anyRun).mpr
    (run.eachStep (fun _ _ _ => trivial) fun _ _ _ allowed => allowed)⟩

/-- A process that could not be assigned is resumed, and runs on when the worker
process dies. -/
theorem unassigned_process_runs :
    ∃ trace state,
      EventMachine.Run (processPool 1) EventMachine.always {}
        [.loop, .createProcess (some 4), .assign false, .resume true,
          .workerDies]
        trace state ∧
      state.stage = .closed ∧
      state.started = [{ inJob := false, resumed := true }] ∧
      ¬ Confined state := by
  have checked : EventMachine.checks (processPool 1) EventMachine.always {}
      [.loop, .createProcess (some 4), .assign false, .resume true, .workerDies]
      (fun state _ => state.stage = .closed ∧
        state.started = [{ inJob := false, resumed := true }]) = true := by
    decide +kernel
  obtain ⟨trace, state, run, closed, started⟩ :=
    EventMachine.Run.of_checks checked
  refine ⟨trace, state, run, closed, started, ?_⟩
  intro confined
  have found : state.started[0]? = some { inJob := false, resumed := true } := by
    rw [started]
    rfl
  have inJob := confined.inJob 0 _ found rfl rfl
  cases inJob

end ProcessPool
end IisAsgiHandler
