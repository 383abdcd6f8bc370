import IisAsgiHandler.Http.Interleaving
import IisAsgiHandler.Library.BoundedCalls

/-!
# The handler calls of a request

A call of `OnExecuteRequestHandler` or `OnAsyncCompletion` runs the steps of a
request until one of them waits for a completion or finishes the request.  What
is left of a call is counted in turns of `HandlerStateMachine` and in steps of
the thread, which are its turns and the returns of calls into IIS.

While the body is read each return uses up some of it.  The cycle of waiting,
writing and flushing is cut where the handler waits for a message: that always
ends the call.
-/

namespace IisAsgiHandler

/-- The thread is in a handler call. -/
def HandlerThread.busy : HandlerThread → Bool
  | .inCall _ | .atSwitch _ => true
  | _ => false

namespace HttpRequestHandler

/-- The steps that the thread of a handler call can take: `Enter` receives a
result that IIS can give, or the loop turns. -/
def threadStep (request : HttpRequest) (handler : HttpRequestHandler) :
    HandlerLabel → Bool
  | .iisReturn ret =>
      match handler.thread, ret with
      | .inCall call, .completed bytes => handler.canReport request bytes call
      | .inCall _, .failed | .inCall _, .pending => true
      | _, _ => false
  | .stateMachine =>
      match handler.thread with
      | .atSwitch _ => true
      | _ => false
  | _ => false

/-- A successful `ReadEntityBody` that completes at once delivers a byte. -/
def readAdvances (handler : HttpRequestHandler) : HandlerLabel → Bool
  | .iisReturn (.completed bytes) =>
      match handler.thread with
      | .inCall (.readEntityBody _ _ _) => decide (0 < bytes)
      | _ => true
  | _ => true

end HttpRequestHandler

namespace HttpSystem

variable {ρ : Type} [DecidableEq ρ]

/-- The handler calls of a request. -/
def handlerCall (requests : Requests ρ) (id : ρ) :
    EventMachine.Call (HttpSystem ρ) (HttpSystemLabel ρ) (HttpSystemEvent ρ) where
  busy system := (system.handlers id).thread.busy
  own system label := (ownLabel id label).any
    ((system.handlers id).threadStep (requests.request id))
  turn _ label := decide (ownLabel id label = some .stateMachine)
  returned
    | .request other (.returned _) => decide (other = id)
    | _ => false

end HttpSystem

namespace Phase

/-- The turns that a handler call still takes at most. -/
def turnsLeft : Phase → Nat
  | .ending _ | .pending _ false => 1
  | .reading _ | .readDone _ | .sendDone _ | .flushing | .flushDone => 2
  | .readAgain _ | .writing _ | .writeDone _ => 3
  | .responseDone _ => 4
  | .idle | .pending _ true | .finished _ | .deleted _ => 0

/-- The steps that the thread of a handler call still takes at most, by the
bytes of the body that remain. -/
def stepsLeft (remaining : Nat) : Phase → Nat
  | .ending _ | .pending _ false => 1
  | .readDone _ | .sendDone _ | .flushDone => 2
  | .flushing => 3
  | .writeDone _ => 4
  | .writing _ => 5
  | .responseDone _ => 6
  | .reading _ => remaining + 3
  | .readAgain _ => remaining + 4
  | .idle | .pending _ true | .finished _ | .deleted _ => 0

theorem turnsLeft_le (phase : Phase) : phase.turnsLeft ≤ 4 := by
  cases phase with
  | pending await returned => cases returned <;> simp [turnsLeft]
  | _ => simp [turnsLeft]

theorem stepsLeft_le (remaining : Nat) (phase : Phase) :
    phase.stepsLeft remaining ≤ remaining + 6 := by
  cases phase with
  | pending await returned => cases returned <;> simp [stepsLeft]
  | _ => simp [stepsLeft]

end Phase

namespace Life

variable {request : HttpRequest}
variable {replyChannel : Bytes}
variable {life next : Life}
variable {label : LifeLabel}
variable {events : List HttpEvent}

/-- The steps of its thread that a handler call still takes at most. -/
def stepsLeft (request : HttpRequest) (life : Life) : Nat :=
  life.phase.stepsLeft (request.entityBody.length - life.delivered)

/-- The thread is busy as long as turns are left. -/
theorem busy_thread (life : Life) :
    (life.thread request).busy = decide (0 < life.phase.turnsLeft) := by
  obtain ⟨phase, serial, delivered, returning, queue⟩ := life
  cases phase with
  | pending await returned => cases returned <;> rfl
  | _ => rfl

end Life

/-- A label is one of the handler's thread, in a call. -/
def HandlerLabel.inCall : HandlerLabel → Bool
  | .iisReturn _ | .stateMachine => true
  | _ => false

/-- Only such labels are steps of the thread. -/
theorem HttpRequestHandler.threadStep_le
    (request : HttpRequest)
    (handler : HttpRequestHandler)
    (own : Option HandlerLabel) :
    (own.any (handler.threadStep request)).toNat ≤
      (own.any HandlerLabel.inCall).toNat := by
  cases own with
  | none => exact Nat.le_refl _
  | some label =>
      cases label with
      | iisReturn | stateMachine => exact Bool.toNat_le _
      | _ => exact Nat.le_refl _

namespace LifeStep

variable {unpack : Bytes → Option AsgiHttpResponseMsg}
variable {request : HttpRequest}
variable {replyChannel : Bytes}
variable {life next : Life}
variable {label : LifeLabel}
variable {events : List HttpEvent}

/-- In a call a turn is one of those that were left. -/
theorem turnsLeft
    (busy : 0 < life.phase.turnsLeft)
    (steps : LifeStep unpack request replyChannel life label events next) :
    (decide (label.own = some .stateMachine)).toNat + next.phase.turnsLeft ≤
      life.phase.turnsLeft := by
  obtain ⟨phase, serial, delivered, returning, queue⟩ := life
  cases steps with
  | enterWait before =>
      rcases before with ⟨body, rfl⟩ | rfl <;> simp [Phase.turnsLeft]
  | enterFlush msg before =>
      rcases before with ⟨rfl, _⟩ | rfl <;> simp [Phase.turnsLeft]
  | callbackReturn | message => simp
  | taskSend body returned | taskPost body returned | pop returned
  | dispatch returned | callbackUnpack returned | callbackThrow returned
  | callbackPost returned => cases returned <;> simp_all [Phase.turnsLeft]
  | _ => simp_all [Phase.turnsLeft]

/-- In a call a step of the thread is one of those that were left, when every
read that completes at once delivers a byte. -/
theorem stepsLeft
    (busy : 0 < life.phase.turnsLeft)
    (advances : ∀ own ∈ label.own,
      (life.toHandler request replyChannel).readAdvances own = true)
    (steps : LifeStep unpack request replyChannel life label events next) :
    (label.own.any HandlerLabel.inCall).toNat + next.stepsLeft request ≤
      life.stepsLeft request := by
  obtain ⟨phase, serial, delivered, returning, queue⟩ := life
  simp only [Life.stepsLeft]
  cases steps with
  | readMore body bytes atPhase inside more =>
      dsimp only at atPhase inside more
      subst atPhase
      have delivers : 0 < bytes := of_decide_eq_true (advances _ rfl)
      simp only [Phase.stepsLeft, LifeLabel.own, Option.any_some,
        HandlerLabel.inCall, Bool.toNat_true]
      omega
  | enterWait before =>
      rcases before with ⟨body, rfl⟩ | rfl <;> simp [HandlerLabel.inCall, Phase.stepsLeft]
  | enterFlush msg before =>
      rcases before with ⟨rfl, _⟩ | rfl <;> simp [HandlerLabel.inCall, Phase.stepsLeft]
  | callbackReturn | message => simp [HandlerLabel.inCall]
  | taskSend body returned | taskPost body returned | pop returned
  | dispatch returned | callbackUnpack returned | callbackThrow returned
  | callbackPost returned =>
      cases returned <;> simp_all [HandlerLabel.inCall, Phase.turnsLeft,
        Phase.stepsLeft]
  | _ =>
      simp_all [HandlerLabel.inCall, Phase.turnsLeft, Phase.stepsLeft] <;> omega

/-- A call is over when it returns. -/
theorem returns
    (busy : 0 < life.phase.turnsLeft)
    (steps : LifeStep unpack request replyChannel life label events next)
    (ended : next.phase.turnsLeft = 0) :
    ∃ status, events = [.returned status] := by
  obtain ⟨phase, serial, delivered, returning, queue⟩ := life
  cases steps with
  | leavePending | leaveFinished => exact ⟨_, rfl⟩
  | callbackReturn | message => exact absurd ended (Nat.ne_of_gt busy)
  | taskSend body returned | taskPost body returned | pop returned
  | dispatch returned | callbackUnpack returned | callbackThrow returned
  | callbackPost returned => cases returned <;> simp_all [Phase.turnsLeft]
  | _ => simp_all [Phase.turnsLeft]

end LifeStep

namespace HttpRequestHandler

variable {request : HttpRequest}
variable {handler : HttpRequestHandler}
variable {label : HandlerLabel}

/-- A busy thread waits for a result, or is at the head of the loop. -/
theorem exists_threadStep
    (busy : handler.thread.busy = true) :
    ∃ label, handler.threadStep request label = true := by
  cases atThread : handler.thread with
  | inCall call => exact ⟨.iisReturn .failed, by simp [threadStep, atThread]⟩
  | atSwitch result => exact ⟨.stateMachine, by simp [threadStep, atThread]⟩
  | _ =>
      rw [atThread] at busy
      contradiction

/-- The loop always turns. -/
theorem stateMachine_isSome
    {result : StepResult}
    (atThread : handler.thread = .atSwitch result) :
    (handler.stateMachine request).isSome = true := by
  unfold stateMachine
  rw [atThread]
  cases result with
  | gotoNext =>
      simp only [handlerStateMachine]
      split
      · rfl
      · split <;> rfl
  | _ => rfl

end HttpRequestHandler

/-- Whatever IIS answers, `Enter` goes on. -/
theorem Life.iisReturn_isSome
    {request : HttpRequest}
    {replyChannel : Bytes}
    {ret : IisReturn}
    (life : Life)
    (own : (life.toHandler request replyChannel).threadStep request
      (.iisReturn ret) = true) :
    ((life.toHandler request replyChannel).iisReturn request ret).isSome =
      true := by
  obtain ⟨phase, serial, delivered, returning, queue⟩ := life
  cases phase with
  | reading body | writing msg | flushing =>
      cases ret with
      | failed | pending => rfl
      | completed bytes =>
          simp_all [HttpRequestHandler.threadStep, HttpRequestHandler.iisReturn,
            toHandler, thread, currentStep, readBodyStep, readCall, writeCall,
            HttpRequestHandler.deliver]
  | pending await returned => cases returned <;> contradiction
  | _ => contradiction

/-- A handler takes every step that its thread may be about to take. -/
theorem Life.threadStep_isSome
    {request : HttpRequest}
    {replyChannel : Bytes}
    {label : HandlerLabel}
    (unpack : Bytes → Option AsgiHttpResponseMsg)
    (life : Life)
    (own : (life.toHandler request replyChannel).threadStep request label =
      true) :
    (HttpRequestHandler.step unpack request replyChannel
      (life.toHandler request replyChannel) label).isSome = true := by
  cases label with
  | iisReturn ret => exact life.iisReturn_isSome own
  | stateMachine =>
      cases atThread : (life.toHandler request replyChannel).thread with
      | atSwitch result => exact HttpRequestHandler.stateMachine_isSome atThread
      | _ => simp [HttpRequestHandler.threadStep, atThread] at own
  | _ => contradiction

namespace HttpSystem

variable {ρ : Type} [DecidableEq ρ]
variable {unpack : Bytes → Option AsgiHttpResponseMsg}
variable {requests : Requests ρ}
variable {reached system next : HttpSystem ρ}
variable {id : ρ}
variable {life : Life}
variable {label : HttpSystemLabel ρ}

omit [DecidableEq ρ] in
theorem ownLabel_of_foreign [DecidableEq ρ]
    (foreign : isOwn id label = false) : ownLabel id label = none := by
  cases label with
  | handler other own => exact if_neg (of_decide_eq_false foreign)
  | _ => rfl

omit [DecidableEq ρ] in
/-- A request is in a handler call as long as turns are left. -/
theorem Seen.busy [DecidableEq ρ]
    (seen : Seen requests system id life) :
    (handlerCall requests id).busy system = decide (0 < life.phase.turnsLeft) := by
  simp only [handlerCall, seen.handler]
  exact life.busy_thread

/-- Every step of the system pays for what it takes from the handler call of a
request. -/
theorem Seen.pays
    {events : List (HttpSystemEvent ρ)}
    (sound : Sound requests system)
    (seen : Seen requests system id life)
    (permitted : (handlerCall requests id).during
      (ownStepsAre (fun handler label => handler.readAdvances label = true) id)
      system label)
    (steps : HttpSystem.step unpack requests system label =
      some (next, events)) :
    ∃ lifeNext, (Sound requests next ∧ Seen requests next id lifeNext) ∧
      (handlerCall requests id).Pays (fun _ _ => false)
        (fun life : Life => life.phase.turnsLeft)
        (Life.stepsLeft (requests.request id)) system label next events life
        lifeNext := by
  obtain ⟨busy, advances⟩ := permitted
  obtain ⟨lifeNext, moved, seenNext⟩ := seen.step sound steps
  refine ⟨lifeNext, ⟨sound.step steps, seenNext⟩, ?_⟩
  rw [seen.busy, decide_eq_true_eq] at busy
  have ended : (handlerCall requests id).busy next = false →
      lifeNext.phase.turnsLeft = 0 := by
    rw [seenNext.busy]
    intro idle
    exact Nat.eq_zero_of_not_pos (of_decide_eq_false idle)
  cases moved with
  | still foreign silent unsent =>
      have none := ownLabel_of_foreign foreign
      exact {
        turn := by simp [handlerCall, none]
        step := by simp [handlerCall, none]
        returns := fun idle => absurd (ended idle) (Nat.ne_of_gt busy) }
  | moved lifeLabel lifeNext owned messages lifeSteps =>
      refine ⟨?_, ?_, ?_⟩
      · simp only [handlerCall, owned]
        exact lifeSteps.turnsLeft busy
      · simp only [handlerCall, owned, Bool.toNat_false, Nat.add_zero]
        have moves := lifeSteps.stepsLeft busy (by
          intro own isOwn
          rw [← seen.handler]
          exact advances own (by rw [owned]; exact isOwn))
        exact Nat.le_trans (Nat.add_le_add_right
          ((system.handlers id).threadStep_le _ lifeLabel.own) _) moves
      · intro idle
        obtain ⟨status, shown⟩ := lifeSteps.returns busy (ended idle)
        have member : .returned status ∈ requestEvents id events := by
          rw [shown]
          exact List.mem_singleton_self _
        obtain ⟨event, inEvents, isShown⟩ := List.mem_filterMap.mp member
        refine ⟨event, inEvents, ?_⟩
        cases event with
        | sent => contradiction
        | request other event =>
            by_cases same : other = id
            · simp only [same, if_true, Option.some.injEq] at isShown
              rw [isShown]
              exact decide_eq_true same
            · simp [same] at isShown

/-- In a handler call the thread is never stuck. -/
theorem exists_own
    (busy : (handlerCall requests id).busy system = true) :
    ∃ label, (handlerCall requests id).own system label = true := by
  obtain ⟨label, own⟩ := HttpRequestHandler.exists_threadStep busy
  refine ⟨.handler id label, ?_⟩
  simp only [handlerCall, ownLabel, if_true, Option.any_some]
  exact own

theorem Seen.accepts
    (seen : Seen requests system id life)
    (own : (handlerCall requests id).own system label = true) :
    (HttpSystem.step unpack requests system label).isSome = true := by
  obtain ⟨handlerLabel, isOwn, isThreads⟩ := Option.any_eq_true _ _ |>.mp own
  cases label with
  | handler other label =>
      simp only [ownLabel] at isOwn
      split at isOwn
      · rename_i same
        subst same
        cases isOwn
        rw [seen.handler] at isThreads
        have moves := Life.threadStep_isSome unpack life isThreads
        rw [← seen.handler] at moves
        obtain ⟨⟨handler, shown⟩, moves⟩ := Option.isSome_iff_exists.mp moves
        simp [HttpSystem.step, moves]
      · contradiction
  | _ => contradiction

/-- A handler call of a request ends after at most four turns of the loop, and
after at most six steps more than there are bytes of the body left to read. -/
theorem handlerCall_yields
    {past labels : List (HttpSystemLabel ρ)}
    {pastTrace trace : List (HttpSystemEvent ρ)}
    (reaches : EventMachine.Run (step unpack requests) EventMachine.always {}
      past pastTrace reached)
    (entered : (handlerCall requests id).busy reached = true)
    (run : EventMachine.Run (step unpack requests)
      ((handlerCall requests id).during (ownStepsAre
        (fun handler label => handler.readAdvances label = true) id))
      reached labels trace system) :
    (handlerCall requests id).Yields (step unpack requests) 4
      ((reached.handlers id).remaining (requests.request id) + 6) reached labels
      trace system := by
  have sound : Sound requests reached := reaches.preserves (Sound requests)
    sound_start fun _ _ _ _ isSound _ steps => isSound.step steps
  obtain ⟨life, seen⟩ := sound.alive id
  have yields := run.yields
    (fun system life => Sound requests system ∧ Seen requests system id life)
    (fun _ _ => false) (fun life : Life => life.phase.turnsLeft)
    (Life.stepsLeft (requests.request id))
    (fun _ _ _ _ _ ⟨isSound, isSeen⟩ permitted steps =>
      isSeen.pays isSound permitted steps)
    (fun _ _ _ busy => exists_own busy)
    (fun _ _ _ ⟨_, isSeen⟩ own => isSeen.accepts own)
    ⟨sound, seen⟩ entered
  refine yields.mono life.phase.turnsLeft_le ?_
  rw [EventMachine.count_never, Nat.add_zero, seen.handler]
  exact life.phase.stepsLeft_le _

end HttpSystem

end IisAsgiHandler
