import IisAsgiHandler.Http.Protocol
import IisAsgiHandler.WebSocket.Serialisation

/-!
# Replies that cannot be unpacked

The pump forgets a callback when it creates a task for it, and nobody looks at
what becomes of the task.  The callback of a request, or of a writer, first
unpacks the bytes it is given.  When that throws, the registration is gone and
nothing takes its place: no completion will come to the request, and the writer
has nothing left to do.  In all other cases something goes on.
-/

namespace IisAsgiHandler

/-! ## Requests -/

/-- A callback begins. -/
def HandlerLabel.beginsCallback : HandlerLabel → Bool
  | .callbackUnpack _ => true
  | _ => false

/-- A callback calls `PostCompletion`. -/
def HandlerLabel.posts : HandlerLabel → Bool
  | .callbackPost _ => true
  | _ => false

/-- What a callback that begins is given can be unpacked. -/
def HttpRequestHandler.replyUnpacks
    (unpack : Bytes → Option AsgiHttpResponseMsg)
    (handler : HttpRequestHandler) : HandlerLabel → Prop
  | .callbackUnpack index =>
      ∀ callback ∈ handler.callbacks[index]?, (unpack callback.data).isSome
  | _ => True

instance decidableReplyUnpacks
    (unpack : Bytes → Option AsgiHttpResponseMsg)
    (handler : HttpRequestHandler)
    (label : HandlerLabel) :
    Decidable (handler.replyUnpacks unpack label) :=
  match label with
  | .callbackUnpack index => inferInstanceAs
      (Decidable (∀ callback ∈ handler.callbacks[index]?,
        (unpack callback.data).isSome = true))
  | .onExecuteRequestHandler | .iisReturn _ | .stateMachine | .complete _ _ _
  | .completePosted _ _ _ | .taskSend _ | .taskPost _ | .callbackPost _
  | .callbackReturn _ | .cleanupStoredContext =>
      inferInstanceAs (Decidable True)

namespace Life

/-- Number of callbacks that have unpacked a message and not posted yet. -/
def unpackedCallbacks (life : Life) : Nat :=
  match life.phase with
  | .pending (.unpacked _ _) _ => 1
  | _ => 0

/-- Number of callbacks that have thrown. -/
def thrownCallbacks (life : Life) : Nat :=
  match life.phase with
  | .pending .threw _ => 1
  | _ => 0

/-- What a step does to the callback of a request. -/
inductive CallbackMoved
    (unpack : Bytes → Option AsgiHttpResponseMsg)
    (life : Life)
    (label : LifeLabel)
    (next : Life) : Prop
  | other
      (begins : label.own.any HandlerLabel.beginsCallback = false)
      (posts : label.own.any HandlerLabel.posts = false)
      (unpacked : next.unpackedCallbacks = life.unpackedCallbacks)
      (thrown : next.thrownCallbacks = life.thrownCallbacks) :
      CallbackMoved unpack life label next
  | began (data : Bytes) (index : Nat)
      (begins : label = .handler (.callbackUnpack index))
      (waits : ∃ returned, life.phase = .pending (.callback data) returned)
      (unpacked : next.unpackedCallbacks = (unpack data).isSome.toNat)
      (thrown : next.thrownCallbacks = (unpack data).isNone.toNat) :
      CallbackMoved unpack life label next
  | posted (index : Nat)
      (posts : label = .handler (.callbackPost index))
      (waits : life.unpackedCallbacks = 1)
      (unpacked : next.unpackedCallbacks = 0)
      (thrown : next.thrownCallbacks = life.thrownCallbacks) :
      CallbackMoved unpack life label next

end Life

/-- Every step of a life either leaves the callback alone, or begins it, or
posts its completion. -/
theorem LifeStep.callbackMoved
    {unpack : Bytes → Option AsgiHttpResponseMsg}
    {request : HttpRequest}
    {replyChannel : Bytes}
    {life next : Life}
    {label : LifeLabel}
    {events : List HttpEvent}
    (steps : LifeStep unpack request replyChannel life label events next) :
    life.CallbackMoved unpack label next := by
  obtain ⟨phase, serial, delivered, returning, queue⟩ := life
  cases steps with
  | callbackUnpack returned data msg index atPhase unpacks =>
      simp only at atPhase
      subst atPhase
      refine .began data index rfl ⟨returned, rfl⟩ ?_ ?_
      · simp [Life.unpackedCallbacks, unpacks]
      · simp [Life.thrownCallbacks, unpacks]
  | callbackThrow returned data index atPhase throws =>
      simp only at atPhase
      subst atPhase
      refine .began data index rfl ⟨returned, rfl⟩ ?_ ?_
      · simp [Life.unpackedCallbacks, throws]
      · simp [Life.thrownCallbacks, throws]
  | callbackPost returned data msg index atPhase =>
      simp only at atPhase
      subst atPhase
      exact .posted index rfl rfl rfl rfl
  | leavePending await atPhase =>
      simp only at atPhase
      subst atPhase
      exact .other rfl rfl (by cases await <;> rfl) (by cases await <;> rfl)
  | enterWait before =>
      rcases before with ⟨body, atPhase⟩ | atPhase
      · simp only at atPhase
        subst atPhase
        exact .other rfl rfl rfl rfl
      · simp only at atPhase
        subst atPhase
        exact .other rfl rfl rfl rfl
  | enterFlush msg before =>
      rcases before with ⟨atPhase, _⟩ | atPhase
      · simp only at atPhase
        subst atPhase
        exact .other rfl rfl rfl rfl
      · simp only at atPhase
        subst atPhase
        exact .other rfl rfl rfl rfl
  | callbackReturn | message => exact .other rfl rfl rfl rfl
  | _ =>
      refine .other rfl rfl ?_ ?_
      · simp_all [Life.unpackedCallbacks]
      · simp_all [Life.thrownCallbacks]

namespace HttpSystem

variable {ρ : Type} [DecidableEq ρ]
variable {unpack : Bytes → Option AsgiHttpResponseMsg}
variable {requests : Requests ρ}
variable {id : ρ}
variable {labels : List (HttpSystemLabel ρ)}
variable {trace : List (HttpSystemEvent ρ)}
variable {system next : HttpSystem ρ}
variable {label : HttpSystemLabel ρ}
variable {events : List (HttpSystemEvent ρ)}
variable {life : Life}

/-- Number of steps of a kind that a request takes. -/
def ownCount
    (kind : HandlerLabel → Bool)
    (id : ρ)
    (labels : List (HttpSystemLabel ρ)) : Nat :=
  labels.countP fun label => (ownLabel id label).any kind

/-- Every callback that has begun has posted, or is about to, and a request that
waits has one thing that will complete it. -/
structure Answers
    (id : ρ)
    (labels : List (HttpSystemLabel ρ))
    (system : HttpSystem ρ) : Prop where
  posts : ownCount HandlerLabel.beginsCallback id labels =
    ownCount HandlerLabel.posts id labels +
      (system.handlers id).callbacks.countP ResponseCallback.unpacked
  waits : (system.handlers id).thread = .waiting →
    ∃ source, sources system id = [source]

/-- The callbacks of a request are accounted for by the completions that it has
posted, those it is about to post, and those that have thrown. -/
def CallbackAccounts
    (id : ρ)
    (labels : List (HttpSystemLabel ρ))
    (life : Life) : Prop :=
  ownCount HandlerLabel.beginsCallback id labels =
    ownCount HandlerLabel.posts id labels + life.unpackedCallbacks +
      life.thrownCallbacks

theorem ownCount_snoc
    (kind : HandlerLabel → Bool)
    (id : ρ)
    (labels : List (HttpSystemLabel ρ))
    (label : HttpSystemLabel ρ) :
    ownCount kind id (labels ++ [label]) =
      ownCount kind id labels + ((ownLabel id label).any kind).toNat := by
  rw [ownCount, List.countP_append, List.countP_singleton, ownCount]
  cases (ownLabel id label).any kind <;> rfl

/-- A step that is not the request's own is of no kind. -/
theorem ownLabel_eq_none
    (foreign : isOwn id label = false) :
    ownLabel id label = none := by
  cases label with
  | handler other label =>
      have different : other ≠ id := by simpa [isOwn] using foreign
      rw [ownLabel, if_neg different]
  | _ => rfl

theorem eq_handler_of_ownLabel
    {own : HandlerLabel}
    (owned : ownLabel id label = some own) :
    label = .handler id own := by
  cases label with
  | handler other label =>
      by_cases same : other = id
      · rw [ownLabel, if_pos same] at owned
        rw [same, Option.some.inj owned]
      · rw [ownLabel, if_neg same] at owned
        contradiction
  | _ => contradiction

/-- Every step keeps the accounts. -/
theorem CallbackAccounts.moved
    {lifeNext : Life}
    (accounts : CallbackAccounts id labels life)
    (moved : Moved unpack requests id life label events lifeNext) :
    CallbackAccounts id (labels ++ [label]) lifeNext := by
  unfold CallbackAccounts at accounts ⊢
  rw [ownCount_snoc, ownCount_snoc]
  cases moved with
  | still foreign _ _ =>
      rw [ownLabel_eq_none foreign]
      exact accounts
  | moved lifeLabel lifeNext owned _ steps =>
      rw [owned]
      cases steps.callbackMoved with
      | other begins posts unpacked thrown =>
          rw [begins, posts, unpacked, thrown]
          exact accounts
      | began data index begins waits unpacked thrown =>
          obtain ⟨returned, atPhase⟩ := waits
          have none : life.unpackedCallbacks = 0 ∧ life.thrownCallbacks = 0 := by
            simp [Life.unpackedCallbacks, Life.thrownCallbacks, atPhase]
          rw [begins, unpacked, thrown, accounts, none.1, none.2]
          cases unpack data <;> rfl
      | posted index posts waits unpacked thrown =>
          rw [posts, unpacked, thrown, accounts, waits]
          simp [HandlerLabel.beginsCallback, HandlerLabel.posts]

/-- In every run the callbacks are accounted for. -/
theorem callbackAccounts
    (id : ρ)
    (run : EventMachine.Run (step unpack requests) EventMachine.always {} labels
      trace system) :
    ∃ life, (Sound requests system ∧ Seen requests system id life) ∧
      CallbackAccounts id labels life := by
  refine run.simulates
    (fun system life => Sound requests system ∧ Seen requests system id life)
    (fun labels _ life => CallbackAccounts id labels life)
    {} ⟨sound_start, seen_start id⟩ rfl ?_
  intro labels trace system label next events life ⟨sound, seen⟩ accounts _
    steps
  obtain ⟨lifeNext, moved, seenNext⟩ := seen.step sound steps
  exact ⟨lifeNext, ⟨sound.step steps, seenNext⟩, accounts.moved moved⟩

/-- A request goes on exactly when none of its callbacks has thrown. -/
theorem answers_iff
    (polling : Polling requests system.pump)
    (seen : Seen requests system id life)
    (accounts : CallbackAccounts id labels life) :
    Answers id labels system ↔ life.thrownCallbacks = 0 := by
  have unpacked : (system.handlers id).callbacks.countP
      ResponseCallback.unpacked = life.unpackedCallbacks := by
    rw [seen.handler]
    simp only [Life.toHandler, Life.callbacks, Life.unpackedCallbacks]
    split <;> simp_all
  rw [CallbackAccounts] at accounts
  constructor
  · intro answers
    have posts := answers.posts
    omega
  · intro none
    refine ⟨by omega, ?_⟩
    rw [seen.handler]
    intro waiting
    obtain ⟨await, pending⟩ := Life.thread_waiting waiting
    have live : await ≠ .threw := by
      rintro rfl
      simp [Life.thrownCallbacks, pending] at none
    obtain ⟨source, isSource⟩ := Option.isSome_iff_exists.mp
      (Life.source_of_pending (requests.request id) pending live)
    exact ⟨source, by rw [seen.sources polling, isSource]; rfl⟩

/-- A callback that begins has the message that it was created with. -/
theorem Seen.callback_found
    {index : Nat}
    {data : Bytes}
    (seen : Seen requests system id life)
    (waits : ∃ returned, life.phase = .pending (.callback data) returned)
    (steps : HttpSystem.step unpack requests system
      (.handler id (.callbackUnpack index)) = some (next, events)) :
    ∃ callback, (system.handlers id).callbacks[index]? = some callback ∧
      callback.data = data := by
  obtain ⟨returned, atPhase⟩ := waits
  simp only [HttpSystem.step] at steps
  split at steps
  · contradiction
  · rename_i handler shown handlerSteps
    rw [HttpRequestHandler.step, HttpRequestHandler.callbackUnpack]
      at handlerSteps
    split at handlerSteps
    · rename_i callback found
      refine ⟨callback, found, ?_⟩
      rw [seen.handler] at found
      obtain ⟨_, _, _, ⟨same, _⟩ | ⟨_, same, _⟩⟩ :=
        Life.callbacks_getElem? found
      · rw [atPhase] at same
        cases same
        rfl
      · rw [atPhase] at same
        cases same
    · contradiction

/-- A callback throws exactly when what it is given cannot be unpacked. -/
theorem Moved.thrown_iff
    {lifeNext : Life}
    (moved : Moved unpack requests id life label events lifeNext)
    (seen : Seen requests system id life)
    (steps : step unpack requests system label = some (next, events))
    (none : life.thrownCallbacks = 0) :
    lifeNext.thrownCallbacks = 0 ↔
      ownStepsAre (HttpRequestHandler.replyUnpacks unpack) id system label := by
  have silent : ∀ own ∈ ownLabel id label,
      own.beginsCallback = false →
      (system.handlers id).replyUnpacks unpack own := by
    intro own _ begins
    cases own with
    | callbackUnpack index => contradiction
    | _ => exact trivial
  cases moved with
  | still foreign _ _ =>
      rw [ownStepsAre, ownLabel_eq_none foreign]
      exact iff_of_true none (by simp)
  | moved lifeLabel lifeNext owned _ lifeSteps =>
      cases lifeSteps.callbackMoved with
      | other begins _ _ thrown =>
          refine iff_of_true (thrown.trans none) ?_
          intro own member
          apply silent own member
          rw [← owned] at begins
          rw [Option.mem_def.mp member] at begins
          exact begins
      | posted index posts _ _ thrown =>
          refine iff_of_true (thrown.trans none) ?_
          intro own member
          apply silent own member
          rw [owned, posts] at member
          rw [← Option.some.inj member]
          rfl
      | began data index begins waits _ thrown =>
          rw [begins] at owned
          obtain rfl := eq_handler_of_ownLabel owned
          obtain ⟨callback, found, sameData⟩ := seen.callback_found waits steps
          have asked : ownStepsAre (HttpRequestHandler.replyUnpacks unpack) id
              system (.handler id (.callbackUnpack index)) ↔
              (unpack data).isSome := by
            rw [ownStepsAre, owned]
            simp [HttpRequestHandler.replyUnpacks, found, sameData]
          rw [thrown, asked]
          cases unpack data <;> simp

/-- A request answers throughout a run exactly when all that its callbacks are
given can be unpacked. -/
theorem answers_throughout_iff
    (run : EventMachine.Run (step unpack requests) EventMachine.always {} labels
      trace system)
    (id : ρ) :
    EventMachine.Throughout (step unpack requests) EventMachine.always {}
        (fun labels _ system => Answers id labels system) labels ↔
      EventMachine.EachStep (step unpack requests) EventMachine.always {}
        (fun _ => ownStepsAre (HttpRequestHandler.replyUnpacks unpack) id)
        labels := by
  refine run.throughout_iff ⟨rfl, by intro waiting; contradiction⟩ ?_
  intro labels trace system label next events earlier answers _ steps
  obtain ⟨life, ⟨sound, seen⟩, accounts⟩ := callbackAccounts id earlier
  obtain ⟨lifeNext, moved, seenNext⟩ := seen.step sound steps
  have none := (answers_iff sound.polling seen accounts).mp answers
  rw [answers_iff (sound.step steps).polling seenNext (accounts.moved moved)]
  exact moved.thrown_iff seen steps none

end HttpSystem

/-! ## Writers -/

/-- What carries on the work of a writer. -/
inductive WriterContinuation
  /-- A callback in the pump's map. -/
  | registered
  /-- A callback that has not begun. -/
  | callback (data : Bytes)
  /-- A call to `WriteFragment` that is not over. -/
  | writing (bytes : Bytes)
  deriving DecidableEq

namespace WsWriter

variable {unpack : Bytes → Option AsgiWsSendMsg}
variable {random channel : Bytes}
variable {labels : List (SubscriberLabel WriterLabel)}
variable {trace events : List (SubscriberEvent WriterEvent)}
variable {system next : SubscriberSystem WsWriter}
variable {label : SubscriberLabel WriterLabel}

/-- What a callback that begins is given can be unpacked. -/
def replyUnpacks
    (unpack : Bytes → Option AsgiWsSendMsg)
    (writer : WsWriter) : SubscriberLabel WriterLabel → Prop
  | .own (.channelsCallback index) =>
      ∀ callback ∈ writer.callbacks[index]?, (unpack callback.data).isSome
  | _ => True

instance decidableReplyUnpacks
    (unpack : Bytes → Option AsgiWsSendMsg)
    (writer : WsWriter)
    (label : SubscriberLabel WriterLabel) :
    Decidable (writer.replyUnpacks unpack label) :=
  match label with
  | .own (.channelsCallback index) => inferInstanceAs
      (Decidable (∀ callback ∈ writer.callbacks[index]?,
        (unpack callback.data).isSome = true))
  | .own (.writeReturns _ _) | .own (.writeFails _) | .own (.writePends _)
  | .own (.leave _) | .own (.writeCallback _ _ _) | .pump _ | .send _ _
  | .addChannel _ | .removeChannel _ | .stopPump =>
      inferInstanceAs (Decidable True)

/-- Everything that carries on the work of a writer. -/
def continuations
    (channel : Bytes)
    (system : SubscriberSystem WsWriter) : List WriterContinuation :=
  (system.pump.registered channel).toList.map (fun _ => .registered) ++
    (system.state.callbacks.filter (!·.thrown)).map (.callback ·.data) ++
    system.state.calls.offers.map .writing

/-- The channel is registered, or a callback has not begun, or a write has been
started and is not over. -/
def GoesOn (channel : Bytes) (system : SubscriberSystem WsWriter) : Prop :=
  ∃ continuation, continuations channel system = [continuation]

/-- No callback has thrown. -/
def Unthrown (writer : WsWriter) : Prop :=
  ∀ callback ∈ writer.callbacks, callback.thrown = false

/-- A writer goes on exactly when no callback has thrown. -/
theorem TokenLaw.goesOn_iff
    (law : TokenLaw unpack channel trace system.state (system.view channel)) :
    GoesOn channel system ↔ Unthrown system.state := by
  have token := law.token
  have length : (continuations channel system).length =
      (system.view channel).registered.toNat +
        (system.state.callbacks.filter (!·.thrown)).length +
        system.state.asgiSendMsg.toList.length := by
    simp only [continuations, law.serial.single, List.length_append,
      List.length_map, SubscriberSystem.view]
    cases system.pump.registered channel <;>
      cases system.state.asgiSendMsg <;> rfl
  rw [GoesOn, ← List.length_eq_one_iff, length]
  constructor
  · intro single
    have all : (system.state.callbacks.filter (!·.thrown)).length =
        system.state.callbacks.length := by omega
    intro callback member
    simpa using List.length_filter_eq_length_iff.mp all callback member
  · intro unthrown
    have all : (system.state.callbacks.filter (!·.thrown)).length =
        system.state.callbacks.length := by
      apply List.length_filter_eq_length_iff.mpr
      intro callback member
      simpa using unthrown callback member
    omega

/-- A callback throws exactly when what it is given cannot be unpacked. -/
theorem unthrown_channelsCallback
    {writer next : WsWriter}
    {index : Nat}
    {shown : List WriterEvent}
    (serial : Serial writer)
    (steps : step unpack writer (.channelsCallback index) = some (next, shown)) :
    Unthrown next ↔ writer.replyUnpacks unpack (.own (.channelsCallback index))
      := by
  simp only [step] at steps
  split at steps
  · rename_i data found
    obtain ⟨only, rfl, _⟩ := serial.of_callback found
    have asked : writer.replyUnpacks unpack (.own (.channelsCallback 0)) ↔
        (unpack data).isSome := by
      simp [replyUnpacks, found]
    rw [asked]
    split at steps
    · rename_i malformed
      cases steps
      simp [Unthrown, only, malformed]
    · rename_i msg unpacked
      cases steps
      simp [Unthrown, only, unpacked]
  · contradiction

/-- Every step keeps the callbacks from throwing, if what they are given can be
unpacked, and only then. -/
theorem unthrown_iff
    (serial : Serial system.state)
    (unthrown : Unthrown system.state)
    (steps : (subscriber unpack).systemStep channel system label =
      some (next, events)) :
    Unthrown next.state ↔ system.state.replyUnpacks unpack label := by
  cases label with
  | own label =>
      obtain ⟨shown, ownSteps, _⟩ := Subscriber.systemStep_own steps
      by_cases begins : ∃ index, label = .channelsCallback index
      · obtain ⟨index, rfl⟩ := begins
        exact unthrown_channelsCallback serial ownSteps
      · have other : ∀ index, label ≠ .channelsCallback index :=
          fun index equal => begins ⟨index, equal⟩
        have same := step_callbacks other ownSteps
        refine iff_of_true ?_ ?_
        · rw [Unthrown, same]
          exact unthrown
        · cases label with
          | channelsCallback index => exact absurd rfl (other index)
          | _ => exact trivial
  | pump label =>
      refine iff_of_true ?_ trivial
      simp only [Subscriber.systemStep] at steps
      split at steps
      · contradiction
      · cases steps
        simp only [Subscriber.create]
        split
        · intro callback member
          rcases List.mem_append.mp member with earlier | last
          · exact unthrown callback earlier
          · rw [List.mem_singleton.mp last]
        · exact unthrown
  | send named data =>
      cases steps
      exact iff_of_true unthrown trivial
  | addChannel named | removeChannel named =>
      simp only [Subscriber.systemStep] at steps
      split at steps
      · contradiction
      · cases steps
        exact iff_of_true unthrown trivial
  | stopPump =>
      cases steps
      exact iff_of_true unthrown trivial

/-- A writer goes on throughout a run exactly when all that its callbacks are
given can be unpacked. -/
theorem goesOn_throughout_iff
    (run : WriterRun unpack random (fun _ _ => True) labels trace system) :
    EventMachine.Throughout
        ((subscriber unpack).systemStep (sendChannel random)) (fun _ _ => True)
        (started unpack (sendChannel random))
        (fun _ _ system => GoesOn (sendChannel random) system) labels ↔
      EventMachine.EachStep
        ((subscriber unpack).systemStep (sendChannel random)) (fun _ _ => True)
        (started unpack (sendChannel random))
        (fun _ system label => system.state.replyUnpacks unpack label)
        labels := by
  have token : ∀ {labels trace system},
      WriterRun unpack random (fun _ _ => True) labels trace system →
      TokenLaw unpack (sendChannel random) trace system.state
        (system.view (sendChannel random)) :=
    fun run => (run.law (fun _ _ => True) trivial
      fun _ _ _ _ _ _ _ _ _ _ _ => trivial).1
  refine run.throughout_iff ?_ ?_
  · refine (token EventMachine.Run.refl).goesOn_iff.mpr ?_
    intro callback member
    contradiction
  · intro labels trace system label next events earlier goesOn _ steps
    have unthrown := (token earlier).goesOn_iff.mp goesOn
    rw [(token (earlier.step trivial steps)).goesOn_iff]
    exact unthrown_iff (token earlier).serial unthrown steps

end WsWriter

/-! ## Both -/

/-- No reply leaves a request or a writer stuck, throughout a run, exactly when
all that the callbacks are given can be unpacked. -/
theorem replies_go_on_iff
    {ρ : Type}
    [DecidableEq ρ]
    {unpackResponse : Bytes → Option AsgiHttpResponseMsg}
    {requests : Requests ρ}
    {labels : List (HttpSystemLabel ρ)}
    {trace : List (HttpSystemEvent ρ)}
    {system : HttpSystem ρ}
    {unpackSend : Bytes → Option AsgiWsSendMsg}
    {random : Bytes}
    {sendLabels : List (SubscriberLabel WriterLabel)}
    {sendTrace : List (SubscriberEvent WriterEvent)}
    {sendSystem : SubscriberSystem WsWriter}
    (run : EventMachine.Run (HttpSystem.step unpackResponse requests)
      EventMachine.always {} labels trace system)
    (id : ρ)
    (sendRun : WsWriter.WriterRun unpackSend random (fun _ _ => True) sendLabels
      sendTrace sendSystem) :
    (EventMachine.Throughout (HttpSystem.step unpackResponse requests)
        EventMachine.always {}
        (fun labels _ system => HttpSystem.Answers id labels system) labels ↔
      EventMachine.EachStep (HttpSystem.step unpackResponse requests)
        EventMachine.always {}
        (fun _ => HttpSystem.ownStepsAre
          (HttpRequestHandler.replyUnpacks unpackResponse) id) labels) ∧
    (EventMachine.Throughout
        ((WsWriter.subscriber unpackSend).systemStep (sendChannel random))
        (fun _ _ => True) (WsWriter.started unpackSend (sendChannel random))
        (fun _ _ system => WsWriter.GoesOn (sendChannel random) system)
        sendLabels ↔
      EventMachine.EachStep
        ((WsWriter.subscriber unpackSend).systemStep (sendChannel random))
        (fun _ _ => True) (WsWriter.started unpackSend (sendChannel random))
        (fun _ system label => system.state.replyUnpacks unpackSend label)
        sendLabels) :=
  ⟨HttpSystem.answers_throughout_iff run id,
    WsWriter.goesOn_throughout_iff sendRun⟩

theorem replies_go_on_iff_sample :
    let requests := sampleRequests []
    let unpackResponse := unpackSamples [] (ascii "ok")
    let unpackSend := WsWriter.unpackSends [ascii "hi", ascii "you"]
    EventMachine.Throughout (HttpSystem.step unpackResponse requests)
        EventMachine.always {}
        (fun labels _ system => HttpSystem.Answers true labels system)
        (requestLabels true ++
          responseLabels requests true (packSample (ascii "ok") false)) ∧
      EventMachine.Throughout
        ((WsWriter.subscriber unpackSend).systemStep (sendChannel [0x41]))
        (fun _ _ => True) (WsWriter.started unpackSend (sendChannel [0x41]))
        (fun _ _ system => WsWriter.GoesOn (sendChannel [0x41]) system)
        WsWriter.sampleSends := by
  intro requests unpackResponse unpackSend
  have answered : EventMachine.checks (HttpSystem.step unpackResponse requests)
      (HttpSystem.ownStepsAre (HttpRequestHandler.replyUnpacks unpackResponse)
        true) {}
      (requestLabels true ++
        responseLabels requests true (packSample (ascii "ok") false))
      (fun _ _ => True) = true := by
    decide +kernel
  have written : EventMachine.checks
      ((WsWriter.subscriber unpackSend).systemStep (sendChannel [0x41]))
      (fun system label => system.state.replyUnpacks unpackSend label)
      (WsWriter.started unpackSend (sendChannel [0x41])) WsWriter.sampleSends
      (fun _ _ => True) = true := by
    decide +kernel
  obtain ⟨_, _, run, _⟩ := EventMachine.Run.of_checks answered
  obtain ⟨_, _, sendRun, _⟩ := EventMachine.Run.of_checks written
  obtain ⟨answers, goesOn⟩ := replies_go_on_iff
    (run.mono fun _ _ _ => trivial) true (sendRun.mono fun _ _ _ => trivial)
  constructor
  · apply answers.mpr
    exact run.eachStep (fun _ _ _ => trivial) fun _ _ _ meets => meets
  · apply goesOn.mpr
    exact sendRun.eachStep (fun _ _ _ => trivial) fun _ _ _ meets => meets

/-- A byte that begins no msgpack object. -/
def malformedReply : Bytes := [0xC1]

/-- The byte is sent to a writer, whose callback begins. -/
def malformedSend : List (SubscriberLabel WriterLabel) :=
  [.send (sendChannel [0x41]) malformedReply, .pump .snapshot,
    .pump (.receiveMany (some (sendChannel [0x41]))), .pump .dispatch,
    .own (.channelsCallback 0)]

/-- A malformed reply leaves a request waiting for nothing, and a writer with
nothing to do. -/
theorem malformed_replies_stick :
    (∃ trace system,
      EventMachine.Run (HttpSystem.step (unpackSamples [] []) (sampleRequests []))
        EventMachine.always {}
        (requestLabels true ++
          (responseLabels (sampleRequests []) true malformedReply).take 5)
        trace system ∧
      (system.handlers true).thread = .waiting ∧
      HttpSystem.sources system true = []) ∧
    ∃ trace system,
      WsWriter.WriterRun (WsWriter.unpackSends []) [0x41] (fun _ _ => True) malformedSend
        trace system ∧
      WsWriter.continuations (sendChannel [0x41]) system = [] := by
  constructor
  · have checked : EventMachine.checks
        (HttpSystem.step (unpackSamples [] []) (sampleRequests []))
        EventMachine.always {}
        (requestLabels true ++
          (responseLabels (sampleRequests []) true malformedReply).take 5)
        (fun system _ => (system.handlers true).thread = .waiting ∧
          HttpSystem.sources system true = []) = true := by
      decide +kernel
    exact EventMachine.Run.of_checks checked
  · have checked : EventMachine.checks
        ((WsWriter.subscriber (WsWriter.unpackSends [])).systemStep
          (sendChannel [0x41]))
        (fun _ _ => True)
        (WsWriter.started (WsWriter.unpackSends []) (sendChannel [0x41]))
        malformedSend
        (fun system _ =>
          WsWriter.continuations (sendChannel [0x41]) system = []) = true := by
      decide +kernel
    exact EventMachine.Run.of_checks checked

end IisAsgiHandler
