import IisAsgiHandler.Http.Simulation
import IisAsgiHandler.Http.System

/-!
# One request among many

For each request the system is seen to move along the life of that request:
the steps of other requests leave it alone, and the pump takes part in it by
popping a message and dispatching the callback.  A law that every step of a
life keeps therefore holds of each request in every run of the system.
-/

namespace IisAsgiHandler

/-! ## What a handler does to the pump -/

/-- A step of a handler leaves the channel layer alone, and it leaves the pump
alone unless it registers its own channel. -/
theorem LifeStep.registration
    {unpack : Bytes → Option AsgiHttpResponseMsg}
    {request : HttpRequest}
    {replyChannel : Bytes}
    {life next : Life}
    {label : HandlerLabel}
    {shown : List HttpEvent}
    (steps : LifeStep unpack request replyChannel life (.handler label)
      shown next) :
    next.queue = life.queue ∧ next.held = life.held ∧
      ((next.registered = life.registered ∧
          ∀ channel serial, .addChannel channel serial ∉ shown) ∨
        (next.registered = some next.serial ∧
          shown = [.addChannel replyChannel next.serial])) := by
  obtain ⟨phase, serial, delivered, returning, queue⟩ := life
  cases steps with
  | enterWait before =>
      rcases before with ⟨body, rfl⟩ | rfl
      · exact ⟨rfl, rfl, .inr ⟨rfl, rfl⟩⟩
      · exact ⟨rfl, rfl, .inr ⟨rfl, rfl⟩⟩
  | enterFlush msg before =>
      rcases before with ⟨rfl, _⟩ | rfl
      · exact ⟨rfl, rfl, .inl ⟨rfl, by simp⟩⟩
      · exact ⟨rfl, rfl, .inl ⟨rfl, by simp⟩⟩
  | callbackReturn index inside => exact ⟨rfl, rfl, .inl ⟨rfl, by simp⟩⟩
  | leavePending await atPhase =>
      subst atPhase
      exact ⟨rfl, by cases await <;> rfl,
        .inl ⟨by cases await <;> rfl, by simp⟩⟩
  | _ => simp_all [Life.held, Life.registered, applyResponse]

namespace HttpSystem

variable {ρ : Type} [DecidableEq ρ]
variable (unpack : Bytes → Option AsgiHttpResponseMsg)
variable (requests : Requests ρ)

/-! ## The system seen from one request -/

/-- The message of a channel that the pump thread holds. -/
def holds (thread : PumpThread) (channel : Bytes) : Option Bytes :=
  match thread with
  | .received other data => if other = channel then some data else none
  | _ => none

/-- The system looks to a request like an abstract state of its life. -/
structure Seen (system : HttpSystem ρ) (id : ρ) (life : Life) : Prop where
  handler : system.handlers id =
    life.toHandler (requests.request id) (requests.channel id)
  coherent : life.Coherent (requests.request id)
  registered : system.pump.registered (requests.channel id) =
    life.registered.map (CapturedStep.mk id)
  held : holds system.pump.thread (requests.channel id) = life.held
  queue : system.queues (requests.channel id) = life.queue

/-- Whatever the pump thread polls or holds is registered, by the request that
the channel belongs to. -/
structure Polling (pump : ResponsePump (CapturedStep ρ)) : Prop where
  polled : ∀ channelNames, pump.thread = .receiving channelNames →
    ∀ channel ∈ channelNames, (pump.registered channel).isSome
  received : ∀ channel data, pump.thread = .received channel data →
    (pump.registered channel).isSome
  owner : ∀ channel callback, pump.registered channel = some callback →
    channel = requests.channel callback.request

/-- The pump polls for requests, and every request is in some state of its
life. -/
structure Sound (system : HttpSystem ρ) : Prop where
  polling : Polling requests system.pump
  alive : ∀ id, ∃ life, Seen requests system id life

/-- The label of a handler's step, if it is the request's own. -/
def ownLabel (id : ρ) : HttpSystemLabel ρ → Option HandlerLabel
  | .handler other label => if other = id then some label else none
  | _ => none

/-- The steps that a request takes itself are good. -/
def ownStepsAre
    (good : HttpRequestHandler → HandlerLabel → Prop)
    (id : ρ)
    (system : HttpSystem ρ)
    (label : HttpSystemLabel ρ) : Prop :=
  ∀ own ∈ ownLabel id label, good (system.handlers id) own

instance
    (good : HttpRequestHandler → HandlerLabel → Prop)
    [∀ handler label, Decidable (good handler label)]
    (id : ρ)
    (system : HttpSystem ρ)
    (label : HttpSystemLabel ρ) :
    Decidable (ownStepsAre good id system label) :=
  inferInstanceAs
    (Decidable (∀ own ∈ ownLabel id label, good (system.handlers id) own))

/-- What a step of the system is to one request: nothing, or a step of its
life. -/
inductive Moved
    (id : ρ)
    (life : Life)
    (label : HttpSystemLabel ρ)
    (events : List (HttpSystemEvent ρ)) : Life → Prop
  | still :
      isOwn id label = false →
      requestEvents id events = [] →
      sentTo (requests.channel id) events = [] →
      Moved id life label events life
  | moved (lifeLabel : LifeLabel) (lifeNext : Life) :
      ownLabel id label = lifeLabel.own →
      sentTo (requests.channel id) events = lifeLabel.messages →
      LifeStep unpack (requests.request id) (requests.channel id) life lifeLabel
        (requestEvents id events) lifeNext →
      Moved id life label events lifeNext

variable {unpack requests}

omit [DecidableEq ρ] in
theorem foldl_register_of_notMem
    {id : ρ}
    {events : List HttpEvent}
    (pump : ResponsePump (CapturedStep ρ))
    (silent : ∀ channel serial, .addChannel channel serial ∉ events) :
    events.foldl (register id) pump = pump := by
  induction events with
  | nil => rfl
  | cons event events inductionHypothesis =>
      have unchanged : register id pump event = pump := by
        cases event with
        | addChannel channel serial =>
            exact absurd List.mem_cons_self (silent channel serial)
        | _ => rfl
      rw [List.foldl_cons, unchanged]
      exact inductionHypothesis fun channel serial member =>
        silent channel serial (List.mem_cons_of_mem event member)

omit [DecidableEq ρ] in
/-- The pump after a step of a handler. -/
theorem foldl_register
    {id : ρ}
    {life next : Life}
    {label : HandlerLabel}
    {events : List HttpEvent}
    (pump : ResponsePump (CapturedStep ρ))
    (steps : LifeStep unpack (requests.request id) (requests.channel id) life
      (.handler label) events next) :
    (events.foldl (register id) pump = pump ∧
        next.registered = life.registered) ∨
      (events.foldl (register id) pump =
          pump.addChannel (requests.channel id) ⟨id, next.serial⟩ ∧
        next.registered = some next.serial) := by
  obtain ⟨_, _, ⟨same, silent⟩ | ⟨captured, rfl⟩⟩ := steps.registration
  · exact .inl ⟨foldl_register_of_notMem pump silent, same⟩
  · exact .inr ⟨rfl, captured⟩

theorem requestEvents_self
    (id : ρ)
    (events : List HttpEvent) :
    requestEvents id (events.map (.request id)) = events := by
  simp [requestEvents]

theorem requestEvents_ne
    {id other : ρ}
    (events : List HttpEvent)
    (different : other ≠ id) :
    requestEvents id (events.map (.request other)) = [] := by
  simp [requestEvents, different]

omit [DecidableEq ρ] in
theorem sentTo_request
    (id : ρ)
    (channel : Bytes)
    (events : List HttpEvent) :
    sentTo channel (events.map (.request id)) = [] := by
  simp [sentTo]

/-! ## Handlers -/

/-- The request whose handler takes a step. -/
theorem Seen.handler_self
    {system : HttpSystem ρ}
    {id : ρ}
    {life : Life}
    {label : HandlerLabel}
    {handler : HttpRequestHandler}
    {events : List HttpEvent}
    (seen : Seen requests system id life)
    (steps : HttpRequestHandler.step unpack (requests.request id)
      (requests.channel id) (system.handlers id) label =
        some (handler, events)) :
    ∃ next,
      LifeStep unpack (requests.request id) (requests.channel id) life
        (.handler label) events next ∧
      Seen requests { system with
        handlers := Function.update system.handlers id handler
        pump := events.foldl (register id) system.pump } id next := by
  rw [seen.handler] at steps
  obtain ⟨next, rfl, coherent, lifeSteps⟩ :=
    Matched.of_step seen.coherent steps
  obtain ⟨queue, held, _⟩ := lifeSteps.registration
  refine ⟨next, lifeSteps, ?_⟩
  rcases foldl_register system.pump lifeSteps with
    ⟨pump, same⟩ | ⟨pump, captured⟩
  · exact {
      handler := by simp
      coherent := coherent
      registered := by rw [same, pump, seen.registered]
      held := by rw [held, pump, seen.held]
      queue := by rw [queue, seen.queue] }
  · exact {
      handler := by simp
      coherent := coherent
      registered := by simp [pump, captured]
      held := by rw [held, pump, ← seen.held]; rfl
      queue := by rw [queue, seen.queue] }

/-- A request sees nothing of a step of another handler. -/
theorem Seen.handler_other
    {system : HttpSystem ρ}
    {id other : ρ}
    {life otherLife otherNext : Life}
    {label : HandlerLabel}
    {handler : HttpRequestHandler}
    {events : List HttpEvent}
    (seen : Seen requests system id life)
    (different : other ≠ id)
    (steps : LifeStep unpack (requests.request other) (requests.channel other)
      otherLife (.handler label) events otherNext) :
    Seen requests { system with
      handlers := Function.update system.handlers other handler
      pump := events.foldl (register other) system.pump } id life := by
  have elsewhere : requests.channel id ≠ requests.channel other :=
    fun equal => different (requests.channel_injective equal).symm
  have handlers : Function.update system.handlers other handler id =
      system.handlers id := by
    rw [Function.update_of_ne different.symm]
  rcases foldl_register system.pump steps with ⟨pump, _⟩ | ⟨pump, _⟩
  · rw [pump]
    exact { seen with handler := handlers.trans seen.handler }
  · rw [pump]
    exact { seen with
      handler := handlers.trans seen.handler
      registered := by
        rw [ResponsePump.registered_addChannel_ne _ _ elsewhere]
        exact seen.registered
      held := by
        rw [← seen.held]
        rfl }

omit [DecidableEq ρ] in
/-- Handlers only register channels of their own. -/
theorem Polling.handler
    {pump : ResponsePump (CapturedStep ρ)}
    {id : ρ}
    {life next : Life}
    {label : HandlerLabel}
    {events : List HttpEvent}
    (polling : Polling requests pump)
    (steps : LifeStep unpack (requests.request id) (requests.channel id) life
      (.handler label) events next) :
    Polling requests (events.foldl (register id) pump) := by
  rcases foldl_register pump steps with ⟨same, _⟩ | ⟨added, _⟩
  · rw [same]
    exact polling
  · rw [added]
    have stays : ∀ channel, (pump.registered channel).isSome →
        ((pump.addChannel (requests.channel id) ⟨id, next.serial⟩).registered
          channel).isSome := by
      intro channel present
      by_cases same : channel = requests.channel id
      · simp [same]
      · rw [ResponsePump.registered_addChannel_ne _ _ same]
        exact present
    refine ⟨?_, ?_, ?_⟩
    · intro channelNames waiting channel member
      exact stays channel (polling.polled channelNames waiting channel member)
    · intro channel data holding
      exact stays channel (polling.received channel data holding)
    · intro channel callback found
      by_cases same : channel = requests.channel id
      · subst same
        rw [ResponsePump.registered_addChannel, Option.some.injEq] at found
        rw [← found]
      · rw [ResponsePump.registered_addChannel_ne _ _ same] at found
        exact polling.owner channel callback found

/-! ## The pump -/

omit [DecidableEq ρ] in
/-- The pump polls what it has registered. -/
theorem Polling.threadMain
    {pump : ResponsePump (CapturedStep ρ)}
    {queues : ChannelQueues}
    {label : PumpLabel}
    {result : PumpStep (CapturedStep ρ)}
    (polling : Polling requests pump)
    (stepped : ResponsePump.Stepped pump queues label result) :
    Polling requests result.pump := by
  cases stepped with
  | exit | idle | nothing | drop =>
      exact ⟨by simp_all, by simp_all, polling.owner⟩
  | discard => exact ⟨by simp, by simp, polling.owner⟩
  | snapshot atHead =>
      refine ⟨?_, by simp, polling.owner⟩
      intro channelNames waiting channel member
      obtain rfl := PumpThread.receiving.inj waiting
      exact (pump.mem_keys_iff channel).mp member
  | receive channelNames channel data rest waiting polled =>
      refine ⟨by simp, ?_, polling.owner⟩
      intro other otherData holding
      obtain ⟨rfl, rfl⟩ := PumpThread.received.inj holding
      exact polling.polled channelNames waiting channel polled
  | dispatch channel data callback holding found =>
      refine ⟨by simp, by simp, ?_⟩
      intro other otherCallback otherFound
      by_cases same : other = channel
      · subst same
        have removed := pump.registered_removeChannel other
        exact absurd (removed.symm.trans otherFound) (by simp)
      · have kept := pump.registered_removeChannel_ne same
        exact polling.owner other otherCallback (kept.symm.trans otherFound)

omit [DecidableEq ρ] in
/-- A request that is polled waits for a message. -/
theorem Seen.polled
    {system : HttpSystem ρ}
    {id : ρ}
    {life : Life}
    {channelNames : List Bytes}
    (seen : Seen requests system id life)
    (waiting : system.pump.thread = .receiving channelNames)
    (present : (system.pump.registered (requests.channel id)).isSome) :
    ∃ returned, life.phase = .pending (.registered none) returned := by
  rw [seen.registered] at present
  have nothingHeld := seen.held
  rw [waiting] at nothingHeld
  unfold Life.registered at present
  split at present
  · rename_i held returned atPhase
    simp [Life.held, atPhase, holds] at nothingHeld
    exact ⟨returned, by rw [atPhase, nothingHeld]⟩
  · simp at present

omit [DecidableEq ρ] in
/-- A request whose message the pump holds waits for the callback. -/
theorem Seen.received
    {system : HttpSystem ρ}
    {id : ρ}
    {life : Life}
    {data : Bytes}
    {callback : CapturedStep ρ}
    (seen : Seen requests system id life)
    (holding : system.pump.thread = .received (requests.channel id) data)
    (found : system.pump.registered (requests.channel id) = some callback) :
    callback = ⟨id, life.serial⟩ ∧
      ∃ returned, life.phase = .pending (.registered (some data)) returned := by
  rw [seen.registered] at found
  have isHeld := seen.held
  rw [holding] at isHeld
  unfold Life.registered at found
  split at found
  · rename_i held returned atPhase
    simp [Life.held, atPhase, holds] at isHeld
    simp only [Option.map_some, Option.some.injEq] at found
    exact ⟨found.symm, returned, by rw [atPhase, isHeld]⟩
  · simp at found

/-- A step of the pump thread moves at most the request whose channel it is
about. -/
theorem Seen.threadMain
    {system : HttpSystem ρ}
    {id : ρ}
    {life : Life}
    {label : PumpLabel}
    {result : PumpStep (CapturedStep ρ)}
    (polling : Polling requests system.pump)
    (seen : Seen requests system id life)
    (stepped : ResponsePump.Stepped system.pump system.queues label result) :
    ∃ next, Moved unpack requests id life (.pump label) [] next ∧
      Seen requests {
        pump := result.pump
        queues := result.queues
        handlers := create system.handlers result.task } id next := by
  have still : Moved unpack requests id life (.pump label) [] life :=
    .still rfl rfl rfl
  cases stepped with
  | idle => exact ⟨life, still, seen⟩
  | exit atThread | snapshot atThread | nothing _ atThread =>
      refine ⟨life, still, { seen with held := ?_ }⟩
      rw [← seen.held, atThread]
      rfl
  | receive channelNames channel data rest atThread polled front nonempty =>
      have present := polling.polled channelNames atThread channel polled
      by_cases same : channel = requests.channel id
      · subst same
        obtain ⟨returned, atPhase⟩ := seen.polled atThread present
        obtain ⟨phase, serial, delivered, returning, queue⟩ := life
        subst atPhase
        refine ⟨⟨.pending (.registered (some data)) returned, serial, delivered,
          returning, rest⟩, .moved .pop _ rfl rfl
            (.pop returned data rest rfl (seen.queue.symm.trans front)), ?_⟩
        exact {
          handler := by
            rw [create, seen.handler]
            cases returned <;> rfl
          coherent := trivial
          registered := seen.registered
          held := by simp [holds, Life.held]
          queue := by simp }
      · refine ⟨life, still, { seen with held := ?_, queue := ?_ }⟩
        · rw [← seen.held, atThread]
          simp [holds, same]
        · have elsewhere :=
            Function.update_of_ne (Ne.symm same) rest system.queues
          exact elsewhere.trans seen.queue
  | discard channelNames data rest atThread polled front =>
      refine ⟨life, still, { seen with held := ?_, queue := ?_ }⟩
      · rw [← seen.held, atThread]
        simp [holds]
      · have elsewhere :=
          Function.update_of_ne (requests.channel_ne_nil id) rest system.queues
        exact elsewhere.trans seen.queue
  | dispatch channel data callback atThread found =>
      by_cases same : channel = requests.channel id
      · subst same
        obtain ⟨rfl, returned, atPhase⟩ := seen.received atThread found
        obtain ⟨phase, serial, delivered, returning, queue⟩ := life
        subst atPhase
        refine ⟨⟨.pending (.callback data) returned, serial, delivered,
          returning, queue⟩, .moved .dispatch _ rfl rfl
            (.dispatch returned data rfl), ?_⟩
        exact {
          handler := by
            simp only [create, Function.update_self]
            rw [seen.handler]
            cases returned <;> rfl
          coherent := trivial
          registered := system.pump.registered_removeChannel _
          held := by simp [holds, Life.held]
          queue := seen.queue }
      · have different : id ≠ callback.request := by
          intro equal
          apply same
          rw [equal]
          exact polling.owner channel callback found
        refine ⟨life, still, { seen with
          handler := ?_, registered := ?_, held := ?_ }⟩
        · simp only [create]
          rw [Function.update_of_ne different, seen.handler]
        · rw [← seen.registered]
          exact system.pump.registered_removeChannel_ne (Ne.symm same)
        · rw [← seen.held, atThread]
          simp [holds, same]
  | drop channel data atThread missing =>
      have present := polling.received channel data atThread
      rw [missing] at present
      contradiction

/-! ## Runs -/

omit [DecidableEq ρ] in
/-- The start of the system, seen from a request. -/
theorem seen_start (id : ρ) : Seen requests {} id {} where
  handler := rfl
  coherent := rfl
  registered := rfl
  held := rfl
  queue := rfl

omit [DecidableEq ρ] in
theorem sound_start : Sound requests ({} : HttpSystem ρ) where
  polling := ⟨by simp, by simp, by simp⟩
  alive id := ⟨{}, seen_start id⟩

/-- What one step of the system is to a request. -/
theorem Seen.step
    {system next : HttpSystem ρ}
    {id : ρ}
    {life : Life}
    {label : HttpSystemLabel ρ}
    {events : List (HttpSystemEvent ρ)}
    (sound : Sound requests system)
    (seen : Seen requests system id life)
    (steps : HttpSystem.step unpack requests system label =
      some (next, events)) :
    ∃ lifeNext, Moved unpack requests id life label events lifeNext ∧
      Seen requests next id lifeNext := by
  cases label with
  | handler other label =>
      simp only [HttpSystem.step] at steps
      split at steps
      · contradiction
      · rename_i handler shown handlerSteps
        cases steps
        by_cases same : other = id
        · subst same
          obtain ⟨lifeNext, lifeSteps, seenNext⟩ :=
            seen.handler_self handlerSteps
          refine ⟨lifeNext, .moved (.handler label) lifeNext
            (by simp [ownLabel]) (sentTo_request _ _ shown) ?_, seenNext⟩
          rw [requestEvents_self]
          exact lifeSteps
        · obtain ⟨otherLife, otherSeen⟩ := sound.alive other
          obtain ⟨otherNext, otherSteps, _⟩ :=
            otherSeen.handler_self handlerSteps
          exact ⟨life, .still (by simp [isOwn, same])
            (requestEvents_ne shown same) (sentTo_request _ _ shown),
            seen.handler_other same otherSteps⟩
  | pump label =>
      simp only [HttpSystem.step] at steps
      split at steps
      · contradiction
      · rename_i result pumpSteps
        cases steps
        exact seen.threadMain sound.polling
          (ResponsePump.threadMain_stepped pumpSteps)
  | send channel data =>
      cases steps
      by_cases same : channel = requests.channel id
      · subst same
        refine ⟨{ life with queue := life.queue ++ [data] },
          .moved (.message data) _ rfl (by simp [sentTo]) (.message data),
          { seen with queue := ?_ }⟩
        simp [seen.queue]
      · refine ⟨life, .still rfl rfl (by simp [sentTo, same]),
          { seen with queue := ?_ }⟩
        rw [← seen.queue]
        exact system.queues.send_ne data (Ne.symm same)
  | stopPump =>
      cases steps
      exact ⟨life, .still rfl rfl rfl, { seen with }⟩

theorem Sound.step
    {system next : HttpSystem ρ}
    {label : HttpSystemLabel ρ}
    {events : List (HttpSystemEvent ρ)}
    (sound : Sound requests system)
    (steps : HttpSystem.step unpack requests system label =
      some (next, events)) :
    Sound requests next where
  polling := by
    cases label with
    | handler id label =>
        simp only [HttpSystem.step] at steps
        split at steps
        · contradiction
        · rename_i handler shown handlerSteps
          cases steps
          obtain ⟨life, seen⟩ := sound.alive id
          obtain ⟨lifeNext, lifeSteps, _⟩ := seen.handler_self handlerSteps
          exact sound.polling.handler lifeSteps
    | pump label =>
        simp only [HttpSystem.step] at steps
        split at steps
        · contradiction
        · rename_i result pumpSteps
          cases steps
          exact sound.polling.threadMain
            (ResponsePump.threadMain_stepped pumpSteps)
    | send channel data =>
        cases steps
        exact sound.polling
    | stopPump =>
        cases steps
        exact ⟨sound.polling.polled, sound.polling.received,
          sound.polling.owner⟩
  alive id := by
    obtain ⟨life, seen⟩ := sound.alive id
    obtain ⟨lifeNext, _, seenNext⟩ := seen.step sound steps
    exact ⟨lifeNext, seenNext⟩

/-- What a request has been seen to do, and the messages sent to it. -/
def history
    (requests : Requests ρ)
    (id : ρ)
    (labels : List (HttpSystemLabel ρ))
    (trace : List (HttpSystemEvent ρ)) : LifeHistory where
  ownSteps := ownSteps id labels
  events := requestEvents id trace
  messages := sentTo (requests.channel id) trace

theorem history_append_still
    {id : ρ}
    {labels : List (HttpSystemLabel ρ)}
    {trace events : List (HttpSystemEvent ρ)}
    {label : HttpSystemLabel ρ}
    (foreign : isOwn id label = false)
    (silent : requestEvents id events = [])
    (unsent : sentTo (requests.channel id) events = []) :
    history requests id (labels ++ [label]) (trace ++ events) =
      history requests id labels trace := by
  simp only [history, ownSteps, requestEvents, sentTo, List.countP_append,
    List.filterMap_append] at silent unsent ⊢
  rw [silent, unsent]
  simp [foreign]

/-- A step is counted for the request that takes it. -/
theorem ownSteps_singleton
    {id : ρ}
    {label : HttpSystemLabel ρ}
    {lifeLabel : LifeLabel}
    (owned : ownLabel id label = lifeLabel.own) :
    ownSteps id [label] = lifeLabel.ownSteps := by
  cases label with
  | handler other label =>
      by_cases same : other = id
      · rw [ownLabel, if_pos same] at owned
        cases lifeLabel with
        | handler label => simp [ownSteps, isOwn, same]
        | _ => contradiction
      · rw [ownLabel, if_neg same] at owned
        cases lifeLabel with
        | handler label => contradiction
        | _ => simp [ownSteps, isOwn, same]
  | _ =>
      cases lifeLabel with
      | handler label => contradiction
      | _ => rfl

theorem history_append_moved
    {id : ρ}
    {labels : List (HttpSystemLabel ρ)}
    {trace events : List (HttpSystemEvent ρ)}
    {label : HttpSystemLabel ρ}
    {lifeLabel : LifeLabel}
    (owned : ownLabel id label = lifeLabel.own)
    (messages : sentTo (requests.channel id) events = lifeLabel.messages) :
    history requests id (labels ++ [label]) (trace ++ events) =
      (history requests id labels trace).after lifeLabel
        (requestEvents id events) := by
  simp only [history, LifeHistory.after, ← ownSteps_singleton owned, ← messages,
    ownSteps, requestEvents, sentTo, List.countP_append, List.filterMap_append]

/-- A law that every step of a life keeps, as long as its own steps are good,
holds of each request in every run of the system. -/
theorem life_law
    {labels : List (HttpSystemLabel ρ)}
    {trace : List (HttpSystemEvent ρ)}
    {system : HttpSystem ρ}
    (id : ρ)
    (good : HttpRequestHandler → HandlerLabel → Prop)
    (law : LifeHistory → Life → Prop)
    (initially : law {} {})
    (kept : ∀ past life label events next, law past life →
      (∀ own ∈ label.own, good
        (life.toHandler (requests.request id) (requests.channel id)) own) →
      LifeStep unpack (requests.request id) (requests.channel id) life label
        events next →
      law (past.after label events) next)
    (run : EventMachine.Run (HttpSystem.step unpack requests)
      (ownStepsAre good id) {} labels trace system) :
    ∃ life, (Polling requests system.pump ∧ Seen requests system id life) ∧
      law (history requests id labels trace) life := by
  have simulated : ∃ life,
      (Sound requests system ∧ Seen requests system id life) ∧
        law (history requests id labels trace) life := by
    refine EventMachine.Run.simulates
      (fun system life => Sound requests system ∧ Seen requests system id life)
      (fun labels trace life => law (history requests id labels trace) life)
      {} ⟨sound_start, seen_start id⟩ initially ?_ run
    intro labels trace system label next events life ⟨sound, seen⟩ holds isGood
      steps
    obtain ⟨lifeNext, moved, seenNext⟩ := seen.step sound steps
    refine ⟨lifeNext, ⟨sound.step steps, seenNext⟩, ?_⟩
    cases moved with
    | still foreign silent unsent =>
        rw [history_append_still foreign silent unsent]
        exact holds
    | moved lifeLabel lifeNext owned messages lifeSteps =>
        rw [history_append_moved owned messages]
        refine kept _ _ _ _ _ holds ?_ lifeSteps
        intro own isOwn
        rw [← seen.handler]
        exact isGood own (by rw [owned]; exact isOwn)
  obtain ⟨life, ⟨sound, seen⟩, holds⟩ := simulated
  exact ⟨life, ⟨sound.polling, seen⟩, holds⟩

/-- A law that every step of a life keeps, as long as its events and messages
are good, holds of each request in every run of the system. -/
theorem life_induction
    {labels : List (HttpSystemLabel ρ)}
    {trace : List (HttpSystemEvent ρ)}
    {system : HttpSystem ρ}
    (id : ρ)
    (goodEvent : HttpEvent → Prop)
    (goodMessage : Bytes → Prop)
    (law : LifeHistory → Life → Prop)
    (initially : law {} {})
    (kept : ∀ past life label events next, law past life →
      (∀ event ∈ events, goodEvent event) →
      (∀ data ∈ label.messages, goodMessage data) →
      LifeStep unpack (requests.request id) (requests.channel id) life label
        events next →
      law (past.after label events) next)
    (goodEvents : ∀ event ∈ requestEvents id trace, goodEvent event)
    (goodMessages : ∀ data ∈ sentTo (requests.channel id) trace,
      goodMessage data)
    (run : EventMachine.Run (HttpSystem.step unpack requests)
      EventMachine.always {} labels trace system) :
    ∃ life, (Polling requests system.pump ∧ Seen requests system id life) ∧
      law (history requests id labels trace) life := by
  have unrestricted : EventMachine.Run (HttpSystem.step unpack requests)
      (ownStepsAre (fun _ _ => True) id) {} labels trace system :=
    run.mono fun _ _ _ _ _ => trivial
  obtain ⟨life, seen, holds⟩ := life_law id (fun _ _ => True)
    (fun past life =>
      (∀ event ∈ past.events, goodEvent event) →
        (∀ data ∈ past.messages, goodMessage data) → law past life)
    (fun _ _ => initially)
    (by
      intro past life label events next holds _ steps goodEvents goodMessages
      simp only [LifeHistory.after_events, LifeHistory.after_messages,
        List.forall_mem_append] at goodEvents goodMessages
      exact kept _ _ _ _ _ (holds goodEvents.1 goodMessages.1) goodEvents.2
        goodMessages.2 steps)
    unrestricted
  exact ⟨life, seen, holds goodEvents goodMessages⟩

end HttpSystem

end IisAsgiHandler
