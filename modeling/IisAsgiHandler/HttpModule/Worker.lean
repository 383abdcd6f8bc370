import IisAsgiHandler.HttpModule.Connections
import IisAsgiHandler.ResponsePump.OverRedis

/-!
# A worker process

The module with the response pump that its handlers share, over queues or over
Redis.  Requests and connections are kept apart: the HTTP requests see a system
of HTTP requests, and each connection sees itself alone among other threads.
-/

namespace IisAsgiHandler

open EventMachine (Run always HostedEvent)

variable {ρ : Type} [DecidableEq ρ]
variable (unpackResponse : Bytes → Option AsgiHttpResponseMsg)
variable (unpackSend : Bytes → Option AsgiWsSendMsg)
variable (requests : Requests ρ)

/-- What a worker process shows. -/
abbrev WorkerEvent (ρ : Type) :=
  HostedEvent (HttpModuleEvent ρ) SentMessage (DispatchedTask (CapturedHandler ρ))

/-- A worker process over queues. -/
abbrev worker :
    EventMachine (ModuleContexts ρ × ResponsePump (CapturedHandler ρ) ×
      ChannelQueues) (HttpModuleLabel ρ ⊕ QueuePumpLabel) (WorkerEvent ρ) :=
  (httpModule unpackResponse unpackSend requests).atop
    (queuePump (CapturedHandler ρ))

/-- A worker process over Redis. -/
abbrev redisWorker (mPrefix : Bytes) :
    EventMachine (ModuleContexts ρ × RedisPump (CapturedHandler ρ))
      (HttpModuleLabel ρ ⊕ RedisPumpLabel) (WorkerEvent ρ) :=
  (httpModule unpackResponse unpackSend requests).atop
    (redisPump (CapturedHandler ρ) mPrefix)

/-- The worker process at its start. -/
def workerStart : ModuleContexts ρ × ResponsePump (CapturedHandler ρ) ×
    ChannelQueues :=
  (noContexts, {}, fun _ => [])

namespace Worker

/-- What the HTTP requests see of an event. -/
def httpEvent : WorkerEvent ρ → Option (HttpSystemEvent ρ)
  | .host (.http id event) => some (.request id event)
  | .component message => some (.sent message.channel message.data)
  | _ => none

/-- What a connection sees of an event. -/
def connectionEvent (id : ρ) : WorkerEvent ρ → Option (SubscriberEvent WsEvent)
  | .host (.ws other event) => if other = id then some (.own event) else none
  | .component message => some (.sent message.channel message.data)
  | .delivered task => ConnectionImage.taskEvents id task
  | _ => none

variable {unpackResponse unpackSend requests}
variable {contexts : ModuleContexts ρ}
variable {inner : ResponsePump (CapturedHandler ρ) × ChannelQueues}

section Events

omit [DecidableEq ρ]

theorem filterMap_httpEvent_http (id : ρ) (events : List HttpEvent) :
    List.filterMap httpEvent
      ((events.map (HttpModuleEvent.http id)).map HostedEvent.host) =
        events.map (.request id) := by
  simp [List.filterMap_map, Function.comp_def, httpEvent]

theorem filterMap_httpEvent_ws (id : ρ) (events : List WsEvent) :
    List.filterMap httpEvent
      ((events.map (HttpModuleEvent.ws id)).map HostedEvent.host) = [] := by
  simp [httpEvent]

theorem filterMap_httpEvent_delivered
    (tasks : List (DispatchedTask (CapturedHandler ρ))) :
    List.filterMap httpEvent
      (([] : List SentMessage).map HostedEvent.component ++
        tasks.map HostedEvent.delivered) = [] := by
  simp [httpEvent]

end Events

theorem filterMap_connectionEvent_http (id other : ρ) (events : List HttpEvent) :
    List.filterMap (connectionEvent id)
      ((events.map (HttpModuleEvent.http other)).map HostedEvent.host) = [] := by
  simp [connectionEvent]

theorem filterMap_connectionEvent_self (id : ρ) (events : List WsEvent) :
    List.filterMap (connectionEvent id)
      ((events.map (HttpModuleEvent.ws id)).map HostedEvent.host) =
        events.map .own := by
  simp [List.filterMap_map, Function.comp_def, connectionEvent]

theorem filterMap_connectionEvent_ne
    {id other : ρ}
    (events : List WsEvent)
    (different : other ≠ id) :
    List.filterMap (connectionEvent id)
      ((events.map (HttpModuleEvent.ws other)).map HostedEvent.host) = [] := by
  simp [connectionEvent, different]

theorem filterMap_connectionEvent_delivered
    (id : ρ)
    (tasks : List (DispatchedTask (CapturedHandler ρ))) :
    List.filterMap (connectionEvent id)
      (([] : List SentMessage).map HostedEvent.component ++
        tasks.map HostedEvent.delivered) =
      tasks.filterMap (ConnectionImage.taskEvents id) := by
  simp [List.filterMap_map, Function.comp_def, connectionEvent]

/-- The requests and connections of a worker process are each in a state that
they can reach, and callbacks are registered for their own channels. -/
structure Sound
    (requests : Requests ρ)
    (contexts : ModuleContexts ρ)
    (inner : ResponsePump (CapturedHandler ρ) × ChannelQueues) : Prop where
  owned : Owned requests contexts inner.1
  http : ∃ system, HttpImage requests contexts inner system ∧
    HttpSystem.Sound requests system
  ws : ∀ id, ∃ system session, ConnectionImage id contexts inner system ∧
    Connected (requests.request id) (sendChannel (requests.random id)) system
      session

theorem sound_start (requests : Requests ρ) :
    Sound requests noContexts ({}, fun _ => []) where
  owned := ⟨by simp, by simp⟩
  http := ⟨{}, HttpImage.initial requests, HttpSystem.sound_start⟩
  ws id := ⟨connectionStart, {}, ConnectionImage.initial id, connected_start⟩

/-! ## What the handlers ask of the pump -/

/-- A step of an HTTP handler is one of its life. -/
theorem Sound.lifeStep
    {id : ρ}
    {label : HandlerLabel}
    {handler : HttpRequestHandler}
    {events : List HttpEvent}
    (sound : Sound requests contexts inner)
    (steps : HttpRequestHandler.step unpackResponse (requests.request id)
      (requests.channel id) (contexts.httpHandler id) label =
        some (handler, events)) :
    ∃ life next, LifeStep unpackResponse (requests.request id)
      (requests.channel id) life (.handler label) events next := by
  obtain ⟨system, image, isSound⟩ := sound.http
  obtain ⟨life, seen⟩ := isSound.alive id
  rw [← image.handlers] at steps
  obtain ⟨next, lifeSteps, -⟩ := seen.handler_self steps
  exact ⟨life, next, lifeSteps⟩

/-- A connection registers its own channel only. -/
theorem Sound.registersOwn
    {id : ρ}
    {label : WsLabel}
    {handler : WsRequestHandler}
    {events : List WsEvent}
    (sound : Sound requests contexts inner)
    (steps : WsRequestHandler.step unpackSend (requests.request id)
      (sendChannel (requests.random id)) (contexts.wsHandler id) label =
        some (handler, events))
    (channel : Bytes)
    (registers : .writer (.addChannel channel) ∈ events) :
    channel = sendChannel (requests.random id) := by
  obtain ⟨system, session, image, connected⟩ := sound.ws id
  rw [← image.state, connected.handler] at steps
  obtain ⟨next, -, sessionSteps⟩ := Session.matched_step steps
  exact (sessionSteps.registers connected.owns).1 channel registers

omit [DecidableEq ρ] in
/-- What the events of an HTTP handler ask for. -/
theorem asked_of_http
    {id : ρ}
    {life next : Life}
    {label : HandlerLabel}
    {events : List HttpEvent}
    {asked : PumpRequest (CapturedHandler ρ)}
    (lifeSteps : LifeStep unpackResponse (requests.request id)
      (requests.channel id) life (.handler label) events next)
    {event : HttpModuleEvent ρ}
    (member : event ∈ events.map (HttpModuleEvent.http id))
    (asks : HttpModule.request event = some asked) :
    ∃ serial, asked =
      .addChannel (requests.channel id) (.waitForResponse id serial) := by
  obtain ⟨shown, isShown, rfl⟩ := List.mem_map.mp member
  cases shown with
  | addChannel channel serial =>
      cases asks
      rcases lifeSteps.registration with ⟨-, -, ⟨-, silent⟩ | ⟨-, rfl⟩⟩
      · exact absurd isShown (silent channel serial)
      · cases List.mem_singleton.mp isShown
        exact ⟨_, rfl⟩
  | _ => cases asks

omit [DecidableEq ρ] in
/-- What the events of a connection ask for. -/
theorem asked_of_ws
    {id : ρ}
    {events : List WsEvent}
    {asked : PumpRequest (CapturedHandler ρ)}
    (own : ∀ channel, .writer (.addChannel channel) ∈ events →
      channel = sendChannel (requests.random id))
    {event : HttpModuleEvent ρ}
    (member : event ∈ events.map (HttpModuleEvent.ws id))
    (asks : HttpModule.request event = some asked) :
    asked = .addChannel (sendChannel (requests.random id)) (.writer id) := by
  obtain ⟨shown, isShown, rfl⟩ := List.mem_map.mp member
  have isRegistration : ∃ channel, shown = .writer (.addChannel channel) ∧
      asked = .addChannel channel (.writer id) := by
    simp only [HttpModule.request] at asks
    split at asks <;> simp_all
  obtain ⟨channel, rfl, rfl⟩ := isRegistration
  rw [own channel isShown]

/-- A request of a handler that is stored, for its own channel. -/
def Admitted
    (requests : Requests ρ)
    (contexts : ModuleContexts ρ)
    (asked : PumpRequest (CapturedHandler ρ)) : Prop :=
  ∃ captured : CapturedHandler ρ, captured.StoredIn contexts ∧
    asked = .addChannel (captured.channel requests) captured

/-- The handlers ask for registrations of their own channels. -/
theorem Sound.admitted
    {next : ModuleContexts ρ}
    {events : List (HttpModuleEvent ρ)}
    {asked : PumpRequest (CapturedHandler ρ)}
    (sound : Sound requests contexts inner)
    (stepped : HttpModule.Stepped unpackResponse unpackSend requests contexts next
      events)
    {event : HttpModuleEvent ρ}
    (member : event ∈ events)
    (asks : HttpModule.request event = some asked) :
    Admitted requests next asked := by
  cases stepped with
  | @http id label handler events notWs steps =>
      obtain ⟨life, lifeNext, lifeSteps⟩ := sound.lifeStep steps
      obtain ⟨serial, rfl⟩ := asked_of_http lifeSteps member asks
      exact ⟨.waitForResponse id serial,
        ⟨handler, Function.update_self ..⟩, rfl⟩
  | @ws id label handler events notHttp steps =>
      obtain rfl := asked_of_ws (sound.registersOwn steps) member asks
      exact ⟨.writer id, ⟨handler, Function.update_self ..⟩, rfl⟩

theorem owned_pass
    {events : List (HttpModuleEvent ρ)}
    (owned : Owned requests contexts inner.1)
    (admitted : ∀ event ∈ events, ∀ asked,
      HttpModule.request event = some asked → Admitted requests contexts asked) :
    Owned requests contexts
      (events.foldl ((httpModule unpackResponse unpackSend requests).pass
        (queuePump (CapturedHandler ρ))) inner).1 := by
  induction events generalizing inner with
  | nil => exact owned
  | cons event events inductionHypothesis =>
      refine inductionHypothesis ?_ fun later member =>
        admitted later (List.mem_cons_of_mem event member)
      cases asks : HttpModule.request event with
      | none => simpa [EventMachine.Host.pass, httpModule, asks] using owned
      | some asked =>
          obtain ⟨captured, stored, rfl⟩ :=
            admitted event List.mem_cons_self asked asks
          simp only [EventMachine.Host.pass, httpModule, asks]
          exact owned.addChannel stored

theorem Sound.owned_host
    {next : ModuleContexts ρ}
    {events : List (HttpModuleEvent ρ)}
    (sound : Sound requests contexts inner)
    (stepped : HttpModule.Stepped unpackResponse unpackSend requests contexts next
      events) :
    Owned requests next
      (events.foldl ((httpModule unpackResponse unpackSend requests).pass
        (queuePump (CapturedHandler ρ))) inner).1 := by
  refine owned_pass ?_ fun event member asked asks =>
    sound.admitted stepped member asks
  refine sound.owned.mono ?_ fun _ _ found => found
  cases stepped with
  | http notWs => exact fun captured stored => stored.update_http _ notWs
  | ws notHttp => exact fun captured stored => stored.update_ws _ notHttp

/-! ## The HTTP requests -/

/-- A step of the worker process is a step of its HTTP requests, or none. -/
theorem Sound.http_step
    {label : HttpModuleLabel ρ ⊕ QueuePumpLabel}
    {next : ModuleContexts ρ × ResponsePump (CapturedHandler ρ) × ChannelQueues}
    {events : List (WorkerEvent ρ)}
    {system : HttpSystem ρ}
    (sound : Sound requests contexts inner)
    (image : HttpImage requests contexts inner system)
    (steps : worker unpackResponse unpackSend requests (contexts, inner) label =
      some (next, events)) :
    ∃ labels systemNext,
      Run (HttpSystem.step unpackResponse requests) always system labels
        (events.filterMap httpEvent) systemNext ∧
      HttpImage requests next.1 next.2 systemNext := by
  cases EventMachine.Host.stepped_of_atop steps with
  | host hostSteps =>
      cases HttpModule.stepped_of_step hostSteps with
      | @http id handlerLabel handler shown notWs handlerSteps =>
          obtain ⟨life, lifeNext, lifeSteps⟩ := sound.lifeStep handlerSteps
          obtain ⟨systemNext, systemSteps, isImage⟩ :=
            image.http handlerSteps lifeSteps
          refine ⟨[.handler id handlerLabel], systemNext, ?_, isImage⟩
          rw [filterMap_httpEvent_http]
          exact .single trivial systemSteps
      | @ws id handlerLabel handler shown notHttp handlerSteps =>
          refine ⟨[], system, ?_, image.ws notHttp (sound.registersOwn handlerSteps)⟩
          rw [filterMap_httpEvent_ws]
          exact .refl
  | @component pumpLabel innerNext items shown pumpSteps =>
      cases pumpLabel with
      | pump label =>
          obtain ⟨result, threadSteps, equal⟩ :=
            Option.map_eq_some_iff.mp pumpSteps
          cases equal
          rw [filterMap_httpEvent_delivered]
          rcases image.threadMain sound.owned threadSteps with
            isImage | ⟨imageLabel, systemNext, systemSteps, isImage⟩
          · exact ⟨[], system, .refl, isImage⟩
          · exact ⟨[.pump imageLabel], systemNext, .single trivial systemSteps,
              isImage⟩
      | send channel data =>
          cases pumpSteps
          exact ⟨[.send channel data], _, .single trivial rfl,
            image.send channel data⟩
      | stop =>
          cases pumpSteps
          exact ⟨[.stopPump], _, .single trivial rfl, image.stop⟩

/-! ## The connections -/

/-- A step of the worker process is a step of a connection, or of other threads
around it. -/
theorem Sound.ws_step
    {label : HttpModuleLabel ρ ⊕ QueuePumpLabel}
    {next : ModuleContexts ρ × ResponsePump (CapturedHandler ρ) × ChannelQueues}
    {events : List (WorkerEvent ρ)}
    {id : ρ}
    {system : SubscriberSystem WsRequestHandler}
    (sound : Sound requests contexts inner)
    (image : ConnectionImage id contexts inner system)
    (steps : worker unpackResponse unpackSend requests (contexts, inner) label =
      some (next, events)) :
    ∃ labels systemNext,
      Run (connectionMachine unpackSend (requests.request id)
          (sendChannel (requests.random id))) always system labels
        (events.filterMap (connectionEvent id)) systemNext ∧
      ConnectionImage id next.1 next.2 systemNext := by
  cases EventMachine.Host.stepped_of_atop steps with
  | host hostSteps =>
      cases HttpModule.stepped_of_step hostSteps with
      | @http other handlerLabel handler shown notWs handlerSteps =>
          obtain ⟨life, lifeNext, lifeSteps⟩ := sound.lifeStep handlerSteps
          have unmoved : ConnectionImage id
              (Function.update contexts other (some (.http handler))) inner
              system :=
            image.elsewhere (by
              rw [ModuleContexts.wsHandler_update_http handler notWs])
          obtain ⟨systemNext, ⟨labels, run⟩, isImage⟩ := unmoved.others
            (fun event member asked asks => by
              obtain ⟨serial, rfl⟩ := asked_of_http lifeSteps member asks
              exact ⟨_, _, rfl, requests.channel_ne_sendChannel other _, rfl⟩)
          refine ⟨labels, systemNext, ?_, isImage⟩
          rw [filterMap_connectionEvent_http]
          exact run
      | @ws other handlerLabel handler shown notHttp handlerSteps =>
          by_cases same : other = id
          · subst same
            obtain ⟨systemNext, systemSteps, isImage⟩ := image.own handlerSteps
            refine ⟨[.own handlerLabel], systemNext, ?_, isImage⟩
            rw [filterMap_connectionEvent_self]
            exact .single trivial systemSteps
          · have unmoved : ConnectionImage id
                (Function.update contexts other (some (.ws handler))) inner
                system :=
              image.elsewhere (by
                rw [ModuleContexts.wsHandler_update_ws,
                  Function.update_of_ne (Ne.symm same)])
            obtain ⟨systemNext, ⟨labels, run⟩, isImage⟩ := unmoved.others
              (fun event member asked asks => by
                obtain rfl := asked_of_ws (sound.registersOwn handlerSteps)
                  member asks
                refine ⟨_, _, rfl, fun equal => same ?_, if_neg same⟩
                exact requests.distinct (List.append_cancel_left equal))
            refine ⟨labels, systemNext, ?_, isImage⟩
            rw [filterMap_connectionEvent_ne _ same]
            exact run
  | @component pumpLabel innerNext items shown pumpSteps =>
      cases pumpLabel with
      | pump label =>
          obtain ⟨result, threadSteps, equal⟩ :=
            Option.map_eq_some_iff.mp pumpSteps
          cases equal
          obtain ⟨systemNext, systemSteps, isImage⟩ :=
            image.threadMain sound.owned threadSteps
          refine ⟨[.pump label], systemNext, ?_, isImage⟩
          rw [filterMap_connectionEvent_delivered]
          exact .single trivial systemSteps
      | send channel data =>
          cases pumpSteps
          refine ⟨[.send channel data], _, .single trivial rfl, ?_⟩
          exact ⟨image.state, image.pump, by rw [image.queues]⟩
      | stop =>
          cases pumpSteps
          refine ⟨[.stopPump], _, .single trivial rfl, image.state, ?_,
            image.queues⟩
          exact ⟨image.pump.thread, rfl, image.pump.keys, image.pump.registered⟩

/-! ## Runs -/

theorem Sound.owned_step
    {label : HttpModuleLabel ρ ⊕ QueuePumpLabel}
    {next : ModuleContexts ρ × ResponsePump (CapturedHandler ρ) × ChannelQueues}
    {events : List (WorkerEvent ρ)}
    (sound : Sound requests contexts inner)
    (steps : worker unpackResponse unpackSend requests (contexts, inner) label =
      some (next, events)) :
    Owned requests next.1 next.2.1 := by
  cases EventMachine.Host.stepped_of_atop steps with
  | host hostSteps => exact sound.owned_host (HttpModule.stepped_of_step hostSteps)
  | @component pumpLabel innerNext items shown pumpSteps =>
      cases pumpLabel with
      | pump label =>
          obtain ⟨result, threadSteps, equal⟩ :=
            Option.map_eq_some_iff.mp pumpSteps
          cases equal
          exact sound.owned.threadMain
            (ResponsePump.threadMain_stepped threadSteps)
      | send channel data =>
          cases pumpSteps
          exact sound.owned
      | stop =>
          cases pumpSteps
          exact ⟨sound.owned.channel, sound.owned.stored⟩

theorem Sound.step
    {label : HttpModuleLabel ρ ⊕ QueuePumpLabel}
    {next : ModuleContexts ρ × ResponsePump (CapturedHandler ρ) × ChannelQueues}
    {events : List (WorkerEvent ρ)}
    (sound : Sound requests contexts inner)
    (steps : worker unpackResponse unpackSend requests (contexts, inner) label =
      some (next, events)) :
    Sound requests next.1 next.2 where
  owned := sound.owned_step steps
  http := by
    obtain ⟨system, image, isSound⟩ := sound.http
    obtain ⟨labels, systemNext, run, isImage⟩ := sound.http_step image steps
    refine ⟨systemNext, isImage, ?_⟩
    exact run.preserves (HttpSystem.Sound requests) isSound
      fun _ _ _ _ before _ systemSteps => before.step systemSteps
  ws id := by
    obtain ⟨system, session, image, connected⟩ := sound.ws id
    obtain ⟨labels, systemNext, run, isImage⟩ := sound.ws_step image steps
    obtain ⟨sessionNext, connectedNext⟩ := run.preserves
      (fun system => ∃ session, Connected (requests.request id)
        (sendChannel (requests.random id)) system session)
      ⟨session, connected⟩
      (by
        rintro _ _ _ _ ⟨session, before⟩ _ systemSteps
        obtain ⟨later, connectedLater, -⟩ :=
          before.step (sendChannel_ne_nil _) systemSteps
        exact ⟨later, connectedLater⟩)
    exact ⟨systemNext, sessionNext, isImage, connectedNext⟩

variable {labels : List (HttpModuleLabel ρ ⊕ QueuePumpLabel)}
variable {trace : List (WorkerEvent ρ)}

theorem sound_of_run
    (run : Run (worker unpackResponse unpackSend requests) always workerStart
      labels trace (contexts, inner)) :
    Sound requests contexts inner :=
  run.preserves (fun state => Sound requests state.1 state.2)
    (sound_start requests) fun _ _ _ _ sound _ steps => sound.step steps

/-- The HTTP requests of a worker process do what they do in a system of HTTP
requests alone. -/
theorem run_http
    (run : Run (worker unpackResponse unpackSend requests) always workerStart
      labels trace (contexts, inner)) :
    ∃ imageLabels system,
      Run (HttpSystem.step unpackResponse requests) always {} imageLabels
        (trace.filterMap httpEvent) system ∧
      HttpImage requests contexts inner system := by
  obtain ⟨imageLabels, imageTrace, system, imageRun, ⟨-, image⟩, same⟩ :=
    run.refines always
      (fun state system => Sound requests state.1 state.2 ∧
        HttpImage requests state.1 state.2 system)
      httpEvent some {} ⟨sound_start requests, HttpImage.initial requests⟩
      (by
        rintro state label next events _ _ system _ ⟨sound, image⟩ _ steps
        obtain ⟨later, systemNext, laterRun, isImage⟩ :=
          sound.http_step image steps
        exact ⟨later, _, systemNext, laterRun, ⟨sound.step steps, isImage⟩,
          List.filterMap_some⟩)
  rw [List.filterMap_some] at same
  exact ⟨imageLabels, system, same ▸ imageRun, image⟩

/-- A connection of a worker process does what it does alone. -/
theorem run_ws
    (id : ρ)
    (run : Run (worker unpackResponse unpackSend requests) always workerStart
      labels trace (contexts, inner)) :
    ∃ imageLabels system,
      Run (connectionMachine unpackSend (requests.request id)
          (sendChannel (requests.random id))) always connectionStart imageLabels
        (trace.filterMap (connectionEvent id)) system ∧
      ConnectionImage id contexts inner system := by
  obtain ⟨imageLabels, imageTrace, system, imageRun, ⟨-, image⟩, same⟩ :=
    run.refines always
      (fun state system => Sound requests state.1 state.2 ∧
        ConnectionImage id state.1 state.2 system)
      (connectionEvent id) some connectionStart
      ⟨sound_start requests, ConnectionImage.initial id⟩
      (by
        rintro state label next events _ _ system _ ⟨sound, image⟩ _ steps
        obtain ⟨later, systemNext, laterRun, isImage⟩ := sound.ws_step image steps
        exact ⟨later, _, systemNext, laterRun, ⟨sound.step steps, isImage⟩,
          List.filterMap_some⟩)
  rw [List.filterMap_some] at same
  exact ⟨imageLabels, system, same ▸ imageRun, image⟩

/-! ## Over Redis -/

/-- The channel that a handler of the worker process receives from. -/
def ReplyChannel (requests : Requests ρ) (channel : Bytes) : Prop :=
  ∃ captured : CapturedHandler ρ, channel = captured.channel requests

omit [DecidableEq ρ] in
/-- Channels with generated names are regular. -/
theorem ownChannel
    (generated : ∀ id, RedisChannelLayer.IsRandomAscii 10 (requests.random id))
    (captured : CapturedHandler ρ) :
    OwnChannel (ReplyChannel requests) (captured.channel requests) := by
  have noNul : ∀ id, (0 : UInt8) ∉ requests.random id := by
    intro id member
    have listed := (generated id).2 0 member
    revert listed
    decide
  refine ⟨⟨captured, rfl⟩, ?_⟩
  cases captured with
  | waitForResponse id serial =>
      refine ⟨requests.channel_ne_nil id, ?_⟩
      rw [CapturedHandler.channel, Requests.channel, newChannel,
        List.mem_append, not_or]
      exact ⟨by decide, noNul id⟩
  | writer id =>
      refine ⟨sendChannel_ne_nil _, ?_⟩
      rw [CapturedHandler.channel, sendChannel, newChannel, List.mem_append,
        not_or]
      exact ⟨by decide, noNul id⟩

/-- A worker process over Redis shows what one over queues can show, if its
commands succeed, no key expires, and no one else receives from its reply
channels; and its pump looks like one over queues. -/
theorem run_mirrors
    {mPrefix : Bytes}
    {labels : List (HttpModuleLabel ρ ⊕ RedisPumpLabel)}
    {redis : RedisPump (CapturedHandler ρ)}
    (generated : ∀ id, RedisChannelLayer.IsRandomAscii 10 (requests.random id))
    (run : Run (redisWorker unpackResponse unpackSend requests mPrefix)
      (EventMachine.Host.guarded always
        (RedisPump.Undisturbed mPrefix (ReplyChannel requests)))
      (noContexts, {}) labels trace (contexts, redis)) :
    ∃ queueLabels inner,
      Run (worker unpackResponse unpackSend requests) always workerStart
        queueLabels trace (contexts, inner) ∧
      ∃ layerTrace, Mirrors mPrefix (ReplyChannel requests) layerTrace redis
        inner := by
  obtain ⟨queueLabels, inner, queueRun, mirrors⟩ :=
    (redisPump_refines mPrefix
      (ReplyChannel requests)).atop ⟨[], mirrors_initial mPrefix _⟩
      (by
        intro _ _ state image label next events queueRun _ steps event member
          asked asks
        have sound := sound_of_run
          (queueRun.mono fun state label _ => trivial)
        obtain ⟨captured, -, rfl⟩ :=
          sound.admitted (HttpModule.stepped_of_step steps) member asks
        exact ownChannel generated captured)
      run
  exact ⟨queueLabels, inner, queueRun.mono fun _ _ _ => trivial, mirrors⟩

theorem run_queues
    {mPrefix : Bytes}
    {labels : List (HttpModuleLabel ρ ⊕ RedisPumpLabel)}
    {redis : RedisPump (CapturedHandler ρ)}
    (generated : ∀ id, RedisChannelLayer.IsRandomAscii 10 (requests.random id))
    (run : Run (redisWorker unpackResponse unpackSend requests mPrefix)
      (EventMachine.Host.guarded always
        (RedisPump.Undisturbed mPrefix (ReplyChannel requests)))
      (noContexts, {}) labels trace (contexts, redis)) :
    ∃ queueLabels inner,
      Run (worker unpackResponse unpackSend requests) always workerStart
        queueLabels trace (contexts, inner) := by
  obtain ⟨queueLabels, inner, queueRun, -⟩ := run_mirrors generated run
  exact ⟨queueLabels, inner, queueRun⟩

end Worker

end IisAsgiHandler
