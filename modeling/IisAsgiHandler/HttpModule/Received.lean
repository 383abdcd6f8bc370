import IisAsgiHandler.HttpModule.Channels

/-!
# What the applications receive

Every message that a `ReceiveMany` returns from a channel was sent to it, by a
handler or by another client, and it is received once at most.  So from the
payloads of `http.request` applications read the fields of the requests of the
worker process, and those of no request twice.
-/

namespace IisAsgiHandler

open EventMachine (Run always HostedEvent)
open RedisChannelLayer

/-! ## The messages whose sending has begun -/

namespace RedisChannelLayer

/-- The message of a `Send`. -/
def Call.message : Call → Option SentMessage
  | .send sent => some ⟨sent.channel, sent.buffer⟩
  | .receive _ => none

/-- The messages of the `Send`s that have generated their keys. -/
def Layer.begun (layer : Layer) : List SentMessage :=
  layer.calls.filterMap Call.message

/-- The message of a `Send` that begins. -/
def LayerLabel.message : LayerLabel → List SentMessage
  | .startSend channel buffer _ => [⟨channel, buffer⟩]
  | _ => []

/-- A message begins to be sent with its `Send`, and stays what it is. -/
theorem LayerStep.begun
    {mPrefix : Bytes}
    {layer next : Layer}
    {label : LayerLabel}
    {events : List LayerEvent}
    (steps : LayerStep mPrefix layer label next events) :
    next.begun = layer.begun ++ label.message := by
  cases steps with
  | startSend generated =>
      rw [Layer.begun, List.filterMap_append]
      rfl
  | startReceive shuffled =>
      rw [Layer.begun, List.filterMap_append]
      rfl
  | @send index send command found issues =>
      refine Eq.trans ?_ (List.append_nil _).symm
      exact Occurrences.filterMap_set found (by simp [Call.message])
  | receive found issues =>
      refine Eq.trans ?_ (List.append_nil _).symm
      exact Occurrences.filterMap_set found rfl
  | elapse => exact (List.append_nil _).symm

end RedisChannelLayer

/-- The message of a `Send` of another client that begins. -/
def RedisPumpLabel.message : RedisPumpLabel → List SentMessage
  | .client label => label.message
  | _ => []

namespace RedisPump

variable {κ : Type}

@[simp] theorem layer_afterCommand
    (redis : RedisPump κ) (index : Nat) (layer : Layer) :
    (redis.afterCommand index layer).layer = layer := by
  unfold afterCommand
  split <;> rfl

/-- A step leaves the channel layer as it is, or it is one of its steps. -/
theorem layer_of_step
    {mPrefix : Bytes}
    {isPrivate : Bytes → Prop}
    {redis next : RedisPump κ}
    {label : RedisPumpLabel}
    {items : List (DispatchedTask κ)}
    {shown : List SentMessage}
    (regular : ∀ channelNames, redis.pump.thread = .receiving channelNames →
      ∀ channel ∈ channelNames, RegularName channel)
    (undisturbed : redis.Undisturbed mPrefix isPrivate label)
    (steps : redis.step mPrefix label = some (next, items, shown)) :
    next.layer = redis.layer ∧ label.message = [] ∨
      ∃ layerLabel events,
        LayerStep mPrefix redis.layer layerLabel next.layer events ∧
        RedisChannelLayer.Undisturbed mPrefix redis.layer layerLabel ∧
        layerLabel.message = label.message := by
  cases label with
  | snapshot =>
      obtain ⟨result, -, equal⟩ := Option.map_eq_some_iff.mp steps
      cases equal
      exact .inl ⟨rfl, rfl⟩
  | receiveMany keys =>
      simp only [step] at steps
      split at steps
      next channelNames thread idle =>
        obtain ⟨⟨layer, events⟩, found, equal⟩ := Option.map_eq_some_iff.mp steps
        cases equal
        exact .inr ⟨_, events, layerStep_of_channelLayer found,
          ⟨trivial, regular channelNames thread⟩, rfl⟩
      next => cases steps
  | command =>
      simp only [step] at steps
      split at steps
      next => cases steps
      next index calling =>
        obtain ⟨⟨layer, events⟩, found, equal⟩ := Option.map_eq_some_iff.mp steps
        cases equal
        rw [layer_afterCommand]
        exact .inr ⟨_, events, layerStep_of_channelLayer found,
          undisturbed index calling, rfl⟩
  | dispatch =>
      obtain ⟨result, -, equal⟩ := Option.map_eq_some_iff.mp steps
      cases equal
      exact .inl ⟨rfl, rfl⟩
  | stop =>
      cases steps
      exact .inl ⟨rfl, rfl⟩
  | client label =>
      simp only [step] at steps
      split at steps
      next => cases steps
      next notOwn =>
        obtain ⟨⟨layer, events⟩, found, equal⟩ := Option.map_eq_some_iff.mp steps
        cases equal
        exact .inr ⟨_, events, layerStep_of_channelLayer found, undisturbed.1, rfl⟩

end RedisPump

/-! ## The channels of a connection's messages -/

/-- Connections send no requests. -/
def WsEvent.NoRequest : WsEvent → Prop
  | .send channel _ => channel ≠ ascii "http.request"
  | .reader (.send channel _) => channel ≠ ascii "http.request"
  | _ => True

/-- Messages are sent to `websocket.receive`. -/
theorem WsReader.recipient_of_complete
    {msg : AsgiWsReceiveMsg}
    {hr : HResult}
    {numBytes : Nat}
    {utf8 final close : Bool}
    {channel : Bytes}
    {sent : PackedReceiveMsg}
    (sends : .send channel sent ∈
      (readAsyncComplete msg hr numBytes utf8 final close).2) :
    channel = ascii "websocket.receive" := by
  unfold readAsyncComplete at sends
  cases final with
  | true =>
      simp [sendToApplication] at sends
      exact sends.1
  | false =>
      simp only [Bool.false_eq_true, if_false] at sends
      split at sends <;> simp at sends

theorem WsReader.recipient_of_step
    {reader next : WsReader}
    {label : ReaderLabel}
    {events : List ReaderEvent}
    {channel : Bytes}
    {msg : PackedReceiveMsg}
    (steps : reader.step label = some (next, events))
    (sends : .send channel msg ∈ events) :
    channel = ascii "websocket.receive" := by
  cases stepped_of_step steps with
  | returns found fits loops =>
      subst loops
      simp only [loop_events, List.mem_cons, List.mem_append, List.not_mem_nil,
        or_false, reduceCtorEq, false_or] at sends
      exact recipient_of_complete sends
  | fails found loops =>
      subst loops
      simp only [loop_events, List.mem_cons, List.mem_append, List.not_mem_nil,
        or_false, reduceCtorEq, false_or] at sends
      exact recipient_of_complete sends
  | pends found => cases sends
  | leaves found => cases sends
  | calledBack found fits completes =>
      subst completes
      split at sends
      · simp only [List.mem_cons, List.mem_append, List.not_mem_nil, or_false,
          reduceCtorEq, false_or] at sends
        exact recipient_of_complete sends
      · simp only [List.mem_cons, List.mem_append, List.not_mem_nil, or_false,
          reduceCtorEq, false_or] at sends
        exact recipient_of_complete sends

section Connection

variable {unpack : Bytes → Option AsgiWsSendMsg}
variable {request : HttpRequest}
variable {replyChannel : Bytes}

theorem SessionStep.noRequest
    {session next : Session}
    {label : WsLabel}
    {shown : List WsEvent}
    (steps : SessionStep unpack request replyChannel session label shown next) :
    ∀ event ∈ shown, event.NoRequest := by
  cases steps with
  | taskSend index returned atPhase =>
      intro event member
      cases List.mem_singleton.mp member
      have different : ascii "websocket.connect" ≠ ascii "http.request" := by
        decide
      exact different
  | reader label readerNext readerEvents phase steps undeleted moves =>
      intro event member
      obtain ⟨shown, isShown, rfl⟩ := List.mem_map.mp member
      cases shown with
      | send channel msg =>
          have different : ascii "websocket.receive" ≠ ascii "http.request" := by
            decide
          rw [WsEvent.NoRequest, WsReader.recipient_of_step steps isShown]
          exact different
      | readFragment length => trivial
      | fragment fragment => trivial
      | readFailed => trivial
      | counted numBytes => trivial
  | writer label writerNext writerEvents steps undeleted =>
      intro event member
      obtain ⟨shown, -, rfl⟩ := List.mem_map.mp member
      trivial
  | flushCompletes hr atPhase =>
      simp [WsEvent.NoRequest, Session.startReaderEvents, WsReader.start,
        WsReader.readAsync]
  | completePosted hr atPhase =>
      simp [WsEvent.NoRequest, Session.startReaderEvents, WsReader.start,
        WsReader.readAsync]
  | startWriterAccepting hr atPhase =>
      simp [WsEvent.NoRequest, Session.startWriterEvents]
  | startWriterSending hr atPhase =>
      simp [WsEvent.NoRequest, Session.startWriterEvents]
  | _ => simp [WsEvent.NoRequest]

/-- In every run of a connection none of its messages is a request. -/
theorem ConnectionRun.noRequest
    {good : WsRequestHandler → SubscriberLabel WsLabel → Prop}
    {labels : List (SubscriberLabel WsLabel)}
    {trace : List (SubscriberEvent WsEvent)}
    {system : SubscriberSystem WsRequestHandler}
    (nonempty : replyChannel ≠ [])
    (run : ConnectionRun unpack request replyChannel good labels trace system) :
    ∀ event ∈ ownEvents trace, event.NoRequest := by
  obtain ⟨-, -, -, law⟩ := run.session_law
    (fun events _ _ => ∀ event ∈ events, event.NoRequest) nonempty (by simp) (by
      intro trace session view label next viewNext events law _ moved event member
      rcases List.mem_append.mp member with old | new
      · exact law event old
      · cases moved with
        | own label next shown steps seen =>
            rw [ownEvents_own] at new
            exact steps.noRequest event new
        | dispatched data label registered seen => simp [ownEvents] at new
        | other label events notOwn silent seen =>
            rw [silent] at new
            cases new)
  exact law

end Connection

/-! ## The account of a worker process -/

/-- What is sent through the database: the messages whose `Send`s have begun,
or have only been called, are those of the handlers and those of other
clients. -/
structure Accounted
    {κ : Type}
    (mPrefix : Bytes)
    (admits : SentMessage → Prop)
    (sent : List SentMessage)
    (channels : Channels κ) : Prop where
  layer : ∃ trace, Delivering mPrefix trace channels.redis.layer ∧
    Attributed mPrefix trace channels.redis.layer
  messages : ∃ others, (∀ message ∈ others, admits message) ∧
    (channels.redis.layer.begun ++ channels.called).Perm (sent ++ others)

namespace Accounted

variable {κ : Type}
variable {mPrefix : Bytes}
variable {isPrivate : Bytes → Prop}
variable {admits : SentMessage → Prop}
variable {sent : List SentMessage}
variable {channels next : Channels κ}

theorem initial (mPrefix : Bytes) (admits : SentMessage → Prop) :
    Accounted mPrefix admits [] ({} : Channels κ) where
  layer := ⟨[], delivering_initial mPrefix, attributed_initial mPrefix⟩
  messages := ⟨[], by simp, .refl _⟩

/-- The handlers call `Send`. -/
theorem send
    {redis : RedisPump κ}
    (accounted : Accounted mPrefix admits sent channels)
    (same : redis.layer = channels.redis.layer)
    (messages : List SentMessage) :
    Accounted mPrefix admits (sent ++ messages)
      { redis := redis, called := channels.called ++ messages } where
  layer := by
    rw [same]
    exact accounted.layer
  messages := by
    obtain ⟨others, admitted, balance⟩ := accounted.messages
    refine ⟨others, admitted, List.perm_iff_count.mpr fun message => ?_⟩
    have count := balance.count_eq message
    simp only [same, List.count_append] at count ⊢
    omega

/-- A step of the database: what begins was called, or another client sends
it. -/
theorem step
    {label : ChannelsLabel}
    {redisLabel : RedisPumpLabel}
    {items : List (DispatchedTask κ)}
    {shown : List SentMessage}
    (accounted : Accounted mPrefix admits sent channels)
    (regular : ∀ channelNames,
      channels.redis.pump.thread = .receiving channelNames →
      ∀ channel ∈ channelNames, RegularName channel)
    (allowed : channels.Undisturbed mPrefix isPrivate admits label)
    (stepped : Channels.Stepped mPrefix channels label redisLabel next items
      shown) :
    Accounted mPrefix admits sent next := by
  obtain ⟨trace, delivering, attributed⟩ := accounted.layer
  obtain ⟨others, admitted, balance⟩ := accounted.messages
  have moved := RedisPump.layer_of_step regular (stepped.undisturbed allowed)
    stepped.redis_step
  have begun : next.redis.layer.begun =
      channels.redis.layer.begun ++ redisLabel.message := by
    rcases moved with ⟨same, none⟩ | ⟨layerLabel, events, steps, -, same⟩
    · rw [same, none, List.append_nil]
    · rw [steps.begun, same]
  constructor
  · rcases moved with ⟨same, -⟩ | ⟨layerLabel, events, steps, undisturbed, -⟩
    · rw [same]
      exact ⟨trace, delivering, attributed⟩
    · exact ⟨_, delivering.step undisturbed steps,
        attributed.step delivering steps⟩
  · rw [begun]
    cases stepped with
    | redis steps =>
        refine ⟨others ++ redisLabel.message, ?_,
          List.perm_iff_count.mpr fun message => ?_⟩
        · intro message member
          rcases List.mem_append.mp member with old | new
          · exact admitted message old
          · cases redisLabel with
            | client label =>
                cases label with
                | startSend channel buffer random =>
                    cases List.mem_singleton.mp new
                    exact allowed.2 _ _ _ rfl
                | _ => cases new
            | _ => cases new
        · have count := balance.count_eq message
          simp only [List.count_append] at count ⊢
          omega
    | @startSend index random message redis _ _ found steps =>
        refine ⟨others, admitted, List.perm_iff_count.mpr fun counted => ?_⟩
        obtain ⟨inside, isMessage⟩ := List.getElem?_eq_some_iff.mp found
        have count := balance.count_eq counted
        have taken := (List.getElem_cons_eraseIdx_perm inside).count_eq counted
        rw [isMessage, ← List.singleton_append, List.count_append] at taken
        simp only [List.count_append, RedisPumpLabel.message,
          LayerLabel.message] at count ⊢
        change _ + List.count counted [message] + _ = _
        omega

end Accounted

namespace Worker

variable {ρ : Type} [DecidableEq ρ]
variable {unpackResponse : Bytes → Option AsgiHttpResponseMsg}
variable {unpackSend : Bytes → Option AsgiWsSendMsg}
variable {requests : Requests ρ}
variable {mPrefix : Bytes}

/-- What handlers ask of the pump does not touch the database. -/
theorem layer_foldl_pass
    (redis : RedisPump (CapturedHandler ρ))
    (events : List (HttpModuleEvent ρ)) :
    (events.foldl ((httpModule unpackResponse unpackSend requests).pass
      (redisPump (CapturedHandler ρ) mPrefix)) redis).layer = redis.layer := by
  induction events generalizing redis with
  | nil => rfl
  | cons event events inductionHypothesis =>
      rw [List.foldl_cons, inductionHypothesis]
      unfold EventMachine.Host.pass
      split <;> rfl

variable {labels : List (HttpModuleLabel ρ ⊕ ChannelsLabel)}
variable {trace : List (WorkerEvent ρ)}
variable {contexts : ModuleContexts ρ}
variable {channels : Channels (CapturedHandler ρ)}

omit [DecidableEq ρ] in
/-- Only events of the handlers are messages that they send. -/
theorem sentByHandlers_component
    (shown : List SentMessage)
    (tasks : List (DispatchedTask (CapturedHandler ρ))) :
    sentByHandlers (ρ := ρ) (shown.map HostedEvent.component ++
      tasks.map HostedEvent.delivered) = [] := by
  simp [sentByHandlers, EventMachine.Host.hostEvents, List.filterMap_append]

omit [DecidableEq ρ] in
theorem sentByHandlers_host (events : List (HttpModuleEvent ρ)) :
    sentByHandlers (events.map HostedEvent.host) =
      events.filterMap HttpModule.sentMessage := by
  simp [sentByHandlers, EventMachine.Host.hostEvents, List.filterMap_map]

omit [DecidableEq ρ] in
theorem sentByHandlers_append (events later : List (WorkerEvent ρ)) :
    sentByHandlers (events ++ later) =
      sentByHandlers events ++ sentByHandlers later := by
  simp [sentByHandlers, EventMachine.Host.hostEvents, List.filterMap_append]

/-- In every run the account is kept. -/
theorem accounted_of_run
    (generated : ∀ id, IsRandomAscii 10 (requests.random id))
    (run : SendingRun unpackResponse unpackSend requests mPrefix labels trace
      contexts channels) :
    Accounted mPrefix (Foreign requests) (sentByHandlers trace) channels := by
  suffices kept : ∀ state, Run (sendingWorker unpackResponse unpackSend requests
      mPrefix) _ (noContexts, {}) labels trace state →
      Accounted mPrefix (Foreign requests) (sentByHandlers trace) state.2 from
    kept _ run
  clear run
  intro state run
  induction run with
  | refl => exact .initial mPrefix _
  | @step labels trace state label next events before allowed steps accounted =>
      obtain ⟨contexts, channels⟩ := state
      obtain ⟨redisLabels, redisRun⟩ := run_redis before
      obtain ⟨_, inner, -, layerTrace, mirrors⟩ := run_mirrors generated redisRun
      rw [sentByHandlers_append]
      cases EventMachine.Host.stepped_of_atop steps with
      | host hostSteps =>
          rw [foldl_pass, sentByHandlers_host]
          exact accounted.send (layer_foldl_pass _ _) _
      | component channelsSteps =>
          obtain ⟨redisLabel, stepped⟩ := Channels.stepped_of_step channelsSteps
          rw [sentByHandlers_component, List.append_nil]
          refine accounted.step ?_ allowed stepped
          intro channelNames receiving channel member
          exact (mirrors.polled channelNames receiving channel member).2

variable {id : ρ}

/-- The message of a request, as it is given to `Send`. -/
def message (requests : Requests ρ) (id : ρ) : SentMessage where
  channel := (requestMsg (requests.request id) (requests.channel id)).1
  data := (requestMsg (requests.request id) (requests.channel id)).2.msgpackPack

omit [DecidableEq ρ] in
/-- An application reads back the fields of the request. -/
theorem readRequest_message
    (generated : ∀ id, IsRandomAscii 10 (requests.random id))
    (sized : ∀ id, (requests.request id).Sized)
    (id : ρ) :
    readRequest (message requests id).data =
      some (.of (requests.request id) (requests.channel id)) :=
  HttpSystem.readRequest_sent (sized id) (generated id).1

omit [DecidableEq ρ] in
/-- The messages of two requests differ. -/
theorem message_injective
    (generated : ∀ id, IsRandomAscii 10 (requests.random id))
    (sized : ∀ id, (requests.request id).Sized) :
    Function.Injective (message requests) := by
  intro first second same
  have read := readRequest_message generated sized first
  rw [same, readRequest_message generated sized second] at read
  have channels := congrArg ForwardedRequest.replyChannel (Option.some.inj read)
  exact requests.channel_injective channels.symm

/-- A request sends nothing, or its message. -/
theorem sends_of_run
    (generated : ∀ id, IsRandomAscii 10 (requests.random id))
    (run : SendingRun unpackResponse unpackSend requests mPrefix labels trace
      contexts channels)
    (delivers : ∀ event ∈ httpEvents id trace, readDelivers event) :
    sends (httpEvents id trace) = [] ∨
      sends (httpEvents id trace) =
        [requestMsg (requests.request id) (requests.channel id)] := by
  obtain ⟨redisLabels, redisRun⟩ := run_redis run
  obtain ⟨queueLabels, inner, queueRun⟩ := run_queues generated redisRun
  obtain ⟨imageLabels, system, imageRun, -⟩ := run_http queueRun
  rw [← requestEvents_eq] at delivers ⊢
  exact HttpSystem.sends_cases imageRun id delivers

/-- A handler that sends to `http.request` sends the message of its request. -/
theorem sender_of_sent
    {event : HttpModuleEvent ρ}
    {sent : SentMessage}
    (generated : ∀ id, IsRandomAscii 10 (requests.random id))
    (run : SendingRun unpackResponse unpackSend requests mPrefix labels trace
      contexts channels)
    (delivers : ∀ id, ∀ event ∈ httpEvents id trace, readDelivers event)
    (shown : event ∈ EventMachine.Host.hostEvents trace)
    (sends : HttpModule.sentMessage event = some sent)
    (toApplications : sent.channel = ascii "http.request") :
    ∃ id channel msg, event = .http id (.send channel msg) ∧
      sent = message requests id := by
  cases event with
  | http id event =>
      cases event with
      | send channel msg =>
          cases sends
          have own : (channel, msg) ∈
              IisAsgiHandler.sends (httpEvents id trace) := by
            refine List.mem_filterMap.mpr ⟨.send channel msg, ?_, rfl⟩
            exact List.mem_filterMap.mpr ⟨_, shown, by simp⟩
          refine ⟨id, channel, msg, rfl, ?_⟩
          rcases sends_of_run generated run (delivers id) with unsent | isSent
          · rw [unsent] at own
            cases own
          · rw [isSent] at own
            rw [message, ← List.mem_singleton.mp own]
      | _ => cases sends
  | ws id event =>
      obtain ⟨redisLabels, redisRun⟩ := run_redis run
      obtain ⟨queueLabels, inner, queueRun⟩ := run_queues generated redisRun
      obtain ⟨imageLabels, system, imageRun, -⟩ := run_ws id queueRun
      have own : event ∈ ownEvents (trace.filterMap (connectionEvent id)) := by
        rw [ownEvents_eq]
        exact List.mem_filterMap.mpr ⟨_, shown, by simp⟩
      have connectionRun : ConnectionRun unpackSend (requests.request id)
          (sendChannel (requests.random id)) always imageLabels _ system := imageRun
      have noRequest :=
        connectionRun.noRequest (sendChannel_ne_nil _) event own
      cases event with
      | send channel msg =>
          cases sends
          exact absurd toApplications noRequest
      | reader event =>
          cases event with
          | send channel msg =>
              obtain ⟨buffer, -, rfl⟩ := Option.map_eq_some_iff.mp sends
              exact absurd toApplications noRequest
          | _ => cases sends
      | _ => cases sends

/-- The message of a request is sent by its handler only. -/
theorem count_sent_le
    (generated : ∀ id, IsRandomAscii 10 (requests.random id))
    (sized : ∀ id, (requests.request id).Sized)
    (run : SendingRun unpackResponse unpackSend requests mPrefix labels trace
      contexts channels)
    (delivers : ∀ id, ∀ event ∈ httpEvents id trace, readDelivers event)
    (id : ρ) :
    (sentByHandlers trace).count (message requests id) ≤
      (sends (httpEvents id trace)).length := by
  rw [sends, httpEvents, List.filterMap_filterMap]
  apply Occurrences.count_le_length
  intro event shown sends
  obtain ⟨other, channel, msg, rfl, same⟩ :=
    sender_of_sent generated run delivers shown sends rfl
  rw [message_injective generated sized same]
  simp

end Worker

end IisAsgiHandler
