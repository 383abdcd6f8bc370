import IisAsgiHandler.ChannelLayer.Attribution
import IisAsgiHandler.Forwarding
import IisAsgiHandler.HttpModule.EndToEnd

/-!
# What the handlers send

The handlers of a worker process call `Send` on the channel layer from which
their pump receives: what they send and what is sent to them goes through one
database.  A task goes on once its `Send` has returned; here it may also go on
before, which only adds runs.
-/

namespace IisAsgiHandler

open EventMachine (Run always HostedEvent)
open RedisChannelLayer

/-! ## The calls of `Send` -/

/-- The bytes of a packed message, if all of them have values. -/
def PackedReceiveMsg.buffer (msg : PackedReceiveMsg) : Option Bytes :=
  (msg.bytes.mapM id).map fun bytes =>
    MessagePack.packMap 4 ++
    AsgiMsg.packString (ascii "reply_channel") ++
      AsgiMsg.packString msg.replyChannel ++
    AsgiMsg.packString (ascii "path") ++ AsgiMsg.packString msg.path ++
    AsgiMsg.packString (ascii "order") ++ MessagePack.packInt msg.order ++
    AsgiMsg.packString (ascii "bytes") ++
      MessagePack.packBin msg.bytes.length ++ bytes

/-- They are the bytes that `msgpack_pack` writes. -/
theorem buffer_pack (msg : AsgiWsReceiveMsg) :
    (WsReader.pack msg).buffer = msg.msgpackPack := by
  simp only [PackedReceiveMsg.buffer, WsReader.pack, Buffer.length_read]
  rfl

/-- What a handler asks of the pump, or of the channel layer. -/
inductive ChannelsRequest (κ : Type)
  | pump (request : PumpRequest κ)
  /-- `m_channels.Send(channel, buffer)` is called. -/
  | send (message : SentMessage)
  deriving DecidableEq

namespace HttpModule

variable {ρ : Type}

/-- The arguments of `Send` where an event is a call of it. -/
def sentMessage : HttpModuleEvent ρ → Option SentMessage
  | .http _ (.send channel msg) => some ⟨channel, msg.msgpackPack⟩
  | .ws _ (.send channel msg) => some ⟨channel, msg.msgpackPack⟩
  | .ws _ (.reader (.send channel msg)) => msg.buffer.map (SentMessage.mk channel)
  | _ => none

/-- What an event asks of the pump and the channel layer. -/
def channelsRequest (event : HttpModuleEvent ρ) :
    Option (ChannelsRequest (CapturedHandler ρ)) :=
  match request event with
  | some asked => some (.pump asked)
  | none => (sentMessage event).map .send

/-- No event asks both. -/
theorem sentMessage_of_request
    {event : HttpModuleEvent ρ}
    {asked : PumpRequest (CapturedHandler ρ)}
    (asks : request event = some asked) :
    sentMessage event = none := by
  cases event with
  | http id event =>
      cases event with
      | addChannel channel serial => rfl
      | _ => cases asks
  | ws id event =>
      cases event with
      | writer event => rfl
      | _ => cases asks

end HttpModule

/-! ## The database that a worker process sends to -/

/-- The database with the pump, and the calls of `Send` that have not generated
their keys. -/
structure Channels (κ : Type) where
  redis : RedisPump κ := {}
  called : List SentMessage := []

inductive ChannelsLabel
  | redis (label : RedisPumpLabel)
  /-- A `Send` that has been called generates its key. -/
  | startSend (index : Nat) (random : Bytes)
  deriving DecidableEq

namespace Channels

variable {κ : Type}

def accept (channels : Channels κ) : ChannelsRequest κ → Channels κ
  | .pump request => { channels with
      redis := { channels.redis with pump := channels.redis.pump.accept request } }
  | .send message => { channels with called := channels.called ++ [message] }

def step (mPrefix : Bytes) (channels : Channels κ) :
    ChannelsLabel →
      Option (Channels κ × List (DispatchedTask κ) × List SentMessage)
  | .redis label =>
      (channels.redis.step mPrefix label).map fun (next, items, shown) =>
        ({ channels with redis := next }, items, shown)
  | .startSend index random =>
      match channels.called[index]? with
      | none => none
      | some message =>
          (channels.redis.step mPrefix
            (.client (.startSend message.channel message.data random))).map
              fun (next, items, shown) =>
                ({ redis := next, called := channels.called.eraseIdx index },
                  items, shown)

/-- The cases of one step, each of which is a step of the database. -/
inductive Stepped (mPrefix : Bytes) (channels : Channels κ) :
    ChannelsLabel → RedisPumpLabel → Channels κ → List (DispatchedTask κ) →
      List SentMessage → Prop
  | redis {label : RedisPumpLabel} {next : RedisPump κ}
      {items : List (DispatchedTask κ)} {shown : List SentMessage}
      (steps : channels.redis.step mPrefix label = some (next, items, shown)) :
      Stepped mPrefix channels (.redis label) label
        { channels with redis := next } items shown
  | startSend {index : Nat} {random : Bytes} {message : SentMessage}
      {next : RedisPump κ} {items : List (DispatchedTask κ)}
      {shown : List SentMessage}
      (found : channels.called[index]? = some message)
      (steps : channels.redis.step mPrefix
        (.client (.startSend message.channel message.data random)) =
          some (next, items, shown)) :
      Stepped mPrefix channels (.startSend index random)
        (.client (.startSend message.channel message.data random))
        { redis := next, called := channels.called.eraseIdx index } items shown

theorem stepped_of_step
    {mPrefix : Bytes}
    {channels next : Channels κ}
    {label : ChannelsLabel}
    {items : List (DispatchedTask κ)}
    {shown : List SentMessage}
    (steps : channels.step mPrefix label = some (next, items, shown)) :
    ∃ redisLabel, Stepped mPrefix channels label redisLabel next items shown := by
  cases label with
  | redis label =>
      obtain ⟨⟨redis, tasks, sent⟩, found, equal⟩ :=
        Option.map_eq_some_iff.mp steps
      cases equal
      exact ⟨_, .redis found⟩
  | startSend index random =>
      simp only [step] at steps
      split at steps
      next => cases steps
      next message located =>
        obtain ⟨⟨redis, tasks, sent⟩, found, equal⟩ :=
          Option.map_eq_some_iff.mp steps
        cases equal
        exact ⟨_, .startSend located found⟩

theorem Stepped.redis_step
    {mPrefix : Bytes}
    {channels next : Channels κ}
    {label : ChannelsLabel}
    {redisLabel : RedisPumpLabel}
    {items : List (DispatchedTask κ)}
    {shown : List SentMessage}
    (stepped : Stepped mPrefix channels label redisLabel next items shown) :
    channels.redis.step mPrefix redisLabel = some (next.redis, items, shown) := by
  cases stepped with
  | redis steps => exact steps
  | startSend found steps => exact steps

/-- The steps of the database are undisturbed, and what other clients send is
of an admitted kind. -/
def Undisturbed
    (mPrefix : Bytes)
    (isPrivate : Bytes → Prop)
    (admits : SentMessage → Prop)
    (channels : Channels κ) : ChannelsLabel → Prop
  | .redis label => channels.redis.Undisturbed mPrefix isPrivate label ∧
      ∀ channel data random, label = .client (.startSend channel data random) →
        admits ⟨channel, data⟩
  | .startSend index random => ∀ message ∈ channels.called[index]?,
      channels.redis.Undisturbed mPrefix isPrivate
        (.client (.startSend message.channel message.data random))

theorem Stepped.undisturbed
    {mPrefix : Bytes}
    {isPrivate : Bytes → Prop}
    {admits : SentMessage → Prop}
    {channels next : Channels κ}
    {label : ChannelsLabel}
    {redisLabel : RedisPumpLabel}
    {items : List (DispatchedTask κ)}
    {shown : List SentMessage}
    (stepped : Stepped mPrefix channels label redisLabel next items shown)
    (allowed : channels.Undisturbed mPrefix isPrivate admits label) :
    channels.redis.Undisturbed mPrefix isPrivate redisLabel := by
  cases stepped with
  | redis steps => exact allowed.1
  | startSend found steps => exact allowed _ found

end Channels

/-- The database as a component of a worker process. -/
def channelsComponent (κ : Type) (mPrefix : Bytes) :
    EventMachine.Component (Channels κ) ChannelsLabel SentMessage
      (ChannelsRequest κ) (DispatchedTask κ) where
  accept := Channels.accept
  step := Channels.step mPrefix

/-- The module, as it uses the pump and the channel layer. -/
def sendingModule
    {ρ : Type} [DecidableEq ρ]
    (unpackResponse : Bytes → Option AsgiHttpResponseMsg)
    (unpackSend : Bytes → Option AsgiWsSendMsg)
    (requests : Requests ρ) :
    EventMachine.Host (ModuleContexts ρ) (HttpModuleLabel ρ) (HttpModuleEvent ρ)
      (ChannelsRequest (CapturedHandler ρ)) (DispatchedTask (CapturedHandler ρ))
    where
  step := HttpModule.step unpackResponse unpackSend requests
  request := HttpModule.channelsRequest
  receive := HttpModule.receive

/-- A worker process that sends and receives over Redis. -/
abbrev sendingWorker
    {ρ : Type} [DecidableEq ρ]
    (unpackResponse : Bytes → Option AsgiHttpResponseMsg)
    (unpackSend : Bytes → Option AsgiWsSendMsg)
    (requests : Requests ρ)
    (mPrefix : Bytes) :
    EventMachine (ModuleContexts ρ × Channels (CapturedHandler ρ))
      (HttpModuleLabel ρ ⊕ ChannelsLabel) (WorkerEvent ρ) :=
  (sendingModule unpackResponse unpackSend requests).atop
    (channelsComponent (CapturedHandler ρ) mPrefix)

namespace Worker

variable {ρ : Type} [DecidableEq ρ]
variable {unpackResponse : Bytes → Option AsgiHttpResponseMsg}
variable {unpackSend : Bytes → Option AsgiWsSendMsg}
variable {requests : Requests ρ}
variable {mPrefix : Bytes}

/-- The messages that the handlers have sent. -/
def sentByHandlers (trace : List (WorkerEvent ρ)) : List SentMessage :=
  (EventMachine.Host.hostEvents trace).filterMap HttpModule.sentMessage

/-- What events do to the database. -/
theorem foldl_pass
    (channels : Channels (CapturedHandler ρ))
    (events : List (HttpModuleEvent ρ)) :
    events.foldl ((sendingModule unpackResponse unpackSend requests).pass
        (channelsComponent (CapturedHandler ρ) mPrefix)) channels =
      { redis := events.foldl ((httpModule unpackResponse unpackSend requests).pass
          (redisPump (CapturedHandler ρ) mPrefix)) channels.redis
        called := channels.called ++ events.filterMap HttpModule.sentMessage } := by
  induction events generalizing channels with
  | nil => simp
  | cons event events inductionHypothesis =>
      rw [List.foldl_cons, List.foldl_cons, inductionHypothesis]
      cases asks : HttpModule.request event with
      | some asked =>
          have silent := HttpModule.sentMessage_of_request asks
          simp [EventMachine.Host.pass, sendingModule, httpModule, asks,
            HttpModule.channelsRequest, channelsComponent, redisPump,
            Channels.accept, silent]
      | none =>
          cases sends : HttpModule.sentMessage event with
          | none =>
              simp [EventMachine.Host.pass, sendingModule, httpModule, asks,
                HttpModule.channelsRequest, sends]
          | some message =>
              simp [EventMachine.Host.pass, sendingModule, httpModule, asks,
                HttpModule.channelsRequest, channelsComponent, Channels.accept,
                sends]

/-- What others send to the applications does not name the channels of this
worker process. -/
def Foreign (requests : Requests ρ) (message : SentMessage) : Prop :=
  message.channel = ascii "http.request" →
    ∀ request, readRequest message.data = some request →
      ∀ id, request.replyChannel ≠ requests.channel id

/-- The runs of a worker process that sends and receives over Redis, whose
commands succeed, where no key expires, no one else receives from the reply
channels, and no one else gives them for their own. -/
abbrev SendingRun
    (unpackResponse : Bytes → Option AsgiHttpResponseMsg)
    (unpackSend : Bytes → Option AsgiWsSendMsg)
    (requests : Requests ρ)
    (mPrefix : Bytes)
    (labels : List (HttpModuleLabel ρ ⊕ ChannelsLabel))
    (trace : List (WorkerEvent ρ))
    (contexts : ModuleContexts ρ)
    (channels : Channels (CapturedHandler ρ)) : Prop :=
  Run (sendingWorker unpackResponse unpackSend requests mPrefix)
    (EventMachine.Host.guarded always
      (Channels.Undisturbed mPrefix (ReplyChannel requests) (Foreign requests)))
    (noContexts, {}) labels trace (contexts, channels)

variable {labels : List (HttpModuleLabel ρ ⊕ ChannelsLabel)}
variable {trace : List (WorkerEvent ρ)}
variable {contexts : ModuleContexts ρ}
variable {channels : Channels (CapturedHandler ρ)}

/-- Seen without what it sends, it is a worker process over Redis. -/
theorem run_redis
    (run : SendingRun unpackResponse unpackSend requests mPrefix labels trace
      contexts channels) :
    ∃ redisLabels, RedisRun unpackResponse unpackSend requests mPrefix redisLabels
      trace contexts channels.redis := by
  obtain ⟨redisLabels, imageTrace, ⟨_, _⟩, imageRun, ⟨rfl, rfl⟩, same⟩ :
      ∃ imageLabels imageTrace image,
        Run (redisWorker unpackResponse unpackSend requests mPrefix)
          (EventMachine.Host.guarded always
            (RedisPump.Undisturbed mPrefix (ReplyChannel requests)))
          (noContexts, {}) imageLabels imageTrace image ∧
        (contexts = image.1 ∧ channels.redis = image.2) ∧
        imageTrace.filterMap some = trace.filterMap some := by
    refine run.refines _
      (fun state image => state.1 = image.1 ∧ state.2.redis = image.2) some some
      (noContexts, {}) ⟨rfl, rfl⟩ ?_
    rintro ⟨contexts, channels⟩ label next events _ _ ⟨_, _⟩ _ ⟨rfl, rfl⟩
      allowed steps
    cases EventMachine.Host.stepped_of_atop steps with
    | @host moduleLabel contextsNext moduleEvents hostSteps =>
        have moved : (httpModule unpackResponse unpackSend requests).step contexts
            moduleLabel = some (contextsNext, moduleEvents) := hostSteps
        refine ⟨_, _, _, .single ?_ (EventMachine.Host.atop_host channels.redis
          moved), ⟨rfl, ?_⟩, rfl⟩
        · trivial
        · rw [foldl_pass]
    | component channelsSteps =>
        obtain ⟨redisLabel, stepped⟩ := Channels.stepped_of_step channelsSteps
        refine ⟨_, _, _, .single ?_ (EventMachine.Host.atop_component contexts
          stepped.redis_step), ⟨rfl, rfl⟩, rfl⟩
        exact stepped.undisturbed allowed
  simp only [List.filterMap_some] at same
  subst same
  exact ⟨redisLabels, imageRun⟩

end Worker

end IisAsgiHandler
