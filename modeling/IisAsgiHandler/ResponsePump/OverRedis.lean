import IisAsgiHandler.ChannelLayer.Delivery
import IisAsgiHandler.ResponsePump.Component
import IisAsgiHandler.ResponsePump.Replies

/-!
# The response pump over the Redis channel layer

The thread of the pump calls `ReceiveMany`, which issues its commands to a Redis
database that it shares with other clients; the commands of all of them
interleave.  Seen by the handlers this is the pump over queues, with a message
sent by the `RPUSH` of its `Send` and popped by the `BLPOP` of the pump.
-/

namespace IisAsgiHandler

open RedisChannelLayer

/-- The pump with the database, and the call of `ReceiveMany` that its thread is
in. -/
structure RedisPump (κ : Type) where
  pump : ResponsePump κ := {}
  layer : Layer := {}
  call : Option Nat := none

/-- What happens next to the pump and the database. -/
inductive RedisPumpLabel
  | snapshot
  /-- The thread calls `ReceiveMany`, which shuffles its keys. -/
  | receiveMany (keys : List Bytes)
  /-- The call issues its next command. -/
  | command
  | dispatch
  | stop
  /-- Another client calls, or goes on with a call; or time passes. -/
  | client (label : LayerLabel)
  deriving DecidableEq

/-- The messages sent by the `RPUSH`es among some events. -/
def sentMessages (events : List LayerEvent) : List SentMessage :=
  events.filterMap fun
    | .pushed _ channel _ payload => some ⟨channel, payload⟩
    | _ => none

namespace RedisPump

variable {κ : Type}

/-- The thread goes on once its call has returned. -/
def afterCommand (redis : RedisPump κ) (index : Nat) (layer : Layer) :
    RedisPump κ :=
  match layer.calls[index]? with
  | some (.receive ⟨_, _, .done channel payload⟩) =>
      { pump := Poller.afterReceive redis.pump channel payload
        layer := layer }
  | _ => { redis with layer := layer }

/-- A call that has returned. -/
theorem afterCommand_done
    {redis : RedisPump κ}
    {index : Nat}
    {layer : Layer}
    {receive : Receive}
    {channel payload : Bytes}
    (located : layer.calls[index]? = some (.receive receive))
    (stage : receive.stage = .done channel payload) :
    redis.afterCommand index layer =
      { pump := Poller.afterReceive redis.pump channel payload
        layer := layer } := by
  obtain ⟨channels, keys, _⟩ := receive
  obtain rfl := stage
  simp [afterCommand, located]

/-- A call that goes on, or has crashed. -/
theorem afterCommand_open
    {redis : RedisPump κ}
    {index : Nat}
    {layer : Layer}
    {receive : Receive}
    (located : layer.calls[index]? = some (.receive receive))
    (unfinished : ∀ channel payload, receive.stage ≠ .done channel payload) :
    redis.afterCommand index layer = { redis with layer := layer } := by
  obtain ⟨channels, keys, stage⟩ := receive
  cases stage with
  | done channel payload => exact absurd rfl (unfinished channel payload)
  | _ => simp [afterCommand, located]

/-- One step of the pump, or of another client. -/
def step (mPrefix : Bytes) (redis : RedisPump κ) :
    RedisPumpLabel →
      Option (RedisPump κ × List (DispatchedTask κ) × List SentMessage)
  | .snapshot =>
      (redis.pump.threadMain (fun _ => []) .snapshot).map fun result =>
        ({ redis with pump := result.pump }, [], [])
  | .receiveMany keys =>
      match redis.pump.thread, redis.call with
      | .receiving channelNames, none =>
          (channelLayer mPrefix redis.layer
            (.startReceive channelNames keys)).map fun result =>
              ({ redis with
                layer := result.1
                call := some redis.layer.calls.length }, [], [])
      | _, _ => none
  | .command =>
      match redis.call with
      | none => none
      | some index =>
          (channelLayer mPrefix redis.layer (.runCommand index)).map fun result =>
            (redis.afterCommand index result.1, [], [])
  | .dispatch =>
      (redis.pump.threadMain (fun _ => []) .dispatch).map fun result =>
        ({ redis with pump := result.pump }, result.task.toList, [])
  | .stop =>
      some ({ redis with pump := { redis.pump with threadStop := true } }, [], [])
  | .client label =>
      if redis.call.any fun index => decide (label = .runCommand index) then none
      else
        (channelLayer mPrefix redis.layer label).map fun result =>
          ({ redis with layer := result.1 }, [], sentMessages result.2)

/-- The cases of one step. -/
inductive Stepped (mPrefix : Bytes) (redis : RedisPump κ) :
    RedisPumpLabel → RedisPump κ → List (DispatchedTask κ) →
      List SentMessage → Prop
  /-- A step of the thread that is not part of `ReceiveMany`. -/
  | outside {label : RedisPumpLabel} {pumpLabel : PumpLabel}
      {result : PumpStep κ}
      (notReceive : ∀ popped, pumpLabel ≠ .receiveMany popped)
      (notReceiving : ∀ channelNames,
        redis.pump.thread ≠ .receiving channelNames)
      (steps : redis.pump.threadMain (fun _ => []) pumpLabel = some result) :
      Stepped mPrefix redis label { redis with pump := result.pump }
        result.task.toList []
  | receiveMany {channelNames keys : List Bytes} {next : Layer}
      {events : List LayerEvent}
      (thread : redis.pump.thread = .receiving channelNames)
      (idle : redis.call = none)
      (steps : channelLayer mPrefix redis.layer
        (.startReceive channelNames keys) = some (next, events)) :
      Stepped mPrefix redis (.receiveMany keys)
        { redis with layer := next, call := some redis.layer.calls.length } [] []
  | command {index : Nat} {next : Layer} {events : List LayerEvent}
      (calling : redis.call = some index)
      (steps : channelLayer mPrefix redis.layer (.runCommand index) =
        some (next, events)) :
      Stepped mPrefix redis .command (redis.afterCommand index next) [] []
  | stop :
      Stepped mPrefix redis .stop
        { redis with pump := { redis.pump with threadStop := true } } [] []
  | client {label : LayerLabel} {next : Layer} {events : List LayerEvent}
      (other : ∀ index, redis.call = some index → label ≠ .runCommand index)
      (steps : channelLayer mPrefix redis.layer label = some (next, events)) :
      Stepped mPrefix redis (.client label) { redis with layer := next } []
        (sentMessages events)

/-- Every step is one of these cases. -/
theorem stepped_of_step
    {mPrefix : Bytes}
    {redis next : RedisPump κ}
    {label : RedisPumpLabel}
    {items : List (DispatchedTask κ)}
    {shown : List SentMessage}
    (steps : redis.step mPrefix label = some (next, items, shown)) :
    Stepped mPrefix redis label next items shown := by
  cases label with
  | snapshot =>
      obtain ⟨result, found, equal⟩ := Option.map_eq_some_iff.mp steps
      cases equal
      have noTask : result.task.toList = [] := by
        cases ResponsePump.threadMain_stepped found <;> rfl
      have notReceive : ∀ popped, PumpLabel.snapshot ≠ .receiveMany popped :=
        nofun
      rw [← noTask]
      refine .outside notReceive ?_ found
      cases ResponsePump.threadMain_stepped found <;> simp_all
  | receiveMany keys =>
      simp only [step] at steps
      split at steps
      next channelNames thread idle =>
        obtain ⟨⟨layer, events⟩, found, equal⟩ := Option.map_eq_some_iff.mp steps
        cases equal
        exact .receiveMany thread idle found
      next => cases steps
  | command =>
      simp only [step] at steps
      split at steps
      next => cases steps
      next index calling =>
        obtain ⟨⟨layer, events⟩, found, equal⟩ := Option.map_eq_some_iff.mp steps
        cases equal
        exact .command calling found
  | dispatch =>
      obtain ⟨result, found, equal⟩ := Option.map_eq_some_iff.mp steps
      cases equal
      have notReceive : ∀ popped, PumpLabel.dispatch ≠ .receiveMany popped :=
        nofun
      refine .outside notReceive ?_ found
      cases ResponsePump.threadMain_stepped found <;> simp_all
  | stop =>
      cases steps
      exact .stop
  | client label =>
      simp only [step] at steps
      split at steps
      next => cases steps
      next notOwn =>
        obtain ⟨⟨layer, events⟩, found, equal⟩ := Option.map_eq_some_iff.mp steps
        cases equal
        refine .client (fun index calling same => notOwn ?_) found
        simp [calling, same]

end RedisPump

/-- The pump over the Redis channel layer. -/
def redisPump (κ : Type) (mPrefix : Bytes) :
    EventMachine.Component (RedisPump κ) RedisPumpLabel SentMessage
      (PumpRequest κ) (DispatchedTask κ) where
  accept redis request := { redis with pump := redis.pump.accept request }
  step := RedisPump.step mPrefix

/-! ## Undisturbed steps -/

section Undisturbed

variable {κ : Type}
variable (mPrefix : Bytes)
variable (isPrivate : Bytes → Prop)

/-- A channel that only the pump receives from, with a regular name. -/
def OwnChannel (channel : Bytes) : Prop :=
  isPrivate channel ∧ RegularName channel

/-- Registrations are for such channels. -/
def OwnRequest : PumpRequest κ → Prop
  | .addChannel channel _ => OwnChannel isPrivate channel
  | .removeChannel _ => True

/-- Orderly calls, of which no key expires, and other receivers that keep away
from the channels of the pump. -/
def RedisPump.Undisturbed (redis : RedisPump κ) : RedisPumpLabel → Prop
  | .command => ∀ index, redis.call = some index →
      RedisChannelLayer.Undisturbed mPrefix redis.layer (.runCommand index)
  | .client label =>
      RedisChannelLayer.Undisturbed mPrefix redis.layer label ∧
        ∀ channels keys, label = .startReceive channels keys →
          ∀ channel ∈ channels, ¬ isPrivate channel
  | _ => True

end Undisturbed

/-- Whether `ReceiveMany` is called. -/
def RedisChannelLayer.LayerLabel.receives : LayerLabel → Bool
  | .startReceive .. => true
  | _ => false

/-- Successful commands at no cost of time, and no other receiver. -/
def RedisPump.Clear {κ : Type} (mPrefix : Bytes) (redis : RedisPump κ) :
    RedisPumpLabel → Prop
  | .command => ∀ index ∈ redis.call,
      Orderly mPrefix redis.layer (.runCommand index)
  | .client label => (Orderly mPrefix redis.layer label ∧ label.atOnce = true) ∧
      label.receives = false
  | _ => True

instance {κ : Type} (mPrefix : Bytes) (redis : RedisPump κ) (label : RedisPumpLabel) :
    Decidable (redis.Clear mPrefix label) :=
  match label with
  | .command => inferInstanceAs (Decidable (∀ index ∈ redis.call,
      Orderly mPrefix redis.layer (.runCommand index)))
  | .client label => inferInstanceAs (Decidable ((Orderly mPrefix redis.layer
      label ∧ label.atOnce = true) ∧ label.receives = false))
  | .snapshot => .isTrue trivial
  | .receiveMany _ => .isTrue trivial
  | .dispatch => .isTrue trivial
  | .stop => .isTrue trivial

theorem RedisPump.undisturbed_of_clear
    {κ : Type}
    {mPrefix : Bytes}
    {redis : RedisPump κ}
    {label : RedisPumpLabel}
    (isPrivate : Bytes → Prop)
    (clear : redis.Clear mPrefix label) :
    redis.Undisturbed mPrefix isPrivate label := by
  cases label with
  | command =>
      intro index calling
      exact undisturbed_of_atOnce ⟨clear index calling, rfl⟩
  | client label =>
      refine ⟨undisturbed_of_atOnce clear.1, ?_⟩
      rintro channels keys rfl
      cases clear.2
  | _ => trivial

/-! ## Steps of the channel layer -/

namespace RedisChannelLayer

variable {mPrefix : Bytes}
variable {layer next : Layer}
variable {label : LayerLabel}
variable {events : List LayerEvent}

@[simp] theorem Receive.advance_channels
    (mPrefix : Bytes) (reply : Option Redis.Reply) (receive : Receive) :
    (receive.advance mPrefix reply).channels = receive.channels := by
  unfold Receive.advance
  split <;> rfl

/-- A call stays as it is while others go on. -/
theorem LayerStep.call_other
    {index : Nat}
    {call : Call}
    (steps : LayerStep mPrefix layer label next events)
    (located : layer.calls[index]? = some call)
    (other : label ≠ .runCommand index) :
    next.calls[index]? = some call := by
  have inside := (List.getElem?_eq_some_iff.mp located).1
  cases steps with
  | startSend generated =>
      rwa [List.getElem?_append_left inside]
  | startReceive shuffled =>
      rwa [List.getElem?_append_left inside]
  | @send current send command found issues =>
      rwa [List.getElem?_set_ne fun same => other (by rw [same])]
  | @receive current receive command found issues =>
      rwa [List.getElem?_set_ne fun same => other (by rw [same])]
  | elapse => exact located

/-- A `ReceiveMany` that has not popped yet has just been called, or it was
there. -/
theorem LayerStep.receive_pop
    {index : Nat}
    {receive : Receive}
    (steps : LayerStep mPrefix layer label next events)
    (located : next.calls[index]? = some (.receive receive))
    (stage : receive.stage = .pop) :
    layer.calls[index]? = some (.receive receive) ∨
      index = layer.calls.length ∧ ∃ keys,
        label = .startReceive receive.channels keys := by
  cases steps with
  | startSend generated =>
      rcases getElem?_append_singleton located with before | ⟨-, isNew⟩
      · exact .inl before
      · cases isNew
  | startReceive shuffled =>
      rcases getElem?_append_singleton located with before | ⟨last, isNew⟩
      · exact .inl before
      · cases isNew
        exact .inr ⟨last, _, rfl⟩
  | @send current send command found issues =>
      rcases getElem?_set_cases located with ⟨-, isNew⟩ | ⟨-, before⟩
      · cases isNew
      · exact .inl before
  | @receive current receive command found issues =>
      rcases getElem?_set_cases located with ⟨-, isNew⟩ | ⟨-, before⟩
      · cases isNew
        cases atStage : receive.stage with
        | pop =>
            rw [Receive.advance, atStage] at stage
            exact absurd stage (Poller.afterPop_ne_pop _ _)
        | get channel item =>
            rw [Receive.advance, atStage] at stage
            rcases Poller.afterGet_cases channel
              (some (layer.db.execute command).2) with crashed | ⟨_, _, done⟩
            · simp [crashed] at stage
            · simp [done] at stage
        | done channel payload => simp [Receive.advance, atStage] at stage
        | crashed => simp [Receive.advance, atStage] at stage
      · exact .inl before
  | elapse => exact .inl located

/-- What a step shows: a push, what a `ReceiveMany` shows, or nothing. -/
theorem LayerStep.shown
    (steps : LayerStep mPrefix layer label next events) :
    events = [] ∨
      (∃ index channel item payload,
        events = [.pushed index channel item payload]) ∨
      ∃ index receive command, label = .runCommand index ∧
        layer.calls[index]? = some (.receive receive) ∧
        receive.command = some command ∧
        events = receiveEvents index layer.db receive
          (receive.advance mPrefix (some (layer.db.execute command).2))
          (layer.db.execute command).2 := by
  cases steps with
  | startSend generated => exact .inl rfl
  | startReceive shuffled => exact .inl rfl
  | @send index send command found issues =>
      unfold sendEvents
      split
      · exact .inr (.inl ⟨_, _, _, _, rfl⟩)
      · exact .inl rfl
  | @receive index receive command found issues =>
      exact .inr (.inr ⟨index, receive, command, rfl, found, issues, rfl⟩)
  | elapse => exact .inl rfl

end RedisChannelLayer

/-! ## The pump over queues in its place -/

/-- Where the thread of the pump over queues is: where the thread over Redis is,
or, between its two commands, in possession of the message. -/
inductive ThreadMirrors {κ : Type} (redis : RedisPump κ) : PumpThread → Prop
  | same (outside : redis.call = none) : ThreadMirrors redis redis.pump.thread
  | polling {index : Nat} {receive : Receive}
      (calling : redis.call = some index)
      (thread : redis.pump.thread = .receiving receive.channels)
      (located : redis.layer.calls[index]? = some (.receive receive))
      (stage : receive.stage = .pop ∨ receive.stage = .crashed) :
      ThreadMirrors redis (.receiving receive.channels)
  | fetching {index sender : Nat} {receive : Receive} {send : Send}
      {channel : Bytes}
      (calling : redis.call = some index)
      (thread : redis.pump.thread = .receiving receive.channels)
      (located : redis.layer.calls[index]? = some (.receive receive))
      (stage : receive.stage = .get channel send.dataKey)
      (sent : redis.layer.calls[sender]? = some (.send send))
      (stored : send.stage ≠ .set) :
      ThreadMirrors redis (.received channel send.buffer)

/-- A call that is about to pop. -/
theorem ThreadMirrors.of_pop
    {κ : Type}
    {redis : RedisPump κ}
    {place : PumpThread}
    {index : Nat}
    {receive : Receive}
    (mirrored : ThreadMirrors redis place)
    (calling : redis.call = some index)
    (located : redis.layer.calls[index]? = some (.receive receive))
    (stage : receive.stage = .pop) :
    place = .receiving receive.channels := by
  cases mirrored with
  | same idle => simp [calling] at idle
  | polling isCalling thread isLocated =>
      obtain rfl := Option.some.inj (calling.symm.trans isCalling)
      obtain rfl : receive = _ := by simpa [located] using isLocated
      rfl
  | fetching isCalling thread isLocated atGet =>
      obtain rfl := Option.some.inj (calling.symm.trans isCalling)
      obtain rfl : receive = _ := by simpa [located] using isLocated
      simp [stage] at atGet

/-- A call that has popped. -/
theorem ThreadMirrors.of_get
    {κ : Type}
    {redis : RedisPump κ}
    {place : PumpThread}
    {index : Nat}
    {receive : Receive}
    {channel item : Bytes}
    (mirrored : ThreadMirrors redis place)
    (calling : redis.call = some index)
    (located : redis.layer.calls[index]? = some (.receive receive))
    (stage : receive.stage = .get channel item) :
    ∃ (sender : Nat) (send : Send),
      redis.layer.calls[sender]? = some (.send send) ∧ send.stage ≠ .set ∧
        send.dataKey = item ∧ place = .received channel send.buffer := by
  cases mirrored with
  | same idle => simp [calling] at idle
  | polling isCalling thread isLocated atPop =>
      obtain rfl := Option.some.inj (calling.symm.trans isCalling)
      obtain rfl : receive = _ := by simpa [located] using isLocated
      simp [stage] at atPop
  | fetching isCalling thread isLocated atGet sent stored =>
      obtain rfl := Option.some.inj (calling.symm.trans isCalling)
      obtain rfl : receive = _ := by simpa [located] using isLocated
      rw [stage] at atGet
      cases atGet
      exact ⟨_, _, sent, stored, rfl, rfl⟩

/-- Whoever is about to pop, except for one call, keeps away from the channels
of the pump. -/
def KeepsAway
    (isPrivate : Bytes → Prop) (call : Option Nat) (layer : Layer) : Prop :=
  ∀ (index : Nat) (receive : Receive),
    layer.calls[index]? = some (.receive receive) → receive.stage = .pop →
    call = some index ∨ ∀ channel ∈ receive.channels, ¬ isPrivate channel

/-- The queues of the channels of the pump hold what has been sent to them and
not popped. -/
def QueuesAccount
    (mPrefix : Bytes)
    (isPrivate : Bytes → Prop)
    (trace : List LayerEvent)
    (queues : ChannelQueues) : Prop :=
  ∀ channel, isPrivate channel →
    poppedFrom mPrefix channel trace ++ (queues channel).map some =
      (sentTo channel trace).map some

/-- The pump over Redis looks to its handlers like a pump over queues, which
hold what has been sent to the channels of the pump and not popped. -/
structure Mirrors
    {κ : Type}
    (mPrefix : Bytes)
    (isPrivate : Bytes → Prop)
    (trace : List LayerEvent)
    (redis : RedisPump κ)
    (image : ResponsePump κ × ChannelQueues) : Prop where
  delivering : Delivering mPrefix trace redis.layer
  pump : image.1 = { redis.pump with thread := image.1.thread }
  thread : ThreadMirrors redis image.1.thread
  registered : ∀ channel, (redis.pump.registered channel).isSome →
    OwnChannel isPrivate channel
  polled : ∀ channelNames, redis.pump.thread = .receiving channelNames →
    ∀ channel ∈ channelNames, OwnChannel isPrivate channel
  others : KeepsAway isPrivate redis.call redis.layer
  queues : QueuesAccount mPrefix isPrivate trace image.2

/-- Steps of the thread that do not receive do nothing to the queues. -/
theorem ResponsePump.threadMain_queues
    {κ : Type}
    (pump : ResponsePump κ)
    (queues others : ChannelQueues)
    {label : PumpLabel}
    (notReceive : ∀ popped, label ≠ .receiveMany popped) :
    pump.threadMain queues label =
      (pump.threadMain others label).map fun result =>
        { result with queues := queues } := by
  cases label with
  | snapshot =>
      simp only [threadMain]
      split
      · split
        · rfl
        · split <;> rfl
      · rfl
  | receiveMany popped => exact absurd rfl (notReceive popped)
  | dispatch =>
      simp only [threadMain]
      split
      · split <;> rfl
      · rfl

namespace RedisChannelLayer

variable {mPrefix channel : Bytes}
variable {trace events : List LayerEvent}

@[simp] theorem sentTo_append :
    sentTo channel (trace ++ events) =
      sentTo channel trace ++ sentTo channel events :=
  List.filterMap_append

@[simp] theorem poppedFrom_append :
    poppedFrom mPrefix channel (trace ++ events) =
      poppedFrom mPrefix channel trace ++ poppedFrom mPrefix channel events :=
  List.filterMap_append

/-- The first message of a queue is what was popped. -/
theorem Delivering.queue_of_popped
    {layer : Layer}
    {queue : List Bytes}
    {index : Nat}
    {item payload : Bytes}
    (delivering : Delivering mPrefix
      (trace ++ [.popped index (mPrefix ++ channel) item (some payload)]) layer)
    (accounts : poppedFrom mPrefix channel trace ++ queue.map some =
      (sentTo channel trace).map some) :
    ∃ rest, queue = payload :: rest := by
  have first : poppedFrom mPrefix channel
      (trace ++ [.popped index (mPrefix ++ channel) item (some payload)]) <+:
      (sentTo channel
        (trace ++ [.popped index (mPrefix ++ channel) item (some payload)])).map
        some := by
    rw [← pops_payloads, ← pushes_payloads]
    exact (delivering.queues.pops_first _).map Prod.snd
  have front : [some payload] <+: queue.map some := by
    rw [sentTo_append, List.map_append, ← accounts, poppedFrom_append] at first
    simpa [poppedFrom, sentTo, List.append_assoc] using first
  obtain ⟨rest, equal⟩ := front
  cases queue with
  | nil => simp at equal
  | cons data queue =>
      rw [List.map_cons, List.cons_append, List.nil_append, List.cons.injEq]
        at equal
      obtain rfl := Option.some.inj equal.1
      exact ⟨queue, rfl⟩

end RedisChannelLayer

namespace Mirrors

variable {κ : Type}
variable {mPrefix : Bytes}
variable {isPrivate : Bytes → Prop}
variable {trace : List LayerEvent}
variable {redis : RedisPump κ}
variable {image : ResponsePump κ × ChannelQueues}

/-- Outside of `ReceiveMany` the two threads are at the same place. -/
theorem thread_eq
    (mirrors : Mirrors mPrefix isPrivate trace redis image)
    (outside : ∀ channelNames, redis.pump.thread ≠ .receiving channelNames) :
    redis.call = none ∧ image.1 = redis.pump := by
  have pump := mirrors.pump
  generalize place : image.1.thread = thread at pump
  have mirrored := mirrors.thread
  rw [place] at mirrored
  cases mirrored with
  | same idle => exact ⟨idle, pump⟩
  | polling calling thread located stage => exact absurd thread (outside _)
  | fetching calling thread located stage sent stored =>
      exact absurd thread (outside _)

/-- A change of the callbacks or of the flag. -/
theorem around
    {pump imagePump : ResponsePump κ}
    (mirrors : Mirrors mPrefix isPrivate trace redis image)
    (thread : pump.thread = redis.pump.thread)
    (imageThread : imagePump.thread = image.1.thread)
    (same : imagePump = { pump with thread := imagePump.thread })
    (registered : ∀ channel, (pump.registered channel).isSome →
      OwnChannel isPrivate channel) :
    Mirrors mPrefix isPrivate trace { redis with pump := pump }
      (imagePump, image.2) where
  delivering := mirrors.delivering
  pump := same
  thread := by
    rw [imageThread]
    have mirrored := mirrors.thread
    generalize image.1.thread = place at mirrored
    cases mirrored with
    | same idle =>
        rw [← thread]
        exact .same idle
    | polling calling atThread located stage =>
        exact .polling calling (thread.trans atThread) located stage
    | fetching calling atThread located stage sent stored =>
        exact .fetching calling (thread.trans atThread) located stage sent stored
  registered := registered
  polled channelNames receiving :=
    mirrors.polled channelNames (thread.symm.trans receiving)
  others := mirrors.others
  queues := mirrors.queues

theorem accept
    (mirrors : Mirrors mPrefix isPrivate trace redis image)
    (request : PumpRequest κ)
    (admitted : OwnRequest isPrivate request) :
    Mirrors mPrefix isPrivate trace
      { redis with pump := redis.pump.accept request }
      (image.1.accept request, image.2) := by
  refine mirrors.around (by simp) (by simp) ?_ ?_
  · rw [mirrors.pump]
    cases request <;> rfl
  · intro channel found
    cases request with
    | addChannel added callback =>
        by_cases same : channel = added
        · rw [same]
          exact admitted
        · rw [ResponsePump.accept,
            ResponsePump.registered_addChannel_ne _ _ same] at found
          exact mirrors.registered channel found
    | removeChannel removed =>
        by_cases same : channel = removed
        · rw [same, ResponsePump.accept,
            ResponsePump.registered_removeChannel] at found
          contradiction
        · rw [ResponsePump.accept,
            ResponsePump.registered_removeChannel_ne _ same] at found
          exact mirrors.registered channel found

/-- A step of the thread outside of `ReceiveMany` is one of the pump over
queues, with the same task. -/
theorem outside
    {label : PumpLabel}
    {result : PumpStep κ}
    (mirrors : Mirrors mPrefix isPrivate trace redis image)
    (notReceive : ∀ popped, label ≠ .receiveMany popped)
    (notReceiving : ∀ channelNames, redis.pump.thread ≠ .receiving channelNames)
    (steps : redis.pump.threadMain (fun _ => []) label = some result) :
    ∃ imageNext, (queuePump κ).step image (.pump label) =
        some (imageNext, result.task.toList, []) ∧
      Mirrors mPrefix isPrivate trace { redis with pump := result.pump }
        imageNext := by
  obtain ⟨idle, same⟩ := mirrors.thread_eq notReceiving
  refine ⟨(result.pump, image.2), ?_, ?_⟩
  · obtain ⟨pump, queues⟩ := image
    obtain rfl : pump = redis.pump := same
    simp [queuePump, ResponsePump.threadMain_queues redis.pump queues
      (fun _ => []) notReceive, steps]
  · have stepped := ResponsePump.threadMain_stepped steps
    have kept : (∀ channel, (result.pump.registered channel).isSome →
          (redis.pump.registered channel).isSome) ∧
        ∀ channelNames, result.pump.thread = .receiving channelNames →
          channelNames = redis.pump.callbacks.keys := by
      cases stepped with
      | exit => exact ⟨fun _ found => found, nofun⟩
      | idle atHead =>
          exact ⟨fun _ found => found, fun _ receiving =>
            absurd receiving (notReceiving _)⟩
      | snapshot => exact ⟨fun _ found => found, fun _ receiving => by
          cases receiving
          rfl⟩
      | nothing => exact absurd rfl (notReceive _)
      | receive => exact absurd rfl (notReceive _)
      | discard => exact absurd rfl (notReceive _)
      | dispatch channel data callback holding found =>
          refine ⟨fun other isFound => ?_, nofun⟩
          by_cases same : other = channel
          · rw [same, found]
            rfl
          · rwa [← ResponsePump.registered_removeChannel_ne redis.pump same]
      | drop => exact ⟨fun _ found => found, nofun⟩
    exact {
      delivering := mirrors.delivering
      pump := rfl
      thread := .same idle
      registered := fun channel found =>
        mirrors.registered channel (kept.1 channel found)
      polled := fun channelNames receiving channel member => by
        rw [kept.2 channelNames receiving] at member
        exact mirrors.registered channel
          ((redis.pump.mem_keys_iff channel).mp member)
      others := mirrors.others
      queues := mirrors.queues }

/-- The thread calls `ReceiveMany`. -/
theorem receiveMany
    {channelNames keys : List Bytes}
    {next : Layer}
    {events : List LayerEvent}
    (mirrors : Mirrors mPrefix isPrivate trace redis image)
    (thread : redis.pump.thread = .receiving channelNames)
    (idle : redis.call = none)
    (steps : channelLayer mPrefix redis.layer
      (.startReceive channelNames keys) = some (next, events)) :
    Mirrors mPrefix isPrivate (trace ++ events)
      { redis with layer := next, call := some redis.layer.calls.length }
      image := by
  have layerStep := layerStep_of_channelLayer steps
  have regular : RedisChannelLayer.Undisturbed mPrefix redis.layer
      (.startReceive channelNames keys) :=
    ⟨trivial, fun channel member =>
      (mirrors.polled channelNames thread channel member).2⟩
  have delivering := mirrors.delivering.step regular layerStep
  cases layerStep with
  | startReceive shuffled =>
      exact {
        delivering := delivering
        pump := mirrors.pump
        thread := by
          have mirrored := mirrors.thread
          generalize image.1.thread = place at mirrored
          cases mirrored with
          | same outside =>
              rw [thread]
              let receive : Receive := { channels := channelNames, keys := keys }
              change ThreadMirrors _ (.receiving receive.channels)
              exact .polling rfl thread List.getElem?_concat_length (.inl rfl)
          | polling calling => simp [idle] at calling
          | fetching calling => simp [idle] at calling
        registered := mirrors.registered
        polled := mirrors.polled
        others := fun index receive located stage => by
          rcases getElem?_append_singleton located with before | ⟨last, -⟩
          · rcases mirrors.others index receive before stage with
              calling | away
            · simp [idle] at calling
            · exact .inr away
          · exact .inl (congrArg some last.symm)
        queues := by simpa [QueuesAccount] using mirrors.queues }

/-- A step of another client sends a message to a channel, or it does nothing to
the channels of the pump. -/
theorem client
    {label : LayerLabel}
    {next : Layer}
    {events : List LayerEvent}
    (mirrors : Mirrors mPrefix isPrivate trace redis image)
    (undisturbed : RedisChannelLayer.Undisturbed mPrefix redis.layer label)
    (away : ∀ channels keys, label = .startReceive channels keys →
      ∀ channel ∈ channels, ¬ isPrivate channel)
    (other : ∀ index, redis.call = some index → label ≠ .runCommand index)
    (steps : channelLayer mPrefix redis.layer label = some (next, events)) :
    (sentMessages events = [] ∧
        Mirrors mPrefix isPrivate (trace ++ events)
          { redis with layer := next } image) ∨
      ∃ channel data, sentMessages events = [⟨channel, data⟩] ∧
        Mirrors mPrefix isPrivate (trace ++ events)
          { redis with layer := next } (image.1, image.2.send channel data) := by
  have layerStep := layerStep_of_channelLayer steps
  have delivering := mirrors.delivering.step undisturbed layerStep
  have thread : ThreadMirrors { redis with layer := next } image.1.thread := by
    have mirrored := mirrors.thread
    generalize image.1.thread = place at mirrored
    cases mirrored with
    | same idle => exact .same idle
    | polling calling atThread located stage =>
        exact .polling calling atThread
          (layerStep.call_other located (other _ calling)) stage
    | @fetching index sender receive send channel calling atThread located
        stage sent stored =>
        obtain ⟨later, found, dataKey, -, buffer, -, stays⟩ :=
          layerStep.send_after sent
        rw [← buffer]
        exact .fetching calling atThread
          (layerStep.call_other located (other _ calling))
          (by rw [dataKey]; exact stage) found (stays stored)
  have others : KeepsAway isPrivate redis.call next := by
    intro index receive located stage
    rcases layerStep.receive_pop located stage with before | ⟨-, keys, isNew⟩
    · exact mirrors.others index receive before stage
    · exact .inr (away _ _ isNew)
  have keeps : ∀ queues, QueuesAccount mPrefix isPrivate (trace ++ events) queues →
      Mirrors mPrefix isPrivate (trace ++ events) { redis with layer := next }
        (image.1, queues) := fun queues accounts => {
    delivering := delivering
    pump := mirrors.pump
    thread := thread
    registered := mirrors.registered
    polled := mirrors.polled
    others := others
    queues := accounts }
  rcases layerStep.shown with
    rfl | ⟨index, channel, item, payload, rfl⟩ |
      ⟨index, receive, command, rfl, located, issues, rfl⟩
  · exact .inl ⟨rfl, keeps image.2 (by simpa [QueuesAccount] using mirrors.queues)⟩
  · refine .inr ⟨channel, payload, rfl, keeps _ fun named isOwn => ?_⟩
    have before := mirrors.queues named isOwn
    rw [sentTo_append, List.map_append, ← before]
    by_cases same : channel = named
    · subst same
      simp [poppedFrom, sentTo]
    · simp [poppedFrom, sentTo, same,
        ChannelQueues.send_ne image.2 payload (Ne.symm same)]
  · refine .inl ?_
    have received := mirrors.delivering.stocked.receiveStep
      (mirrors.delivering.receives located) issues
    generalize receiveEvents index redis.layer.db receive
      (receive.advance mPrefix (some (redis.layer.db.execute command).2))
      (redis.layer.db.execute command).2 = shown at received keeps ⊢
    generalize (receive.advance mPrefix
      (some (redis.layer.db.execute command).2)).stage = after at received
    cases received with
    | @popped named sender send start asked sent begun =>
        refine ⟨rfl, keeps image.2 fun channel isOwn => ?_⟩
        have foreign : ¬ isPrivate named := by
          rcases mirrors.others index receive located start with calling | isAway
          · exact absurd rfl (other index calling)
          · exact isAway named asked
        have different : named ≠ channel := fun same =>
          foreign (same ▸ isOwn)
        simpa [poppedFrom, sentTo, different] using mirrors.queues channel isOwn
    | empty start =>
        exact ⟨rfl, keeps image.2 (by
          simpa [QueuesAccount, poppedFrom, sentTo] using mirrors.queues)⟩
    | refused start =>
        exact ⟨rfl, keeps image.2 (by
          simpa [QueuesAccount] using mirrors.queues)⟩
    | got stage held =>
        exact ⟨rfl, keeps image.2 (by
          simpa [QueuesAccount, poppedFrom, sentTo] using mirrors.queues)⟩

/-- What comes of the pump when its call goes on. -/
theorem goesOn
    {next : Layer}
    {later : List LayerEvent}
    {place : PumpThread}
    {queues : ChannelQueues}
    (mirrors : Mirrors mPrefix isPrivate trace redis image)
    (delivering : Delivering mPrefix later next)
    (thread : ThreadMirrors { redis with layer := next } place)
    (others : KeepsAway isPrivate redis.call next)
    (accounts : QueuesAccount mPrefix isPrivate later queues) :
    Mirrors mPrefix isPrivate later { redis with layer := next }
      ({ image.1 with thread := place }, queues) where
  delivering := delivering
  pump := by
    rw [mirrors.pump]
  thread := thread
  registered := mirrors.registered
  polled := mirrors.polled
  others := others
  queues := accounts

/-- What comes of it when the call returns. -/
theorem returns
    {next : Layer}
    {later : List LayerEvent}
    (mirrors : Mirrors mPrefix isPrivate trace redis image)
    (channel payload : Bytes)
    (delivering : Delivering mPrefix later next)
    (others : KeepsAway isPrivate none next)
    (accounts : QueuesAccount mPrefix isPrivate later image.2) :
    Mirrors mPrefix isPrivate later
      { pump := Poller.afterReceive redis.pump channel payload, layer := next }
      ({ image.1 with
          thread := (Poller.afterReceive redis.pump channel payload).thread },
        image.2) where
  delivering := delivering
  pump := by
    rw [mirrors.pump]
    rfl
  thread := .same rfl
  registered := mirrors.registered
  polled channelNames receiving := by
    simp only [Poller.afterReceive] at receiving
    split at receiving <;> cases receiving
  others := others
  queues := accounts

/-- A command of the call: the pop is a step of the pump over queues, and so is
the return of a call that has popped nothing. -/
theorem command
    {index : Nat}
    {next : Layer}
    {events : List LayerEvent}
    (mirrors : Mirrors mPrefix isPrivate trace redis image)
    (calling : redis.call = some index)
    (undisturbed : RedisChannelLayer.Undisturbed mPrefix redis.layer
      (.runCommand index))
    (steps : channelLayer mPrefix redis.layer (.runCommand index) =
      some (next, events)) :
    Mirrors mPrefix isPrivate (trace ++ events)
        (redis.afterCommand index next) image ∨
      ∃ popped imageNext,
        (queuePump κ).step image (.pump (.receiveMany popped)) =
          some (imageNext, [], []) ∧
        Mirrors mPrefix isPrivate (trace ++ events)
          (redis.afterCommand index next) imageNext := by
  have layerStep := layerStep_of_channelLayer steps
  have delivering := mirrors.delivering.step undisturbed layerStep
  have others : KeepsAway isPrivate redis.call next := by
    intro other receive located stage
    rcases layerStep.receive_pop located stage with before | ⟨-, _, isNew⟩
    · exact mirrors.others other receive before stage
    · cases isNew
  obtain ⟨receive, located, thread⟩ :
      ∃ receive, redis.layer.calls[index]? = some (.receive receive) ∧
        redis.pump.thread = .receiving receive.channels := by
    have mirrored := mirrors.thread
    generalize image.1.thread = place at mirrored
    cases mirrored with
    | same idle => simp [calling] at idle
    | polling isCalling thread located =>
        obtain rfl := Option.some.inj (calling.symm.trans isCalling)
        exact ⟨_, located, thread⟩
    | fetching isCalling thread located =>
        obtain rfl := Option.some.inj (calling.symm.trans isCalling)
        exact ⟨_, located, thread⟩
  cases layerStep with
  | send found issues => simp [located] at found
  | @receive _ _ command found issues =>
      obtain rfl : receive = _ := by simpa [located] using found
      have after : (redis.layer.calls.set index (.receive (receive.advance
          mPrefix (some (redis.layer.db.execute command).2))))[index]? =
          some (.receive (receive.advance mPrefix
            (some (redis.layer.db.execute command).2))) :=
        List.getElem?_set_self (List.getElem?_eq_some_iff.mp located).1
      have received := mirrors.delivering.stocked.receiveStep
        (mirrors.delivering.receives located) issues
      obtain ⟨-, regular, -⟩ := mirrors.delivering.receives located
      generalize (redis.layer.db.execute command).1 = db,
        (redis.layer.db.execute command).2 = reply
        at received delivering others after
      generalize receiveEvents index redis.layer.db receive
        (receive.advance mPrefix (some reply)) reply = shown
        at received delivering
      have channels : (receive.advance mPrefix (some reply)).channels =
          receive.channels := by simp
      generalize receive.advance mPrefix (some reply) = advanced
        at received delivering others after channels
      generalize atStage : advanced.stage = stage at received
      have notPop : stage ≠ .pop → KeepsAway isPrivate none
          { db := db
            calls := redis.layer.calls.set index (.receive advanced) } := by
        intro different other later isLocated isPop
        rcases others other later isLocated isPop with isCalling | away
        · obtain rfl := Option.some.inj (calling.symm.trans isCalling)
          obtain rfl : advanced = later := by simpa [after] using isLocated
          exact absurd (atStage.symm.trans isPop) different
        · exact .inr away
      have stillOpen : (∀ channel payload, stage ≠ .done channel payload) →
          redis.afterCommand index
              { db := db
                calls := redis.layer.calls.set index (.receive advanced) } =
            { redis with layer :=
              { db := db
                calls := redis.layer.calls.set index (.receive advanced) } } :=
        fun unfinished => RedisPump.afterCommand_open after
          (by rwa [atStage])
      cases received with
      | @popped channel sender send start asked sent begun =>
          obtain ⟨isPrivate', nonempty, -⟩ :=
            mirrors.polled _ thread channel asked
          have place := mirrors.thread.of_pop calling located start
          obtain ⟨rest, queue⟩ :=
            delivering.queue_of_popped (mirrors.queues channel isPrivate')
          rw [stillOpen (by simp)]
          refine .inr ⟨some channel, ({ image.1 with
              thread := .received channel send.buffer },
            Function.update image.2 channel rest), ?_, ?_⟩
          · simp [queuePump, ResponsePump.threadMain, place, queue, asked,
              nonempty]
          · have different : index ≠ sender := by
              rintro rfl
              simp [located] at sent
            have sentStill : (redis.layer.calls.set index
                (.receive advanced))[sender]? = some (.send send) := by
              rwa [List.getElem?_set_ne different]
            refine mirrors.goesOn delivering (.fetching calling
              (thread.trans (congrArg _ channels.symm)) after atStage sentStill
              begun) others fun named isOwn => ?_
            have before := mirrors.queues named isOwn
            by_cases same : named = channel
            · subst same
              rw [queue] at before
              simpa [poppedFrom, sentTo] using before
            · simpa [poppedFrom, sentTo, same, Ne.symm same] using before
      | empty start =>
          rw [RedisPump.afterCommand_done after atStage]
          have place := mirrors.thread.of_pop calling located start
          refine .inr ⟨none, _, ?_, mirrors.returns [] [] delivering
            (notPop (by simp)) (by
              simpa [QueuesAccount, poppedFrom, sentTo] using mirrors.queues)⟩
          simp [queuePump, ResponsePump.threadMain, place, Poller.afterReceive]
      | refused start =>
          rw [stillOpen (by simp)]
          have place := mirrors.thread.of_pop calling located start
          have result := mirrors.goesOn delivering
            (.polling calling (thread.trans (congrArg _ channels.symm)) after
              (.inr atStage)) others
            (by simpa [QueuesAccount] using mirrors.queues)
          rw [channels, ← place] at result
          exact .inl result
      | @got channel item payload stage held =>
          rw [RedisPump.afterCommand_done after atStage]
          obtain ⟨sender, send, sent, stored, rfl, place⟩ :=
            mirrors.thread.of_get calling located stage
          obtain ⟨asked, -⟩ := (mirrors.delivering.receives located).2.2 _ _ stage
          obtain ⟨nonempty, -⟩ := regular channel asked
          have same : send.buffer = payload := by
            simpa [mirrors.delivering.stocked.stored sent stored] using held
          have result := mirrors.returns channel payload delivering
            (notPop (by simp)) (by
              simpa [QueuesAccount, poppedFrom, sentTo] using mirrors.queues)
          rw [Poller.afterReceive, if_neg nonempty, ← same, ← place] at result
          rw [Poller.afterReceive, if_neg nonempty, ← same, ← place]
          exact .inl result

end Mirrors

/-- At the start there is nothing to deliver. -/
theorem RedisChannelLayer.delivering_initial (mPrefix : Bytes) :
    Delivering mPrefix [] {} where
  stocked := ⟨⟨by simp, by simp⟩, by simp, by simp,
    by simp [Redis.Database.itemsAt, Redis.Database.find]⟩
  queues := .start
  pushedOnce := List.nodup_nil
  pushers := by simp [operations]
  receives := by simp
  results := by simp
  returners := by simp [returnedCalls]
  returnedOnce := List.nodup_nil

/-- At the start nothing has been sent. -/
theorem mirrors_initial {κ : Type} (mPrefix : Bytes) (isPrivate : Bytes → Prop) :
    Mirrors mPrefix isPrivate [] ({} : RedisPump κ) ({}, fun _ => []) where
  delivering := delivering_initial mPrefix
  pump := rfl
  thread := .same rfl
  registered := by simp
  polled := nofun
  others := by simp [KeepsAway]
  queues := by simp [QueuesAccount, poppedFrom, sentTo]

/-- The pump over the Redis channel layer refines the pump over queues. -/
theorem redisPump_refines {κ : Type} (mPrefix : Bytes) (isPrivate : Bytes → Prop) :
    (redisPump κ mPrefix).Refines (queuePump κ)
      (RedisPump.Undisturbed mPrefix isPrivate) EventMachine.always
      (OwnRequest isPrivate)
      (fun redis image => ∃ trace, Mirrors mPrefix isPrivate trace redis image)
    where
  accept := by
    rintro redis image request ⟨trace, mirrors⟩ admitted
    exact ⟨trace, mirrors.accept request admitted⟩
  step := by
    rintro redis image label next items shown ⟨trace, mirrors⟩ undisturbed
      pumpSteps
    have stepped := RedisPump.stepped_of_step pumpSteps
    clear pumpSteps
    cases stepped with
    | outside notReceive notReceiving steps =>
        obtain ⟨imageNext, imageSteps, mirrorsNext⟩ :=
          mirrors.outside notReceive notReceiving steps
        exact .inr ⟨_, imageNext, trivial, imageSteps, trace, mirrorsNext⟩
    | receiveMany thread idle steps =>
        exact .inl ⟨rfl, rfl, _, mirrors.receiveMany thread idle steps⟩
    | command calling steps =>
        rcases mirrors.command calling (undisturbed _ calling) steps with
          mirrorsNext | ⟨popped, imageNext, imageSteps, mirrorsNext⟩
        · exact .inl ⟨rfl, rfl, _, mirrorsNext⟩
        · exact .inr ⟨_, imageNext, trivial, imageSteps, _, mirrorsNext⟩
    | stop =>
        refine .inr ⟨.stop, _, trivial, rfl, trace, ?_⟩
        refine mirrors.around rfl rfl ?_ mirrors.registered
        rw [mirrors.pump]
    | client other steps =>
        rcases mirrors.client undisturbed.1 undisturbed.2 other steps with
          ⟨silent, mirrorsNext⟩ | ⟨channel, data, sends, mirrorsNext⟩
        · exact .inl ⟨rfl, silent, _, mirrorsNext⟩
        · refine .inr ⟨.send channel data, _, trivial, ?_, _, mirrorsNext⟩
          rw [sends]
          rfl

end IisAsgiHandler
