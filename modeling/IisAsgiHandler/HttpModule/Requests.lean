import IisAsgiHandler.Http.Interleaving
import IisAsgiHandler.HttpModule.Basic

/-!
# The HTTP requests of a worker process

To its HTTP requests a worker process looks like a system of HTTP requests
alone.  Where the pump is about the channel of a connection, the pump of that
system receives nothing, or it does not poll at all.
-/

namespace IisAsgiHandler

variable {ρ : Type}

/-- The channels of requests and of connections are different. -/
theorem Requests.channel_ne_sendChannel
    (requests : Requests ρ) (id : ρ) (random : Bytes) :
    requests.channel id ≠ sendChannel random := by
  intro equal
  have request : (requests.channel id).head? = some 0x68 := rfl
  have connection : (sendChannel random).head? = some 0x77 := rfl
  rw [equal, connection] at request
  cases request

/-! ## What callbacks capture -/

namespace CapturedHandler

/-- The step that a callback captures, if it is one of an HTTP request. -/
def toStep : CapturedHandler ρ → Option (CapturedStep ρ)
  | .waitForResponse id serial => some ⟨id, serial⟩
  | .writer _ => none

/-- The reply channel of the request of a callback. -/
def channel (requests : Requests ρ) : CapturedHandler ρ → Bytes
  | .waitForResponse id _ => requests.channel id
  | .writer id => sendChannel (requests.random id)

/-- The request of a callback has a handler of the class that is captured. -/
def StoredIn (contexts : ModuleContexts ρ) : CapturedHandler ρ → Prop
  | .waitForResponse id _ => ∃ handler, contexts id = some (.http handler)
  | .writer id => ∃ handler, contexts id = some (.ws handler)

/-- A callback for the channel of a request captures a step of it. -/
theorem eq_of_channel
    {requests : Requests ρ}
    {captured : CapturedHandler ρ}
    {id : ρ}
    (same : requests.channel id = captured.channel requests) :
    ∃ serial, captured = .waitForResponse id serial := by
  cases captured with
  | waitForResponse other serial =>
      obtain rfl := requests.channel_injective same
      exact ⟨serial, rfl⟩
  | writer other => exact absurd same (requests.channel_ne_sendChannel id _)

variable [DecidableEq ρ]

/-- A handler stays of its class. -/
theorem StoredIn.update_http
    {contexts : ModuleContexts ρ}
    {captured : CapturedHandler ρ}
    {id : ρ}
    (stored : captured.StoredIn contexts)
    (next : HttpRequestHandler)
    (notWs : ∀ other, contexts id ≠ some (.ws other)) :
    captured.StoredIn (Function.update contexts id (some (.http next))) := by
  cases captured with
  | waitForResponse other serial =>
      by_cases same : other = id
      · subst same
        exact ⟨next, Function.update_self ..⟩
      · simpa [StoredIn, same] using stored
  | writer other =>
      obtain ⟨handler, found⟩ := stored
      have different : other ≠ id := by
        rintro rfl
        exact notWs handler found
      exact ⟨handler, by rw [Function.update_of_ne different, found]⟩

theorem StoredIn.update_ws
    {contexts : ModuleContexts ρ}
    {captured : CapturedHandler ρ}
    {id : ρ}
    (stored : captured.StoredIn contexts)
    (next : WsRequestHandler)
    (notHttp : ∀ other, contexts id ≠ some (.http other)) :
    captured.StoredIn (Function.update contexts id (some (.ws next))) := by
  cases captured with
  | waitForResponse other serial =>
      obtain ⟨handler, found⟩ := stored
      have different : other ≠ id := by
        rintro rfl
        exact notHttp handler found
      exact ⟨handler, by rw [Function.update_of_ne different, found]⟩
  | writer other =>
      by_cases same : other = id
      · subst same
        exact ⟨next, Function.update_self ..⟩
      · simpa [StoredIn, same] using stored

end CapturedHandler

/-- A task of a connection leaves the HTTP handlers alone. -/
theorem HttpModule.httpHandler_receive_writer
    [DecidableEq ρ]
    {contexts : ModuleContexts ρ}
    {id : ρ}
    (channel data : Bytes)
    (stored : (CapturedHandler.writer id).StoredIn contexts) :
    (HttpModule.receive contexts ⟨.writer id, channel, data⟩).httpHandler =
      contexts.httpHandler := by
  obtain ⟨handler, found⟩ := stored
  exact ModuleContexts.httpHandler_update_ws _ (by simp [found])

/-- A task of an HTTP request leaves the connections alone. -/
theorem HttpModule.wsHandler_receive_waitForResponse
    [DecidableEq ρ]
    {contexts : ModuleContexts ρ}
    {id : ρ}
    {serial : Nat}
    (channel data : Bytes)
    (stored : (CapturedHandler.waitForResponse id serial).StoredIn contexts) :
    (HttpModule.receive contexts ⟨.waitForResponse id serial, channel, data⟩
      ).wsHandler = contexts.wsHandler := by
  obtain ⟨handler, found⟩ := stored
  exact ModuleContexts.wsHandler_update_http _ (by simp [found])

/-- Every registration is for the own channel of a handler, which is stored. -/
structure Owned
    (requests : Requests ρ)
    (contexts : ModuleContexts ρ)
    (pump : ResponsePump (CapturedHandler ρ)) : Prop where
  channel : ∀ channel captured, pump.registered channel = some captured →
    channel = captured.channel requests
  stored : ∀ channel captured, pump.registered channel = some captured →
    captured.StoredIn contexts

namespace Owned

variable {requests : Requests ρ}
variable {contexts : ModuleContexts ρ}
variable {pump : ResponsePump (CapturedHandler ρ)}

theorem addChannel
    (owned : Owned requests contexts pump)
    {captured : CapturedHandler ρ}
    (isStored : captured.StoredIn contexts) :
    Owned requests contexts
      (pump.addChannel (captured.channel requests) captured) := by
  constructor
  · intro channel other found
    by_cases same : channel = captured.channel requests
    · subst same
      rw [ResponsePump.registered_addChannel, Option.some.injEq] at found
      rw [found]
    · rw [ResponsePump.registered_addChannel_ne _ _ same] at found
      exact owned.channel channel other found
  · intro channel other found
    by_cases same : channel = captured.channel requests
    · subst same
      rw [ResponsePump.registered_addChannel, Option.some.injEq] at found
      exact found ▸ isStored
    · rw [ResponsePump.registered_addChannel_ne _ _ same] at found
      exact owned.stored channel other found

/-- With fewer registrations, and with handlers of the same classes. -/
theorem mono
    {later : ModuleContexts ρ}
    {next : ResponsePump (CapturedHandler ρ)}
    (owned : Owned requests contexts pump)
    (stays : ∀ captured : CapturedHandler ρ, captured.StoredIn contexts →
      captured.StoredIn later)
    (fewer : ∀ channel captured, next.registered channel = some captured →
      pump.registered channel = some captured) :
    Owned requests later next where
  channel channel captured found :=
    owned.channel channel captured (fewer channel captured found)
  stored channel captured found :=
    stays captured (owned.stored channel captured (fewer channel captured found))

/-- The thread registers nothing. -/
theorem registered_of_threadMain
    {queues : ChannelQueues}
    {label : PumpLabel}
    {result : PumpStep (CapturedHandler ρ)}
    (stepped : ResponsePump.Stepped pump queues label result)
    {channel : Bytes}
    {captured : CapturedHandler ρ}
    (found : result.pump.registered channel = some captured) :
    pump.registered channel = some captured := by
  cases stepped with
  | dispatch other data callback holding isFound =>
      by_cases same : channel = other
      · subst same
        have removed := pump.registered_removeChannel channel
        exact absurd (removed.symm.trans found) (by simp)
      · exact (pump.registered_removeChannel_ne same).symm.trans found
  | _ => exact found

variable [DecidableEq ρ]

/-- A task is created for a handler that is stored. -/
theorem receive
    (owned : Owned requests contexts pump)
    {queues : ChannelQueues}
    {label : PumpLabel}
    {result : PumpStep (CapturedHandler ρ)}
    (stepped : ResponsePump.Stepped pump queues label result)
    (captured : CapturedHandler ρ)
    (stored : captured.StoredIn contexts) :
    captured.StoredIn (result.task.toList.foldl HttpModule.receive contexts) := by
  cases stepped with
  | dispatch channel data callback holding found =>
      have isStored := owned.stored channel callback found
      cases callback with
      | waitForResponse id serial =>
          obtain ⟨handler, isHttp⟩ := isStored
          exact stored.update_http _ (by simp [isHttp])
      | writer id =>
          obtain ⟨handler, isWs⟩ := isStored
          exact stored.update_ws _ (by simp [isWs])
  | _ => exact stored

theorem threadMain
    (owned : Owned requests contexts pump)
    {queues : ChannelQueues}
    {label : PumpLabel}
    {result : PumpStep (CapturedHandler ρ)}
    (stepped : ResponsePump.Stepped pump queues label result) :
    Owned requests (result.task.toList.foldl HttpModule.receive contexts)
      result.pump :=
  owned.mono (owned.receive stepped) fun _ _ found =>
    registered_of_threadMain stepped found

end Owned

/-! ## The system of the HTTP requests -/

/-- Where the pump thread is to the HTTP requests. -/
inductive ThreadImage (requests : Requests ρ) : PumpThread → PumpThread → Prop
  | loopHead : ThreadImage requests .loopHead .loopHead
  | polling {channelNames imageNames : List Bytes}
      (polled : ∀ id, requests.channel id ∈ channelNames →
        requests.channel id ∈ imageNames) :
      ThreadImage requests (.receiving channelNames) (.receiving imageNames)
  /-- It polls for connections only. -/
  | pollingOthers {channelNames : List Bytes}
      (others : ∀ id, requests.channel id ∉ channelNames) :
      ThreadImage requests (.receiving channelNames) .loopHead
  | received (id : ρ) (data : Bytes) :
      ThreadImage requests (.received (requests.channel id) data)
        (.received (requests.channel id) data)
  /-- It holds a message for a connection. -/
  | receivedOther {channel : Bytes} (data : Bytes)
      (other : ∀ id, channel ≠ requests.channel id) :
      ThreadImage requests (.received channel data) .loopHead
  | exited : ThreadImage requests .exited .exited

/-- What the HTTP requests see of a worker process is a system of HTTP
requests. -/
structure HttpImage
    (requests : Requests ρ)
    (contexts : ModuleContexts ρ)
    (inner : ResponsePump (CapturedHandler ρ) × ChannelQueues)
    (system : HttpSystem ρ) : Prop where
  handlers : system.handlers = contexts.httpHandler
  queues : ∀ id, system.queues (requests.channel id) =
    inner.2 (requests.channel id)
  threadStop : system.pump.threadStop = inner.1.threadStop
  thread : ThreadImage requests inner.1.thread system.pump.thread
  registered : ∀ id, system.pump.registered (requests.channel id) =
    (inner.1.registered (requests.channel id)).bind CapturedHandler.toStep

namespace HttpImage

variable [DecidableEq ρ]
variable {unpackResponse : Bytes → Option AsgiHttpResponseMsg}
variable {unpackSend : Bytes → Option AsgiWsSendMsg}
variable {requests : Requests ρ}
variable {contexts : ModuleContexts ρ}
variable {inner : ResponsePump (CapturedHandler ρ) × ChannelQueues}
variable {system : HttpSystem ρ}

omit [DecidableEq ρ] in
theorem initial (requests : Requests ρ) :
    HttpImage requests noContexts ({}, fun _ => []) {} where
  handlers := rfl
  queues _ := rfl
  threadStop := rfl
  thread := .loopHead
  registered _ := by simp

/-- The step of an HTTP handler. -/
theorem http
    {id : ρ}
    {life next : Life}
    {label : HandlerLabel}
    {handler : HttpRequestHandler}
    {events : List HttpEvent}
    (image : HttpImage requests contexts inner system)
    (steps : HttpRequestHandler.step unpackResponse (requests.request id)
      (requests.channel id) (contexts.httpHandler id) label =
        some (handler, events))
    (lifeSteps : LifeStep unpackResponse (requests.request id)
      (requests.channel id) life (.handler label) events next) :
    ∃ systemNext,
      HttpSystem.step unpackResponse requests system (.handler id label) =
        some (systemNext, events.map (.request id)) ∧
      HttpImage requests
        (Function.update contexts id (some (.http handler)))
        ((events.map (HttpModuleEvent.http id)).foldl
          ((httpModule unpackResponse unpackSend requests).pass
            (queuePump (CapturedHandler ρ))) inner)
        systemNext := by
  refine ⟨_, by simp only [HttpSystem.step, image.handlers, steps]; rfl, ?_⟩
  rcases lifeSteps.registration with
    ⟨-, -, ⟨-, silent⟩ | ⟨-, rfl⟩⟩
  · rw [HttpSystem.foldl_register_of_notMem system.pump silent,
      EventMachine.Host.foldl_pass_of_silent inner]
    · exact { image with handlers := by simp }
    · intro event member
      obtain ⟨shown, isShown, rfl⟩ := List.mem_map.mp member
      cases shown with
      | addChannel channel serial => exact absurd isShown (silent channel serial)
      | _ => rfl
  · exact {
      handlers := by simp
      queues := image.queues
      threadStop := image.threadStop
      thread := image.thread
      registered := fun other => by
        change (system.pump.addChannel (requests.channel id) ⟨id, next.serial⟩
            ).registered _ =
          ((inner.1.addChannel (requests.channel id)
            (.waitForResponse id next.serial)).registered _).bind _
        by_cases same : requests.channel other = requests.channel id
        · rw [same]
          simp [CapturedHandler.toStep]
        · rw [ResponsePump.registered_addChannel_ne _ _ same,
            ResponsePump.registered_addChannel_ne _ _ same]
          exact image.registered other }

/-- Steps of a connection do nothing to the HTTP requests, if it registers its
own channel only. -/
theorem ws
    {id : ρ}
    {handler : WsRequestHandler}
    {events : List WsEvent}
    (image : HttpImage requests contexts inner system)
    (notHttp : ∀ other, contexts id ≠ some (.http other))
    (own : ∀ channel, .writer (.addChannel channel) ∈ events →
      channel = sendChannel (requests.random id)) :
    HttpImage requests (Function.update contexts id (some (.ws handler)))
      ((events.map (HttpModuleEvent.ws id)).foldl
        ((httpModule unpackResponse unpackSend requests).pass
          (queuePump (CapturedHandler ρ))) inner)
      system := by
  have unmoved : HttpImage requests
      (Function.update contexts id (some (.ws handler))) inner system :=
    { image with
      handlers := by
        rw [image.handlers, ModuleContexts.httpHandler_update_ws handler notHttp] }
  clear image
  induction events generalizing inner with
  | nil => exact unmoved
  | cons event events inductionHypothesis =>
      refine inductionHypothesis
        (fun channel member => own channel (List.mem_cons_of_mem event member)) ?_
      by_cases registers : ∃ channel, event = .writer (.addChannel channel)
      · obtain ⟨channel, rfl⟩ := registers
        obtain rfl := own channel List.mem_cons_self
        exact { unmoved with
          registered := fun other => by
            change _ = ((inner.1.addChannel _ (.writer id)).registered _).bind _
            rw [ResponsePump.registered_addChannel_ne _ _
              (requests.channel_ne_sendChannel other _)]
            exact unmoved.registered other }
      · have silent : (httpModule unpackResponse unpackSend requests).request
            (.ws id event) = none := by
          simp only [httpModule, HttpModule.request]
          split <;> simp_all
        rwa [EventMachine.Host.pass, silent]

omit [DecidableEq ρ] in
/-- A message that is sent. -/
theorem send
    (image : HttpImage requests contexts inner system)
    (channel data : Bytes) :
    HttpImage requests contexts (inner.1, inner.2.send channel data)
      { system with queues := system.queues.send channel data } :=
  { image with
    queues := fun id => by
      by_cases same : requests.channel id = channel
      · rw [same]
        have before := image.queues id
        rw [same] at before
        simp [before]
      · calc
          system.queues.send channel data (requests.channel id) =
              system.queues (requests.channel id) :=
            ChannelQueues.send_ne _ _ same
          _ = inner.2 (requests.channel id) := image.queues id
          _ = inner.2.send channel data (requests.channel id) :=
            (ChannelQueues.send_ne _ _ same).symm }

omit [DecidableEq ρ] in
theorem stop (image : HttpImage requests contexts inner system) :
    HttpImage requests contexts ({ inner.1 with threadStop := true }, inner.2)
      { system with pump := { system.pump with threadStop := true } } :=
  { image with threadStop := rfl }

/-- A step of the pump thread that does nothing to the HTTP requests, or is one
of the thread of their system. -/
def Follows
    (unpackResponse : Bytes → Option AsgiHttpResponseMsg)
    (requests : Requests ρ)
    (contexts : ModuleContexts ρ)
    (inner : ResponsePump (CapturedHandler ρ) × ChannelQueues)
    (system : HttpSystem ρ) : Prop :=
  HttpImage requests contexts inner system ∨
    ∃ label systemNext,
      HttpSystem.step unpackResponse requests system (.pump label) =
        some (systemNext, []) ∧
      HttpImage requests contexts inner systemNext

omit [DecidableEq ρ] in
/-- The pump of the HTTP requests does not take part. -/
theorem skip
    {thread : PumpThread}
    {queues : ChannelQueues}
    (image : HttpImage requests contexts inner system)
    (sameQueues : ∀ id, queues (requests.channel id) =
      inner.2 (requests.channel id))
    (isImage : ThreadImage requests thread system.pump.thread) :
    HttpImage requests contexts ({ inner.1 with thread := thread }, queues)
      system where
  handlers := image.handlers
  queues id := (image.queues id).trans (sameQueues id).symm
  threadStop := image.threadStop
  thread := isImage
  registered := image.registered

/-- It stops receiving. -/
theorem receiveNothing
    {thread : PumpThread}
    {queues : ChannelQueues}
    {imageNames : List Bytes}
    (image : HttpImage requests contexts inner system)
    (polling : system.pump.thread = .receiving imageNames)
    (sameQueues : ∀ id, queues (requests.channel id) =
      inner.2 (requests.channel id))
    (isImage : ThreadImage requests thread .loopHead) :
    Follows unpackResponse requests contexts
      ({ inner.1 with thread := thread }, queues) system := by
  refine .inr ⟨.receiveMany none,
    { system with pump := { system.pump with thread := .loopHead } }, ?_, ?_⟩
  · simp [HttpSystem.step, ResponsePump.threadMain, polling, HttpSystem.create]
  · exact {
      handlers := image.handlers
      queues := fun id => (image.queues id).trans (sameQueues id).symm
      threadStop := image.threadStop
      thread := isImage
      registered := image.registered }

/-- The pump leaves its loop. -/
theorem exit
    (image : HttpImage requests contexts inner system)
    (atHead : inner.1.thread = .loopHead)
    (told : inner.1.threadStop = true) :
    Follows unpackResponse requests contexts
      ({ inner.1 with thread := .exited }, inner.2) system := by
  have imageThread : system.pump.thread = .loopHead := by
    have place := image.thread
    rw [atHead] at place
    generalize system.pump.thread = thread at place
    cases place
    rfl
  refine .inr ⟨.snapshot,
    { system with pump := { system.pump with thread := .exited } }, ?_, ?_⟩
  · simp [HttpSystem.step, ResponsePump.threadMain, imageThread,
      image.threadStop, told, HttpSystem.create]
  · exact { image with thread := .exited }

/-- The pump takes a snapshot of the registered channels. -/
theorem snapshot
    (image : HttpImage requests contexts inner system)
    (owned : Owned requests contexts inner.1)
    (atHead : inner.1.thread = .loopHead)
    (goesOn : inner.1.threadStop = false) :
    Follows unpackResponse requests contexts
      ({ inner.1 with thread := .receiving inner.1.callbacks.keys }, inner.2)
      system := by
  have imageThread : system.pump.thread = .loopHead := by
    have place := image.thread
    rw [atHead] at place
    generalize system.pump.thread = thread at place
    cases place
    rfl
  have polled : ∀ id, requests.channel id ∈ inner.1.callbacks.keys →
      requests.channel id ∈ system.pump.callbacks.keys := by
    intro id member
    rw [ResponsePump.mem_keys_iff, Option.isSome_iff_exists] at member
    obtain ⟨captured, found⟩ := member
    obtain ⟨serial, rfl⟩ :=
      CapturedHandler.eq_of_channel (owned.channel _ captured found)
    rw [ResponsePump.mem_keys_iff, image.registered, found]
    rfl
  by_cases noKeys : system.pump.callbacks.keys = []
  · refine .inl (image.skip (fun _ => rfl) ?_)
    rw [imageThread]
    refine .pollingOthers fun id member => ?_
    have present := polled id member
    rw [noKeys] at present
    cases present
  · refine .inr ⟨.snapshot, { system with pump := { system.pump with
      thread := .receiving system.pump.callbacks.keys } }, ?_, ?_⟩
    · simp [HttpSystem.step, ResponsePump.threadMain, imageThread,
        image.threadStop, goesOn, noKeys, HttpSystem.create]
    · exact { image with thread := .polling polled }

/-- `ReceiveMany` pops a message of an HTTP request. -/
theorem receive
    {id : ρ}
    {channelNames : List Bytes}
    {data : Bytes}
    {rest : List Bytes}
    (image : HttpImage requests contexts inner system)
    (waiting : inner.1.thread = .receiving channelNames)
    (polled : requests.channel id ∈ channelNames)
    (front : inner.2 (requests.channel id) = data :: rest) :
    Follows unpackResponse requests contexts
      ({ inner.1 with thread := .received (requests.channel id) data },
        Function.update inner.2 (requests.channel id) rest) system := by
  obtain ⟨imageNames, imageThread, offered⟩ : ∃ imageNames,
      system.pump.thread = .receiving imageNames ∧
        requests.channel id ∈ imageNames := by
    have place := image.thread
    rw [waiting] at place
    generalize system.pump.thread = thread at place
    cases place with
    | polling offers => exact ⟨_, rfl, offers id polled⟩
    | pollingOthers others => exact absurd polled (others id)
  refine .inr ⟨.receiveMany (some (requests.channel id)),
    { system with
      pump := { system.pump with thread := .received (requests.channel id) data }
      queues := Function.update system.queues (requests.channel id) rest },
    ?_, ?_⟩
  · simp [HttpSystem.step, ResponsePump.threadMain, imageThread,
      image.queues id, front, offered, requests.channel_ne_nil,
      HttpSystem.create]
  · exact { image with
      queues := fun other => by
        by_cases same : requests.channel other = requests.channel id
        · rw [same]
          simp
        · simpa [same] using image.queues other
      thread := .received id data }

/-- `ReceiveMany` returns with nothing for the HTTP requests. -/
theorem receiveOther
    {channelNames : List Bytes}
    {thread : PumpThread}
    {queues : ChannelQueues}
    (image : HttpImage requests contexts inner system)
    (waiting : inner.1.thread = .receiving channelNames)
    (sameQueues : ∀ id, queues (requests.channel id) =
      inner.2 (requests.channel id))
    (isImage : ThreadImage requests thread .loopHead) :
    Follows unpackResponse requests contexts
      ({ inner.1 with thread := thread }, queues) system := by
  have place := image.thread
  rw [waiting] at place
  generalize atPlace : system.pump.thread = imageThread at place
  cases place with
  | polling polled => exact image.receiveNothing atPlace sameQueues isImage
  | pollingOthers others =>
      exact .inl (image.skip sameQueues (by rwa [atPlace]))

/-- The pump looks up the callback for a message. -/
theorem dispatch
    {channel data : Bytes}
    {callback : CapturedHandler ρ}
    (image : HttpImage requests contexts inner system)
    (owned : Owned requests contexts inner.1)
    (holding : inner.1.thread = .received channel data)
    (found : inner.1.registered channel = some callback) :
    Follows unpackResponse requests
      (HttpModule.receive contexts ⟨callback, channel, data⟩)
      ({ inner.1.removeChannel channel with thread := .loopHead }, inner.2)
      system := by
  have isChannel := owned.channel channel callback found
  have place := image.thread
  rw [holding] at place
  generalize atPlace : system.pump.thread = imageThread at place
  cases place with
  | received id =>
      obtain ⟨serial, rfl⟩ := CapturedHandler.eq_of_channel isChannel
      have isRegistered := image.registered id
      rw [found] at isRegistered
      refine .inr ⟨.dispatch, {
          pump := { system.pump.removeChannel (requests.channel id) with
            thread := .loopHead }
          queues := system.queues
          handlers := HttpSystem.create system.handlers
            (some ⟨⟨id, serial⟩, requests.channel id, data⟩) }, ?_, ?_⟩
      · simp [HttpSystem.step, ResponsePump.threadMain, atPlace, isRegistered,
          CapturedHandler.toStep]
      · exact {
          handlers := by
            simp [HttpSystem.create, HttpModule.receive, image.handlers]
          queues := image.queues
          threadStop := image.threadStop
          thread := .loopHead
          registered := fun other => by
            change (system.pump.removeChannel _).registered _ =
              ((inner.1.removeChannel _).registered _).bind _
            by_cases same : requests.channel other = requests.channel id
            · rw [same]
              simp
            · rw [ResponsePump.registered_removeChannel_ne _ same,
                ResponsePump.registered_removeChannel_ne _ same]
              exact image.registered other }
  | receivedOther _ other =>
      cases callback with
      | waitForResponse id serial => exact absurd isChannel (other id)
      | writer id =>
          refine .inl {
            handlers := by
              rw [HttpModule.httpHandler_receive_writer _ _
                (owned.stored channel _ found), image.handlers]
            queues := image.queues
            threadStop := image.threadStop
            thread := by
              rw [atPlace]
              exact .loopHead
            registered := fun id => ?_ }
          change _ = ((inner.1.removeChannel _).registered _).bind _
          rw [ResponsePump.registered_removeChannel_ne _ (other id).symm]
          exact image.registered id

/-- The pump finds no callback for a message. -/
theorem drop
    {channel data : Bytes}
    (image : HttpImage requests contexts inner system)
    (holding : inner.1.thread = .received channel data)
    (missing : inner.1.registered channel = none) :
    Follows unpackResponse requests contexts
      ({ inner.1 with thread := .loopHead }, inner.2) system := by
  have place := image.thread
  rw [holding] at place
  generalize atPlace : system.pump.thread = imageThread at place
  cases place with
  | received id =>
      have isRegistered := image.registered id
      rw [missing] at isRegistered
      refine .inr ⟨.dispatch,
        { system with pump := { system.pump with thread := .loopHead } }, ?_, ?_⟩
      · simp [HttpSystem.step, ResponsePump.threadMain, atPlace, isRegistered,
          HttpSystem.create]
      · exact { image with thread := .loopHead }
  | receivedOther _ other =>
      refine .inl (image.skip (fun _ => rfl) ?_)
      rw [atPlace]
      exact .loopHead

/-- A step of the pump thread. -/
theorem threadMain
    {label : PumpLabel}
    {result : PumpStep (CapturedHandler ρ)}
    (image : HttpImage requests contexts inner system)
    (owned : Owned requests contexts inner.1)
    (steps : inner.1.threadMain inner.2 label = some result) :
    Follows unpackResponse requests
      (result.task.toList.foldl HttpModule.receive contexts)
      (result.pump, result.queues) system := by
  have elsewhere : ∀ {channel : Bytes} (rest : List Bytes),
      (∀ id, channel ≠ requests.channel id) →
      ∀ id, Function.update inner.2 channel rest (requests.channel id) =
        inner.2 (requests.channel id) := fun _ other id =>
    Function.update_of_ne (other id).symm _ _
  have stepped := ResponsePump.threadMain_stepped steps
  cases stepped with
  | exit atHead told => exact image.exit atHead told
  | idle => exact .inl image
  | snapshot atHead =>
      exact image.snapshot owned atHead
        (ResponsePump.threadStop_of_snapshot steps (by simp))
  | nothing channelNames waiting =>
      exact image.receiveOther waiting (fun _ => rfl) .loopHead
  | receive channelNames channel data rest waiting polled front nonempty =>
      by_cases isRequest : ∃ id, channel = requests.channel id
      · obtain ⟨id, rfl⟩ := isRequest
        exact image.receive waiting polled front
      · have other : ∀ id, channel ≠ requests.channel id :=
          fun id same => isRequest ⟨id, same⟩
        exact image.receiveOther waiting (elsewhere rest other)
          (.receivedOther data other)
  | discard channelNames data rest waiting =>
      exact image.receiveOther waiting
        (elsewhere rest fun id => (requests.channel_ne_nil id).symm) .loopHead
  | dispatch channel data callback holding found =>
      exact image.dispatch owned holding found
  | drop channel data holding missing => exact image.drop holding missing

end HttpImage

end IisAsgiHandler
