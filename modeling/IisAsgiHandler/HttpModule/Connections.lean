import IisAsgiHandler.HttpModule.Requests
import IisAsgiHandler.WebSocket.HandlerCalls

/-!
# A connection of a worker process

To one of its connections a worker process looks like the connection alone with
the pump and the channel layer, where other threads register and remove other
channels.
-/

namespace IisAsgiHandler

variable {ρ : Type} [DecidableEq ρ]

/-- Whose callback it is to a connection. -/
def CapturedHandler.client (id : ρ) : CapturedHandler ρ → PumpClient
  | .writer other => if other = id then .subscriber else .other
  | .waitForResponse _ _ => .other

/-- What a connection sees of a worker process. -/
structure ConnectionImage
    (id : ρ)
    (contexts : ModuleContexts ρ)
    (inner : ResponsePump (CapturedHandler ρ) × ChannelQueues)
    (system : SubscriberSystem WsRequestHandler) : Prop where
  state : system.state = contexts.wsHandler id
  pump : inner.1.Relabels (CapturedHandler.client id) system.pump
  queues : system.queues = inner.2

namespace ConnectionImage

variable {unpackResponse : Bytes → Option AsgiHttpResponseMsg}
variable {unpackSend : Bytes → Option AsgiWsSendMsg}
variable {requests : Requests ρ}
variable {contexts : ModuleContexts ρ}
variable {inner : ResponsePump (CapturedHandler ρ) × ChannelQueues}
variable {system : SubscriberSystem WsRequestHandler}
variable {id : ρ}

theorem initial (id : ρ) :
    ConnectionImage id noContexts ({}, fun _ => []) connectionStart where
  state := rfl
  pump := ResponsePump.relabels_empty
  queues := rfl

/-- The runs of a connection that go on from a state of it. -/
abbrev Continues
    (unpackSend : Bytes → Option AsgiWsSendMsg)
    (requests : Requests ρ)
    (id : ρ)
    (system : SubscriberSystem WsRequestHandler)
    (events : List (SubscriberEvent WsEvent))
    (next : SubscriberSystem WsRequestHandler) : Prop :=
  ∃ labels, EventMachine.Run
    (connectionMachine unpackSend (requests.request id)
      (sendChannel (requests.random id)))
    EventMachine.always system labels events next

/-- Registrations of others. -/
theorem others
    {events : List (HttpModuleEvent ρ)}
    (image : ConnectionImage id contexts inner system)
    (foreign : ∀ event ∈ events, ∀ asked,
      HttpModule.request event = some asked →
      ∃ channel captured, asked = .addChannel channel captured ∧
        channel ≠ sendChannel (requests.random id) ∧
        captured.client id = .other) :
    ∃ systemNext,
      Continues unpackSend requests id system [] systemNext ∧
      ConnectionImage id contexts
        (events.foldl ((httpModule unpackResponse unpackSend requests).pass
          (queuePump (CapturedHandler ρ))) inner)
        systemNext := by
  induction events generalizing inner system with
  | nil => exact ⟨system, ⟨[], .refl⟩, image⟩
  | cons event events inductionHypothesis =>
      have later := fun other member =>
        foreign other (List.mem_cons_of_mem event member)
      rw [List.foldl_cons]
      cases asks : HttpModule.request event with
      | none =>
          have unchanged : (httpModule unpackResponse unpackSend requests).pass
              (queuePump (CapturedHandler ρ)) inner event = inner := by
            simp [EventMachine.Host.pass, httpModule, asks]
          rw [unchanged]
          exact inductionHypothesis image later
      | some asked =>
          obtain ⟨channel, captured, rfl, different, isOther⟩ :=
            foreign event List.mem_cons_self asked asks
          have added : ConnectionImage id contexts
              ((httpModule unpackResponse unpackSend requests).pass
                (queuePump (CapturedHandler ρ)) inner event)
              { system with pump := system.pump.addChannel channel .other } := by
            simp only [EventMachine.Host.pass, httpModule, asks]
            exact {
              state := image.state
              pump := isOther ▸ image.pump.addChannel channel captured
              queues := image.queues }
          obtain ⟨systemNext, ⟨labels, run⟩, isImage⟩ :=
            inductionHypothesis added later
          have first : connectionMachine unpackSend (requests.request id)
              (sendChannel (requests.random id)) system (.addChannel channel) =
              some ({ system with pump := system.pump.addChannel channel .other },
                []) := by
            simp [connectionMachine, Subscriber.systemStep, different]
          exact ⟨systemNext,
            ⟨_, (EventMachine.Run.single trivial first).append run⟩, isImage⟩

/-- The registrations of the connection itself. -/
theorem registrations
    (unpackResponse : Bytes → Option AsgiHttpResponseMsg)
    (unpackSend : Bytes → Option AsgiWsSendMsg)
    (requests : Requests ρ)
    (events : List WsEvent)
    (pump : ResponsePump PumpClient)
    (relabels : inner.1.Relabels (CapturedHandler.client id) pump) :
    ((events.map (HttpModuleEvent.ws id)).foldl
      ((httpModule unpackResponse unpackSend requests).pass
        (queuePump (CapturedHandler ρ))) inner).1.Relabels
        (CapturedHandler.client id)
        (events.foldl (WsRequestHandler.subscriber unpackSend
          (requests.request id) (sendChannel (requests.random id))).register
          pump) ∧
      ((events.map (HttpModuleEvent.ws id)).foldl
        ((httpModule unpackResponse unpackSend requests).pass
          (queuePump (CapturedHandler ρ))) inner).2 = inner.2 := by
  induction events generalizing inner pump with
  | nil => exact ⟨relabels, rfl⟩
  | cons event events inductionHypothesis =>
      simp only [List.map_cons, List.foldl_cons]
      by_cases registers : ∃ channel, event = .writer (.addChannel channel)
      · obtain ⟨channel, rfl⟩ := registers
        have added := relabels.addChannel channel (.writer id)
        simp only [CapturedHandler.client, if_true] at added
        exact inductionHypothesis _ added
      · have silent : (httpModule unpackResponse unpackSend requests).request
            (.ws id event) = none := by
          simp only [httpModule, HttpModule.request]
          split <;> simp_all
        have silentHere : (WsRequestHandler.subscriber unpackSend
            (requests.request id) (sendChannel (requests.random id))).registers
              event = none := by
          simp only [WsRequestHandler.subscriber]
          split <;> simp_all
        have unchanged : (httpModule unpackResponse unpackSend requests).pass
            (queuePump (CapturedHandler ρ)) inner (.ws id event) = inner := by
          rw [EventMachine.Host.pass, silent]
        have unchangedHere : (WsRequestHandler.subscriber unpackSend
            (requests.request id) (sendChannel (requests.random id))).register
              pump event = pump := by
          rw [Subscriber.register, silentHere]
        rw [unchanged, unchangedHere]
        exact inductionHypothesis pump relabels

/-- A step of the connection itself. -/
theorem own
    {label : WsLabel}
    {handler : WsRequestHandler}
    {events : List WsEvent}
    (image : ConnectionImage id contexts inner system)
    (steps : WsRequestHandler.step unpackSend (requests.request id)
      (sendChannel (requests.random id)) (contexts.wsHandler id) label =
        some (handler, events)) :
    ∃ systemNext,
      connectionMachine unpackSend (requests.request id)
        (sendChannel (requests.random id)) system (.own label) =
          some (systemNext, events.map .own) ∧
      ConnectionImage id (Function.update contexts id (some (.ws handler)))
        ((events.map (HttpModuleEvent.ws id)).foldl
          ((httpModule unpackResponse unpackSend requests).pass
            (queuePump (CapturedHandler ρ))) inner)
        systemNext := by
  rw [← image.state] at steps
  obtain ⟨pump, queues⟩ := registrations unpackResponse unpackSend requests
    events system.pump image.pump
  refine ⟨_, by
    simp only [connectionMachine, Subscriber.systemStep,
      WsRequestHandler.subscriber, steps]
    rfl, ?_⟩
  exact {
    state := by simp
    pump := pump
    queues := image.queues.trans queues.symm }

/-- Steps of other handlers leave the connection as it is. -/
theorem elsewhere
    {next : ModuleContexts ρ}
    (image : ConnectionImage id contexts inner system)
    (same : next.wsHandler id = contexts.wsHandler id) :
    ConnectionImage id next inner system where
  state := image.state.trans same.symm
  pump := image.pump
  queues := image.queues

/-- What a task of the pump shows to a connection. -/
def taskEvents (id : ρ) (task : DispatchedTask (CapturedHandler ρ)) :
    Option (SubscriberEvent WsEvent) :=
  if task.callback = .writer id then some (.dispatched task.data) else none

/-- A step of the pump thread. -/
theorem threadMain
    {label : PumpLabel}
    {result : PumpStep (CapturedHandler ρ)}
    (image : ConnectionImage id contexts inner system)
    (owned : Owned requests contexts inner.1)
    (steps : inner.1.threadMain inner.2 label = some result) :
    ∃ systemNext,
      connectionMachine unpackSend (requests.request id)
        (sendChannel (requests.random id)) system (.pump label) =
          some (systemNext, result.task.toList.filterMap (taskEvents id)) ∧
      ConnectionImage id (result.task.toList.foldl HttpModule.receive contexts)
        (result.pump, result.queues) systemNext := by
  obtain ⟨imageResult, imageSteps, pump, queues, task⟩ :=
    image.pump.threadMain steps
  rw [← image.queues] at imageSteps
  have stepped := ResponsePump.threadMain_stepped steps
  have noTask : result.task = none →
      ∃ systemNext,
        connectionMachine unpackSend (requests.request id)
          (sendChannel (requests.random id)) system (.pump label) =
            some (systemNext, result.task.toList.filterMap (taskEvents id)) ∧
        ConnectionImage id (result.task.toList.foldl HttpModule.receive contexts)
          (result.pump, result.queues) systemNext := by
    intro none
    rw [none] at task ⊢
    refine ⟨⟨system.state, imageResult.pump, imageResult.queues⟩, ?_, ?_⟩
    · simp [connectionMachine, Subscriber.systemStep, imageSteps, task,
        Subscriber.create, Subscriber.createdEvents]
    · exact ⟨image.state, pump, queues⟩
  cases stepped with
  | dispatch channel data callback holding found =>
      have stored := owned.stored channel callback found
      cases callback with
      | waitForResponse other serial =>
          refine ⟨⟨system.state, imageResult.pump, imageResult.queues⟩, ?_, ?_⟩
          · simp [connectionMachine, Subscriber.systemStep, imageSteps, task,
              CapturedHandler.client, Subscriber.create,
              Subscriber.createdEvents, taskEvents]
          · refine ⟨?_, pump, queues⟩
            simp only [Option.toList_some, List.foldl_cons, List.foldl_nil,
              HttpModule.wsHandler_receive_waitForResponse _ _ stored]
            exact image.state
      | writer other =>
          by_cases same : other = id
          · subst same
            refine ⟨⟨(WsRequestHandler.subscriber unpackSend
              (requests.request other) (sendChannel (requests.random other))
                ).receive system.state data,
              imageResult.pump, imageResult.queues⟩, ?_, ?_, pump, queues⟩
            · simp [connectionMachine, Subscriber.systemStep, imageSteps, task,
                CapturedHandler.client, Subscriber.create,
                Subscriber.createdEvents, taskEvents]
            · simp [HttpModule.receive, WsRequestHandler.subscriber, image.state]
          · refine ⟨⟨system.state, imageResult.pump, imageResult.queues⟩, ?_,
              ?_, pump, queues⟩
            · simp [connectionMachine, Subscriber.systemStep, imageSteps, task,
                CapturedHandler.client, Subscriber.create,
                Subscriber.createdEvents, taskEvents, same]
            · simp [HttpModule.receive, Ne.symm same, image.state]
  | _ => exact noTask rfl

end ConnectionImage

end IisAsgiHandler
