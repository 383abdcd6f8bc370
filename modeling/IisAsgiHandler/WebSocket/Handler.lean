import IisAsgiHandler.ResponsePump.Subscriber
import IisAsgiHandler.WebSocket.Reader
import IisAsgiHandler.WebSocket.Writer

/-!
# The WebSocket handler

One connection: the handler with the pipeline that accepts the WebSocket and
sends the connect message, and the reader and the writer that it starts.  Every
completion that IIS delivers starts the reader and the writer before the
current step sees it.

`Start` of the reader is a frame of the handler's thread in `ReadAsync`; the
thread goes on to the writer when that frame returns.
-/

namespace IisAsgiHandler

/-- What a connection shows to IIS, to the channel layer and to the pump. -/
inductive WsEvent
  | setStatus (status : Nat)
  /-- A call to `Flush` is made. -/
  | flush
  /-- The handler receives the result of the call. -/
  | flushed (failed : Bool)
  | send (channel : Bytes) (msg : AsgiWsConnectMsg)
  | startReader
  | startWriter
  | reader (event : ReaderEvent)
  | writer (event : WriterEvent)
  /-- A handler call returns to IIS. -/
  | returned (status : RequestNotificationStatus)
  | fault (fault : Fault)
  deriving DecidableEq

/-! ## The steps -/

structure AcceptWebSocketStep where
  asgiConnectMsg : Option AsgiWsConnectMsg
  deriving DecidableEq

namespace AcceptWebSocketStep

@[simp] def onAsyncCompletion : StepResult := .gotoNext

@[simp] def afterCall : IisReturn → StepResult
  | .failed => .finishRequest
  | .pending => .asyncPending
  | .completed _ => onAsyncCompletion

end AcceptWebSocketStep

structure SendConnectToApplicationStep where
  asgiConnectMsg : Option AsgiWsConnectMsg
  deriving DecidableEq

namespace SendConnectToApplicationStep

@[simp] def onAsyncCompletion (hr : HResult) : StepResult :=
  if failed hr then .finishRequest else .asyncPending

end SendConnectToApplicationStep

/-- The step classes of the connect pipeline. -/
inductive ConnectStep
  | acceptWebSocket (step : AcceptWebSocketStep)
  | sendConnectToApplication (step : SendConnectToApplicationStep)
  deriving DecidableEq

namespace ConnectStep

@[simp] def onAsyncCompletion (hr : HResult) : ConnectStep → StepResult
  | .acceptWebSocket _ => AcceptWebSocketStep.onAsyncCompletion
  | .sendConnectToApplication _ =>
      SendConnectToApplicationStep.onAsyncCompletion hr

/-- `GetNextStep`; the message pointer moves into the next step. -/
@[simp] def getNextStep : ConnectStep → Except Fault ConnectStep
  | .acceptWebSocket step =>
      .ok (.sendConnectToApplication { asgiConnectMsg := step.asgiConnectMsg })
  | .sendConnectToApplication _ =>
      .error (.runtimeError (ascii
        "SendConnectToApplicationStep::GetNextStep() should never get called."))

end ConnectStep

/-! ## The handler -/

/-- Where the thread of a handler call is. -/
inductive WsThread
  /-- `OnExecuteRequestHandler` has not been called. -/
  | notStarted
  /-- In `Enter`, inside the call to `Flush`. -/
  | inFlush
  /-- In `OnAsyncCompletion`, inside `m_reader.Start`. -/
  | startingReader (hr : HResult)
  /-- In `OnAsyncCompletion`, before `m_writer.Start`. -/
  | startingWriter (hr : HResult)
  /-- In `HandlerStateMachine`, at the head of its loop. -/
  | atSwitch (result : StepResult)
  /-- The last call has returned `RQ_NOTIFICATION_PENDING`. -/
  | waiting
  /-- The last call has returned `RQ_NOTIFICATION_FINISH_REQUEST`. -/
  | finished
  /-- IIS has deleted the handler. -/
  | deleted
  /-- A handler call has ended with a fault. -/
  | crashed
  deriving DecidableEq

/-- A connection with its handler. -/
structure WsRequestHandler where
  thread : WsThread := .notStarted
  currentConnectStep : Option ConnectStep := none
  replyChannel : Bytes := []
  requestPath : Bytes := []
  reader : WsReader := {}
  writer : WsWriter := {}
  /-- Number of flushes that IIS will complete. -/
  operations : Nat := 0
  /-- The tasks that send the connect message, and whether they have sent it. -/
  tasks : List Bool := []
  /-- Number of posted completions. -/
  posted : Nat := 0
  deriving DecidableEq

/-- What happens next to a connection. -/
inductive WsLabel
  | onExecuteRequestHandler
  /-- The call to `Flush` returns. -/
  | flushReturns (ret : IisReturn)
  /-- One turn of the loop of `HandlerStateMachine`. -/
  | stateMachine
  /-- IIS completes a flush and calls `OnAsyncCompletion`. -/
  | flushCompletes (hr : HResult)
  /-- IIS delivers a posted completion. -/
  | completePosted (hr : HResult)
  /-- `m_writer.Start`, and the step's `OnAsyncCompletion`. -/
  | startWriter
  /-- The task of `SendConnectToApplicationStep` sends its message. -/
  | taskSend (index : Nat)
  /-- Its continuation posts a completion. -/
  | taskPost (index : Nat)
  | reader (label : ReaderLabel)
  | writer (label : WriterLabel)
  /-- IIS deletes the handler. -/
  | cleanupStoredContext
  deriving DecidableEq

namespace WsRequestHandler

/-- A handler call ends with a fault. -/
def crash (handler : WsRequestHandler) (fault : Fault) :
    WsRequestHandler × List WsEvent :=
  ({ handler with thread := .crashed }, [.fault fault])

/-- `m_current_connect_step->Enter()`, up to its first call. -/
def enter (handler : WsRequestHandler) : WsRequestHandler × List WsEvent :=
  match handler.currentConnectStep with
  | none => handler.crash .nullPointer
  | some (.acceptWebSocket _) =>
      ({ handler with thread := .inFlush }, [.setStatus 101, .flush])
  | some (.sendConnectToApplication _) =>
      ({ handler with
        thread := .atSwitch .asyncPending
        tasks := handler.tasks ++ [false] }, [])

/-- The message that `OnExecuteRequestHandler` fills in. -/
def asgiConnectMsg (request : HttpRequest) (replyChannel : Bytes) :
    AsgiWsConnectMsg where
  replyChannel := replyChannel
  scheme :=
    if getRequestScheme request = ascii "https" then ascii "wss"
    else ascii "ws"
  path := getRequestPath request
  queryString := getRequestQueryString request
  rootPath := []
  headers := getRequestHeaders request

def onExecuteRequestHandler
    (request : HttpRequest) (replyChannel : Bytes)
    (handler : WsRequestHandler) :
    Option (WsRequestHandler × List WsEvent) :=
  if handler.thread = .notStarted then
    some ({ handler with
      replyChannel := replyChannel
      requestPath := getRequestPath request
      currentConnectStep := some (.acceptWebSocket {
        asgiConnectMsg := some (asgiConnectMsg request replyChannel) }) }.enter)
  else none

/-- The call to `Flush` returns to `Enter`. -/
def flushReturns (handler : WsRequestHandler) (ret : IisReturn) :
    Option (WsRequestHandler × List WsEvent) :=
  match handler.thread with
  | .inFlush =>
      let entered := { handler with
        thread := .atSwitch (AcceptWebSocketStep.afterCall ret) }
      match ret with
      | .failed => some (entered, [.flushed true])
      | .completed _ => some (entered, [.flushed false])
      | .pending =>
          some ({ entered with operations := handler.operations + 1 }, [])
  | _ => none

/-- One turn of the loop of `HandlerStateMachine`. -/
def stateMachine (handler : WsRequestHandler) :
    Option (WsRequestHandler × List WsEvent) :=
  match handler.thread with
  | .atSwitch result =>
      match handlerStateMachine result with
      | .leave .pending =>
          some ({ handler with thread := .waiting }, [.returned .pending])
      | .leave .finishRequest =>
          some ({ handler with thread := .finished },
            [.returned .finishRequest])
      | .enter => some handler.enter
      | .getNextStepAndEnter =>
          match handler.currentConnectStep with
          | none => some (handler.crash .nullPointer)
          | some step =>
              match step.getNextStep with
              | .error fault => some (handler.crash fault)
              | .ok next =>
                  some { handler with currentConnectStep := some next }.enter
  | _ => none

/-- `OnAsyncCompletion`, into `m_reader.Start` of `StartReaderWriter`. -/
def onAsyncCompletion (handler : WsRequestHandler) (hr : HResult) :
    WsRequestHandler × List WsEvent :=
  let started := handler.reader.start handler.replyChannel handler.requestPath
  ({ handler with thread := .startingReader hr, reader := started.1 },
    .startReader :: started.2.map .reader)

/-- IIS completes a flush. -/
def flushCompletes (handler : WsRequestHandler) (hr : HResult) :
    Option (WsRequestHandler × List WsEvent) :=
  match handler.thread, handler.operations with
  | .waiting, operations + 1 =>
      let (handler, events) :=
        { handler with operations := operations }.onAsyncCompletion hr
      some (handler, .flushed (failed hr) :: events)
  | _, _ => none

/-- IIS delivers a posted completion. -/
def completePosted (handler : WsRequestHandler) (hr : HResult) :
    Option (WsRequestHandler × List WsEvent) :=
  match handler.thread, handler.posted with
  | .waiting, posted + 1 =>
      some ({ handler with posted := posted }.onAsyncCompletion hr)
  | _, _ => none

/-- `m_writer.Start` of `StartReaderWriter`, and the rest of
`OnAsyncCompletion` up to the loop of the state machine. -/
def startWriter (handler : WsRequestHandler) :
    Option (WsRequestHandler × List WsEvent) :=
  match handler.thread with
  | .startingWriter hr =>
      let started := handler.writer.start handler.replyChannel
      let handler := { handler with writer := started.1 }
      let (handler, events) :=
        match handler.currentConnectStep with
        | none => handler.crash .nullPointer
        | some step =>
            ({ handler with thread := .atSwitch (step.onAsyncCompletion hr) },
              [])
      some (handler, .startWriter :: (started.2.map .writer ++ events))
  | _ => none

/-- `m_channels.Send("websocket.connect", buffer)` in the task of
`SendConnectToApplicationStep`. -/
def taskSend (handler : WsRequestHandler) (index : Nat) :
    Option (WsRequestHandler × List WsEvent) :=
  match handler.tasks[index]? with
  | some false =>
      if handler.thread = .deleted then some (handler, [.fault .useAfterFree])
      else
        match handler.currentConnectStep with
        | some (.sendConnectToApplication { asgiConnectMsg := some msg }) =>
            some ({ handler with tasks := handler.tasks.set index true },
              [.send (ascii "websocket.connect") msg])
        | _ => some (handler, [.fault .nullPointer])
  | _ => none

/-- `PostCompletion(0)` in the continuation of the task. -/
def taskPost (handler : WsRequestHandler) (index : Nat) :
    Option (WsRequestHandler × List WsEvent) :=
  match handler.tasks[index]? with
  | some true =>
      some ({ handler with
        tasks := handler.tasks.eraseIdx index
        posted := handler.posted + 1 }, [])
  | _ => none

/-- Whether a step of the reader returns from `Start`. -/
def returnsFromStart (reader : WsReader) : ReaderLabel → Bool
  | .leave index => reader.calls.frames[index]? = some ⟨.start, none⟩
  | _ => false

/-- A step of the reader; the thread that is in `Start` may return from it. -/
def readerStep (handler : WsRequestHandler) (label : ReaderLabel) :
    Option (WsRequestHandler × List WsEvent) :=
  match handler.reader.step label with
  | none => none
  | some (reader, events) =>
      if handler.thread = .deleted then some (handler, [.fault .useAfterFree])
      else
        let thread :=
          match handler.thread with
          | .startingReader hr =>
              if returnsFromStart handler.reader label then .startingWriter hr
              else handler.thread
          | _ => handler.thread
        some ({ handler with thread := thread, reader := reader },
          events.map .reader)

/-- A step of the writer. -/
def writerStep
    (unpack : Bytes → Option AsgiWsSendMsg)
    (handler : WsRequestHandler) (label : WriterLabel) :
    Option (WsRequestHandler × List WsEvent) :=
  match handler.writer.step unpack label with
  | none => none
  | some (writer, events) =>
      if handler.thread = .deleted then some (handler, [.fault .useAfterFree])
      else some ({ handler with writer := writer }, events.map .writer)

/-- `CleanupStoredContext`. -/
def cleanupStoredContext (handler : WsRequestHandler) :
    Option (WsRequestHandler × List WsEvent) :=
  if handler.thread = .finished then
    some ({ handler with thread := .deleted }, [])
  else none

/-- What a label does to a connection. -/
def step
    (unpack : Bytes → Option AsgiWsSendMsg)
    (request : HttpRequest) (replyChannel : Bytes) :
    EventMachine WsRequestHandler WsLabel WsEvent
  | handler, .onExecuteRequestHandler =>
      handler.onExecuteRequestHandler request replyChannel
  | handler, .flushReturns ret => handler.flushReturns ret
  | handler, .stateMachine => handler.stateMachine
  | handler, .flushCompletes hr => handler.flushCompletes hr
  | handler, .completePosted hr => handler.completePosted hr
  | handler, .startWriter => handler.startWriter
  | handler, .taskSend index => handler.taskSend index
  | handler, .taskPost index => handler.taskPost index
  | handler, .reader label => handler.readerStep label
  | handler, .writer label => handler.writerStep unpack label
  | handler, .cleanupStoredContext => handler.cleanupStoredContext

/-- How a connection uses the response pump. -/
def subscriber
    (unpack : Bytes → Option AsgiWsSendMsg)
    (request : HttpRequest)
    (replyChannel : Bytes) :
    Subscriber WsRequestHandler WsLabel WsEvent where
  step := step unpack request replyChannel
  registers
    | .writer (.addChannel channel) => some channel
    | _ => none
  receive handler data :=
    { handler with writer := { handler.writer with
      callbacks := handler.writer.callbacks ++ [{ data := data }] } }

/-- The writer's registrations are the only ones of a connection. -/
theorem of_registers
    {unpack : Bytes → Option AsgiWsSendMsg}
    {request : HttpRequest}
    {replyChannel channel : Bytes}
    {event : WsEvent}
    (registers : (subscriber unpack request replyChannel).registers event =
      some channel) :
    event = .writer (.addChannel channel) := by
  cases event with
  | writer event =>
      cases event with
      | addChannel named =>
          obtain rfl : named = channel := Option.some.inj registers
          rfl
      | _ => contradiction
  | _ => contradiction

end WsRequestHandler

end IisAsgiHandler
