import IisAsgiHandler.Library.Buffer
import IisAsgiHandler.Library.EventMachine
import IisAsgiHandler.Http.Steps

/-!
# The HTTP handler

One request: the handler with its current step, the thread that runs a handler
call, the operations of the request that IIS has not completed, and the tasks
that capture the request's steps.  IIS runs at most one handler call of a
request at a time and delivers a completion only after the previous call has
returned; everything else interleaves.

A step object is named by its serial number, so that a task that captures a
step that has been replaced or deleted is seen to use it after it was freed.
-/

namespace IisAsgiHandler

/-- The task of a step that sends a message and posts a completion. -/
structure SendTask where
  /-- The step that the task captures. -/
  serial : Nat
  /-- Whether the message has been sent. -/
  sent : Bool := false
  deriving DecidableEq

/-- A callback of the pump that runs in its task. -/
structure ResponseCallback where
  /-- The step that the callback captures. -/
  serial : Nat
  data : Bytes
  /-- Whether the message has been unpacked into the step. -/
  unpacked : Bool := false
  deriving DecidableEq

/-- Where the thread of a handler call is. -/
inductive HandlerThread
  /-- `OnExecuteRequestHandler` has not been called. -/
  | notStarted
  /-- In `Enter`, inside a call into IIS. -/
  | inCall (call : IisCall)
  /-- In `HandlerStateMachine`, at the head of its loop. -/
  | atSwitch (result : StepResult)
  /-- The last call has returned `RQ_NOTIFICATION_PENDING`. -/
  | waiting
  /-- The last call has returned `RQ_NOTIFICATION_FINISH_REQUEST`. -/
  | finished
  /-- IIS has deleted the handler. -/
  | deleted
  /-- A handler call has ended with a fault. -/
  | crashed
  deriving DecidableEq

/-- A request with its handler. -/
structure HttpRequestHandler where
  thread : HandlerThread := .notStarted
  currentStep : Option RequestHandlerStep := none
  /-- The number of step objects made so far, which names the current one. -/
  serial : Nat := 0
  /-- Bytes of the entity body that completed reads have delivered. -/
  delivered : Nat := 0
  /-- Operations that IIS will complete, with the steps that started them. -/
  operations : List (Nat × IisCall) := []
  tasks : List SendTask := []
  /-- Callbacks that have not posted yet. -/
  callbacks : List ResponseCallback := []
  /-- Callbacks that have posted and not returned yet. -/
  returning : List Nat := []
  /-- Posted completions, with the steps whose tasks posted them. -/
  posted : List Nat := []
  deriving DecidableEq

/-- What happens next to a request. -/
inductive HandlerLabel
  | onExecuteRequestHandler
  /-- A call into IIS returns. -/
  | iisReturn (ret : IisReturn)
  /-- One turn of the loop of `HandlerStateMachine`. -/
  | stateMachine
  /-- IIS completes an operation and calls `OnAsyncCompletion`. -/
  | complete (index : Nat) (hr : HResult) (bytes : Nat)
  /-- IIS delivers a posted completion. -/
  | completePosted (index : Nat) (hr : HResult) (bytes : Nat)
  /-- The task of `SendToApplicationStep` sends its message. -/
  | taskSend (index : Nat)
  /-- Its continuation posts a completion. -/
  | taskPost (index : Nat)
  /-- The callback of `WaitForResponseStep` unpacks its message. -/
  | callbackUnpack (index : Nat)
  | callbackPost (index : Nat)
  /-- The callback writes its log line and returns. -/
  | callbackReturn (index : Nat)
  /-- IIS deletes the handler. -/
  | cleanupStoredContext
  deriving DecidableEq

namespace HttpRequestHandler

/-- `GetRemainingEntityBytes`. -/
@[simp] def remaining (request : HttpRequest) (handler : HttpRequestHandler) : Nat :=
  request.entityBody.length - handler.delivered

/-- A handler call ends with a fault. -/
def crash (handler : HttpRequestHandler) (fault : Fault) :
    HttpRequestHandler × List HttpEvent :=
  ({ handler with thread := .crashed }, [.fault fault])

/-- Go on with what `Enter` has come to. -/
@[simp] def resume (handler : HttpRequestHandler) :
    Except Fault Entered → HttpRequestHandler × List HttpEvent
  | .error fault => handler.crash fault
  | .ok (.call call) => ({ handler with thread := .inCall call }, [.call call])
  | .ok .createTask =>
      ({ handler with
          thread := .atSwitch .asyncPending
          tasks := handler.tasks ++ [{ serial := handler.serial }] }, [])
  | .ok (.addChannel channel) =>
      ({ handler with thread := .atSwitch .asyncPending },
        [.addChannel channel handler.serial])
  | .ok (.result result) => ({ handler with thread := .atSwitch result }, [])

/-- `m_current_step->Enter()`. -/
@[simp] def enter (request : HttpRequest) (handler : HttpRequestHandler) :
    HttpRequestHandler × List HttpEvent :=
  match handler.currentStep with
  | none => handler.crash .nullPointer
  | some step => handler.resume (step.enter (handler.remaining request))

/-- The message that `OnExecuteRequestHandler` fills in, with a given body. -/
def asgiRequestMsg (request : HttpRequest) (replyChannel body : Bytes) :
    AsgiHttpRequestMsg where
  replyChannel := replyChannel
  httpVersion := getRequestHttpVersion request
  method := request.httpMethod
  scheme := getRequestScheme request
  path := getRequestPath request
  queryString := getRequestQueryString request
  rootPath := []
  headers := getRequestHeaders request
  body := body

/-- `OnExecuteRequestHandler`; the body is resized to what remains to read. -/
def onExecuteRequestHandler
    (request : HttpRequest) (replyChannel : Bytes)
    (handler : HttpRequestHandler) :
    Option (HttpRequestHandler × List HttpEvent) :=
  if handler.thread = .notStarted then
    some ({ handler with
      currentStep := some (.readBody {
        asgiRequestMsg := some (asgiRequestMsg request replyChannel
          (List.replicate (handler.remaining request) 0)) })
      serial := handler.serial + 1 }.enter request)
  else none

/-- IIS stores the next bytes of the entity body into the window of a read. -/
def deliver
    (request : HttpRequest) (handler : HttpRequestHandler)
    (call : IisCall) (bytes : Nat) : HttpRequestHandler :=
  match call, handler.currentStep with
  | .readEntityBody _ offset _, some (.readBody step) =>
      { handler with
        delivered := handler.delivered + bytes
        currentStep := some (.readBody { step with
          asgiRequestMsg := step.asgiRequestMsg.map fun msg =>
            { msg with
              body := Buffer.store msg.body offset
                ((request.entityBody.drop handler.delivered).take bytes) } }) }
  | _, _ => handler

/-- Whether IIS can report a number of bytes for a call: a read delivers at
most the length it was offered, and no more than there is. -/
@[simp] def canReport
    (request : HttpRequest) (handler : HttpRequestHandler)
    (bytes : Nat) : IisCall → Bool
  | .readEntityBody _ _ length =>
      decide (bytes ≤ length) && decide (bytes ≤ handler.remaining request)
  | .writeEntityChunks _ | .flush => true

/-- A call into IIS returns to `Enter`. -/
def iisReturn (request : HttpRequest) (handler : HttpRequestHandler) :
    IisReturn → Option (HttpRequestHandler × List HttpEvent)
  | ret =>
      match handler.thread, handler.currentStep with
      | .inCall call, some step =>
          match ret with
          | .failed =>
              match step.afterCall (handler.remaining request) .failed with
              | none => none
              | some (step, entered) =>
                  let (handler, events) :=
                    { handler with currentStep := some step }.resume entered
                  some (handler, .completed call true 0 :: events)
          | .pending =>
              match step.afterCall (handler.remaining request) .pending with
              | none => none
              | some (step, entered) =>
                  some ({ handler with
                    currentStep := some step
                    operations := handler.operations ++
                      [(handler.serial, call)] }.resume entered)
          | .completed bytes =>
              if handler.canReport request bytes call then
                let handler := handler.deliver request call bytes
                match handler.currentStep with
                | none => none
                | some step =>
                    match step.afterCall (handler.remaining request)
                        (.completed bytes) with
                    | none => none
                    | some (step, entered) =>
                        let (handler, events) :=
                          { handler with currentStep := some step }.resume
                            entered
                        some (handler, .completed call false bytes :: events)
              else none
      | _, _ => none

/-- One turn of the loop of `HandlerStateMachine`. -/
def stateMachine (request : HttpRequest) (handler : HttpRequestHandler) :
    Option (HttpRequestHandler × List HttpEvent) :=
  match handler.thread with
  | .atSwitch result =>
      match handlerStateMachine result with
      | .leave .pending =>
          some ({ handler with thread := .waiting }, [.returned .pending])
      | .leave .finishRequest =>
          some ({ handler with thread := .finished },
            [.returned .finishRequest])
      | .enter => some (handler.enter request)
      | .getNextStepAndEnter =>
          match handler.currentStep with
          | none => some (handler.crash .nullPointer)
          | some step =>
              match step.getNextStep with
              | .error fault => some (handler.crash fault)
              | .ok next =>
                  some ({ handler with
                    currentStep := some next
                    serial := handler.serial + 1 }.enter request)
  | _ => none

/-- `OnAsyncCompletion`, up to the loop of the state machine. -/
def onAsyncCompletion
    (request : HttpRequest) (handler : HttpRequestHandler)
    (hr : HResult) (numBytes : Nat) : HttpRequestHandler × List HttpEvent :=
  match handler.currentStep with
  | none => handler.crash .nullPointer
  | some step =>
      match step.onAsyncCompletion hr numBytes (handler.remaining request) with
      | .error fault => handler.crash fault
      | .ok (step, result, events) =>
          ({ handler with
              currentStep := some step
              thread := .atSwitch result }, events)

/-- IIS completes an operation.  A failed read delivers nothing. -/
def complete
    (request : HttpRequest) (handler : HttpRequestHandler)
    (index : Nat) (hr : HResult) (bytes : Nat) :
    Option (HttpRequestHandler × List HttpEvent) :=
  match handler.thread, handler.operations[index]? with
  | .waiting, some (_, call) =>
      if failed hr || handler.canReport request bytes call then
        let handler :=
          { handler with operations := handler.operations.eraseIdx index }
        let handler :=
          if failed hr then handler else handler.deliver request call bytes
        let (handler, events) := handler.onAsyncCompletion request hr bytes
        some (handler, .completed call (failed hr) bytes :: events)
      else none
  | _, _ => none

/-- IIS delivers a posted completion. -/
def completePosted
    (request : HttpRequest) (handler : HttpRequestHandler)
    (index : Nat) (hr : HResult) (bytes : Nat) :
    Option (HttpRequestHandler × List HttpEvent) :=
  match handler.thread, handler.posted[index]? with
  | .waiting, some _ =>
      some ({ handler with
        posted := handler.posted.eraseIdx index }.onAsyncCompletion
          request hr bytes)
  | _, _ => none

/-- Whether a captured step is the current one and still exists. -/
def alive (handler : HttpRequestHandler) (serial : Nat) : Bool :=
  decide (handler.serial = serial) && decide (handler.thread ≠ .deleted)

/-- `m_channels.Send("http.request", buffer)` in the task of
`SendToApplicationStep`. -/
def taskSend (handler : HttpRequestHandler) (index : Nat) :
    Option (HttpRequestHandler × List HttpEvent) :=
  match handler.tasks[index]? with
  | some task =>
      if task.sent then none
      else if handler.alive task.serial then
        match handler.currentStep with
        | some (.sendToApplication { asgiRequestMsg := some msg }) =>
            some ({ handler with
                tasks := handler.tasks.set index { task with sent := true } },
              [.send (ascii "http.request") msg])
        | _ => some (handler, [.fault .nullPointer])
      else some (handler, [.fault .useAfterFree])
  | none => none

/-- `PostCompletion(0)` in the continuation of the task. -/
def taskPost (handler : HttpRequestHandler) (index : Nat) :
    Option (HttpRequestHandler × List HttpEvent) :=
  match handler.tasks[index]? with
  | some task =>
      if task.sent then
        some ({ handler with
          tasks := handler.tasks.eraseIdx index
          posted := handler.posted ++ [task.serial] }, [])
      else none
  | none => none

/-- The callback of `WaitForResponseStep` unpacks its message; an exception
ends the callback. -/
def callbackUnpack
    (unpack : Bytes → Option AsgiHttpResponseMsg)
    (handler : HttpRequestHandler) (index : Nat) :
    Option (HttpRequestHandler × List HttpEvent) :=
  match handler.callbacks[index]? with
  | some callback =>
      if callback.unpacked then none
      else
        match unpack callback.data with
        | none =>
            some ({ handler with
              callbacks := handler.callbacks.eraseIdx index }, [])
        | some msg =>
            if handler.alive callback.serial then
              match handler.currentStep with
              | some (.waitForResponse step) =>
                  some ({ handler with
                    currentStep := some (.waitForResponse
                      { step with asgiResponseMsg := some msg })
                    callbacks := handler.callbacks.set index
                      { callback with unpacked := true } }, [])
              | _ => some (handler, [.fault .nullPointer])
            else some (handler, [.fault .useAfterFree])
  | none => none

/-- `PostCompletion(0)` in the callback. -/
def callbackPost (handler : HttpRequestHandler) (index : Nat) :
    Option (HttpRequestHandler × List HttpEvent) :=
  match handler.callbacks[index]? with
  | some callback =>
      if callback.unpacked then
        some ({ handler with
          callbacks := handler.callbacks.eraseIdx index
          returning := handler.returning ++ [callback.serial]
          posted := handler.posted ++ [callback.serial] }, [])
      else none
  | none => none

/-- The callback returns. -/
def callbackReturn (handler : HttpRequestHandler) (index : Nat) :
    Option (HttpRequestHandler × List HttpEvent) :=
  if index < handler.returning.length then
    some ({ handler with returning := handler.returning.eraseIdx index }, [])
  else none

/-- `CleanupStoredContext`. -/
def cleanupStoredContext (handler : HttpRequestHandler) :
    Option (HttpRequestHandler × List HttpEvent) :=
  if handler.thread = .finished then
    some ({ handler with thread := .deleted }, [])
  else none

/-- What a label does to a request. -/
def step
    (unpack : Bytes → Option AsgiHttpResponseMsg)
    (request : HttpRequest) (replyChannel : Bytes) :
    EventMachine HttpRequestHandler HandlerLabel HttpEvent
  | handler, .onExecuteRequestHandler =>
      handler.onExecuteRequestHandler request replyChannel
  | handler, .iisReturn ret => handler.iisReturn request ret
  | handler, .stateMachine => handler.stateMachine request
  | handler, .complete index hr bytes =>
      handler.complete request index hr bytes
  | handler, .completePosted index hr bytes =>
      handler.completePosted request index hr bytes
  | handler, .taskSend index => handler.taskSend index
  | handler, .taskPost index => handler.taskPost index
  | handler, .callbackUnpack index => handler.callbackUnpack unpack index
  | handler, .callbackPost index => handler.callbackPost index
  | handler, .callbackReturn index => handler.callbackReturn index
  | handler, .cleanupStoredContext => handler.cleanupStoredContext

end HttpRequestHandler

end IisAsgiHandler
