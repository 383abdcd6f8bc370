import IisAsgiHandler.RequestHandler

/-!
# The steps of the HTTP handler

A request goes through five steps: read the body, send the request to the
application, wait for a response, write it, flush it, and wait again while the
response is streamed.

`Enter` runs until it has a result or needs something from outside its step:
an IIS call, a task, or a registration with the response pump.  The code after
an IIS call is `afterCall`; the inner `while` loops are the alternation of the
two.  `GetRemainingEntityBytes` is passed in as a number.
-/

namespace IisAsgiHandler

/-- The calls into IIS that may complete asynchronously.  A read names the
size of the vector it reads into and the window it offers. -/
inductive IisCall
  | readEntityBody (bufferSize offset length : Nat)
  | writeEntityChunks (chunk : Bytes)
  | flush
  deriving DecidableEq

/-- What a request shows to IIS, to the channel layer and to the pump. -/
inductive HttpEvent
  /-- A call into IIS is made. -/
  | call (call : IisCall)
  /-- The handler receives the result of a call. -/
  | completed (call : IisCall) (failed : Bool) (bytes : Nat)
  | setStatus (status : Nat)
  | setHeader (name value : Bytes) (length : Nat) (replace : Bool)
  | send (channel : Bytes) (msg : AsgiHttpRequestMsg)
  /-- A callback that captures the given step is registered. -/
  | addChannel (channel : Bytes) (serial : Nat)
  /-- A handler call returns to IIS. -/
  | returned (status : RequestNotificationStatus)
  | fault (fault : Fault)
  deriving DecidableEq

/-- What `Enter` has come to. -/
inductive Entered
  | call (call : IisCall)
  | createTask
  | addChannel (channel : Bytes)
  | result (result : StepResult)
  deriving DecidableEq

/-! ## ReadBodyStep -/

structure ReadBodyStep where
  asgiRequestMsg : Option AsgiHttpRequestMsg
  bodyBytesRead : Nat := 0
  deriving DecidableEq

namespace ReadBodyStep

/-- The loop's call, for the part of the body that is still missing. -/
@[simp] def readEntityBody (step : ReadBodyStep) (remaining : Nat) :
    Except Fault Entered :=
  match step.asgiRequestMsg with
  | none => .error .nullPointer
  | some msg =>
      .ok (.call (.readEntityBody msg.body.length step.bodyBytesRead remaining))

@[simp] def enter (step : ReadBodyStep) (remaining : Nat) : Except Fault Entered :=
  if remaining = 0 then .ok (.result .gotoNext)
  else step.readEntityBody remaining

@[simp] def onAsyncCompletion
    (step : ReadBodyStep) (hr : HResult) (numBytes remaining : Nat) :
    ReadBodyStep × StepResult :=
  if failed hr then (step, .finishRequest)
  else
    ({ step with bodyBytesRead := step.bodyBytesRead + numBytes },
      if remaining = 0 then .gotoNext else .rerun)

@[simp] def afterCall (step : ReadBodyStep) (remaining : Nat) :
    IisReturn → ReadBodyStep × Except Fault Entered
  | .failed => (step, .ok (.result .finishRequest))
  | .pending => (step, .ok (.result .asyncPending))
  | .completed bytes =>
      let (step, result) := step.onAsyncCompletion sOk bytes remaining
      if result = .rerun then (step, step.readEntityBody remaining)
      else (step, .ok (.result result))

end ReadBodyStep

/-! ## SendToApplicationStep -/

structure SendToApplicationStep where
  asgiRequestMsg : Option AsgiHttpRequestMsg
  deriving DecidableEq

/-! ## WaitForResponseStep -/

structure WaitForResponseStep where
  replyChannel : Bytes
  asgiResponseMsg : Option AsgiHttpResponseMsg := none
  deriving DecidableEq

/-- The calls that apply the status and the headers of a message.  The status
and the length of a header value are 16-bit parameters. -/
def applyResponse (msg : AsgiHttpResponseMsg) : List HttpEvent :=
  (if 0 < msg.status then
      [.setStatus (msg.status % ushortSize).toNat]
    else []) ++
    msg.headers.map fun header =>
      .setHeader (cStr header.1) header.2 (header.2.length % ushortSize) true

/-- Applying a message sets the status and headers only. -/
theorem mem_applyResponse
    {msg : AsgiHttpResponseMsg}
    {event : HttpEvent}
    (member : event ∈ applyResponse msg) :
    (∃ status, event = .setStatus status) ∨
      ∃ name value length, event = .setHeader name value length true := by
  rcases List.mem_append.mp member with status | header
  · split at status
    · exact .inl ⟨_, List.mem_singleton.mp status⟩
    · contradiction
  · obtain ⟨_, _, rfl⟩ := List.mem_map.mp header
    exact .inr ⟨_, _, _, rfl⟩

namespace WaitForResponseStep

@[simp] def onAsyncCompletion (step : WaitForResponseStep) :
    Except Fault (StepResult × List HttpEvent) :=
  match step.asgiResponseMsg with
  | none => .error .nullPointer
  | some msg =>
      if msg.content.length = 0 ∧ msg.moreContent = false then
        .ok (.finishRequest, applyResponse msg)
      else .ok (.gotoNext, applyResponse msg)

end WaitForResponseStep

/-! ## WriteResponseStep -/

structure WriteResponseStep where
  asgiResponseMsg : Option AsgiHttpResponseMsg
  replyChannel : Bytes
  respBytesWritten : Nat := 0
  deriving DecidableEq

namespace WriteResponseStep

/-- The loop's call.  The length of a chunk is a `ULONG`. -/
@[simp] def writeEntityChunks (step : WriteResponseStep) : Except Fault Entered :=
  match step.asgiResponseMsg with
  | none => .error .nullPointer
  | some msg =>
      .ok (.call (.writeEntityChunks
        ((msg.content.drop step.respBytesWritten).take
          ((msg.content.length - step.respBytesWritten) % dwordSize))))

@[simp] def onAsyncCompletion (step : WriteResponseStep) : Except Fault StepResult :=
  match step.asgiResponseMsg with
  | none => .error .nullPointer
  | some msg =>
      if msg.moreContent then .ok .gotoNext else .ok .finishRequest

@[simp] def afterCall (step : WriteResponseStep) : IisReturn → Except Fault Entered
  | .failed => .ok (.result .finishRequest)
  | .pending => .ok (.result .asyncPending)
  | .completed _ =>
      match step.onAsyncCompletion with
      | .error fault => .error fault
      | .ok result =>
          if result = .rerun then step.writeEntityChunks
          else .ok (.result result)

end WriteResponseStep

/-! ## FlushResponseStep -/

structure FlushResponseStep where
  replyChannel : Bytes
  deriving DecidableEq

namespace FlushResponseStep

@[simp] def onAsyncCompletion : StepResult := .gotoNext

@[simp] def afterCall : IisReturn → Entered
  | .failed => .result .finishRequest
  | .pending => .result .asyncPending
  | .completed _ =>
      if onAsyncCompletion = .rerun then .call .flush
      else .result onAsyncCompletion

end FlushResponseStep

/-! ## The steps together -/

/-- The step classes of the HTTP handler. -/
inductive RequestHandlerStep
  | readBody (step : ReadBodyStep)
  | sendToApplication (step : SendToApplicationStep)
  | waitForResponse (step : WaitForResponseStep)
  | writeResponse (step : WriteResponseStep)
  | flushResponse (step : FlushResponseStep)
  deriving DecidableEq

namespace RequestHandlerStep

/-- `Enter`, up to its first call out of the step. -/
@[simp] def enter (remaining : Nat) : RequestHandlerStep → Except Fault Entered
  | .readBody step => step.enter remaining
  | .sendToApplication _ => .ok .createTask
  | .waitForResponse step => .ok (.addChannel step.replyChannel)
  | .writeResponse step => step.writeEntityChunks
  | .flushResponse _ => .ok (.call .flush)

/-- `Enter`, from the return of an IIS call on. -/
@[simp] def afterCall (remaining : Nat) (ret : IisReturn) :
    RequestHandlerStep → Option (RequestHandlerStep × Except Fault Entered)
  | .readBody step =>
      let (step, entered) := step.afterCall remaining ret
      some (.readBody step, entered)
  | .writeResponse step => some (.writeResponse step, step.afterCall ret)
  | .flushResponse step =>
      some (.flushResponse step, .ok (FlushResponseStep.afterCall ret))
  | .sendToApplication _ | .waitForResponse _ => none

@[simp] def onAsyncCompletion (hr : HResult) (numBytes remaining : Nat) :
    RequestHandlerStep →
      Except Fault (RequestHandlerStep × StepResult × List HttpEvent)
  | .readBody step =>
      let (step, result) := step.onAsyncCompletion hr numBytes remaining
      .ok (.readBody step, result, [])
  | .sendToApplication step => .ok (.sendToApplication step, .gotoNext, [])
  | .waitForResponse step =>
      match step.onAsyncCompletion with
      | .error fault => .error fault
      | .ok (result, events) => .ok (.waitForResponse step, result, events)
  | .writeResponse step =>
      match step.onAsyncCompletion with
      | .error fault => .error fault
      | .ok result => .ok (.writeResponse step, result, [])
  | .flushResponse step =>
      .ok (.flushResponse step, FlushResponseStep.onAsyncCompletion, [])

/-- `GetNextStep`; the message pointer moves into the next step. -/
@[simp] def getNextStep : RequestHandlerStep → Except Fault RequestHandlerStep
  | .readBody step =>
      .ok (.sendToApplication { asgiRequestMsg := step.asgiRequestMsg })
  | .sendToApplication step =>
      match step.asgiRequestMsg with
      | none => .error .nullPointer
      | some msg => .ok (.waitForResponse { replyChannel := msg.replyChannel })
  | .waitForResponse step =>
      match step.asgiResponseMsg with
      | none => .error .nullPointer
      | some msg =>
          if msg.content.length = 0 ∧ msg.moreContent = true then
            .ok (.flushResponse { replyChannel := step.replyChannel })
          else
            .ok (.writeResponse {
              asgiResponseMsg := some msg
              replyChannel := step.replyChannel })
  | .writeResponse step =>
      match step.asgiResponseMsg with
      | none => .error .nullPointer
      | some msg =>
          if msg.moreContent then
            .ok (.flushResponse { replyChannel := step.replyChannel })
          else
            .error (.runtimeError
              (ascii "WriteResponseStep does not have a next step."))
  | .flushResponse step =>
      .ok (.waitForResponse { replyChannel := step.replyChannel })

end RequestHandlerStep

end IisAsgiHandler
