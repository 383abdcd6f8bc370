import IisAsgiHandler.Http.Handler

/-!
# The life of a request

An abstract account of one request: a phase, and what the phase awaits while
no handler call is under way.  It has no lists of operations, tasks and posted
completions.  A phase that is pending names the single thing that will
complete it, so the protocol between a request and its surroundings is built
into the states.

The relation `LifeStep` lists everything that can happen to a request, with
the events that it shows.
-/

namespace IisAsgiHandler

/-- What will complete a request that is pending. -/
inductive Await
  /-- A read of the body. -/
  | read (body : Bytes)
  /-- The task that sends the request, before it has sent it. -/
  | send (body : Bytes)
  /-- The same task, before it posts. -/
  | sent (body : Bytes)
  /-- The completion that the task has posted. -/
  | sendPosted (body : Bytes)
  /-- The registered callback; the pump may hold a message for it. -/
  | registered (held : Option Bytes)
  /-- The callback, dispatched with a message. -/
  | callback (data : Bytes)
  /-- The callback, with its message unpacked into the step. -/
  | unpacked (data : Bytes) (msg : AsgiHttpResponseMsg)
  /-- Nothing: the callback has thrown. -/
  | threw
  /-- The completion that the callback has posted. -/
  | responsePosted (msg : AsgiHttpResponseMsg)
  | write (msg : AsgiHttpResponseMsg)
  | flush

/-- The phases of a request. -/
inductive Phase
  | idle
  | reading (body : Bytes)
  | readAgain (body : Bytes)
  | readDone (body : Bytes)
  | sendDone (body : Bytes)
  | responseDone (msg : AsgiHttpResponseMsg)
  | writing (msg : AsgiHttpResponseMsg)
  | writeDone (msg : AsgiHttpResponseMsg)
  | flushing
  | flushDone
  /-- Waiting for a completion; `returned` tells whether the handler call has
  returned yet. -/
  | pending (await : Await) (returned : Bool)
  | ending (step : RequestHandlerStep)
  | finished (step : RequestHandlerStep)
  | deleted (step : RequestHandlerStep)

/-- The abstract state of a request. -/
structure Life where
  phase : Phase := .idle
  serial : Nat := 0
  delivered : Nat := 0
  returning : List Nat := []
  queue : List Bytes := []

/-- What happens to a request: a step of its own, or one of the pump or of the
application. -/
inductive LifeLabel
  | handler (label : HandlerLabel)
  | message (data : Bytes)
  | pop
  | dispatch

namespace LifeLabel

/-- The handler's label of a step of its own. -/
@[simp] def own : LifeLabel → Option HandlerLabel
  | .handler label => some label
  | .message _ | .pop | .dispatch => none

/-- Number of steps that the request takes itself. -/
@[simp] def ownSteps : LifeLabel → Nat
  | .handler _ => 1
  | .message _ | .pop | .dispatch => 0

/-- The messages that the application sends to the request. -/
@[simp] def messages : LifeLabel → List Bytes
  | .message data => [data]
  | .handler _ | .pop | .dispatch => []

end LifeLabel

/-- What has happened to a request so far: the steps it has taken itself, what
it has shown, and the messages sent to it. -/
structure LifeHistory where
  ownSteps : Nat := 0
  events : List HttpEvent := []
  messages : List Bytes := []

/-- The history after one more step. -/
@[simps] def LifeHistory.after
    (past : LifeHistory)
    (label : LifeLabel)
    (events : List HttpEvent) : LifeHistory where
  ownSteps := past.ownSteps + label.ownSteps
  events := past.events ++ events
  messages := past.messages ++ label.messages

/-- The call that reads the rest of the body. -/
def readCall (request : HttpRequest) (body : Bytes) (delivered : Nat) : IisCall :=
  .readEntityBody body.length delivered (request.entityBody.length - delivered)

/-- The body after a read has delivered some bytes. -/
def storeBody
    (request : HttpRequest) (body : Bytes) (delivered bytes : Nat) : Bytes :=
  Buffer.store body delivered ((request.entityBody.drop delivered).take bytes)

/-- The call that writes the content of a message. -/
def writeCall (msg : AsgiHttpResponseMsg) : IisCall :=
  .writeEntityChunks (msg.content.take (msg.content.length % dwordSize))

/-- Everything that can happen to a request. -/
inductive LifeStep
    (unpack : Bytes → Option AsgiHttpResponseMsg)
    (request : HttpRequest)
    (replyChannel : Bytes)
    (life : Life) : LifeLabel → List HttpEvent → Life → Prop
  -- Reading the body
  | executeEmpty :
      life.phase = .idle →
      request.entityBody.length - life.delivered = 0 →
      LifeStep unpack request replyChannel life
        (.handler .onExecuteRequestHandler) []
        { life with phase := .readDone [], serial := life.serial + 1 }
  | executeRead (body : Bytes) :
      life.phase = .idle →
      body = List.replicate (request.entityBody.length - life.delivered) 0 →
      body ≠ [] →
      LifeStep unpack request replyChannel life
        (.handler .onExecuteRequestHandler)
        [.call (readCall request body life.delivered)]
        { life with phase := .reading body, serial := life.serial + 1 }
  | readFail (body : Bytes) (step : RequestHandlerStep) :
      life.phase = .reading body →
      LifeStep unpack request replyChannel life (.handler (.iisReturn .failed))
        [.completed (readCall request body life.delivered) true 0]
        { life with phase := .ending step }
  | readPending (body : Bytes) :
      life.phase = .reading body →
      LifeStep unpack request replyChannel life
        (.handler (.iisReturn .pending)) []
        { life with phase := .pending (.read body) false }
  | readMore (body : Bytes) (bytes : Nat) :
      life.phase = .reading body →
      bytes ≤ request.entityBody.length - life.delivered →
      request.entityBody.length - (life.delivered + bytes) ≠ 0 →
      LifeStep unpack request replyChannel life
        (.handler (.iisReturn (.completed bytes)))
        [.completed (readCall request body life.delivered) false bytes,
          .call (readCall request
            (storeBody request body life.delivered bytes)
            (life.delivered + bytes))]
        { life with
          phase := .reading (storeBody request body life.delivered bytes)
          delivered := life.delivered + bytes }
  | readLast (body : Bytes) (bytes : Nat) :
      life.phase = .reading body →
      bytes ≤ request.entityBody.length - life.delivered →
      request.entityBody.length - (life.delivered + bytes) = 0 →
      LifeStep unpack request replyChannel life
        (.handler (.iisReturn (.completed bytes)))
        [.completed (readCall request body life.delivered) false bytes]
        { life with
          phase := .readDone (storeBody request body life.delivered bytes)
          delivered := life.delivered + bytes }
  | completeReadFail (body : Bytes) (step : RequestHandlerStep)
      (index : Nat) (hr : HResult) (bytes : Nat) :
      life.phase = .pending (.read body) true →
      failed hr = true →
      LifeStep unpack request replyChannel life
        (.handler (.complete index hr bytes))
        [.completed (readCall request body life.delivered) true bytes]
        { life with phase := .ending step }
  | completeReadMore (body : Bytes) (index : Nat) (hr : HResult) (bytes : Nat) :
      life.phase = .pending (.read body) true →
      failed hr = false →
      bytes ≤ request.entityBody.length - life.delivered →
      request.entityBody.length - (life.delivered + bytes) ≠ 0 →
      LifeStep unpack request replyChannel life
        (.handler (.complete index hr bytes))
        [.completed (readCall request body life.delivered) false bytes]
        { life with
          phase := .readAgain (storeBody request body life.delivered bytes)
          delivered := life.delivered + bytes }
  | completeReadLast (body : Bytes) (index : Nat) (hr : HResult) (bytes : Nat) :
      life.phase = .pending (.read body) true →
      failed hr = false →
      bytes ≤ request.entityBody.length - life.delivered →
      request.entityBody.length - (life.delivered + bytes) = 0 →
      LifeStep unpack request replyChannel life
        (.handler (.complete index hr bytes))
        [.completed (readCall request body life.delivered) false bytes]
        { life with
          phase := .readDone (storeBody request body life.delivered bytes)
          delivered := life.delivered + bytes }
  | rerunRead (body : Bytes) :
      life.phase = .readAgain body →
      request.entityBody.length - life.delivered ≠ 0 →
      LifeStep unpack request replyChannel life (.handler .stateMachine)
        [.call (readCall request body life.delivered)]
        { life with phase := .reading body }
  -- Sending the request to the application
  | enterSend (body : Bytes) :
      life.phase = .readDone body →
      LifeStep unpack request replyChannel life (.handler .stateMachine) []
        { life with
          phase := .pending (.send body) false
          serial := life.serial + 1 }
  | taskSend (body : Bytes) (returned : Bool) (index : Nat) :
      life.phase = .pending (.send body) returned →
      LifeStep unpack request replyChannel life (.handler (.taskSend index))
        [.send (ascii "http.request")
          (HttpRequestHandler.asgiRequestMsg request replyChannel body)]
        { life with phase := .pending (.sent body) returned }
  | taskPost (body : Bytes) (returned : Bool) (index : Nat) :
      life.phase = .pending (.sent body) returned →
      LifeStep unpack request replyChannel life (.handler (.taskPost index)) []
        { life with phase := .pending (.sendPosted body) returned }
  | completeSend (body : Bytes) (index : Nat) (hr : HResult) (bytes : Nat) :
      life.phase = .pending (.sendPosted body) true →
      LifeStep unpack request replyChannel life
        (.handler (.completePosted index hr bytes)) []
        { life with phase := .sendDone body }
  -- Waiting for a response
  | enterWait :
      (∃ body, life.phase = .sendDone body) ∨ life.phase = .flushDone →
      LifeStep unpack request replyChannel life (.handler .stateMachine)
        [.addChannel replyChannel (life.serial + 1)]
        { life with
          phase := .pending (.registered none) false
          serial := life.serial + 1 }
  | pop (returned : Bool) (data : Bytes) (rest : List Bytes) :
      life.phase = .pending (.registered none) returned →
      life.queue = data :: rest →
      LifeStep unpack request replyChannel life .pop []
        { life with
          phase := .pending (.registered (some data)) returned
          queue := rest }
  | dispatch (returned : Bool) (data : Bytes) :
      life.phase = .pending (.registered (some data)) returned →
      LifeStep unpack request replyChannel life .dispatch []
        { life with phase := .pending (.callback data) returned }
  | callbackUnpack (returned : Bool) (data : Bytes)
      (msg : AsgiHttpResponseMsg) (index : Nat) :
      life.phase = .pending (.callback data) returned →
      unpack data = some msg →
      LifeStep unpack request replyChannel life
        (.handler (.callbackUnpack index)) []
        { life with phase := .pending (.unpacked data msg) returned }
  | callbackThrow (returned : Bool) (data : Bytes) (index : Nat) :
      life.phase = .pending (.callback data) returned →
      unpack data = none →
      LifeStep unpack request replyChannel life
        (.handler (.callbackUnpack index)) []
        { life with phase := .pending .threw returned }
  | callbackPost (returned : Bool) (data : Bytes)
      (msg : AsgiHttpResponseMsg) (index : Nat) :
      life.phase = .pending (.unpacked data msg) returned →
      LifeStep unpack request replyChannel life
        (.handler (.callbackPost index)) []
        { life with
          phase := .pending (.responsePosted msg) returned
          returning := life.returning ++ [life.serial] }
  | callbackReturn (index : Nat) :
      index < life.returning.length →
      LifeStep unpack request replyChannel life
        (.handler (.callbackReturn index)) []
        { life with returning := life.returning.eraseIdx index }
  | completeLastResponse (msg : AsgiHttpResponseMsg) (step : RequestHandlerStep)
      (index : Nat) (hr : HResult) (bytes : Nat) :
      life.phase = .pending (.responsePosted msg) true →
      msg.content = [] →
      msg.moreContent = false →
      LifeStep unpack request replyChannel life
        (.handler (.completePosted index hr bytes))
        (applyResponse msg)
        { life with phase := .ending step }
  | completeResponse (msg : AsgiHttpResponseMsg)
      (index : Nat) (hr : HResult) (bytes : Nat) :
      life.phase = .pending (.responsePosted msg) true →
      msg.content ≠ [] ∨ msg.moreContent = true →
      LifeStep unpack request replyChannel life
        (.handler (.completePosted index hr bytes))
        (applyResponse msg)
        { life with phase := .responseDone msg }
  -- Writing and flushing the response
  | enterWrite (msg : AsgiHttpResponseMsg) :
      life.phase = .responseDone msg →
      msg.content ≠ [] →
      LifeStep unpack request replyChannel life (.handler .stateMachine)
        [.call (writeCall msg)]
        { life with phase := .writing msg, serial := life.serial + 1 }
  | enterFlush (msg : AsgiHttpResponseMsg) :
      (life.phase = .responseDone msg ∧ msg.content = []) ∨
        life.phase = .writeDone msg →
      msg.moreContent = true →
      LifeStep unpack request replyChannel life (.handler .stateMachine)
        [.call .flush]
        { life with phase := .flushing, serial := life.serial + 1 }
  | writeFail (msg : AsgiHttpResponseMsg) (step : RequestHandlerStep) :
      life.phase = .writing msg →
      LifeStep unpack request replyChannel life (.handler (.iisReturn .failed))
        [.completed (writeCall msg) true 0]
        { life with phase := .ending step }
  | writePending (msg : AsgiHttpResponseMsg) :
      life.phase = .writing msg →
      LifeStep unpack request replyChannel life
        (.handler (.iisReturn .pending)) []
        { life with phase := .pending (.write msg) false }
  | writeMore (msg : AsgiHttpResponseMsg) (bytes : Nat) :
      life.phase = .writing msg →
      msg.moreContent = true →
      LifeStep unpack request replyChannel life
        (.handler (.iisReturn (.completed bytes)))
        [.completed (writeCall msg) false bytes]
        { life with phase := .writeDone msg }
  | writeLast (msg : AsgiHttpResponseMsg) (step : RequestHandlerStep)
      (bytes : Nat) :
      life.phase = .writing msg →
      msg.moreContent = false →
      LifeStep unpack request replyChannel life
        (.handler (.iisReturn (.completed bytes)))
        [.completed (writeCall msg) false bytes]
        { life with phase := .ending step }
  | completeWriteMore (msg : AsgiHttpResponseMsg)
      (index : Nat) (hr : HResult) (bytes : Nat) :
      life.phase = .pending (.write msg) true →
      msg.moreContent = true →
      LifeStep unpack request replyChannel life
        (.handler (.complete index hr bytes))
        [.completed (writeCall msg) (failed hr) bytes]
        { life with phase := .writeDone msg }
  | completeWriteLast (msg : AsgiHttpResponseMsg) (step : RequestHandlerStep)
      (index : Nat) (hr : HResult) (bytes : Nat) :
      life.phase = .pending (.write msg) true →
      msg.moreContent = false →
      LifeStep unpack request replyChannel life
        (.handler (.complete index hr bytes))
        [.completed (writeCall msg) (failed hr) bytes]
        { life with phase := .ending step }
  | flushFail (step : RequestHandlerStep) :
      life.phase = .flushing →
      LifeStep unpack request replyChannel life (.handler (.iisReturn .failed))
        [.completed .flush true 0]
        { life with phase := .ending step }
  | flushPending :
      life.phase = .flushing →
      LifeStep unpack request replyChannel life
        (.handler (.iisReturn .pending)) []
        { life with phase := .pending .flush false }
  | flushMore (bytes : Nat) :
      life.phase = .flushing →
      LifeStep unpack request replyChannel life
        (.handler (.iisReturn (.completed bytes)))
        [.completed .flush false bytes]
        { life with phase := .flushDone }
  | completeFlush (index : Nat) (hr : HResult) (bytes : Nat) :
      life.phase = .pending .flush true →
      LifeStep unpack request replyChannel life
        (.handler (.complete index hr bytes))
        [.completed .flush (failed hr) bytes]
        { life with phase := .flushDone }
  -- Returning to IIS
  | leavePending (await : Await) :
      life.phase = .pending await false →
      LifeStep unpack request replyChannel life (.handler .stateMachine)
        [.returned .pending]
        { life with phase := .pending await true }
  | leaveFinished (step : RequestHandlerStep) :
      life.phase = .ending step →
      LifeStep unpack request replyChannel life (.handler .stateMachine)
        [.returned .finishRequest]
        { life with phase := .finished step }
  | cleanup (step : RequestHandlerStep) :
      life.phase = .finished step →
      LifeStep unpack request replyChannel life
        (.handler .cleanupStoredContext) []
        { life with phase := .deleted step }
  -- The application
  | message (data : Bytes) :
      LifeStep unpack request replyChannel life (.message data) []
        { life with queue := life.queue ++ [data] }

end IisAsgiHandler
