import IisAsgiHandler.Http.Lifecycle

/-!
# The handler lives the life of a request

Every abstract state stands for one concrete handler.  A step of the concrete
handler from such a state is a step of the life of the request, with the same
events, and leads to the handler that the next abstract state stands for.  In
particular no step of a handler faults.
-/

namespace IisAsgiHandler

namespace Life

variable (request : HttpRequest)
variable (replyChannel : Bytes)

/-- The thread of a handler call. -/
def thread (life : Life) : HandlerThread :=
  match life.phase with
  | .idle => .notStarted
  | .reading body => .inCall (readCall request body life.delivered)
  | .readAgain _ => .atSwitch .rerun
  | .readDone _ | .sendDone _ | .responseDone _ | .writeDone _ | .flushDone =>
      .atSwitch .gotoNext
  | .writing msg => .inCall (writeCall msg)
  | .flushing => .inCall .flush
  | .pending _ false => .atSwitch .asyncPending
  | .pending _ true => .waiting
  | .ending _ => .atSwitch .finishRequest
  | .finished _ => .finished
  | .deleted _ => .deleted

/-- The step object while the body is read. -/
def readBodyStep (life : Life) (body : Bytes) : RequestHandlerStep :=
  .readBody {
    asgiRequestMsg :=
      some (HttpRequestHandler.asgiRequestMsg request replyChannel body)
    bodyBytesRead := life.delivered }

/-- The step object while the request is sent. -/
def sendStep (body : Bytes) : RequestHandlerStep :=
  .sendToApplication {
    asgiRequestMsg :=
      some (HttpRequestHandler.asgiRequestMsg request replyChannel body) }

/-- The current step object. -/
def currentStep (life : Life) : Option RequestHandlerStep :=
  match life.phase with
  | .idle => none
  | .reading body | .readAgain body | .readDone body
  | .pending (.read body) _ => some (life.readBodyStep request replyChannel body)
  | .sendDone body | .pending (.send body) _ | .pending (.sent body) _
  | .pending (.sendPosted body) _ => some (sendStep request replyChannel body)
  | .pending (.registered _) _ | .pending (.callback _) _
  | .pending .threw _ =>
      some (.waitForResponse { replyChannel := replyChannel })
  | .responseDone msg | .pending (.unpacked _ msg) _
  | .pending (.responsePosted msg) _ =>
      some (.waitForResponse {
        replyChannel := replyChannel, asgiResponseMsg := some msg })
  | .writing msg | .writeDone msg | .pending (.write msg) _ =>
      some (.writeResponse {
        asgiResponseMsg := some msg, replyChannel := replyChannel })
  | .flushing | .flushDone | .pending .flush _ =>
      some (.flushResponse { replyChannel := replyChannel })
  | .ending step | .finished step | .deleted step => some step

/-- The operations that IIS will complete. -/
def operations (life : Life) : List (Nat × IisCall) :=
  match life.phase with
  | .pending (.read body) _ =>
      [(life.serial, readCall request body life.delivered)]
  | .pending (.write msg) _ => [(life.serial, writeCall msg)]
  | .pending .flush _ => [(life.serial, .flush)]
  | _ => []

/-- The tasks that send the request. -/
def tasks (life : Life) : List SendTask :=
  match life.phase with
  | .pending (.send _) _ => [{ serial := life.serial }]
  | .pending (.sent _) _ => [{ serial := life.serial, sent := true }]
  | _ => []

/-- The callbacks that have not posted. -/
def callbacks (life : Life) : List ResponseCallback :=
  match life.phase with
  | .pending (.callback data) _ => [{ serial := life.serial, data := data }]
  | .pending (.unpacked data _) _ =>
      [{ serial := life.serial, data := data, unpacked := true }]
  | _ => []

/-- The posted completions. -/
def posted (life : Life) : List Nat :=
  match life.phase with
  | .pending (.sendPosted _) _ | .pending (.responsePosted _) _ =>
      [life.serial]
  | _ => []

/-- The concrete handler that an abstract state stands for. -/
def toHandler (life : Life) : HttpRequestHandler where
  thread := life.thread request
  currentStep := life.currentStep request replyChannel
  serial := life.serial
  delivered := life.delivered
  operations := life.operations request
  tasks := life.tasks
  callbacks := life.callbacks
  returning := life.returning
  posted := life.posted

/-- The step that the callback registered with the pump captures. -/
def registered (life : Life) : Option Nat :=
  match life.phase with
  | .pending (.registered _) _ => some life.serial
  | _ => none

/-- The message that the pump holds for the request. -/
def held (life : Life) : Option Bytes :=
  match life.phase with
  | .pending (.registered held) _ => held
  | _ => none

/-- What is known at the start, and at the head of the state machine's
loop. -/
def Coherent (life : Life) : Prop :=
  match life.phase with
  | .idle => life.delivered = 0
  | .readAgain _ => request.entityBody.length - life.delivered ≠ 0
  | .responseDone msg => msg.content ≠ [] ∨ msg.moreContent = true
  | .writeDone msg => msg.moreContent = true
  | _ => True

/-! ## Reading the phase off the thread -/

variable {request}
variable {life : Life}

theorem thread_notStarted
    (atThread : life.thread request = .notStarted) : life.phase = .idle := by
  unfold thread at atThread
  split at atThread <;> first | assumption | contradiction

theorem thread_inCall
    {call : IisCall}
    (atThread : life.thread request = .inCall call) :
    (∃ body, life.phase = .reading body ∧
        call = readCall request body life.delivered) ∨
      (∃ msg, life.phase = .writing msg ∧ call = writeCall msg) ∨
      (life.phase = .flushing ∧ call = .flush) := by
  unfold thread at atThread
  split at atThread <;> simp_all

theorem thread_atSwitch
    {result : StepResult}
    (atThread : life.thread request = .atSwitch result) :
    (result = .rerun ∧ ∃ body, life.phase = .readAgain body) ∨
      (result = .gotoNext ∧
        ((∃ body, life.phase = .readDone body) ∨
          (∃ body, life.phase = .sendDone body) ∨
          (∃ msg, life.phase = .responseDone msg) ∨
          (∃ msg, life.phase = .writeDone msg) ∨
          life.phase = .flushDone)) ∨
      (result = .asyncPending ∧ ∃ await, life.phase = .pending await false) ∨
      (result = .finishRequest ∧ ∃ step, life.phase = .ending step) := by
  unfold thread at atThread
  split at atThread <;> simp_all

theorem thread_waiting
    (atThread : life.thread request = .waiting) :
    ∃ await, life.phase = .pending await true := by
  unfold thread at atThread
  split at atThread <;> simp_all

theorem thread_finished
    (atThread : life.thread request = .finished) :
    ∃ step, life.phase = .finished step := by
  unfold thread at atThread
  split at atThread <;> simp_all

theorem thread_deleted
    (atThread : life.thread request = .deleted) :
    ∃ step, life.phase = .deleted step := by
  unfold thread at atThread
  split at atThread <;> simp_all

/-! ## Reading the phase off the outstanding work -/

theorem operations_getElem?
    {index serial : Nat}
    {call : IisCall}
    (found : (life.operations request)[index]? = some (serial, call)) :
    index = 0 ∧ ∃ returned,
      (∃ body, life.phase = .pending (.read body) returned ∧
          call = readCall request body life.delivered) ∨
        (∃ msg, life.phase = .pending (.write msg) returned ∧
          call = writeCall msg) ∨
        (life.phase = .pending .flush returned ∧ call = .flush) := by
  unfold operations at found
  split at found <;> simp_all [List.getElem?_singleton]

theorem tasks_getElem?
    {index : Nat}
    {task : SendTask}
    (found : life.tasks[index]? = some task) :
    index = 0 ∧ task.serial = life.serial ∧ ∃ body returned,
      (life.phase = .pending (.send body) returned ∧ task.sent = false) ∨
        (life.phase = .pending (.sent body) returned ∧ task.sent = true) := by
  unfold tasks at found
  split at found
  · rename_i body returned atPhase
    simp only [List.getElem?_singleton, Option.ite_none_right_eq_some,
      Option.some.injEq] at found
    obtain ⟨rfl, rfl⟩ := found
    exact ⟨rfl, rfl, body, returned, .inl ⟨atPhase, rfl⟩⟩
  · rename_i body returned atPhase
    simp only [List.getElem?_singleton, Option.ite_none_right_eq_some,
      Option.some.injEq] at found
    obtain ⟨rfl, rfl⟩ := found
    exact ⟨rfl, rfl, body, returned, .inr ⟨atPhase, rfl⟩⟩
  · simp at found

theorem callbacks_getElem?
    {index : Nat}
    {callback : ResponseCallback}
    (found : life.callbacks[index]? = some callback) :
    index = 0 ∧ callback.serial = life.serial ∧ ∃ returned,
      (life.phase = .pending (.callback callback.data) returned ∧
          callback.unpacked = false) ∨
        (∃ msg, life.phase = .pending (.unpacked callback.data msg) returned ∧
          callback.unpacked = true) := by
  unfold callbacks at found
  split at found
  · rename_i data returned atPhase
    simp only [List.getElem?_singleton, Option.ite_none_right_eq_some,
      Option.some.injEq] at found
    obtain ⟨rfl, rfl⟩ := found
    exact ⟨rfl, rfl, returned, .inl ⟨atPhase, rfl⟩⟩
  · rename_i data msg returned atPhase
    simp only [List.getElem?_singleton, Option.ite_none_right_eq_some,
      Option.some.injEq] at found
    obtain ⟨rfl, rfl⟩ := found
    exact ⟨rfl, rfl, returned, .inr ⟨msg, atPhase, rfl⟩⟩
  · simp at found

theorem posted_getElem?
    {index serial : Nat}
    (found : life.posted[index]? = some serial) :
    index = 0 ∧ ∃ returned,
      (∃ body, life.phase = .pending (.sendPosted body) returned) ∨
        (∃ msg, life.phase = .pending (.responsePosted msg) returned) := by
  unfold posted at found
  split at found <;> simp_all [List.getElem?_singleton]

end Life

/-- A concrete step matches a step of the life of the request. -/
def Matched
    (unpack : Bytes → Option AsgiHttpResponseMsg)
    (request : HttpRequest)
    (replyChannel : Bytes)
    (life : Life)
    (label : HandlerLabel)
    (next : HttpRequestHandler)
    (events : List HttpEvent) : Prop :=
  ∃ lifeNext : Life,
    next = lifeNext.toHandler request replyChannel ∧
      lifeNext.Coherent request ∧
      LifeStep unpack request replyChannel life (.handler label) events
        lifeNext

namespace Matched

variable {unpack : Bytes → Option AsgiHttpResponseMsg}
variable {request : HttpRequest}
variable {replyChannel : Bytes}
variable {life : Life}
variable {next : HttpRequestHandler}
variable {events : List HttpEvent}

theorem onExecuteRequestHandler
    (coherent : life.Coherent request)
    (steps : (life.toHandler request replyChannel).onExecuteRequestHandler
      request replyChannel = some (next, events)) :
    Matched unpack request replyChannel life .onExecuteRequestHandler next
      events := by
  rw [HttpRequestHandler.onExecuteRequestHandler] at steps
  split at steps
  · rename_i notStarted
    have atIdle := Life.thread_notStarted notStarted
    obtain ⟨phase, serial, delivered, returning, queue⟩ := life
    subst atIdle
    have none : delivered = 0 := coherent
    subst none
    by_cases empty : request.entityBody = []
    · simp [Life.toHandler, empty] at steps
      obtain ⟨rfl, rfl⟩ := steps
      exact ⟨⟨.readDone [], serial + 1, 0, returning, queue⟩, rfl, trivial,
        .executeEmpty rfl (by simp [empty])⟩
    · simp [Life.toHandler, empty] at steps
      obtain ⟨rfl, rfl⟩ := steps
      exact ⟨⟨.reading (List.replicate request.entityBody.length 0),
          serial + 1, 0, returning, queue⟩, rfl, trivial,
        .executeRead _ rfl rfl
          (by simpa [HttpRequestHandler.asgiRequestMsg] using empty)⟩
  · contradiction

/-- A call to `ReadEntityBody` returns. -/
private theorem readReturn
    {ret : IisReturn}
    {body : Bytes}
    (reading : life.phase = .reading body)
    (steps : (life.toHandler request replyChannel).iisReturn request ret =
      some (next, events)) :
    Matched unpack request replyChannel life (.iisReturn ret) next events := by
  obtain ⟨phase, serial, delivered, returning, queue⟩ := life
  subst reading
  cases ret with
  | failed =>
      simp [HttpRequestHandler.iisReturn, Life.toHandler, Life.thread,
        Life.currentStep, Life.readBodyStep] at steps
      obtain ⟨rfl, rfl⟩ := steps
      exact ⟨⟨.ending _, serial, delivered, returning, queue⟩, rfl, trivial,
        .readFail body _ rfl⟩
  | pending =>
      simp [HttpRequestHandler.iisReturn, Life.toHandler, Life.thread,
        Life.currentStep, Life.readBodyStep] at steps
      obtain ⟨rfl, rfl⟩ := steps
      exact ⟨⟨.pending (.read body) false, serial, delivered, returning,
        queue⟩, rfl, trivial, .readPending body rfl⟩
  | completed bytes =>
      by_cases inside : bytes ≤ request.entityBody.length - delivered
      · by_cases last : request.entityBody.length - (delivered + bytes) = 0
        · simp [HttpRequestHandler.iisReturn, Life.toHandler, Life.thread,
            Life.currentStep, Life.readBodyStep, readCall, inside,
            HttpRequestHandler.deliver, last] at steps
          obtain ⟨rfl, rfl⟩ := steps
          exact ⟨⟨.readDone (storeBody request body delivered bytes), serial,
              delivered + bytes, returning, queue⟩, rfl, trivial,
            .readLast body bytes rfl inside last⟩
        · simp [HttpRequestHandler.iisReturn, Life.toHandler, Life.thread,
            Life.currentStep, Life.readBodyStep, readCall, inside,
            HttpRequestHandler.deliver, last] at steps
          obtain ⟨rfl, rfl⟩ := steps
          exact ⟨⟨.reading (storeBody request body delivered bytes), serial,
              delivered + bytes, returning, queue⟩, rfl, trivial,
            .readMore body bytes rfl inside last⟩
      · simp [HttpRequestHandler.iisReturn, Life.toHandler, Life.thread,
          Life.currentStep, Life.readBodyStep, readCall, inside] at steps

/-- A call to `WriteEntityChunks` returns. -/
private theorem writeReturn
    {ret : IisReturn}
    {msg : AsgiHttpResponseMsg}
    (writing : life.phase = .writing msg)
    (steps : (life.toHandler request replyChannel).iisReturn request ret =
      some (next, events)) :
    Matched unpack request replyChannel life (.iisReturn ret) next events := by
  obtain ⟨phase, serial, delivered, returning, queue⟩ := life
  subst writing
  cases ret with
  | failed =>
      simp [HttpRequestHandler.iisReturn, Life.toHandler, Life.thread,
        Life.currentStep] at steps
      obtain ⟨rfl, rfl⟩ := steps
      exact ⟨⟨.ending _, serial, delivered, returning, queue⟩, rfl, trivial,
        .writeFail msg _ rfl⟩
  | pending =>
      simp [HttpRequestHandler.iisReturn, Life.toHandler, Life.thread,
        Life.currentStep] at steps
      obtain ⟨rfl, rfl⟩ := steps
      exact ⟨⟨.pending (.write msg) false, serial, delivered, returning,
        queue⟩, rfl, trivial, .writePending msg rfl⟩
  | completed bytes =>
      cases more : msg.moreContent with
      | false =>
          simp [HttpRequestHandler.iisReturn, Life.toHandler, Life.thread,
            Life.currentStep, writeCall, HttpRequestHandler.deliver,
            more] at steps
          obtain ⟨rfl, rfl⟩ := steps
          exact ⟨⟨.ending _, serial, delivered, returning, queue⟩, rfl,
            trivial, .writeLast msg _ bytes rfl more⟩
      | true =>
          simp [HttpRequestHandler.iisReturn, Life.toHandler, Life.thread,
            Life.currentStep, writeCall, HttpRequestHandler.deliver,
            more] at steps
          obtain ⟨rfl, rfl⟩ := steps
          exact ⟨⟨.writeDone msg, serial, delivered, returning, queue⟩, rfl,
            more, .writeMore msg bytes rfl more⟩

/-- A call to `Flush` returns. -/
private theorem flushReturn
    {ret : IisReturn}
    (flushing : life.phase = .flushing)
    (steps : (life.toHandler request replyChannel).iisReturn request ret =
      some (next, events)) :
    Matched unpack request replyChannel life (.iisReturn ret) next events := by
  obtain ⟨phase, serial, delivered, returning, queue⟩ := life
  subst flushing
  cases ret with
  | failed =>
      simp [HttpRequestHandler.iisReturn, Life.toHandler, Life.thread,
        Life.currentStep] at steps
      obtain ⟨rfl, rfl⟩ := steps
      exact ⟨⟨.ending _, serial, delivered, returning, queue⟩, rfl, trivial,
        .flushFail _ rfl⟩
  | pending =>
      simp [HttpRequestHandler.iisReturn, Life.toHandler, Life.thread,
        Life.currentStep] at steps
      obtain ⟨rfl, rfl⟩ := steps
      exact ⟨⟨.pending .flush false, serial, delivered, returning, queue⟩, rfl,
        trivial, .flushPending rfl⟩
  | completed bytes =>
      simp [HttpRequestHandler.iisReturn, Life.toHandler, Life.thread,
        Life.currentStep, HttpRequestHandler.deliver] at steps
      obtain ⟨rfl, rfl⟩ := steps
      exact ⟨⟨.flushDone, serial, delivered, returning, queue⟩, rfl, trivial,
        .flushMore bytes rfl⟩

theorem iisReturn
    {ret : IisReturn}
    (steps : (life.toHandler request replyChannel).iisReturn request ret =
      some (next, events)) :
    Matched unpack request replyChannel life (.iisReturn ret) next events := by
  cases atThread : life.thread request with
  | inCall call =>
      rcases Life.thread_inCall atThread with
        ⟨body, reading, _⟩ | ⟨msg, writing, _⟩ | ⟨flushing, _⟩
      · exact readReturn reading steps
      · exact writeReturn writing steps
      · exact flushReturn flushing steps
  | _ => simp [HttpRequestHandler.iisReturn, Life.toHandler, atThread] at steps

theorem stateMachine
    (coherent : life.Coherent request)
    (steps : (life.toHandler request replyChannel).stateMachine request =
      some (next, events)) :
    Matched unpack request replyChannel life .stateMachine next events := by
  cases atThread : life.thread request with
  | atSwitch result =>
      obtain ⟨phase, serial, delivered, returning, queue⟩ := life
      rcases Life.thread_atSwitch atThread with
        ⟨rfl, body, rfl⟩ | ⟨rfl, gotoNext⟩ | ⟨rfl, await, rfl⟩ |
          ⟨rfl, step, rfl⟩
      · have more : request.entityBody.length - delivered ≠ 0 := coherent
        simp [HttpRequestHandler.stateMachine, Life.toHandler, atThread,
          Life.currentStep, Life.readBodyStep, more] at steps
        obtain ⟨rfl, rfl⟩ := steps
        exact ⟨⟨.reading body, serial, delivered, returning, queue⟩, rfl,
          trivial, .rerunRead body rfl more⟩
      · rcases gotoNext with
          ⟨body, rfl⟩ | ⟨body, rfl⟩ | ⟨msg, rfl⟩ | ⟨msg, rfl⟩ | rfl
        · simp [HttpRequestHandler.stateMachine, Life.toHandler, atThread,
            Life.currentStep, Life.readBodyStep] at steps
          obtain ⟨rfl, rfl⟩ := steps
          exact ⟨⟨.pending (.send body) false, serial + 1, delivered, returning,
            queue⟩, rfl, trivial, .enterSend body rfl⟩
        · simp [HttpRequestHandler.stateMachine, Life.toHandler, atThread,
            Life.currentStep, Life.sendStep] at steps
          obtain ⟨rfl, rfl⟩ := steps
          exact ⟨⟨.pending (.registered none) false, serial + 1, delivered,
            returning, queue⟩, rfl, trivial, .enterWait (.inl ⟨body, rfl⟩)⟩
        · by_cases empty : msg.content = []
          · have more : msg.moreContent = true :=
              coherent.resolve_left (not_not_intro empty)
            simp [HttpRequestHandler.stateMachine, Life.toHandler, atThread,
              Life.currentStep, empty, more] at steps
            obtain ⟨rfl, rfl⟩ := steps
            exact ⟨⟨.flushing, serial + 1, delivered, returning, queue⟩, rfl,
              trivial, .enterFlush msg (.inl ⟨rfl, empty⟩) more⟩
          · simp [HttpRequestHandler.stateMachine, Life.toHandler, atThread,
              Life.currentStep, empty] at steps
            obtain ⟨rfl, rfl⟩ := steps
            exact ⟨⟨.writing msg, serial + 1, delivered, returning, queue⟩, rfl,
              trivial, .enterWrite msg rfl empty⟩
        · have more : msg.moreContent = true := coherent
          simp [HttpRequestHandler.stateMachine, Life.toHandler, atThread,
            Life.currentStep, more] at steps
          obtain ⟨rfl, rfl⟩ := steps
          exact ⟨⟨.flushing, serial + 1, delivered, returning, queue⟩, rfl,
            trivial, .enterFlush msg (.inr rfl) more⟩
        · simp [HttpRequestHandler.stateMachine, Life.toHandler, atThread,
            Life.currentStep] at steps
          obtain ⟨rfl, rfl⟩ := steps
          exact ⟨⟨.pending (.registered none) false, serial + 1, delivered,
            returning, queue⟩, rfl, trivial, .enterWait (.inr rfl)⟩
      · simp [HttpRequestHandler.stateMachine, Life.toHandler,
          atThread] at steps
        obtain ⟨rfl, rfl⟩ := steps
        exact ⟨⟨.pending await true, serial, delivered, returning, queue⟩, by
          cases await <;> rfl, trivial, .leavePending await rfl⟩
      · simp [HttpRequestHandler.stateMachine, Life.toHandler,
          atThread] at steps
        obtain ⟨rfl, rfl⟩ := steps
        exact ⟨⟨.finished step, serial, delivered, returning, queue⟩, rfl,
          trivial, .leaveFinished step rfl⟩
  | _ => simp [HttpRequestHandler.stateMachine, Life.toHandler, atThread] at steps

theorem complete
    {index : Nat}
    {hr : HResult}
    {bytes : Nat}
    (steps : (life.toHandler request replyChannel).complete request index hr
      bytes = some (next, events)) :
    Matched unpack request replyChannel life (.complete index hr bytes) next
      events := by
  rw [HttpRequestHandler.complete] at steps
  split at steps
  · rename_i serial call waiting found
    obtain ⟨await, pending⟩ := Life.thread_waiting waiting
    obtain ⟨rfl, returned, awaited⟩ := Life.operations_getElem? found
    obtain ⟨phase, serial, delivered, returning, queue⟩ := life
    simp only at pending
    subst pending
    rcases awaited with ⟨body, same, rfl⟩ | ⟨msg, same, rfl⟩ | ⟨same, rfl⟩
    · cases same
      cases failure : failed hr with
      | true =>
          simp [failure, Life.toHandler, Life.operations,
            HttpRequestHandler.onAsyncCompletion, Life.currentStep,
            Life.readBodyStep] at steps
          obtain ⟨rfl, rfl⟩ := steps
          exact ⟨⟨.ending _, serial, delivered, returning, queue⟩, rfl, trivial,
            .completeReadFail body _ 0 hr bytes rfl failure⟩
      | false =>
          by_cases inside : bytes ≤ request.entityBody.length - delivered
          · by_cases last :
                request.entityBody.length - (delivered + bytes) = 0
            · simp [failure, Life.toHandler, Life.operations, readCall, inside,
                HttpRequestHandler.deliver,
                HttpRequestHandler.onAsyncCompletion, Life.currentStep,
                Life.readBodyStep, last] at steps
              obtain ⟨rfl, rfl⟩ := steps
              exact ⟨⟨.readDone (storeBody request body delivered bytes),
                  serial, delivered + bytes, returning, queue⟩, rfl, trivial,
                .completeReadLast body 0 hr bytes rfl failure inside last⟩
            · simp [failure, Life.toHandler, Life.operations, readCall, inside,
                HttpRequestHandler.deliver,
                HttpRequestHandler.onAsyncCompletion, Life.currentStep,
                Life.readBodyStep, last] at steps
              obtain ⟨rfl, rfl⟩ := steps
              exact ⟨⟨.readAgain (storeBody request body delivered bytes),
                  serial, delivered + bytes, returning, queue⟩, rfl, last,
                .completeReadMore body 0 hr bytes rfl failure inside last⟩
          · simp [failure, Life.toHandler, readCall, inside] at steps
    · cases same
      cases more : msg.moreContent with
      | false =>
          simp [Life.toHandler, Life.operations, writeCall,
            HttpRequestHandler.deliver, HttpRequestHandler.onAsyncCompletion,
            Life.currentStep, more] at steps
          obtain ⟨rfl, rfl⟩ := steps
          exact ⟨⟨.ending _, serial, delivered, returning, queue⟩, rfl, trivial,
            .completeWriteLast msg _ 0 hr bytes rfl more⟩
      | true =>
          simp [Life.toHandler, Life.operations, writeCall,
            HttpRequestHandler.deliver, HttpRequestHandler.onAsyncCompletion,
            Life.currentStep, more] at steps
          obtain ⟨rfl, rfl⟩ := steps
          exact ⟨⟨.writeDone msg, serial, delivered, returning, queue⟩, rfl,
            more, .completeWriteMore msg 0 hr bytes rfl more⟩
    · cases same
      simp [Life.toHandler, Life.operations, HttpRequestHandler.deliver,
        HttpRequestHandler.onAsyncCompletion, Life.currentStep] at steps
      obtain ⟨rfl, rfl⟩ := steps
      exact ⟨⟨.flushDone, serial, delivered, returning, queue⟩, rfl, trivial,
        .completeFlush 0 hr bytes rfl⟩
  · contradiction

theorem completePosted
    {index : Nat}
    {hr : HResult}
    {bytes : Nat}
    (steps : (life.toHandler request replyChannel).completePosted request index
      hr bytes = some (next, events)) :
    Matched unpack request replyChannel life (.completePosted index hr bytes)
      next events := by
  rw [HttpRequestHandler.completePosted] at steps
  split at steps
  · rename_i poster waiting found
    obtain ⟨await, pending⟩ := Life.thread_waiting waiting
    obtain ⟨rfl, returned, awaited⟩ := Life.posted_getElem? found
    obtain ⟨phase, serial, delivered, returning, queue⟩ := life
    simp only at pending
    subst pending
    rcases awaited with ⟨body, same⟩ | ⟨msg, same⟩
    · cases same
      simp [Life.toHandler, Life.posted, HttpRequestHandler.onAsyncCompletion,
        Life.currentStep, Life.sendStep] at steps
      obtain ⟨rfl, rfl⟩ := steps
      exact ⟨⟨.sendDone body, serial, delivered, returning, queue⟩, rfl,
        trivial, .completeSend body 0 hr bytes rfl⟩
    · cases same
      by_cases last : msg.content = [] ∧ msg.moreContent = false
      · simp [Life.toHandler, Life.posted, HttpRequestHandler.onAsyncCompletion,
          Life.currentStep, last.1, last.2] at steps
        obtain ⟨rfl, rfl⟩ := steps
        exact ⟨⟨.ending _, serial, delivered, returning, queue⟩, rfl, trivial,
          .completeLastResponse msg _ 0 hr bytes rfl last.1 last.2⟩
      · have goesOn : msg.content ≠ [] ∨ msg.moreContent = true := by
          rcases not_and_or.mp last with content | more
          · exact .inl content
          · exact .inr (by simpa using more)
        simp [Life.toHandler, Life.posted, HttpRequestHandler.onAsyncCompletion,
          Life.currentStep] at steps
        rw [if_neg (by simpa using last)] at steps
        simp only [Prod.mk.injEq] at steps
        obtain ⟨rfl, rfl⟩ := steps
        exact ⟨⟨.responseDone msg, serial, delivered, returning, queue⟩, rfl,
          goesOn, .completeResponse msg 0 hr bytes rfl goesOn⟩
  · contradiction

theorem taskSend
    {index : Nat}
    (steps : (life.toHandler request replyChannel).taskSend index =
      some (next, events)) :
    Matched unpack request replyChannel life (.taskSend index) next events := by
  rw [HttpRequestHandler.taskSend] at steps
  split at steps
  · rename_i task found
    obtain ⟨rfl, captured, body, returned, sending⟩ := Life.tasks_getElem? found
    obtain ⟨phase, _, delivered, returning, queue⟩ := life
    rcases sending with ⟨rfl, unsent⟩ | ⟨rfl, sent⟩
    · obtain ⟨serial, taskSent⟩ := task
      subst captured unsent
      cases returned <;>
        · simp [Life.toHandler, HttpRequestHandler.alive, Life.thread,
            Life.currentStep, Life.sendStep] at steps
          obtain ⟨rfl, rfl⟩ := steps
          exact ⟨⟨.pending (.sent body) _, serial, delivered, returning, queue⟩,
            rfl, trivial, .taskSend body _ 0 rfl⟩
    · simp [sent] at steps
  · contradiction

theorem taskPost
    {index : Nat}
    (steps : (life.toHandler request replyChannel).taskPost index =
      some (next, events)) :
    Matched unpack request replyChannel life (.taskPost index) next events := by
  rw [HttpRequestHandler.taskPost] at steps
  split at steps
  · rename_i task found
    obtain ⟨rfl, captured, body, returned, sending⟩ := Life.tasks_getElem? found
    obtain ⟨phase, _, delivered, returning, queue⟩ := life
    rcases sending with ⟨rfl, unsent⟩ | ⟨rfl, sent⟩
    · simp [unsent] at steps
    · obtain ⟨serial, taskSent⟩ := task
      subst captured sent
      simp [Life.toHandler, Life.tasks, Life.posted] at steps
      obtain ⟨rfl, rfl⟩ := steps
      exact ⟨⟨.pending (.sendPosted body) returned, serial, delivered,
        returning, queue⟩, by cases returned <;> rfl, trivial,
        .taskPost body returned 0 rfl⟩
  · contradiction

theorem callbackUnpack
    {index : Nat}
    (steps : (life.toHandler request replyChannel).callbackUnpack unpack index =
      some (next, events)) :
    Matched unpack request replyChannel life (.callbackUnpack index) next
      events := by
  rw [HttpRequestHandler.callbackUnpack] at steps
  split at steps
  · rename_i callback found
    obtain ⟨rfl, captured, returned, running⟩ :=
      Life.callbacks_getElem? found
    obtain ⟨phase, _, delivered, returning, queue⟩ := life
    obtain ⟨serial, data, unpacked⟩ := callback
    rcases running with ⟨rfl, packed⟩ | ⟨msg, rfl, already⟩
    · subst captured packed
      cases decoded : unpack data with
      | none =>
          simp [decoded, Life.toHandler, Life.callbacks] at steps
          obtain ⟨rfl, rfl⟩ := steps
          exact ⟨⟨.pending .threw returned, serial, delivered, returning,
            queue⟩, by cases returned <;> rfl, trivial,
            .callbackThrow returned data 0 rfl decoded⟩
      | some msg =>
          cases returned <;>
            · simp [decoded, Life.toHandler, HttpRequestHandler.alive,
                Life.thread, Life.currentStep, Life.callbacks] at steps
              obtain ⟨rfl, rfl⟩ := steps
              exact ⟨⟨.pending (.unpacked data msg) _, serial, delivered,
                returning, queue⟩, rfl, trivial,
                .callbackUnpack _ data msg 0 rfl decoded⟩
    · simp only at already
      simp [already] at steps
  · contradiction

theorem callbackPost
    {index : Nat}
    (steps : (life.toHandler request replyChannel).callbackPost index =
      some (next, events)) :
    Matched unpack request replyChannel life (.callbackPost index) next
      events := by
  rw [HttpRequestHandler.callbackPost] at steps
  split at steps
  · rename_i callback found
    obtain ⟨rfl, captured, returned, running⟩ :=
      Life.callbacks_getElem? found
    obtain ⟨phase, _, delivered, returning, queue⟩ := life
    obtain ⟨serial, data, unpacked⟩ := callback
    rcases running with ⟨rfl, packed⟩ | ⟨msg, rfl, already⟩
    · simp only at packed
      simp [packed] at steps
    · subst captured already
      simp [Life.toHandler, Life.callbacks, Life.posted] at steps
      obtain ⟨rfl, rfl⟩ := steps
      exact ⟨⟨.pending (.responsePosted msg) returned, serial, delivered,
        returning ++ [serial], queue⟩, by cases returned <;> rfl, trivial,
        .callbackPost returned data msg 0 rfl⟩
  · contradiction

theorem callbackReturn
    {index : Nat}
    (coherent : life.Coherent request)
    (steps : (life.toHandler request replyChannel).callbackReturn index =
      some (next, events)) :
    Matched unpack request replyChannel life (.callbackReturn index) next
      events := by
  rw [HttpRequestHandler.callbackReturn] at steps
  split at steps
  · rename_i running
    simp at steps
    obtain ⟨rfl, rfl⟩ := steps
    exact ⟨{ life with returning := life.returning.eraseIdx index }, rfl,
      coherent, .callbackReturn index running⟩
  · contradiction

theorem cleanupStoredContext
    (steps : (life.toHandler request replyChannel).cleanupStoredContext =
      some (next, events)) :
    Matched unpack request replyChannel life .cleanupStoredContext next
      events := by
  rw [HttpRequestHandler.cleanupStoredContext] at steps
  split at steps
  · rename_i finished
    obtain ⟨phase, serial, delivered, returning, queue⟩ := life
    obtain ⟨step, rfl⟩ := Life.thread_finished finished
    simp at steps
    obtain ⟨rfl, rfl⟩ := steps
    exact ⟨⟨.deleted step, serial, delivered, returning, queue⟩, rfl, trivial,
      .cleanup step rfl⟩
  · contradiction

/-- Every step of the handler is a step of the life of its request. -/
theorem of_step
    {label : HandlerLabel}
    (coherent : life.Coherent request)
    (steps : HttpRequestHandler.step unpack request replyChannel
      (life.toHandler request replyChannel) label = some (next, events)) :
    Matched unpack request replyChannel life label next events := by
  cases label with
  | onExecuteRequestHandler => exact onExecuteRequestHandler coherent steps
  | iisReturn ret => exact iisReturn steps
  | stateMachine => exact stateMachine coherent steps
  | complete index hr bytes => exact complete steps
  | completePosted index hr bytes => exact completePosted steps
  | taskSend index => exact taskSend steps
  | taskPost index => exact taskPost steps
  | callbackUnpack index => exact callbackUnpack steps
  | callbackPost index => exact callbackPost steps
  | callbackReturn index => exact callbackReturn coherent steps
  | cleanupStoredContext => exact cleanupStoredContext steps

end Matched

end IisAsgiHandler
