import IisAsgiHandler.Http.Protocol
import IisAsgiHandler.WebSocket.Connection

/-!
# Failed results

A read, a write or a flush may fail at once or when IIS completes it.  A step
whose call fails at once finishes the request.  A failure that comes later is
looked at by the step that reads the body only; a step that writes or flushes
goes on as after a success, and only a final message ends the request there.
The handler of a WebSocket starts its reader and its writer whatever the flush
has come to.
-/

namespace IisAsgiHandler

/-! ## Requests -/

/-- Whether a request receives the failure of a call. -/
def HttpEvent.failedResult : HttpEvent → Bool
  | .completed _ failed _ => failed
  | _ => false

/-- Whether a step that receives a failure from IIS finishes the request: it
reads the body, or writes a final message. -/
def RequestHandlerStep.finishesOnFailure : RequestHandlerStep → Bool
  | .readBody _ => true
  | .writeResponse step =>
      step.asgiResponseMsg.any fun msg => !msg.moreContent
  | _ => false

/-- Whether IIS reports a failure to a step that does not finish on it. -/
def HttpRequestHandler.ignoresFailure
    (handler : HttpRequestHandler) : HandlerLabel → Bool
  | .complete _ hr _ =>
      failed hr && !handler.currentStep.any RequestHandlerStep.finishesOnFailure
  | _ => false

/-- A failure that IIS reports later comes to a step that finishes on it. -/
def HttpRequestHandler.failureFinishes
    (handler : HttpRequestHandler) (label : HandlerLabel) : Prop :=
  handler.ignoresFailure label = false

instance (handler : HttpRequestHandler) (label : HandlerLabel) :
    Decidable (handler.failureFinishes label) :=
  inferInstanceAs (Decidable (_ = false))

/-- The phases of a request in each stage of halting. -/
def Phase.AtStage (phase : Phase) : EventMachine.HaltStage → Prop
  | .running => True
  | .halting => ∃ step, phase = .ending step
  | .halted => ∃ step, phase = .finished step ∨ phase = .deleted step

/-- Applying a response receives no result. -/
theorem applyResponse_failedResult (msg : AsgiHttpResponseMsg) :
    ∀ event ∈ applyResponse msg, event.failedResult = false := by
  intro event member
  rcases mem_applyResponse member with ⟨status, rfl⟩ | ⟨name, value, length, rfl⟩
  · rfl
  · rfl

namespace LifeStep

variable {unpack : Bytes → Option AsgiHttpResponseMsg}
variable {request : HttpRequest}
variable {replyChannel : Bytes}
variable {life next : Life}
variable {label : LifeLabel}
variable {events : List HttpEvent}

/-- A request that receives a failure ends. -/
theorem failedResult
    (good : ∀ own ∈ label.own,
      (life.toHandler request replyChannel).failureFinishes own)
    (steps : LifeStep unpack request replyChannel life label events next) :
    (∀ event ∈ events, event.failedResult = false) ∨
      ∃ stop step, events = [stop] ∧ stop.failedResult = true ∧
        next.phase = .ending step := by
  cases steps with
  | readFail body step atPhase | writeFail msg step atPhase
  | flushFail step atPhase => exact .inr ⟨_, step, rfl, rfl, rfl⟩
  | completeReadFail body step index hr bytes atPhase fails =>
      exact .inr ⟨_, step, rfl, rfl, rfl⟩
  | completeWriteMore msg index hr bytes atPhase more =>
      have finishes := good _ rfl
      refine .inl ?_
      simpa [HttpRequestHandler.failureFinishes,
        HttpRequestHandler.ignoresFailure, Life.toHandler, Life.currentStep,
        atPhase, RequestHandlerStep.finishesOnFailure, more,
        HttpEvent.failedResult] using finishes
  | completeWriteLast msg step index hr bytes atPhase last =>
      cases fails : failed hr with
      | false => exact .inl (by simp [HttpEvent.failedResult])
      | true => exact .inr ⟨_, step, rfl, rfl, rfl⟩
  | completeFlush index hr bytes atPhase =>
      have finishes := good _ rfl
      refine .inl ?_
      simpa [HttpRequestHandler.failureFinishes,
        HttpRequestHandler.ignoresFailure, Life.toHandler, Life.currentStep,
        atPhase, RequestHandlerStep.finishesOnFailure,
        HttpEvent.failedResult] using finishes
  | completeLastResponse msg | completeResponse msg =>
      exact .inl (applyResponse_failedResult msg)
  | _ => exact .inl (by simp [HttpEvent.failedResult])

/-- A request that is ending returns, and then does nothing any more. -/
theorem ending
    {stage : EventMachine.HaltStage}
    (atStage : life.phase.AtStage stage)
    (ended : stage ≠ .running)
    (steps : LifeStep unpack request replyChannel life label events next) :
    ∃ stageNext, EventMachine.HaltStep HttpEvent.failedResult
        (.returned .finishRequest) stage events stageNext ∧
      next.phase.AtStage stageNext := by
  obtain ⟨phase, serial, delivered, returning, queue⟩ := life
  cases stage with
  | running => contradiction
  | halting =>
      obtain ⟨step, rfl⟩ := atStage
      cases steps with
      | leaveFinished step atPhase => exact ⟨_, .finish, step, .inl rfl⟩
      | callbackReturn index inside => exact ⟨_, .wait, _, rfl⟩
      | message data => exact ⟨_, .wait, _, rfl⟩
      | enterWait before => simp at before
      | enterFlush msg before => simp at before
      | _ => contradiction
  | halted =>
      obtain ⟨step, rfl | rfl⟩ := atStage
      · cases steps with
        | cleanup step atPhase => exact ⟨_, .rest, step, .inr rfl⟩
        | callbackReturn index inside => exact ⟨_, .rest, _, .inl rfl⟩
        | message data => exact ⟨_, .rest, _, .inl rfl⟩
        | enterWait before => simp at before
        | enterFlush msg before => simp at before
        | _ => contradiction
      · cases steps with
        | callbackReturn index inside => exact ⟨_, .rest, _, .inr rfl⟩
        | message data => exact ⟨_, .rest, _, .inr rfl⟩
        | enterWait before => simp at before
        | enterFlush msg before => simp at before
        | _ => contradiction

/-- Each step of a request is one of a machine that halts on failures. -/
theorem haltStep
    {stage : EventMachine.HaltStage}
    (atStage : life.phase.AtStage stage)
    (good : ∀ own ∈ label.own,
      (life.toHandler request replyChannel).failureFinishes own)
    (steps : LifeStep unpack request replyChannel life label events next) :
    ∃ stageNext, EventMachine.HaltStep HttpEvent.failedResult
        (.returned .finishRequest) stage events stageNext ∧
      next.phase.AtStage stageNext := by
  cases stage with
  | running =>
      rcases steps.failedResult good with silent | ⟨stop, step, rfl, stops, ends⟩
      · exact ⟨.running, .run silent, trivial⟩
      · exact ⟨.halting, .stop stops, step, ends⟩
  | halting | halted => exact steps.ending atStage (by simp)

end LifeStep

/-- A request whose late failures come to steps that finish on them halts after
a failure. -/
theorem HttpSystem.haltsAfter_failedResult
    {ρ : Type} [DecidableEq ρ]
    {unpack : Bytes → Option AsgiHttpResponseMsg}
    {requests : Requests ρ}
    {labels : List (HttpSystemLabel ρ)}
    {trace : List (HttpSystemEvent ρ)}
    {system : HttpSystem ρ}
    {id : ρ}
    (run : EventMachine.Run (step unpack requests)
      (ownStepsAre HttpRequestHandler.failureFinishes id) {} labels trace system) :
    EventMachine.HaltsAfter HttpEvent.failedResult (.returned .finishRequest)
      ((system.handlers id).thread = .atSwitch .finishRequest)
      (requestEvents id trace) := by
  obtain ⟨life, ⟨_, seen⟩, stage, halting, atStage⟩ := life_law id _
    (fun past life => ∃ stage, EventMachine.Halting HttpEvent.failedResult
      (.returned .finishRequest) stage past.events ∧ life.phase.AtStage stage)
    ⟨.running, .running (by simp), trivial⟩
    (by
      rintro past life label events next ⟨stage, halting, atStage⟩ good steps
      obtain ⟨stageNext, moves, atNext⟩ := steps.haltStep atStage good
      exact ⟨stageNext, halting.step moves, atNext⟩)
    run
  refine halting.haltsAfter rfl ?_
  rintro rfl
  obtain ⟨step, atPhase⟩ := atStage
  rw [seen.handler]
  simp only [Life.toHandler, Life.thread, atPhase]

/-! ## WebSockets -/

/-- Whether a connection receives the failure of its flush. -/
def WsEvent.failedResult : WsEvent → Bool
  | .flushed failed => failed
  | _ => false

/-- Whether the flush fails when IIS completes it. -/
def WsLabel.flushFailsLate : WsLabel → Bool
  | .flushCompletes hr => failed hr
  | _ => false

/-- The flush does not fail when IIS completes it. -/
def flushCompletesOk (_ : WsRequestHandler) (label : SubscriberLabel WsLabel) :
    Prop :=
  label.onOwn WsLabel.flushFailsLate = false

instance (handler : WsRequestHandler) (label : SubscriberLabel WsLabel) :
    Decidable (flushCompletesOk handler label) :=
  inferInstanceAs (Decidable (_ = false))

/-- The phases of a session in each stage of halting. -/
def SessionPhase.AtStage (phase : SessionPhase) : EventMachine.HaltStage → Prop
  | .running => True
  | .halting => phase = .ending .accepting
  | .halted => phase = .finished .accepting ∨ phase = .deleted .accepting

section Connection

variable {unpack : Bytes → Option AsgiWsSendMsg}
variable {request : HttpRequest}
variable {replyChannel random : Bytes}
variable {session next : Session}
variable {view viewNext : ChannelView}

/-- A connection whose flush fails at once ends. -/
theorem SessionStep.failedResult
    {label : WsLabel}
    {shown : List WsEvent}
    {handler : WsRequestHandler}
    (good : flushCompletesOk handler (.own label))
    (steps : SessionStep unpack request replyChannel session label shown next) :
    (∀ event ∈ shown, event.failedResult = false) ∨
      ∃ stop, shown = [stop] ∧ stop.failedResult = true ∧
        next.phase = .ending .accepting := by
  cases steps with
  | flushFails atPhase => exact .inr ⟨_, rfl, rfl, rfl⟩
  | flushCompletes hr atPhase =>
      have succeeds : failed hr = false := good
      refine .inl ?_
      simp [WsEvent.failedResult, Session.startReaderEvents, succeeds]
  | _ =>
      exact .inl (by simp [WsEvent.failedResult, Session.startReaderEvents,
        Session.startWriterEvents])

/-- A connection that is ending returns, and then does nothing any more. -/
theorem SessionStep.ending
    {label : WsLabel}
    {shown : List WsEvent}
    {stage : EventMachine.HaltStage}
    (untouched : session.Untouched view)
    (atStage : session.phase.AtStage stage)
    (ended : stage ≠ .running)
    (steps : SessionStep unpack request replyChannel session label shown next) :
    ∃ stageNext, EventMachine.HaltStep WsEvent.failedResult
        (.returned .finishRequest) stage shown stageNext ∧
      next.phase.AtStage stageNext := by
  have unstarted : session.phase.unstarted = true := by
    cases stage with
    | running => contradiction
    | halting =>
        rw [atStage]
        rfl
    | halted => rcases atStage with atPhase | atPhase <;> rw [atPhase] <;> rfl
  have pipeline := steps.pipeline untouched unstarted
  obtain ⟨phase, reader, writer⟩ := session
  cases steps with
  | leaveFinish connectStage atPhase =>
      cases stage with
      | running => contradiction
      | halting =>
          obtain rfl : phase = .ending .accepting := atStage
          cases atPhase
          exact ⟨_, .finish, .inl rfl⟩
      | halted =>
          obtain rfl | rfl := atStage <;> contradiction
  | cleanup connectStage atPhase =>
      cases stage with
      | running => contradiction
      | halting =>
          obtain rfl : phase = .ending .accepting := atStage
          contradiction
      | halted =>
          obtain rfl | rfl := atStage
          · cases atPhase
            exact ⟨_, .rest, .inr rfl⟩
          · contradiction
  | reader | readerFreed => exact absurd rfl (pipeline.1 _)
  | writer | writerFreed => exact absurd rfl (pipeline.2 _)
  | _ =>
      -- No other step starts in these phases.
      cases stage <;> simp_all [SessionPhase.AtStage]

/-- Each step of a connection is one of a machine that halts on a failure. -/
theorem SessionStep.haltStep
    {label : WsLabel}
    {shown : List WsEvent}
    {stage : EventMachine.HaltStage}
    {handler : WsRequestHandler}
    (untouched : session.Untouched view)
    (atStage : session.phase.AtStage stage)
    (good : flushCompletesOk handler (.own label))
    (steps : SessionStep unpack request replyChannel session label shown next) :
    ∃ stageNext, EventMachine.HaltStep WsEvent.failedResult
        (.returned .finishRequest) stage shown stageNext ∧
      next.phase.AtStage stageNext := by
  cases stage with
  | running =>
      rcases steps.failedResult good with silent | ⟨stop, rfl, stops, ends⟩
      · exact ⟨.running, .run silent, trivial⟩
      · exact ⟨.halting, .stop stops, ends⟩
  | halting | halted => exact steps.ending untouched atStage (by simp)

/-- A connection whose flush does not fail late halts after a failure. -/
theorem ConnectionRun.haltsAfter_failedResult
    {labels : List (SubscriberLabel WsLabel)}
    {trace : List (SubscriberEvent WsEvent)}
    {system : SubscriberSystem WsRequestHandler}
    (run : ConnectionRun unpack request (sendChannel random) flushCompletesOk
      labels trace system) :
    EventMachine.HaltsAfter WsEvent.failedResult (.returned .finishRequest)
      (system.state.thread = .atSwitch .finishRequest) (ownEvents trace) := by
  obtain ⟨session, equal, _, _, stage, halting, atStage⟩ := run.session_law
    (fun events session view => session.Untouched view ∧
      ∃ stage, EventMachine.Halting WsEvent.failedResult
        (.returned .finishRequest) stage events ∧ session.phase.AtStage stage)
    (sendChannel_ne_nil random)
    ⟨fun _ => ⟨rfl, rfl, rfl⟩, .running, .running (by simp), trivial⟩
    (by
      rintro trace session view label next viewNext events
        ⟨untouched, stage, halting, atStage⟩ good moved
      refine ⟨untouched.moved moved, ?_⟩
      cases moved with
      | own label next shown steps seen =>
          obtain ⟨stageNext, moves, atNext⟩ :=
            steps.haltStep untouched atStage good
          rw [ownEvents_own]
          exact ⟨stageNext, halting.step moves, atNext⟩
      | dispatched data label registered seen =>
          exact ⟨stage, (List.append_nil _).symm ▸ halting, atStage⟩
      | other label events notOwn silent seen =>
          rw [silent, List.append_nil]
          exact ⟨stage, halting, atStage⟩)
  refine halting.haltsAfter rfl ?_
  rintro rfl
  have atPhase : session.phase = .ending .accepting := atStage
  rw [equal, Session.toHandler, atPhase]
  rfl

end Connection

/-! ## Both handlers -/

/-- When the failures that IIS reports late come to a step of a request that
finishes on them, and never to the flush of a connection, the handler call that
receives a failure returns `RQ_NOTIFICATION_FINISH_REQUEST`, and nothing else
follows. -/
theorem failures_finish
    {ρ : Type} [DecidableEq ρ]
    {unpackResponse : Bytes → Option AsgiHttpResponseMsg}
    {requests : Requests ρ}
    {requestLabels : List (HttpSystemLabel ρ)}
    {requestTrace : List (HttpSystemEvent ρ)}
    {server : HttpSystem ρ}
    {id : ρ}
    {unpack : Bytes → Option AsgiWsSendMsg}
    {request : HttpRequest}
    {random : Bytes}
    {labels : List (SubscriberLabel WsLabel)}
    {trace : List (SubscriberEvent WsEvent)}
    {system : SubscriberSystem WsRequestHandler}
    (requestRun : EventMachine.Run (HttpSystem.step unpackResponse requests)
      (HttpSystem.ownStepsAre HttpRequestHandler.failureFinishes id) {}
      requestLabels requestTrace server)
    (connectionRun : ConnectionRun unpack request (sendChannel random)
      flushCompletesOk labels trace system) :
    EventMachine.HaltsAfter HttpEvent.failedResult (.returned .finishRequest)
        ((server.handlers id).thread = .atSwitch .finishRequest)
        (HttpSystem.requestEvents id requestTrace) ∧
      EventMachine.HaltsAfter WsEvent.failedResult (.returned .finishRequest)
        (system.state.thread = .atSwitch .finishRequest) (ownEvents trace) := by
  refine ⟨?_, ?_⟩
  · exact HttpSystem.haltsAfter_failedResult requestRun
  · exact connectionRun.haltsAfter_failedResult

/-- The read of a body fails late. -/
def failingRead : List (HttpSystemLabel Bool) :=
  [.handler true .onExecuteRequestHandler, .handler true (.iisReturn .pending),
    .handler true .stateMachine, .handler true (.complete 0 (-1) 0),
    .handler true .stateMachine]

/-- The flush of a connection fails at once. -/
def failingFlush : List (SubscriberLabel WsLabel) :=
  [.own .onExecuteRequestHandler, .own (.flushReturns .failed),
    .own .stateMachine]

theorem failures_finish_sample :
    ∃ reads server flushes connection,
      EventMachine.Run
        (HttpSystem.step (unpackSamples [] []) (sampleRequests [0x41]))
        (HttpSystem.ownStepsAre HttpRequestHandler.failureFinishes true) {}
        failingRead reads server ∧
      (HttpSystem.requestEvents true reads).any HttpEvent.failedResult = true ∧
      ConnectionRun (fun _ => none) {} (sendChannel [0x41]) flushCompletesOk
        failingFlush flushes connection ∧
      (ownEvents flushes).any WsEvent.failedResult = true ∧
      EventMachine.HaltsAfter HttpEvent.failedResult (.returned .finishRequest)
          ((server.handlers true).thread = .atSwitch .finishRequest)
          (HttpSystem.requestEvents true reads) ∧
        EventMachine.HaltsAfter WsEvent.failedResult (.returned .finishRequest)
          (connection.state.thread = .atSwitch .finishRequest)
          (ownEvents flushes) := by
  have readChecked : EventMachine.checks
      (HttpSystem.step (unpackSamples [] []) (sampleRequests [0x41]))
      (HttpSystem.ownStepsAre HttpRequestHandler.failureFinishes true) {}
      failingRead
      (fun _ trace => (HttpSystem.requestEvents true trace).any
        HttpEvent.failedResult = true) = true := by
    decide +kernel
  have flushChecked : EventMachine.checks
      ((WsRequestHandler.subscriber (fun _ => none) {}
        (sendChannel [0x41])).systemStep (sendChannel [0x41]))
      (fun system label => flushCompletesOk system.state label)
      connectionStart failingFlush
      (fun _ trace => (ownEvents trace).any WsEvent.failedResult = true) =
        true := by
    decide +kernel
  obtain ⟨reads, server, readRun, readFails⟩ :=
    EventMachine.Run.of_checks readChecked
  obtain ⟨flushes, connection, flushRun, flushFails⟩ :=
    EventMachine.Run.of_checks flushChecked
  exact ⟨reads, server, flushes, connection, readRun, readFails, flushRun,
    flushFails, failures_finish readRun flushRun⟩

/-- The write of a chunk fails late. -/
def failingWrite : List (HttpSystemLabel Bool) :=
  requestLabels true ++
    responseLabels (sampleRequests []) true (packSample (ascii "hi") true) ++
    [.handler true (.completePosted 0 0 0), .handler true .stateMachine,
      .handler true (.iisReturn .pending), .handler true .stateMachine,
      .handler true (.complete 0 (-1) 0), .handler true .stateMachine]

/-- The flush of a connection fails late. -/
def lateFailingFlush : List (SubscriberLabel WsLabel) :=
  [.own .onExecuteRequestHandler, .own (.flushReturns .pending),
    .own .stateMachine, .own (.flushCompletes (-1))]

/-- After the late failure of a write a request flushes, and after that of its
flush a connection starts to read. -/
theorem late_failures_go_on :
    (∃ trace system,
      EventMachine.Run
        (HttpSystem.step (unpackSamples (ascii "hi") []) (sampleRequests []))
        EventMachine.always {} failingWrite trace system ∧
      ¬ EventMachine.HaltsAfter HttpEvent.failedResult
        (.returned .finishRequest)
        ((system.handlers true).thread = .atSwitch .finishRequest)
        (HttpSystem.requestEvents true trace)) ∧
    (∃ trace system,
      ConnectionRun (fun _ => none) {} (sendChannel [0x41]) (fun _ _ => True)
        lateFailingFlush trace system ∧
      ¬ EventMachine.HaltsAfter WsEvent.failedResult (.returned .finishRequest)
        (system.state.thread = .atSwitch .finishRequest)
        (ownEvents trace)) := by
  have writeChecked : EventMachine.checks
      (HttpSystem.step (unpackSamples (ascii "hi") []) (sampleRequests []))
      EventMachine.always {} failingWrite
      (fun _ trace => HttpSystem.requestEvents true trace =
        (HttpSystem.requestEvents true trace).take 7 ++
          [.completed (.writeEntityChunks (ascii "hi")) true 0,
            .call .flush]) = true := by
    decide +kernel
  have flushChecked : EventMachine.checks
      ((WsRequestHandler.subscriber (fun _ => none) {}
        (sendChannel [0x41])).systemStep (sendChannel [0x41]))
      (fun _ _ => True) connectionStart lateFailingFlush
      (fun _ trace => ownEvents trace =
        (ownEvents trace).take 3 ++ [.flushed true, .startReader,
          .reader (.readFragment 4096)]) = true := by
    decide +kernel
  obtain ⟨writes, requests, writeRun, writeShown⟩ :=
    EventMachine.Run.of_checks writeChecked
  obtain ⟨flushes, connection, flushRun, flushShown⟩ :=
    EventMachine.Run.of_checks flushChecked
  refine ⟨⟨writes, requests, writeRun, ?_⟩, flushes, connection, flushRun, ?_⟩
  · intro halts
    have after := halts _ _ _ writeShown rfl
    simp at after
  · intro halts
    have after := halts _ _ _ flushShown rfl
    simp at after

end IisAsgiHandler
