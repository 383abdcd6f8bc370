import IisAsgiHandler.Http.Protocol
import IisAsgiHandler.WebSocket.Connection

/-!
# The lifetime of callbacks

IIS may delete a handler as soon as a call has returned
`RQ_NOTIFICATION_FINISH_REQUEST`.  A request that has finished has no source of
a completion left, but the callback that has posted its last completion may
still be running.  A connection finishes either before its reader and writer
have been started, or when the posted completion is a failure; in that case they
have just been started, and nothing stops them.
-/

namespace IisAsgiHandler

/-! ## Requests -/

/-- No callback of a request is registered or runs, and IIS has no operation of
it. -/
structure HttpSystem.Released
    {ρ : Type} [DecidableEq ρ]
    (system : HttpSystem ρ)
    (id : ρ) : Prop where
  unregistered : captured system.pump id = []
  callbacks : (system.handlers id).callbacks = []
  returning : (system.handlers id).returning = []
  operations : (system.handlers id).operations = []

/-- Whether a posted completion is delivered while a callback that has posted
is still running. -/
def HttpRequestHandler.deliversEarly
    (handler : HttpRequestHandler) : HandlerLabel → Bool
  | .completePosted _ _ _ => !handler.returning.isEmpty
  | _ => false

/-- A posted completion is delivered when the callbacks have returned. -/
def HttpRequestHandler.callbacksReturn
    (handler : HttpRequestHandler) (label : HandlerLabel) : Prop :=
  handler.deliversEarly label = false

instance (handler : HttpRequestHandler) (label : HandlerLabel) :
    Decidable (handler.callbacksReturn label) :=
  inferInstanceAs (Decidable (_ = false))

/-- A callback that has not returned has just posted. -/
def Life.ReturnsInTime (life : Life) : Prop :=
  life.returning ≠ [] → ∃ msg returned,
    life.phase = .pending (.responsePosted msg) returned

theorem LifeStep.returnsInTime
    {unpack : Bytes → Option AsgiHttpResponseMsg}
    {request : HttpRequest}
    {replyChannel : Bytes}
    {life next : Life}
    {label : LifeLabel}
    {events : List HttpEvent}
    (inTime : life.ReturnsInTime)
    (good : ∀ own ∈ label.own,
      (life.toHandler request replyChannel).callbacksReturn own)
    (steps : LifeStep unpack request replyChannel life label events next) :
    next.ReturnsInTime := by
  intro running
  cases steps with
  | callbackPost returned data msg index atPhase => exact ⟨msg, returned, rfl⟩
  | callbackReturn index inside =>
      have before : life.returning ≠ [] := by
        intro none
        simp [none] at inside
      exact inTime before
  | message data => exact inTime running
  | leavePending await atPhase =>
      obtain ⟨msg, returned, posted⟩ := inTime running
      rw [atPhase] at posted
      cases posted
      exact ⟨msg, true, rfl⟩
  | completeLastResponse msg step index hr bytes
  | completeResponse msg index hr bytes =>
      have returned : (!life.returning.isEmpty) = false := good _ rfl
      exact absurd (by simpa using returned) running
  | enterWait before =>
      obtain ⟨msg, returned, posted⟩ := inTime running
      simp [posted] at before
  | enterFlush msg before =>
      obtain ⟨msg, returned, posted⟩ := inTime running
      simp [posted] at before
  | _ =>
      obtain ⟨msg, returned, posted⟩ := inTime running
      simp_all

/-- A request whose callbacks return before their completions are delivered has
released everything when it has finished, and nothing that happens to it is a
fault. -/
theorem HttpSystem.released_of_finished
    {ρ : Type} [DecidableEq ρ]
    {unpack : Bytes → Option AsgiHttpResponseMsg}
    {requests : Requests ρ}
    {labels : List (HttpSystemLabel ρ)}
    {trace : List (HttpSystemEvent ρ)}
    {system : HttpSystem ρ}
    {id : ρ}
    (run : EventMachine.Run (step unpack requests)
      (ownStepsAre HttpRequestHandler.callbacksReturn id) {} labels trace system) :
    ((system.handlers id).thread = .finished ∨
        (system.handlers id).thread = .deleted → system.Released id) ∧
      ∀ fault, .fault fault ∉ requestEvents id trace := by
  obtain ⟨life, ⟨polling, seen⟩, inTime, faultless⟩ := life_law id _
    (fun past life => life.ReturnsInTime ∧
      ∀ fault, .fault fault ∉ past.events)
    ⟨fun running => absurd rfl running, by simp⟩
    (by
      rintro past life label events next ⟨inTime, faultless⟩ good steps
      refine ⟨steps.returnsInTime inTime good, ?_⟩
      intro fault member
      rcases List.mem_append.mp member with earlier | last
      · exact faultless fault earlier
      · exact steps.faultless fault last)
    run
  refine ⟨?_, faultless⟩
  intro ended
  rw [seen.handler] at ended
  have atPhase : ∃ step, life.phase = .finished step ∨ life.phase = .deleted step := by
    rcases ended with finished | deleted
    · obtain ⟨step, atPhase⟩ := Life.thread_finished finished
      exact ⟨step, .inl atPhase⟩
    · obtain ⟨step, atPhase⟩ := Life.thread_deleted deleted
      exact ⟨step, .inr atPhase⟩
  have noSource : sources system id = [] := by
    rw [seen.sources polling, Life.source]
    obtain ⟨step, atPhase | atPhase⟩ := atPhase <;> rw [atPhase] <;> rfl
  simp only [sources, List.append_eq_nil_iff, List.map_eq_nil_iff] at noSource
  obtain ⟨⟨⟨⟨operations, _⟩, unregistered⟩, callbacks⟩, _⟩ := noSource
  refine ⟨unregistered, callbacks, ?_, operations⟩
  rw [seen.handler]
  by_contra running
  obtain ⟨msg, returned, posted⟩ := inTime running
  obtain ⟨step, atPhase | atPhase⟩ := atPhase <;> rw [posted] at atPhase <;>
    contradiction

/-! ## WebSockets -/

/-- No callback of a connection is registered or runs, and its reader and its
writer have no call. -/
structure SubscriberSystem.Released
    (system : SubscriberSystem WsRequestHandler) : Prop where
  unregistered : ∀ channel,
    system.pump.registered channel ≠ some .subscriber
  callbacks : system.state.writer.callbacks = []
  reads : system.state.reader.calls = {}
  writes : system.state.writer.calls = {}

/-- Whether a posted completion is a failure. -/
def WsLabel.postFails : WsLabel → Bool
  | .completePosted hr => failed hr
  | _ => false

/-- The completion that is posted after the connect message succeeds. -/
def postedCompletesOk (_ : WsRequestHandler) (label : SubscriberLabel WsLabel) :
    Prop :=
  label.onOwn WsLabel.postFails = false

instance (handler : WsRequestHandler) (label : SubscriberLabel WsLabel) :
    Decidable (postedCompletesOk handler label) :=
  inferInstanceAs (Decidable (_ = false))

/-- The phases of a session that finishes with its reader started. -/
def SessionPhase.finishesStarted : SessionPhase → Bool
  | .startingReader .sending hr | .startingWriter .sending hr => failed hr
  | .ending .sending | .finished .sending | .deleted .sending => true
  | _ => false

section Connection

variable {unpack : Bytes → Option AsgiWsSendMsg}
variable {request : HttpRequest}
variable {replyChannel random : Bytes}
variable {session next : Session}
variable {view viewNext : ChannelView}

theorem SessionStep.finishesStarted
    {label : WsLabel}
    {shown : List WsEvent}
    {handler : WsRequestHandler}
    (good : postedCompletesOk handler (.own label))
    (serves : session.phase.finishesStarted = false)
    (steps : SessionStep unpack request replyChannel session label shown next) :
    next.phase.finishesStarted = false := by
  cases steps with
  | completePosted hr atPhase => exact good
  | startWriterSending hr atPhase =>
      have succeeds : failed hr = false := by
        rw [atPhase] at serves
        exact serves
      rw [Session.startWriter, if_neg (by simp [succeeds])]
      rfl
  | leaveFinish stage atPhase | cleanup stage atPhase =>
      rw [atPhase] at serves
      cases stage with
      | accepting => rfl
      | sending => contradiction
  | reader readerLabel readerNext readerShown phase readerSteps undeleted moves =>
      rcases moves with rfl | ⟨stage, hr, before, rfl⟩
      · exact serves
      · rw [before] at serves
        cases stage with
        | accepting => rfl
        | sending => exact serves
  | writer | readerFreed | writerFreed => exact serves
  | _ => rfl

/-- A session that is over and whose reader has not been started is
untouched. -/
theorem SessionPhase.unstarted_of_over
    {phase : SessionPhase}
    (serves : phase.finishesStarted = false)
    (ended : phase.thread = .finished ∨ phase.thread = .deleted) :
    phase.unstarted = true := by
  cases phase with
  | finished stage | deleted stage =>
      cases stage with
      | accepting => rfl
      | sending => contradiction
  | pending await returned =>
      cases returned <;> simp at ended
  | _ => simp at ended

/-- A step of such a session is no fault. -/
theorem SessionStep.faultless
    {label : WsLabel}
    {shown : List WsEvent}
    (untouched : session.Untouched view)
    (serves : session.phase.finishesStarted = false)
    (steps : SessionStep unpack request replyChannel session label shown next)
    (fault : Fault) :
    .fault fault ∉ shown := by
  have pipeline : session.phase.thread = .deleted →
      (∀ own, label ≠ .reader own) ∧ ∀ own, label ≠ .writer own := fun deleted =>
    steps.pipeline untouched (SessionPhase.unstarted_of_over serves (.inr deleted))
  cases steps with
  | readerFreed readerLabel readerNext readerShown stage readerSteps atPhase =>
      exact absurd rfl ((pipeline (by rw [atPhase]; rfl)).1 _)
  | writerFreed writerLabel writerNext writerShown stage writerSteps atPhase =>
      exact absurd rfl ((pipeline (by rw [atPhase]; rfl)).2 _)
  | _ => simp [Session.startReaderEvents, Session.startWriterEvents]

/-- A connection whose posted completion succeeds has released everything when
it has finished, and no freed object is used. -/
theorem ConnectionRun.released_of_finished
    {labels : List (SubscriberLabel WsLabel)}
    {trace : List (SubscriberEvent WsEvent)}
    {system : SubscriberSystem WsRequestHandler}
    (run : ConnectionRun unpack request (sendChannel random) postedCompletesOk
      labels trace system) :
    (system.state.thread = .finished ∨ system.state.thread = .deleted →
        system.Released) ∧
      ∀ fault, .fault fault ∉ ownEvents trace := by
  obtain ⟨session, equal, polled, untouched, serves, faultless⟩ :=
    run.session_law
      (fun events session view => session.Untouched view ∧
        session.phase.finishesStarted = false ∧
        ∀ fault, .fault fault ∉ events)
      (sendChannel_ne_nil random)
      ⟨fun _ => ⟨rfl, rfl, rfl⟩, rfl, by simp⟩
      (by
        rintro trace session view label next viewNext events
          ⟨untouched, serves, faultless⟩ good moved
        refine ⟨untouched.moved moved, ?_⟩
        cases moved with
        | own label next shown steps seen =>
            refine ⟨steps.finishesStarted good serves, ?_⟩
            intro fault member
            rw [ownEvents_own] at member
            rcases List.mem_append.mp member with earlier | last
            · exact faultless fault earlier
            · exact steps.faultless untouched serves fault last
        | dispatched data label registered seen =>
            exact ⟨serves, by simpa [ownEvents] using faultless⟩
        | other label events notOwn silent seen =>
            rw [silent, List.append_nil]
            exact ⟨serves, faultless⟩)
  refine ⟨?_, faultless⟩
  intro ended
  rw [equal] at ended
  obtain ⟨noReader, noWriter, unregistered⟩ :=
    untouched (SessionPhase.unstarted_of_over serves ended)
  have reader : system.state.reader = {} := by
    rw [equal]
    exact noReader
  have writer : system.state.writer = {} := by
    rw [equal]
    exact noWriter
  refine ⟨?_, by rw [writer], by rw [reader], by rw [writer]⟩
  intro channel found
  have named := polled.single channel found
  have registered : (system.pump.registered (sendChannel random)).isSome =
      false := unregistered
  rw [← named, found] at registered
  contradiction

end Connection

/-! ## Both handlers -/

/-- When every posted completion of a request is delivered after its callback
has returned, and that of a connection is no failure, nothing outlives a call
that returns `RQ_NOTIFICATION_FINISH_REQUEST`, and no freed object is used. -/
theorem no_callback_outlives
    {ρ : Type} [DecidableEq ρ]
    {unpackResponse : Bytes → Option AsgiHttpResponseMsg}
    {requests : Requests ρ}
    {requestLabels : List (HttpSystemLabel ρ)}
    {requestTrace : List (HttpSystemEvent ρ)}
    {server : HttpSystem ρ}
    {id : ρ}
    {unpack : Bytes → Option AsgiWsSendMsg}
    {request : HttpRequest}
    {random : Bytes}
    {labels : List (SubscriberLabel WsLabel)}
    {trace : List (SubscriberEvent WsEvent)}
    {system : SubscriberSystem WsRequestHandler}
    (requestRun : EventMachine.Run (HttpSystem.step unpackResponse requests)
      (HttpSystem.ownStepsAre HttpRequestHandler.callbacksReturn id) {}
      requestLabels requestTrace server)
    (connectionRun : ConnectionRun unpack request (sendChannel random)
      postedCompletesOk labels trace system) :
    (((server.handlers id).thread = .finished ∨
          (server.handlers id).thread = .deleted → server.Released id) ∧
        ∀ fault, .fault fault ∉ HttpSystem.requestEvents id requestTrace) ∧
      ((system.state.thread = .finished ∨ system.state.thread = .deleted →
          system.Released) ∧
        ∀ fault, .fault fault ∉ ownEvents trace) := by
  refine ⟨?_, ?_⟩
  · exact HttpSystem.released_of_finished requestRun
  · exact connectionRun.released_of_finished

/-- A request ends with an empty response. -/
def endingRequest (beforeDelivery : List (HttpSystemLabel Bool)) :
    List (HttpSystemLabel Bool) :=
  requestLabels true ++
    responseLabels (sampleRequests []) true (packSample [] false) ++
    beforeDelivery ++
    [.handler true (.completePosted 0 0 0), .handler true .stateMachine]

/-- A connection whose flush fails at once is deleted. -/
def deletedConnection : List (SubscriberLabel WsLabel) :=
  [.own .onExecuteRequestHandler, .own (.flushReturns .failed),
    .own .stateMachine, .own .cleanupStoredContext]

theorem no_callback_outlives_sample :
    ∃ events server shown connection,
      EventMachine.Run
        (HttpSystem.step (unpackSamples [0x41] []) (sampleRequests []))
        (HttpSystem.ownStepsAre HttpRequestHandler.callbacksReturn true) {}
        (endingRequest [.handler true (.callbackReturn 0)]) events server ∧
      ConnectionRun (fun _ => none) {} (sendChannel [0x41]) postedCompletesOk
        deletedConnection shown connection ∧
      (server.handlers true).thread = .finished ∧ server.Released true ∧
      connection.state.thread = .deleted ∧ connection.Released := by
  have requestChecked : EventMachine.checks
      (HttpSystem.step (unpackSamples [0x41] []) (sampleRequests []))
      (HttpSystem.ownStepsAre HttpRequestHandler.callbacksReturn true) {}
      (endingRequest [.handler true (.callbackReturn 0)])
      (fun system _ => (system.handlers true).thread = .finished) = true := by
    decide +kernel
  have connectionChecked : EventMachine.checks
      ((WsRequestHandler.subscriber (fun _ => none) {}
        (sendChannel [0x41])).systemStep (sendChannel [0x41]))
      (fun system label => postedCompletesOk system.state label)
      connectionStart deletedConnection
      (fun system _ => system.state.thread = .deleted) = true := by
    decide +kernel
  obtain ⟨events, server, requestRun, finished⟩ :=
    EventMachine.Run.of_checks requestChecked
  obtain ⟨shown, connection, connectionRun, deleted⟩ :=
    EventMachine.Run.of_checks connectionChecked
  have outlives := no_callback_outlives requestRun connectionRun
  exact ⟨events, server, shown, connection, requestRun, connectionRun, finished,
    outlives.1.1 (.inl finished), deleted, outlives.2.1 (.inr deleted)⟩

/-- The posted completion of a connection is a failure.  IIS deletes the
handler; then the outstanding read completes, and the pump starts a callback. -/
def failingPost : List (SubscriberLabel WsLabel) :=
  [.own .onExecuteRequestHandler, .own (.flushReturns (.completed 0)),
    .own .stateMachine, .own (.taskSend 0), .own .stateMachine,
    .own (.taskPost 0), .own (.completePosted (-1)),
    .own (.reader (.readPends 0)), .own (.reader (.leave 0)), .own .startWriter,
    .own .stateMachine, .own .cleanupStoredContext,
    .own (.reader (.readCallback 0 sOk { payload := [] })),
    .send (sendChannel [0x41]) [], .pump .snapshot,
    .pump (.receiveMany (some (sendChannel [0x41]))), .pump .dispatch,
    .own (.writer (.channelsCallback 0))]

/-- A request finishes while its callback has not returned, and the reader and
the writer of a deleted connection are used. -/
theorem callbacks_outlive :
    (∃ trace system,
      EventMachine.Run
        (HttpSystem.step (unpackSamples [0x41] []) (sampleRequests []))
        EventMachine.always {} (endingRequest []) trace system ∧
      (system.handlers true).thread = .finished ∧ ¬ system.Released true) ∧
    (∃ trace system,
      ConnectionRun (fun _ => some {}) {} (sendChannel [0x41]) (fun _ _ => True)
        failingPost trace system ∧
      system.state.thread = .deleted ∧ ¬ system.Released ∧
      (ownEvents trace).count (.fault .useAfterFree) = 2) := by
  have requestChecked : EventMachine.checks
      (HttpSystem.step (unpackSamples [0x41] []) (sampleRequests []))
      EventMachine.always {} (endingRequest [])
      (fun system _ => (system.handlers true).thread = .finished ∧
        (system.handlers true).returning ≠ []) = true := by
    decide +kernel
  have connectionChecked : EventMachine.checks
      ((WsRequestHandler.subscriber (fun _ => some {}) {}
        (sendChannel [0x41])).systemStep (sendChannel [0x41]))
      (fun _ _ => True) connectionStart failingPost
      (fun system trace => system.state.thread = .deleted ∧
        system.state.reader.calls ≠ {} ∧
        (ownEvents trace).count (.fault .useAfterFree) = 2) = true := by
    decide +kernel
  obtain ⟨events, requests, requestRun, finished, running⟩ :=
    EventMachine.Run.of_checks requestChecked
  obtain ⟨shown, connection, connectionRun, deleted, reads, faults⟩ :=
    EventMachine.Run.of_checks connectionChecked
  exact ⟨⟨events, requests, requestRun, finished,
      fun released => running released.returning⟩,
    shown, connection, connectionRun, deleted,
      fun released => reads released.reads, faults⟩

end IisAsgiHandler
