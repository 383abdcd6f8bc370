import IisAsgiHandler.WebSocket.Session

/-!
# A connection among other threads

A connection shares the response pump with others.  A law of its session, kept
by every step of the session and by the tasks that the pump creates for it,
holds in every run of the system.
-/

namespace IisAsgiHandler

variable (unpack : Bytes → Option AsgiWsSendMsg)
variable (request : HttpRequest)
variable (replyChannel : Bytes)

/-- What a step of the system is to a session that sees its channel. -/
inductive SessionMoved
    (session : Session)
    (view : ChannelView) :
    SubscriberLabel WsLabel → Session → ChannelView →
      List (SubscriberEvent WsEvent) → Prop
  | own (label : WsLabel) (next : Session) (shown : List WsEvent)
      {viewNext : ChannelView}
      (steps : SessionStep unpack request replyChannel session label shown next)
      (seen : viewNext.registered = (view.registered ||
        shown.any fun event => ((WsRequestHandler.subscriber unpack request
          replyChannel).registers event).isSome)) :
      SessionMoved session view (.own label) next viewNext (shown.map .own)
  | dispatched (data : Bytes) (label : PumpLabel) {viewNext : ChannelView}
      (registered : view.registered = true)
      (seen : viewNext.registered = false) :
      SessionMoved session view (.pump label)
        { session with writer := { session.writer with
          callbacks := session.writer.callbacks ++ [{ data := data }] } }
        viewNext [.dispatched data]
  | other (label : SubscriberLabel WsLabel)
      (events : List (SubscriberEvent WsEvent)) {viewNext : ChannelView}
      (notOwn : ∀ own, label ≠ .own own)
      (silent : ownEvents events = [])
      (seen : viewNext.registered = view.registered) :
      SessionMoved session view label session viewNext events

/-- The connection before IIS has called its handler. -/
def connectionStart : SubscriberSystem WsRequestHandler where
  state := {}

/-- The runs of a connection. -/
abbrev ConnectionRun
    (good : WsRequestHandler → SubscriberLabel WsLabel → Prop)
    (labels : List (SubscriberLabel WsLabel))
    (trace : List (SubscriberEvent WsEvent))
    (system : SubscriberSystem WsRequestHandler) : Prop :=
  EventMachine.Run
    ((WsRequestHandler.subscriber unpack request replyChannel).systemStep
      replyChannel)
    (fun system label => good system.state label)
    connectionStart labels trace system

/-- A writer that has not been started is untouched, and its channel is not
registered. -/
def OwnsChannel (session : Session) (view : ChannelView) : Prop :=
  session.writer.replyChannel = replyChannel ∨
    session.writer = {} ∧ view.registered = false

variable {unpack request replyChannel}
variable {session next : Session}
variable {view viewNext : ChannelView}
variable {events : List (SubscriberEvent WsEvent)}

/-- Events without a registration of the writer register nothing. -/
theorem registers_nothing
    {shown : List WsEvent}
    (silent : ∀ channel, .writer (.addChannel channel) ∉ shown) :
    (shown.any fun event => ((WsRequestHandler.subscriber unpack request
      replyChannel).registers event).isSome) = false := by
  rw [List.any_eq_false]
  intro event member found
  obtain ⟨channel, registers⟩ := Option.isSome_iff_exists.mp found
  rw [WsRequestHandler.of_registers registers] at member
  exact silent channel member

/-- A session registers its own channel only. -/
theorem SessionStep.registers
    {label : WsLabel}
    {shown : List WsEvent}
    (owns : OwnsChannel replyChannel session view)
    (steps : SessionStep unpack request replyChannel session label shown next) :
    (∀ channel, .writer (.addChannel channel) ∈ shown →
        channel = replyChannel) ∧
      (next.writer = session.writer ∧
          (∀ channel, .writer (.addChannel channel) ∉ shown) ∨
        next.writer.replyChannel = replyChannel) := by
  cases steps with
  | writer writerLabel writerNext writerShown writerSteps undeleted =>
      obtain ⟨kept, registers⟩ := WsWriter.step_registers writerSteps
      rcases owns with named | ⟨unstarted, _⟩
      · rw [named] at kept registers
        exact ⟨by simpa using registers, .inr kept⟩
      · rw [unstarted, WsWriter.step_empty] at writerSteps
        contradiction
  | startWriterAccepting hr atPhase | startWriterSending hr atPhase =>
      refine ⟨?_, .inr rfl⟩
      simp [Session.startWriterEvents, WsWriter.start,
        WsWriter.registerChannelsCallback]
  | flushCompletes hr atPhase | completePosted hr atPhase =>
      refine ⟨?_, .inl ⟨rfl, ?_⟩⟩ <;>
        simp [Session.startReaderEvents, WsReader.start, WsReader.readAsync]
  | _ => exact ⟨by simp, .inl ⟨rfl, by simp⟩⟩

/-- A session keeps to its channel. -/
theorem OwnsChannel.moved
    {label : SubscriberLabel WsLabel}
    (owns : OwnsChannel replyChannel session view)
    (moved : SessionMoved unpack request replyChannel session view label next
      viewNext events) :
    OwnsChannel replyChannel next viewNext := by
  cases moved with
  | own label next shown steps seen =>
      rcases (steps.registers owns).2 with ⟨same, silent⟩ | named
      · rcases owns with named | ⟨unstarted, unregistered⟩
        · exact .inl (same ▸ named)
        · refine .inr ⟨same.trans unstarted, ?_⟩
          rw [seen, unregistered, Bool.false_or, registers_nothing silent]
      · exact .inl named
  | dispatched data label registered seen =>
      rcases owns with named | ⟨_, unregistered⟩
      · exact .inl named
      · rw [registered] at unregistered
        contradiction
  | other label events notOwn silent seen =>
      rcases owns with named | ⟨unstarted, unregistered⟩
      · exact .inl named
      · exact .inr ⟨unstarted, seen.trans unregistered⟩

/-- What a step of the system is to the object is one to its session. -/
theorem SessionMoved.of_moved
    {label : SubscriberLabel WsLabel}
    {handlerNext : WsRequestHandler}
    (moved : SubscriberSystem.Moved
      (WsRequestHandler.subscriber unpack request replyChannel) replyChannel
      (session.toHandler request replyChannel) view label handlerNext viewNext
      events) :
    ∃ next : Session, handlerNext = next.toHandler request replyChannel ∧
      SessionMoved unpack request replyChannel session view label next viewNext
        events := by
  cases moved with
  | own label handlerNext shown steps seen =>
      obtain ⟨next, rfl, sessionSteps⟩ := Session.matched_step steps
      exact ⟨next, rfl, .own label next shown sessionSteps (by rw [seen])⟩
  | dispatched data label registered held seen =>
      exact ⟨_, rfl, .dispatched data label registered (by rw [seen])⟩
  | popped data rest label registered held queue seen =>
      exact ⟨session, rfl, .other _ [] (by simp) rfl (by rw [seen])⟩
  | sent data seen =>
      exact ⟨session, rfl, .other _ _ (by simp) rfl (by rw [seen])⟩
  | quiet label events notOwn silent notSent notDispatched =>
      exact ⟨session, rfl, .other _ _ notOwn silent rfl⟩

/-- A law of the session and of what it sees, kept by every step, holds
throughout every run. -/
theorem ConnectionRun.session_law
    {good : WsRequestHandler → SubscriberLabel WsLabel → Prop}
    {labels : List (SubscriberLabel WsLabel)}
    {trace : List (SubscriberEvent WsEvent)}
    {system : SubscriberSystem WsRequestHandler}
    (law : List WsEvent → Session → ChannelView → Prop)
    (nonempty : replyChannel ≠ [])
    (initially : law [] {} (connectionStart.view replyChannel))
    (kept : ∀ trace session view label next viewNext events,
      law (ownEvents trace) session view →
      good (session.toHandler request replyChannel) label →
      SessionMoved unpack request replyChannel session view label next viewNext
        events →
      law (ownEvents trace ++ ownEvents events) next viewNext)
    (run : ConnectionRun unpack request replyChannel good labels trace system) :
    ∃ session : Session,
      system.state = session.toHandler request replyChannel ∧
        SubscriberSystem.Polled replyChannel system.pump ∧
        law (ownEvents trace) session (system.view replyChannel) := by
  obtain ⟨polled, session, equal, _, final⟩ := SubscriberSystem.run_law
    (fun trace handler view => ∃ session : Session,
      handler = session.toHandler request replyChannel ∧
        OwnsChannel replyChannel session view ∧
        law (ownEvents trace) session view)
    nonempty (SubscriberSystem.polled_empty _)
    ⟨{}, rfl, .inr ⟨rfl, rfl⟩, initially⟩
    (by
      rintro trace _ view label handlerNext shown ⟨session, rfl, owns, _⟩ steps
        event member channel registers
      obtain ⟨next, rfl, sessionSteps⟩ := Session.matched_step steps
      rw [WsRequestHandler.of_registers registers] at member
      exact (sessionSteps.registers owns).1 channel member)
    (by
      rintro trace _ view label handlerNext viewNext events
        ⟨session, rfl, owns, holds⟩ isGood moved
      obtain ⟨next, rfl, sessionMoved⟩ := SessionMoved.of_moved moved
      refine ⟨next, rfl, owns.moved sessionMoved, ?_⟩
      rw [ownEvents_append]
      exact kept _ _ _ _ _ _ _ holds isGood sessionMoved)
    run
  exact ⟨session, equal, polled, final⟩

/-! ## Before the start -/

/-- The phases of a session whose reader and writer have never been started. -/
def SessionPhase.unstarted : SessionPhase → Bool
  | .notStarted | .inFlush | .ending .accepting | .finished .accepting
  | .deleted .accepting => true
  | _ => false

/-- Until the flush is over, and once it has failed at once, the reader, the
writer and the channel are untouched. -/
def Session.Untouched (session : Session) (view : ChannelView) : Prop :=
  session.phase.unstarted = true →
    session.reader = {} ∧ session.writer = {} ∧ view.registered = false

/-- What has not been started takes no step. -/
theorem SessionStep.pipeline
    {label : WsLabel}
    {shown : List WsEvent}
    (untouched : session.Untouched view)
    (unstarted : session.phase.unstarted = true)
    (steps : SessionStep unpack request replyChannel session label shown next) :
    (∀ own, label ≠ .reader own) ∧ ∀ own, label ≠ .writer own := by
  obtain ⟨noReader, noWriter, _⟩ := untouched unstarted
  cases steps with
  | reader readerLabel readerNext readerShown phase readerSteps
  | readerFreed readerLabel readerNext readerShown stage readerSteps =>
      rw [noReader, WsReader.step_empty] at readerSteps
      contradiction
  | writer writerLabel writerNext writerShown writerSteps
  | writerFreed writerLabel writerNext writerShown stage writerSteps =>
      rw [noWriter, WsWriter.step_empty] at writerSteps
      contradiction
  | _ => simp

/-- A step into a phase without a start comes from such a phase, and moves
neither the reader nor the writer. -/
theorem SessionStep.unstarted
    {label : WsLabel}
    {shown : List WsEvent}
    (untouched : session.Untouched view)
    (unstarted : next.phase.unstarted = true)
    (steps : SessionStep unpack request replyChannel session label shown next) :
    session.phase.unstarted = true ∧ next.reader = session.reader ∧
      next.writer = session.writer ∧
      ∀ channel, .writer (.addChannel channel) ∉ shown := by
  have pipeline := fun before => steps.pipeline untouched before
  cases steps with
  | execute atPhase | flushFails atPhase =>
      refine ⟨?_, rfl, rfl, by simp⟩
      rw [atPhase]
      rfl
  | leaveFinish stage atPhase | cleanup stage atPhase =>
      refine ⟨?_, rfl, rfl, by simp⟩
      rw [atPhase]
      cases stage with
      | accepting => rfl
      | sending => contradiction
  | reader readerLabel readerNext readerShown phase readerSteps undeleted moves =>
      rcases moves with rfl | ⟨stage, hr, _, rfl⟩
      · exact absurd rfl ((pipeline unstarted).1 _)
      · contradiction
  | readerFreed => exact absurd rfl ((pipeline unstarted).1 _)
  | writer | writerFreed => exact absurd rfl ((pipeline unstarted).2 _)
  | startWriterSending hr atPhase =>
      simp only [Session.startWriter] at unstarted
      split at unstarted <;> contradiction
  | _ => contradiction

/-- No step of the system starts anything early. -/
theorem Session.Untouched.moved
    {label : SubscriberLabel WsLabel}
    (untouched : session.Untouched view)
    (moved : SessionMoved unpack request replyChannel session view label next
      viewNext events) :
    next.Untouched viewNext := by
  intro unstarted
  cases moved with
  | own label next shown steps seen =>
      obtain ⟨before, reader, writer, silent⟩ := steps.unstarted untouched unstarted
      obtain ⟨noReader, noWriter, unregistered⟩ := untouched before
      refine ⟨reader.trans noReader, writer.trans noWriter, ?_⟩
      rw [seen, unregistered, Bool.false_or, registers_nothing silent]
  | dispatched data label registered seen =>
      have unregistered := (untouched unstarted).2.2
      rw [registered] at unregistered
      contradiction
  | other label events notOwn silent seen =>
      rw [seen]
      exact untouched unstarted

end IisAsgiHandler
