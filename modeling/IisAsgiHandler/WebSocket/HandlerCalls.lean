import IisAsgiHandler.Library.BoundedCalls
import IisAsgiHandler.WebSocket.Connection

/-!
# The handler calls of a connection

A call of `OnExecuteRequestHandler` runs the connect pipeline; a call of
`OnAsyncCompletion` starts the reader and the writer first.  `m_reader.Start`
reads in the thread of the call, one fragment after another, until a call to
`ReadFragment` is left pending.  Each read that completes at once is a credit:
it is followed by another one in the same call.
-/

namespace IisAsgiHandler

/-! ## In `m_reader.Start` -/

namespace WsReader

variable {reader next : WsReader}
variable {label : ReaderLabel}
variable {events : List ReaderEvent}

/-- The frames of `Start`. -/
def startFrames (reader : WsReader) : List (Option Nat) :=
  reader.calls.framesOf .start

/-- The steps that a frame of `Start` can take. -/
def startStep (reader : WsReader) : ReaderLabel → Bool
  | .readReturns index fragment =>
      match reader.calls.frames[index]? with
      | some ⟨.start, some length⟩ => decide (fragment.payload.length ≤ length)
      | _ => false
  | .readFails index | .readPends index =>
      match reader.calls.frames[index]? with
      | some ⟨.start, some _⟩ => true
      | _ => false
  | .leave index =>
      match reader.calls.frames[index]? with
      | some ⟨.start, none⟩ => true
      | _ => false
  | .readCallback _ _ _ => false

/-- A `ReadFragment` of `Start` completes or fails at once, and `Start` reads
again. -/
def readsAgain (reader : WsReader) : ReaderLabel → Bool
  | .readReturns index fragment => reader.startStep (.readReturns index fragment)
  | .readFails index => reader.startStep (.readFails index)
  | _ => false

/-- The steps that the frames of `Start` still take, but for reads that
complete at once. -/
def startLeft (reader : WsReader) : Nat :=
  (reader.startFrames.map fun offered => if offered.isSome then 2 else 1).sum

/-- What is left to a frame, if it is one of `Start`. -/
def frameLeft (caller : ReadCaller) (offered : Option Nat) : Nat :=
  match caller, offered with
  | .start, some _ => 2
  | .start, none => 1
  | .readCallback, _ => 0

theorem frameLeft_some (caller : ReadCaller) (length other : Nat) :
    frameLeft caller (some length) = frameLeft caller (some other) := by
  cases caller <;> rfl

/-- A frame has its share in what is left to `Start`.  A step of the frame
changes its share only, and takes it away when the frame leaves. -/
theorem startFrames_split
    {index : Nat}
    {caller : ReadCaller}
    {offered : Option Nat}
    (found : reader.calls.frames[index]? = some ⟨caller, offered⟩) :
    ∃ others left,
      (reader.startFrames.length = others + (decide (caller = .start)).toNat ∧
        reader.startLeft = left + frameLeft caller offered) ∧
      (∀ moved : WsReader, ∀ offeredNext,
        moved.calls.frames = reader.calls.frames.set index
          ⟨caller, offeredNext⟩ →
        moved.startFrames.length = others + (decide (caller = .start)).toNat ∧
          moved.startLeft = left + frameLeft caller offeredNext) ∧
      ∀ moved : WsReader, moved.calls = reader.calls.leave index →
        moved.startFrames.length = others ∧ moved.startLeft = left := by
  obtain ⟨before, after, now, set, erased⟩ :=
    PendingCalls.framesOf_split found .start
  let share := fun offered : Option Nat => if offered.isSome then 2 else 1
  have shares : ∀ (moved : WsReader) (offered : Option Nat),
      moved.startFrames =
        before ++ ((if caller = .start then [offered] else []) ++ after) →
      moved.startFrames.length =
          before.length + after.length + (decide (caller = .start)).toNat ∧
        moved.startLeft = (before.map share).sum + (after.map share).sum +
          frameLeft caller offered := by
    intro moved offered equal
    rw [startLeft, equal]
    cases caller <;> cases offered <;> simp [frameLeft, share] <;> omega
  refine ⟨before.length + after.length,
    (before.map share).sum + (after.map share).sum, shares reader offered now,
    ?_, ?_⟩
  · intro moved offeredNext frames
    refine shares moved offeredNext ?_
    rw [← set offeredNext moved.calls.operations, ← frames]
    rfl
  · intro moved calls
    have left : moved.startFrames = before ++ after := by
      rw [← erased, ← calls]
      rfl
    rw [startLeft, left]
    simp [share]

/-- What a step does to the frames of `Start`: one leaves, or takes a step of
those that are left, or reads again. -/
theorem step_startFrames
    (steps : step reader label = some (next, events)) :
    next.startFrames.length +
        (WsRequestHandler.returnsFromStart reader label).toNat =
      reader.startFrames.length ∧
    (reader.startStep label).toNat + next.startLeft ≤
      reader.startLeft + (reader.readsAgain label).toNat := by
  cases stepped_of_step steps with
  | @returns _ _ _ _ looped found _ loops =>
      obtain ⟨others, left, ⟨lengthNow, leftNow⟩, moves, _⟩ :=
        startFrames_split found
      obtain ⟨lengthNext, leftNext⟩ := moves looped.1 _ (by rw [loops]; rfl)
      refine ⟨by simp [WsRequestHandler.returnsFromStart, lengthNow,
        lengthNext], ?_⟩
      rw [leftNow, leftNext, readsAgain, frameLeft_some, Nat.add_comm]
  | @fails _ _ _ looped found loops =>
      obtain ⟨others, left, ⟨lengthNow, leftNow⟩, moves, _⟩ :=
        startFrames_split found
      obtain ⟨lengthNext, leftNext⟩ := moves looped.1 _ (by rw [loops]; rfl)
      refine ⟨by simp [WsRequestHandler.returnsFromStart, lengthNow,
        lengthNext], ?_⟩
      rw [leftNow, leftNext, readsAgain, frameLeft_some, Nat.add_comm]
  | @pends index length caller found =>
      obtain ⟨others, left, ⟨lengthNow, leftNow⟩, moves, _⟩ :=
        startFrames_split found
      obtain ⟨lengthNext, leftNext⟩ := moves { reader with
        calls := reader.calls.accept index caller length } _ rfl
      refine ⟨by simp [WsRequestHandler.returnsFromStart, lengthNow,
        lengthNext], ?_⟩
      rw [leftNow, leftNext]
      cases caller <;> simp [startStep, found, frameLeft]
      omega
  | @leaves index caller found =>
      obtain ⟨others, left, ⟨lengthNow, leftNow⟩, _, leaves⟩ :=
        startFrames_split found
      obtain ⟨lengthNext, leftNext⟩ := leaves { reader with
        calls := reader.calls.leave index } rfl
      rw [lengthNow, leftNow, lengthNext, leftNext]
      cases caller with
      | start =>
          refine ⟨by simp [WsRequestHandler.returnsFromStart, found], ?_⟩
          simp [startStep, found, frameLeft]
          omega
      | readCallback =>
          exact ⟨by simp [WsRequestHandler.returnsFromStart, found],
            by simp [startStep, found, frameLeft]⟩
  | @calledBack index _ _ _ completed =>
      have entered : startFrames (readAsync
          ⟨completed.1, reader.calls.complete index⟩ .readCallback).1 =
          reader.startFrames :=
        (PendingCalls.framesOf_enter _ _ _ _).trans (List.append_nil _)
      refine ⟨?_, ?_⟩
      · rw [entered]
        rfl
      · rw [startLeft, startLeft, entered]
        simp [startStep]

/-- A frame of `Start` can take a step. -/
theorem exists_startStep
    {offered : Option Nat}
    (present : offered ∈ reader.startFrames) :
    ∃ label, reader.startStep label = true := by
  obtain ⟨⟨caller, call⟩, member, rfl⟩ := List.mem_map.mp present
  obtain ⟨inFrames, isStart⟩ := List.mem_filter.mp member
  obtain ⟨index, found⟩ := List.mem_iff_getElem?.mp inFrames
  obtain rfl : caller = .start := of_decide_eq_true isStart
  cases call with
  | none => exact ⟨.leave index, by simp [startStep, found]⟩
  | some length => exact ⟨.readFails index, by simp [startStep, found]⟩

/-- The reader takes every step that a frame of `Start` may be about to take. -/
theorem startStep_isSome
    (own : reader.startStep label = true) :
    (reader.step label).isSome = true := by
  cases label with
  | readReturns index fragment =>
      simp only [startStep] at own
      split at own
      · rename_i length found
        simp [step, found, of_decide_eq_true own]
      · contradiction
  | readFails index | readPends index | leave index =>
      simp only [startStep] at own
      split at own
      · rename_i found
        simp [step, found]
      · contradiction
  | readCallback => contradiction

end WsReader

/-! ## The thread of a call -/

/-- The thread is in a handler call. -/
def WsThread.busy : WsThread → Bool
  | .inFlush | .startingReader _ | .startingWriter _ | .atSwitch _ => true
  | .notStarted | .waiting | .finished | .deleted | .crashed => false

/-- The frames that the thread has in `m_reader.Start`. -/
def WsThread.startFrames : WsThread → Nat
  | .startingReader _ => 1
  | _ => 0

namespace WsRequestHandler

/-- The steps that the thread of a handler call can take: `Flush` or
`ReadFragment` returns, a start comes to its end, or the loop turns. -/
def threadStep (handler : WsRequestHandler) : WsLabel → Bool
  | .flushReturns _ => decide (handler.thread = .inFlush)
  | .reader label =>
      match handler.thread with
      | .startingReader _ => handler.reader.startStep label
      | _ => false
  | .startWriter =>
      match handler.thread with
      | .startingWriter _ => true
      | _ => false
  | .stateMachine =>
      match handler.thread with
      | .atSwitch _ => true
      | _ => false
  | _ => false

/-- A read of the thread in `m_reader.Start` completes or fails at once. -/
def readsAgain (handler : WsRequestHandler) : WsLabel → Bool
  | .reader label =>
      match handler.thread with
      | .startingReader _ => handler.reader.readsAgain label
      | _ => false
  | _ => false

/-- Only the thread of a handler call is in `Start`. -/
def StartsAlone (handler : WsRequestHandler) : Prop :=
  handler.reader.startFrames.length = handler.thread.startFrames

/-- The steps of the system in which the thread of a handler call, in
`m_reader.Start`, reads again. -/
def startReads
    (system : SubscriberSystem WsRequestHandler)
    (label : SubscriberLabel WsLabel) : Bool :=
  label.onOwn system.state.readsAgain

/-- The handler calls of a connection. -/
def handlerCall : EventMachine.Call (SubscriberSystem WsRequestHandler)
    (SubscriberLabel WsLabel) (SubscriberEvent WsEvent) where
  busy system := system.state.thread.busy
  own system label := label.onOwn system.state.threadStep
  turn _ label := label.onOwn fun own => decide (own = .stateMachine)
  returned event := event.onOwn fun
    | .returned _ => true
    | _ => false

end WsRequestHandler

/-- The machine of a connection with the pump. -/
abbrev connectionMachine
    (unpack : Bytes → Option AsgiWsSendMsg)
    (request : HttpRequest)
    (replyChannel : Bytes) :
    EventMachine (SubscriberSystem WsRequestHandler) (SubscriberLabel WsLabel)
      (SubscriberEvent WsEvent) :=
  (WsRequestHandler.subscriber unpack request replyChannel).systemStep
    replyChannel

namespace SessionPhase

/-- The turns that a handler call still takes at most. -/
def turnsLeft : SessionPhase → Nat
  | .ending _ | .pending _ false => 1
  | .inFlush | .accepted => 2
  | .startingReader .accepting _ | .startingWriter .accepting _ => 2
  | .startingReader .sending _ | .startingWriter .sending _ => 1
  | .notStarted | .pending _ true | .finished _ | .deleted _ => 0

/-- The steps that the thread of a handler call still takes at most, outside of
`m_reader.Start`. -/
def stepsLeft : SessionPhase → Nat
  | .ending _ | .pending _ false => 1
  | .accepted => 2
  | .inFlush => 3
  | .startingReader .accepting _ | .startingWriter .accepting _ => 3
  | .startingReader .sending _ | .startingWriter .sending _ => 2
  | .notStarted | .pending _ true | .finished _ | .deleted _ => 0

theorem turnsLeft_le (phase : SessionPhase) : phase.turnsLeft ≤ 2 := by
  cases phase with
  | pending await returned => cases returned <;> simp [turnsLeft]
  | startingReader stage | startingWriter stage =>
      cases stage <;> simp [turnsLeft]
  | _ => simp [turnsLeft]

theorem stepsLeft_le (phase : SessionPhase) : phase.stepsLeft ≤ 3 := by
  cases phase with
  | pending await returned => cases returned <;> simp [stepsLeft]
  | startingReader stage | startingWriter stage =>
      cases stage <;> simp [stepsLeft]
  | _ => simp [stepsLeft]

end SessionPhase

/-- The steps of its thread that a handler call still takes at most, but for
reads that complete at once. -/
def Session.stepsLeft (session : Session) : Nat :=
  session.phase.stepsLeft +
    match session.phase with
    | .startingReader _ _ => session.reader.startLeft
    | _ => 0

namespace SessionStep

variable {unpack : Bytes → Option AsgiWsSendMsg}
variable {request : HttpRequest}
variable {replyChannel : Bytes}
variable {session next : Session}
variable {label : WsLabel}
variable {events : List WsEvent}

/-- In a call a turn is one of those that were left. -/
theorem turnsLeft
    (busy : session.phase.thread.busy = true)
    (steps : SessionStep unpack request replyChannel session label events
      next) :
    (decide (label = .stateMachine)).toNat + next.phase.turnsLeft ≤
      session.phase.turnsLeft := by
  cases steps with
  | flushFails atPhase | flushPends atPhase | flushReturns bytes atPhase
  | sendConnect atPhase | leavePending await atPhase
  | leaveFinish stage atPhase =>
      rw [atPhase]
      simp [SessionPhase.turnsLeft]
  | taskSend index returned atPhase | taskPost index returned atPhase =>
      rw [atPhase]
      cases returned <;> simp [SessionPhase.turnsLeft]
  | startWriterAccepting hr atPhase =>
      rw [atPhase]
      simp [SessionPhase.turnsLeft, Session.startWriter]
  | startWriterSending hr atPhase =>
      rw [atPhase]
      cases failed hr <;> simp [SessionPhase.turnsLeft, Session.startWriter]
  | reader readerLabel readerNext shown phase readerSteps undeleted moves =>
      rcases moves with rfl | ⟨stage, hr, atPhase, rfl⟩
      · simp
      · rw [atPhase]
        cases stage <;> simp [SessionPhase.turnsLeft]
  | writer | writerFreed | readerFreed => simp
  | execute atPhase | flushCompletes hr atPhase | completePosted hr atPhase
  | cleanup stage atPhase =>
      rw [atPhase] at busy
      contradiction

/-- In a call a step of the thread is one of those that were left, or a read
that completes at once. -/
theorem stepsLeft
    (busy : session.phase.thread.busy = true)
    (steps : SessionStep unpack request replyChannel session label events
      next) :
    ((session.toHandler request replyChannel).threadStep label).toNat +
        next.stepsLeft ≤
      session.stepsLeft +
        ((session.toHandler request replyChannel).readsAgain label).toNat := by
  obtain ⟨phase, reader, writer⟩ := session
  cases steps with
  | flushFails atPhase | flushPends atPhase | flushReturns bytes atPhase
  | sendConnect atPhase | leavePending await atPhase
  | leaveFinish stage atPhase =>
      obtain rfl := atPhase
      simp [WsRequestHandler.threadStep, WsRequestHandler.readsAgain,
        Session.stepsLeft, SessionPhase.stepsLeft, Session.toHandler]
  | taskSend index returned atPhase | taskPost index returned atPhase =>
      obtain rfl := atPhase
      cases returned <;> simp [WsRequestHandler.threadStep, Session.stepsLeft,
        SessionPhase.stepsLeft]
  | startWriterAccepting hr atPhase =>
      obtain rfl := atPhase
      simp [WsRequestHandler.threadStep, Session.stepsLeft,
        SessionPhase.stepsLeft, Session.startWriter, Session.toHandler]
  | startWriterSending hr atPhase =>
      obtain rfl := atPhase
      cases failed hr <;>
        simp [WsRequestHandler.threadStep, Session.stepsLeft,
          SessionPhase.stepsLeft, Session.startWriter, Session.toHandler]
  | reader readerLabel readerNext shown phaseNext readerSteps undeleted moves =>
      have taken := (WsReader.step_startFrames readerSteps).2
      dsimp only at taken
      rcases moves with rfl | ⟨stage, hr, atPhase, rfl⟩
      · cases phaseNext with
        | startingReader stage hr =>
            simp only [Session.stepsLeft, WsRequestHandler.threadStep,
              WsRequestHandler.readsAgain, Session.toHandler,
              SessionPhase.thread]
            omega
        | pending await returned =>
            cases returned <;> simp [WsRequestHandler.threadStep,
              Session.stepsLeft, Session.toHandler]
        | _ =>
            simp [WsRequestHandler.threadStep, Session.stepsLeft,
              Session.toHandler]
      · obtain rfl := atPhase
        have same : (SessionPhase.startingWriter stage hr).stepsLeft =
            (SessionPhase.startingReader stage hr).stepsLeft := by
          cases stage <;> rfl
        simp only [Session.stepsLeft, WsRequestHandler.threadStep,
          WsRequestHandler.readsAgain, Session.toHandler, SessionPhase.thread,
          same]
        omega
  | writer | writerFreed => simp [WsRequestHandler.threadStep, Session.stepsLeft]
  | readerFreed readerLabel readerNext shown stage readerSteps atPhase =>
      obtain rfl := atPhase
      contradiction
  | execute atPhase | flushCompletes hr atPhase | completePosted hr atPhase
  | cleanup stage atPhase =>
      obtain rfl := atPhase
      contradiction

/-- A call is over when it returns. -/
theorem returns
    (busy : session.phase.thread.busy = true)
    (steps : SessionStep unpack request replyChannel session label events next)
    (ended : next.phase.thread.busy = false) :
    ∃ status, events = [.returned status] := by
  cases steps with
  | leavePending | leaveFinish => exact ⟨_, rfl⟩
  | flushFails | flushPends | flushReturns | sendConnect
  | startWriterAccepting => contradiction
  | startWriterSending hr atPhase =>
      cases fails : failed hr <;> simp [Session.startWriter, fails] at ended <;>
        contradiction
  | taskSend index returned atPhase | taskPost index returned atPhase =>
      rw [atPhase] at busy
      cases returned <;> contradiction
  | reader readerLabel readerNext shown phase readerSteps undeleted moves =>
      rcases moves with rfl | ⟨stage, hr, atPhase, rfl⟩
      · rw [busy] at ended
        contradiction
      · contradiction
  | writer | writerFreed | readerFreed =>
      rw [busy] at ended
      contradiction
  | execute atPhase | flushCompletes hr atPhase | completePosted hr atPhase
  | cleanup stage atPhase =>
      rw [atPhase] at busy
      contradiction

end SessionStep

/-! ## Runs -/

section Connection

variable {unpack : Bytes → Option AsgiWsSendMsg}
variable {request : HttpRequest}
variable {replyChannel random : Bytes}
variable {session : Session}
variable {handler next : WsRequestHandler}

namespace WsRequestHandler

/-- A step of the reader keeps `Start` to the thread of the call, which leaves
it with its frame. -/
theorem StartsAlone.reader
    {label : ReaderLabel}
    {events : List WsEvent}
    (alone : handler.StartsAlone)
    (steps : handler.readerStep label = some (next, events)) :
    next.StartsAlone := by
  simp only [readerStep] at steps
  split at steps
  · contradiction
  · rename_i reader shown readerSteps
    have frames := (WsReader.step_startFrames readerSteps).1
    rw [alone] at frames
    split at steps
    · cases steps
      exact alone
    · cases steps
      unfold StartsAlone
      cases atThread : handler.thread with
      | startingReader hr =>
          rw [atThread] at frames
          cases returns : returnsFromStart handler.reader label <;>
            simp_all [WsThread.startFrames]
      | _ =>
          rw [atThread] at frames
          simp_all [WsThread.startFrames]

/-- Every step keeps `Start` to the thread of the call. -/
theorem StartsAlone.step
    {label : WsLabel}
    {events : List WsEvent}
    (alone : (session.toHandler request replyChannel).StartsAlone)
    (steps : WsRequestHandler.step unpack request replyChannel
      (session.toHandler request replyChannel) label = some (next, events)) :
    next.StartsAlone := by
  obtain ⟨sessionNext, rfl, sessionSteps⟩ := Session.matched_step steps
  have frames : session.reader.startFrames.length =
      session.phase.thread.startFrames := alone
  unfold StartsAlone
  simp only [Session.toHandler]
  cases sessionSteps with
  | reader | readerFreed => exact alone.reader steps
  | flushCompletes hr atPhase | completePosted hr atPhase =>
      rw [atPhase] at frames
      have entered : (session.reader.start replyChannel
          (getRequestPath request)).1.startFrames =
          session.reader.startFrames ++ [some (WsReader.offeredLength _)] :=
        PendingCalls.framesOf_enter _ _ _ _
      simp only [Session.startReader, entered, List.length_append, frames]
      rfl
  | taskSend index returned atPhase | taskPost index returned atPhase =>
      rw [atPhase] at frames
      cases returned <;> exact frames
  | startWriterSending hr atPhase =>
      rw [atPhase] at frames
      simp only [Session.startWriter, frames]
      cases failed hr <;> rfl
  | writer | writerFreed => exact frames
  | execute atPhase | flushFails atPhase | flushPends atPhase
  | flushReturns bytes atPhase | sendConnect atPhase
  | leavePending await atPhase | leaveFinish stage atPhase
  | startWriterAccepting hr atPhase | cleanup stage atPhase =>
      rw [atPhase] at frames
      exact frames

/-- Other threads leave `Start` alone. -/
theorem StartsAlone.moved
    {view viewNext : ChannelView}
    {label : SubscriberLabel WsLabel}
    {events : List (SubscriberEvent WsEvent)}
    (alone : (session.toHandler request replyChannel).StartsAlone)
    (moved : SubscriberSystem.Moved (subscriber unpack request replyChannel)
      replyChannel (session.toHandler request replyChannel) view label next
      viewNext events) :
    next.StartsAlone := by
  cases moved with
  | own label next shown steps seen => exact alone.step steps
  | _ => exact alone

/-- The thread of a call that starts alone is never stuck. -/
theorem StartsAlone.exists_threadStep
    (alone : handler.StartsAlone)
    (busy : handler.thread.busy = true) :
    ∃ label, handler.threadStep label = true := by
  cases atThread : handler.thread with
  | inFlush => exact ⟨.flushReturns .failed, by simp [threadStep, atThread]⟩
  | startingReader hr =>
      have single : handler.reader.startFrames.length = 1 := by
        rw [alone, atThread]
        rfl
      obtain ⟨offered, equal⟩ := List.length_eq_one_iff.mp single
      obtain ⟨label, own⟩ := WsReader.exists_startStep
        (equal ▸ List.mem_singleton_self offered)
      exact ⟨.reader label, by simp [threadStep, atThread, own]⟩
  | startingWriter hr => exact ⟨.startWriter, by simp [threadStep, atThread]⟩
  | atSwitch result => exact ⟨.stateMachine, by simp [threadStep, atThread]⟩
  | _ =>
      rw [atThread] at busy
      contradiction

/-- A handler takes every step that its thread may be about to take. -/
theorem threadStep_isSome
    {label : WsLabel}
    (unpack : Bytes → Option AsgiWsSendMsg)
    (request : HttpRequest)
    (replyChannel : Bytes)
    (own : handler.threadStep label = true) :
    (step unpack request replyChannel handler label).isSome = true := by
  cases label with
  | flushReturns ret =>
      have atThread : handler.thread = .inFlush := of_decide_eq_true own
      simp only [step, flushReturns, atThread]
      cases ret <;> rfl
  | reader label =>
      simp only [threadStep] at own
      split at own
      · rename_i hr atThread
        obtain ⟨result, moves⟩ := Option.isSome_iff_exists.mp
          (WsReader.startStep_isSome own)
        simp [step, readerStep, moves, atThread]
      · contradiction
  | startWriter =>
      simp only [threadStep] at own
      split at own
      · rename_i hr atThread
        simp [step, startWriter, atThread]
      · contradiction
  | stateMachine =>
      simp only [threadStep] at own
      split at own
      · rename_i result atThread
        simp only [step, stateMachine, atThread]
        cases result with
        | gotoNext =>
            simp only [handlerStateMachine]
            split
            · rfl
            · split <;> rfl
        | _ => rfl
      · contradiction
  | _ => contradiction

end WsRequestHandler

variable {system reached systemNext : SubscriberSystem WsRequestHandler}

/-- The system is one that a run can reach, and its handler is that of a
session. -/
structure Connected
    (request : HttpRequest)
    (replyChannel : Bytes)
    (system : SubscriberSystem WsRequestHandler)
    (session : Session) : Prop where
  handler : system.state = session.toHandler request replyChannel
  polled : SubscriberSystem.Polled replyChannel system.pump
  owns : OwnsChannel replyChannel session (system.view replyChannel)
  alone : system.state.StartsAlone

theorem connected_start : Connected request replyChannel connectionStart {} where
  handler := rfl
  polled := SubscriberSystem.polled_empty _
  owns := .inr ⟨rfl, rfl⟩
  alone := rfl

/-- What a step of the system is to its session. -/
theorem Connected.step
    {label : SubscriberLabel WsLabel}
    {events : List (SubscriberEvent WsEvent)}
    (nonempty : replyChannel ≠ [])
    (connected : Connected request replyChannel system session)
    (steps : connectionMachine unpack request replyChannel system label =
      some (systemNext, events)) :
    ∃ sessionNext, Connected request replyChannel systemNext sessionNext ∧
      SessionMoved unpack request replyChannel session
        (system.view replyChannel) label sessionNext
        (systemNext.view replyChannel) events := by
  obtain ⟨polled, moved⟩ := SubscriberSystem.step_moved nonempty
    connected.polled
    (by
      intro ownLabel state shown ownSteps event member channel registers
      rw [connected.handler] at ownSteps
      obtain ⟨next, rfl, sessionSteps⟩ := Session.matched_step ownSteps
      rw [WsRequestHandler.of_registers registers] at member
      exact (sessionSteps.registers connected.owns).1 channel member)
    steps
  have alone := connected.alone
  rw [connected.handler] at moved alone
  obtain ⟨sessionNext, equal, sessionMoved⟩ := SessionMoved.of_moved moved
  exact ⟨sessionNext, ⟨equal, polled, connected.owns.moved sessionMoved,
    alone.moved moved⟩, sessionMoved⟩

theorem Connected.busy
    (connected : Connected request replyChannel system session) :
    WsRequestHandler.handlerCall.busy system = session.phase.thread.busy := by
  change system.state.thread.busy = _
  rw [connected.handler]
  rfl

/-- A label of another thread has no property of the object's. -/
theorem onOwn_of_foreign
    {label : SubscriberLabel WsLabel}
    (notOwn : ∀ own, label ≠ .own own)
    (holds : WsLabel → Bool) :
    label.onOwn holds = false := by
  cases label with
  | own label => exact absurd rfl (notOwn label)
  | _ => rfl

/-- Every step of the system pays for what it takes from the handler call. -/
theorem Connected.pays
    {label : SubscriberLabel WsLabel}
    {events : List (SubscriberEvent WsEvent)}
    (nonempty : replyChannel ≠ [])
    (connected : Connected request replyChannel system session)
    (busy : WsRequestHandler.handlerCall.busy system = true)
    (steps : connectionMachine unpack request replyChannel system label =
      some (systemNext, events)) :
    ∃ sessionNext, Connected request replyChannel systemNext sessionNext ∧
      WsRequestHandler.handlerCall.Pays WsRequestHandler.startReads
        (fun session : Session => session.phase.turnsLeft) Session.stepsLeft
        system label systemNext events session sessionNext := by
  obtain ⟨sessionNext, connectedNext, moved⟩ := connected.step nonempty steps
  refine ⟨sessionNext, connectedNext, ?_⟩
  rw [connected.busy] at busy
  cases moved with
  | own label next shown sessionSteps seen =>
      refine ⟨sessionSteps.turnsLeft busy, ?_, ?_⟩
      · simp only [WsRequestHandler.handlerCall, WsRequestHandler.startReads,
          SubscriberLabel.onOwn, connected.handler]
        exact sessionSteps.stepsLeft busy
      · intro idle
        rw [connectedNext.busy] at idle
        obtain ⟨status, rfl⟩ := sessionSteps.returns busy idle
        exact ⟨.own (.returned status), List.mem_singleton_self _, rfl⟩
  | dispatched data label registered seen =>
      refine ⟨by simp [WsRequestHandler.handlerCall, SubscriberLabel.onOwn],
        by simp [WsRequestHandler.handlerCall, SubscriberLabel.onOwn,
          Session.stepsLeft], ?_⟩
      intro idle
      rw [connectedNext.busy] at idle
      exact absurd (busy.symm.trans idle) (by simp)
  | other label events notOwn silent seen =>
      refine ⟨?_, ?_, ?_⟩
      · simp [WsRequestHandler.handlerCall, onOwn_of_foreign notOwn]
      · simp [WsRequestHandler.handlerCall, onOwn_of_foreign notOwn]
      · intro idle
        rw [connectedNext.busy] at idle
        exact absurd (busy.symm.trans idle) (by simp)

/-- Before `Start` returns at most two of its steps are left, but for reads
that complete at once. -/
theorem Connected.stepsLeft_le
    (connected : Connected request replyChannel system session) :
    session.stepsLeft ≤ 5 := by
  have phaseLeft := session.phase.stepsLeft_le
  have alone : session.reader.startFrames.length =
      session.phase.thread.startFrames := by
    have alone := connected.alone
    rw [connected.handler] at alone
    exact alone
  unfold Session.stepsLeft
  cases atPhase : session.phase with
  | startingReader stage hr =>
      rw [atPhase] at alone phaseLeft
      obtain ⟨offered, equal⟩ := List.length_eq_one_iff.mp alone
      have startLeft : session.reader.startLeft ≤ 2 := by
        rw [WsReader.startLeft, equal]
        cases offered <;> simp
      exact Nat.add_le_add phaseLeft startLeft
  | _ =>
      rw [atPhase] at phaseLeft
      exact Nat.le_trans phaseLeft (by decide)

/-- A handler call of a connection ends after at most two turns of the loop,
and after at most five steps more than there are reads in `m_reader.Start` that
complete at once. -/
theorem ConnectionRun.handlerCall_yields
    {past labels : List (SubscriberLabel WsLabel)}
    {pastTrace trace : List (SubscriberEvent WsEvent)}
    (reaches : ConnectionRun unpack request (sendChannel random)
      (fun _ _ => True) past pastTrace reached)
    (entered : WsRequestHandler.handlerCall.busy reached = true)
    (run : EventMachine.Run
      (connectionMachine unpack request (sendChannel random))
      (WsRequestHandler.handlerCall.during EventMachine.always) reached labels
      trace system) :
    WsRequestHandler.handlerCall.Yields
      (connectionMachine unpack request (sendChannel random)) 2
      (5 + EventMachine.count
        (connectionMachine unpack request (sendChannel random))
        WsRequestHandler.startReads reached labels)
      reached labels trace system := by
  have nonempty := sendChannel_ne_nil random
  obtain ⟨session, connected⟩ := reaches.preserves
    (fun system => ∃ session, Connected request (sendChannel random) system
      session)
    ⟨{}, connected_start⟩
    (by
      rintro _ _ _ _ ⟨session, connected⟩ _ steps
      obtain ⟨next, connectedNext, _⟩ := connected.step nonempty steps
      exact ⟨next, connectedNext⟩)
  have yields := run.yields (Connected request (sendChannel random))
    WsRequestHandler.startReads
    (fun session : Session => session.phase.turnsLeft) Session.stepsLeft
    (fun _ _ _ _ _ isConnected ⟨busy, _⟩ steps =>
      isConnected.pays nonempty busy steps)
    (by
      intro system session isConnected busy
      obtain ⟨label, own⟩ := isConnected.alone.exists_threadStep busy
      exact ⟨.own label, own⟩)
    (by
      intro system session label isConnected own
      cases label with
      | own label =>
          obtain ⟨result, moves⟩ := Option.isSome_iff_exists.mp
            (WsRequestHandler.threadStep_isSome unpack request
              (sendChannel random) own)
          simp [connectionMachine, Subscriber.systemStep,
            WsRequestHandler.subscriber, moves]
      | _ => contradiction)
    connected entered
  exact yields.mono session.phase.turnsLeft_le
    (Nat.add_le_add_right connected.stepsLeft_le _)

end Connection

end IisAsgiHandler
