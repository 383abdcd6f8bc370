import IisAsgiHandler.ResponsePump.Subscriber
import IisAsgiHandler.WebSocket.Writer

/-!
# Serialisation of WebSocket sends

A single token goes round between the response pump and a writer that was
started once: the registration of the reply channel, the callback that the pump
has created a task for, the message in writing.  While writes succeed the token
is neither lost nor doubled, so messages are written one after the other.
-/

namespace IisAsgiHandler

namespace WsWriter

/-- How a writer uses the response pump. -/
def subscriber (unpack : Bytes → Option AsgiWsSendMsg) :
    Subscriber WsWriter WriterLabel WriterEvent where
  step := step unpack
  registers
    | .addChannel channel => some channel
    | _ => none
  receive writer data :=
    { writer with callbacks := writer.callbacks ++ [{ data := data }] }

/-- The writer of a connection that has just been started, among others. -/
def started (unpack : Bytes → Option AsgiWsSendMsg) (replyChannel : Bytes) :
    SubscriberSystem WsWriter :=
  let (writer, events) := ({} : WsWriter).start replyChannel
  { state := writer
    pump := events.foldl (subscriber unpack).register {} }

/-- No step reports the failure of a write. -/
def writesSucceed (_ : WsWriter) (label : SubscriberLabel WriterLabel) : Prop :=
  label.onOwn WriterLabel.fails = false

instance (writer : WsWriter) (label : SubscriberLabel WriterLabel) :
    Decidable (writesSucceed writer label) :=
  inferInstanceAs (Decidable (_ = false))

/-- The frames that have been written to the socket. -/
def writtenFrames (events : List WriterEvent) : List Bytes :=
  events.filterMap fun
    | .wrote bytes numBytes => some (bytes.take numBytes)
    | _ => none

/-- Every call has written all that it was offered. -/
def AcceptsAll (events : List WriterEvent) : Prop :=
  ∀ bytes numBytes, .wrote bytes numBytes ∈ events → numBytes = bytes.length

/-- Where the token is: how many callbacks are registered for the channel, how
many have not prepared their message, and how many messages are in writing. -/
def tokens (channel : Bytes) (system : SubscriberSystem WsWriter) : Nat :=
  (system.pump.registered channel).toList.length +
    system.state.callbacks.length + system.state.asgiSendMsg.toList.length

/-- The messages handed over and not written yet. -/
inductive InHand
    (unpack : Bytes → Option AsgiWsSendMsg)
    (writer : WsWriter) : List Bytes → Prop
  | callbacks (idle : writer.asgiSendMsg = none) :
      InHand unpack writer (writer.callbacks.map ChannelsCallback.data)
  | writing (data : Bytes) (msg : AsgiWsSendMsg)
      (unpacked : unpack data = some msg)
      (inWriting : writer.asgiSendMsg = some msg)
      (fresh : writer.bytesWritten = 0) :
      InHand unpack writer [data]

/-- What holds of a writer that was started once, whether writes succeed or
not. -/
structure TokenLaw
    (unpack : Bytes → Option AsgiWsSendMsg)
    (channel : Bytes)
    (trace : List (SubscriberEvent WriterEvent))
    (writer : WsWriter)
    (view : ChannelView) : Prop where
  serial : Serial writer
  replyChannel : writer.replyChannel = channel
  token : view.registered.toNat + writer.callbacks.length +
    writer.asgiSendMsg.toList.length = 1
  accounts : SubscriberSystem.Accounts channel trace view
  callbacks : ∀ callback ∈ writer.callbacks,
    callback.data ∈ dispatchedData trace ∧
      (callback.thrown = true → unpack callback.data = none)

/-- While calls accept all that they are offered, what has been handed over
has been written or is in hand. -/
def FramesLaw
    (unpack : Bytes → Option AsgiWsSendMsg)
    (trace : List (SubscriberEvent WriterEvent))
    (writer : WsWriter) : Prop :=
  (∀ data msg, unpack data = some msg → msg.bytes.length < dwordSize) →
    AcceptsAll (ownEvents trace) →
    ∃ written inHand, dispatchedData trace = written ++ inHand ∧
      InHand unpack writer inHand ∧
      (writtenFrames (ownEvents trace)).map some =
        written.map fun data => (unpack data).map AsgiWsSendMsg.bytes

variable {unpack : Bytes → Option AsgiWsSendMsg}
variable {channel : Bytes}
variable {trace events : List (SubscriberEvent WriterEvent)}
variable {writer next : WsWriter}
variable {view viewNext : ChannelView}
variable {label : SubscriberLabel WriterLabel}

/-- The token stays single when the writer takes a step. -/
theorem Moved.token
    {ownLabel : WriterLabel}
    {shown : List WriterEvent}
    {registered : Bool}
    (moved : Moved unpack writer ownLabel next shown)
    (serial : Serial writer)
    (token : registered.toNat + writer.callbacks.length +
      writer.asgiSendMsg.toList.length = 1) :
    (registered || shown.any fun event =>
        ((subscriber unpack).registers event).isSome).toNat +
      next.callbacks.length + next.asgiSendMsg.toList.length = 1 := by
  cases moved with
  | quiet calls succeeds => simpa using token
  | thrown data waits malformed _ => simpa [waits] using token
  | prepared data msg calls waits unpacked idle _ =>
      simpa [waits, idle, subscriber] using token
  | completed msg numBytes outcome writing reports completes =>
      have noCallback := serial.callbacks_eq_nil writing
      have unregistered : registered = false := by
        simpa [noCallback, writing] using token
      cases reports <;> cases completes <;>
        simp [unregistered, noCallback, writing, subscriber]

theorem AcceptsAll.of_append
    {first second : List WriterEvent}
    (accepts : AcceptsAll (first ++ second)) :
    AcceptsAll first :=
  fun bytes numBytes member =>
    accepts bytes numBytes (List.mem_append_left _ member)

/-- A message that nothing has been written of is offered as a whole. -/
theorem offered_zero
    {msg : AsgiWsSendMsg}
    (small : msg.bytes.length < dwordSize) :
    offered msg 0 = msg.bytes := by
  rw [offered, Nat.sub_zero, Nat.mod_eq_of_lt small, List.take_length]

/-- What is written is what has been handed over, when calls accept all. -/
theorem Moved.frames
    {ownLabel : WriterLabel}
    {earlier shown : List WriterEvent}
    {handedOver : List Bytes}
    (moved : Moved unpack writer ownLabel next shown)
    (serial : Serial writer)
    (succeeds : ownLabel.fails = false)
    (small : ∀ data msg, unpack data = some msg → msg.bytes.length < dwordSize)
    (accepts : AcceptsAll (earlier ++ shown))
    (frames : ∃ written inHand, handedOver = written ++ inHand ∧
      InHand unpack writer inHand ∧
      (writtenFrames earlier).map some =
        written.map fun data => (unpack data).map AsgiWsSendMsg.bytes) :
    ∃ written inHand, handedOver = written ++ inHand ∧
      InHand unpack next inHand ∧
      (writtenFrames (earlier ++ shown)).map some =
        written.map fun data => (unpack data).map AsgiWsSendMsg.bytes := by
  obtain ⟨written, inHand, split, hand, equal⟩ := frames
  have longer : writtenFrames (earlier ++ shown) =
      writtenFrames earlier ++ writtenFrames shown := List.filterMap_append
  rw [longer, List.map_append, equal]
  cases moved with
  | quiet calls _ =>
      refine ⟨written, inHand, split, ?_, by simp [writtenFrames]⟩
      cases hand with
      | callbacks idle => exact .callbacks idle
      | writing data msg unpacked inWriting fresh =>
          exact .writing data msg unpacked inWriting fresh
  | thrown data waits malformed _ =>
      refine ⟨written, inHand, split, ?_, by simp [writtenFrames]⟩
      cases hand with
      | callbacks idle =>
          rw [waits]
          exact .callbacks idle
      | writing other msg unpacked inWriting fresh =>
          have none := serial.callbacks_eq_nil inWriting
          rw [waits] at none
          contradiction
  | prepared data msg calls waits unpacked idle _ =>
      refine ⟨written, inHand, split, ?_, by simp [writtenFrames]⟩
      cases hand with
      | callbacks _ =>
          rw [waits]
          exact .writing data msg unpacked rfl rfl
      | writing other otherMsg _ inWriting fresh =>
          rw [idle] at inWriting
          contradiction
  | completed msg numBytes outcome writing reports completes =>
      cases reports with
      | writeFailed fails =>
          rw [succeeds] at fails
          contradiction
      | wrote _ inside =>
          cases hand with
          | callbacks idle =>
              rw [writing] at idle
              contradiction
          | writing data other unpacked inWriting fresh =>
              obtain rfl : msg = other :=
                Option.some.inj (writing.symm.trans inWriting)
              have whole := offered_zero (small data msg unpacked)
              rw [fresh, whole] at accepts ⊢
              have all : numBytes = msg.bytes.length :=
                accepts _ _ (List.mem_append_right _ List.mem_cons_self)
              subst all
              cases completes with
              | finished calls done settled =>
                  have noCallback := serial.callbacks_eq_nil writing
                  refine ⟨written ++ [data], [], by simpa using split, ?_, ?_⟩
                  · have idle : InHand unpack
                        { writer with
                          asgiSendMsg := none
                          bytesWritten := 0
                          calls := calls } _ := .callbacks rfl
                    simpa [noCallback] using idle
                  · simp [writtenFrames, unpacked]
              | continued calls more single =>
                  rw [fresh] at more
                  omega

/-- A callback is ended by a message that cannot be unpacked only. -/
theorem Moved.callbacks
    {ownLabel : WriterLabel}
    {shown : List WriterEvent}
    {handedOver : List Bytes}
    (moved : Moved unpack writer ownLabel next shown)
    (callbacks : ∀ callback ∈ writer.callbacks, callback.data ∈ handedOver ∧
      (callback.thrown = true → unpack callback.data = none)) :
    ∀ callback ∈ next.callbacks, callback.data ∈ handedOver ∧
      (callback.thrown = true → unpack callback.data = none) := by
  cases moved with
  | quiet calls succeeds => exact callbacks
  | thrown data waits malformed _ =>
      intro callback member
      rw [List.mem_singleton.mp member]
      have given := (callbacks ⟨data, false⟩ (by simp [waits])).1
      exact ⟨given, fun _ => malformed⟩
  | prepared => simp
  | completed msg numBytes outcome writing reports completes =>
      cases completes <;> exact callbacks

/-- A registered writer has neither a callback nor a message. -/
theorem TokenLaw.idle
    (law : TokenLaw unpack channel trace writer view)
    (registered : view.registered = true) :
    writer.callbacks = [] ∧ writer.asgiSendMsg = none := by
  have token := law.token
  rw [registered, Bool.toNat_true] at token
  refine ⟨List.eq_nil_of_length_eq_zero (by omega), ?_⟩
  exact Option.toList_eq_nil_iff.mp (List.eq_nil_of_length_eq_zero (by omega))

/-- Every step of the system passes the token on. -/
theorem TokenLaw.moved
    (law : TokenLaw unpack channel trace writer view)
    (moved : SubscriberSystem.Moved (subscriber unpack) channel writer view label
      next viewNext events) :
    TokenLaw unpack channel (trace ++ events) next viewNext := by
  have accounts := law.accounts.moved moved
  cases moved with
  | own ownLabel next shown steps seen =>
      subst seen
      obtain ⟨serial, ownMoved⟩ := step_moved law.serial steps
      refine ⟨serial, (step_registers steps).1.trans law.replyChannel,
        ownMoved.token law.serial law.token, accounts, ?_⟩
      rw [dispatchedData_append, dispatchedData_own, List.append_nil]
      exact ownMoved.callbacks law.callbacks
  | dispatched data pumpLabel registered held seen =>
      subst seen
      obtain ⟨noCallback, idle⟩ := law.idle registered
      refine ⟨⟨law.serial.single, law.serial.idle, ?_⟩, law.replyChannel, ?_,
        accounts, ?_⟩
      · simp [subscriber, noCallback, idle]
      · simp [subscriber, noCallback, idle]
      · simp [subscriber, noCallback, dispatchedData]
  | popped data rest pumpLabel registered held queue seen =>
      subst seen
      rw [List.append_nil] at accounts ⊢
      exact ⟨law.serial, law.replyChannel, law.token, accounts, law.callbacks⟩
  | sent data seen =>
      subst seen
      refine ⟨law.serial, law.replyChannel, law.token, accounts, ?_⟩
      simpa [dispatchedData] using law.callbacks
  | quiet label events notOwn silent notSent notDispatched =>
      refine ⟨law.serial, law.replyChannel, law.token, accounts, ?_⟩
      rw [dispatchedData_append, notDispatched, List.append_nil]
      exact law.callbacks

/-- While writes succeed, every step writes what has been handed over. -/
theorem FramesLaw.moved
    (frames : FramesLaw unpack trace writer)
    (law : TokenLaw unpack channel trace writer view)
    (succeeds : writesSucceed writer label)
    (moved : SubscriberSystem.Moved (subscriber unpack) channel writer view label
      next viewNext events) :
    FramesLaw unpack (trace ++ events) next := by
  cases moved with
  | own ownLabel next shown steps seen =>
      intro small accepts
      rw [ownEvents_append, ownEvents_own] at accepts ⊢
      rw [dispatchedData_append, dispatchedData_own, List.append_nil]
      exact (step_moved law.serial steps).2.frames law.serial succeeds small
        accepts (frames small accepts.of_append)
  | dispatched data pumpLabel registered held seen =>
      obtain ⟨noCallback, idle⟩ := law.idle registered
      intro small accepts
      obtain ⟨written, inHand, split, hand, equal⟩ :=
        frames small (AcceptsAll.of_append (by simpa using accepts))
      have nothing : inHand = [] := by
        cases hand with
        | callbacks _ => rw [noCallback, List.map_nil]
        | writing _ msg _ inWriting =>
            rw [idle] at inWriting
            contradiction
      refine ⟨written, [data], ?_, ?_, ?_⟩
      · rw [dispatchedData_append, split, nothing, List.append_nil]
        rfl
      · have waits : InHand unpack
            ((subscriber unpack).receive writer data) _ := .callbacks idle
        simpa [subscriber, noCallback] using waits
      · rw [ownEvents_append, ← equal]
        simp [ownEvents]
  | popped data rest pumpLabel registered held queue seen =>
      rw [List.append_nil]
      exact frames
  | sent data seen =>
      simpa [FramesLaw, ownEvents, dispatchedData] using frames
  | quiet label events notOwn silent notSent notDispatched =>
      rw [FramesLaw, ownEvents_append, dispatchedData_append, silent,
        notDispatched, List.append_nil, List.append_nil]
      exact frames

/-! ## Serialisation -/

variable {random : Bytes}
variable {labels : List (SubscriberLabel WriterLabel)}
variable {system : SubscriberSystem WsWriter}

/-- The runs of a writer that was started once. -/
abbrev WriterRun
    (unpack : Bytes → Option AsgiWsSendMsg)
    (random : Bytes)
    (good : WsWriter → SubscriberLabel WriterLabel → Prop)
    (labels : List (SubscriberLabel WriterLabel))
    (trace : List (SubscriberEvent WriterEvent))
    (system : SubscriberSystem WsWriter) : Prop :=
  EventMachine.Run ((subscriber unpack).systemStep (sendChannel random))
    (fun system label => good system.state label)
    (started unpack (sendChannel random)) labels trace system

/-- The token goes round in every run, and another law may be kept with it. -/
theorem WriterRun.law
    {good : WsWriter → SubscriberLabel WriterLabel → Prop}
    (law : List (SubscriberEvent WriterEvent) → WsWriter → Prop)
    (initially : law [] (started unpack (sendChannel random)).state)
    (kept : ∀ trace writer view label next viewNext events,
      TokenLaw unpack (sendChannel random) trace writer view →
      law trace writer → good writer label →
      SubscriberSystem.Moved (subscriber unpack) (sendChannel random) writer view
        label next viewNext events →
      law (trace ++ events) next)
    (run : WriterRun unpack random good labels trace system) :
    TokenLaw unpack (sendChannel random) trace system.state
        (system.view (sendChannel random)) ∧
      law trace system.state := by
  refine (SubscriberSystem.run_law
    (fun trace writer view =>
      TokenLaw unpack (sendChannel random) trace writer view ∧ law trace writer)
    (sendChannel_ne_nil random) ?_ ⟨?_, initially⟩ ?_ ?_ run).2
  · refine (SubscriberSystem.polled_empty _).own _ ?_
    intro event member other registers
    rw [List.mem_singleton.mp member] at registers
    exact (Option.some.inj registers).symm
  · refine ⟨⟨rfl, fun _ => rfl, Nat.zero_le 1⟩, rfl, ?_, rfl, ?_⟩
    · simp [SubscriberSystem.view, started, start, registerChannelsCallback,
        Subscriber.register, subscriber]
    · intro callback member
      contradiction
  · rintro trace writer view ownLabel next shown ⟨token, _⟩ steps
    intro event member other registers
    rw [← token.replyChannel]
    cases event with
    | addChannel named =>
        obtain rfl : named = other := Option.some.inj registers
        exact (step_registers steps).2 named member
    | _ => contradiction
  · rintro trace writer view label next viewNext events ⟨token, holds⟩ isGood
      moved
    exact ⟨token.moved moved, kept _ _ _ _ _ _ _ token holds isGood moved⟩

/-- While writes succeed, exactly one of a registration, a callback that has
not prepared its message and a message in writing exists at any time, and at
most one call is outstanding.  A callback never prepares a message that cannot
be unpacked, and only such a one.  When calls accept all that they are offered, the
frames are the messages of the reply channel, up to some point. -/
theorem send_serialisation
    (run : WriterRun unpack random writesSucceed labels trace system) :
    tokens (sendChannel random) system = 1 ∧
      system.state.calls.offers.length ≤ 1 ∧
      (system.state.asgiSendMsg = none → system.state.bytesWritten = 0) ∧
      (∀ callback ∈ system.state.callbacks, callback.thrown = true →
        callback.data ∈ sentToChannel (sendChannel random) trace ∧
          unpack callback.data = none) ∧
      ((∀ data msg, unpack data = some msg → msg.bytes.length < dwordSize) →
        AcceptsAll (ownEvents trace) →
        (writtenFrames (ownEvents trace)).map some <+:
          (sentToChannel (sendChannel random) trace).map fun data =>
            (unpack data).map AsgiWsSendMsg.bytes) := by
  obtain ⟨law, frames⟩ := run.law (FramesLaw unpack)
    (fun _ _ => ⟨[], [], rfl, .callbacks rfl, rfl⟩)
    (fun _ _ _ _ _ _ _ token frames succeeds moved =>
      frames.moved token succeeds moved)
  refine ⟨?_, ?_, law.serial.idle, ?_, ?_⟩
  · have token := law.token
    rw [tokens]
    rw [← token]
    cases found : system.pump.registered (sendChannel random) <;>
      simp [SubscriberSystem.view, found]
  · rw [law.serial.single]
    cases system.state.asgiSendMsg <;> simp
  · intro callback member thrown
    obtain ⟨given, malformed⟩ := law.callbacks callback member
    rw [law.accounts]
    exact ⟨List.mem_append_left _ given, malformed thrown⟩
  · intro small accepts
    obtain ⟨written, inHand, split, _, equal⟩ := frames small accepts
    have accounts := law.accounts
    rw [SubscriberSystem.Accounts, split] at accounts
    rw [accounts, equal, List.append_assoc, List.map_append]
    exact List.prefix_append _ _

/-- A message as a msgpack map of two pairs; it has less than 256 bytes. -/
def packSend (bytes : Bytes) : Bytes :=
  [0x82, 0xA5] ++ ascii "bytes" ++ [0xC4, UInt8.ofNat bytes.length] ++ bytes ++
    [0xA5] ++ ascii "close" ++ [0xC2]

/-- Unpack the messages with the given contents. -/
def unpackSends (contents : List Bytes) (data : Bytes) : Option AsgiWsSendMsg :=
  (contents.find? fun bytes => packSend bytes = data).map fun bytes =>
    { bytes := bytes }

/-- Two messages are sent; the completion of the first write comes before the
call has returned, and the second is written at once. -/
def sampleSends : List (SubscriberLabel WriterLabel) :=
  let channel := sendChannel [0x41]
  [.send channel (packSend (ascii "hi")), .send channel (packSend (ascii "you")),
    .pump .snapshot, .pump (.receiveMany (some channel)), .pump .dispatch,
    .own (.channelsCallback 0), .own (.writePends 0),
    .own (.writeCallback 0 sOk 2),
    .pump .snapshot, .pump (.receiveMany (some channel)), .pump .dispatch,
    .own (.channelsCallback 0), .own (.leave 0), .own (.writeReturns 0 3)]

theorem send_serialisation_sample :
    let unpack := unpackSends [ascii "hi", ascii "you"]
    ∃ trace system,
      WriterRun unpack [0x41] writesSucceed sampleSends trace system ∧
      tokens (sendChannel [0x41]) system = 1 ∧
      writtenFrames (ownEvents trace) = [ascii "hi", ascii "you"] ∧
      (writtenFrames (ownEvents trace)).map some <+:
        (sentToChannel (sendChannel [0x41]) trace).map fun data =>
          (unpack data).map AsgiWsSendMsg.bytes := by
  intro unpack
  have checked : EventMachine.checks
      ((subscriber unpack).systemStep (sendChannel [0x41]))
      (fun system label => writesSucceed system.state label)
      (started unpack (sendChannel [0x41])) sampleSends
      (fun _ trace => ownEvents trace =
        [.writeFragment (ascii "hi"), .wrote (ascii "hi") 2, .counted 2,
          .addChannel (sendChannel [0x41]), .writeFragment (ascii "you"),
          .wrote (ascii "you") 3, .counted 3,
          .addChannel (sendChannel [0x41])]) = true := by
    decide +kernel
  obtain ⟨trace, system, run, shown⟩ := EventMachine.Run.of_checks checked
  have serialised := send_serialisation run
  refine ⟨trace, system, run, serialised.1, by rw [shown]; decide,
    serialised.2.2.2.2 ?_ ?_⟩
  · intro data msg unpacked
    obtain ⟨bytes, found, rfl⟩ := Option.map_eq_some_iff.mp unpacked
    have member := List.mem_of_find?_eq_some found
    simp only [List.mem_cons, List.not_mem_nil, or_false] at member
    rcases member with rfl | rfl <;> decide
  · rw [shown]
    intro bytes numBytes member
    simp only [List.mem_cons, List.not_mem_nil, or_false, reduceCtorEq,
      WriterEvent.wrote.injEq, false_or] at member
    rcases member with ⟨rfl, rfl⟩ | ⟨rfl, rfl⟩ <;> decide

end WsWriter

end IisAsgiHandler
