import IisAsgiHandler.ChannelLayer.Store
import IisAsgiHandler.Forwarding

/-!
# The strings of a connection's messages

Every message that a connection sends to the application names its channel and
its path as strings, and MessagePack strings are text in UTF-8.  So whether an
application can read these messages depends on the path alone.
-/

namespace IisAsgiHandler

open MessagePack (Value)

/-- The strings among some fields. -/
def stringFields (fields : List (Bytes × Value)) : List Bytes :=
  fields.filterMap fun field => readStr field.2

/-- The strings of a message to the application. -/
def WsEvent.strings : WsEvent → List Bytes
  | .send _ msg => stringFields msg.fields
  | .reader (.send _ msg) => [msg.replyChannel, msg.path]
  | _ => []

theorem stringFields_connect (msg : AsgiWsConnectMsg) :
    stringFields msg.fields = [msg.replyChannel, msg.scheme, msg.path] := rfl

/-- The strings of a packed `websocket.receive` message. -/
theorem stringFields_receive (msg : AsgiWsReceiveMsg) :
    stringFields msg.fields =
      (WsEvent.reader (.send (ascii "websocket.receive")
        (WsReader.pack msg))).strings := rfl

/-! ## Text in ASCII -/

theorem isText_of_ascii {bytes : Bytes} (plain : ∀ byte ∈ bytes, byte < 0x80) :
    Utf8.IsText bytes := by
  have written : bytes = (bytes.map UInt8.toNat).flatMap Utf8.encode := by
    rw [List.flatMap_map]
    conv_lhs => rw [← List.flatMap_singleton' bytes]
    apply List.flatMap_congr
    intro byte member
    have low : byte.toNat < 0x80 := UInt8.lt_iff_toNat_lt.mp (plain byte member)
    rw [Utf8.encode, if_pos low, UInt8.ofNat_toNat]
  rw [written, Utf8.isText_flatMap_iff]
  · intro code member
    obtain ⟨byte, isByte, rfl⟩ := List.mem_map.mp member
    have low : byte.toNat < 0x80 := UInt8.lt_iff_toNat_lt.mp (plain byte isByte)
    unfold Nat.isValidChar
    omega
  · intro code member
    obtain ⟨byte, -, rfl⟩ := List.mem_map.mp member
    exact Nat.lt_trans byte.toNat_lt (by decide)

/-- Generated channels are ASCII. -/
theorem isText_sendChannel
    {random : Bytes}
    (generated : RedisChannelLayer.IsRandomAscii 10 random) :
    Utf8.IsText (sendChannel random) := by
  apply isText_of_ascii
  have kind : ∀ byte ∈ ascii "websocket.send!", byte < 0x80 := by decide +kernel
  have drawn : ∀ byte ∈ RedisChannelLayer.charset, byte < 0x80 := by decide +kernel
  intro byte member
  rcases List.mem_append.mp member with fixed | isRandom
  · exact kind byte fixed
  · exact drawn byte (generated.2 byte isRandom)

/-! ## The reader keeps its address -/

/-- The messages of a reader name a channel and a path. -/
structure WsReader.Addressed
    (replyChannel path : Bytes) (reader : WsReader) : Prop where
  replyChannel : reader.msg.replyChannel = replyChannel
  path : reader.msg.path = path

/-- The messages among some events name a channel and a path. -/
def EventsAddressed
    (replyChannel path : Bytes) (events : List ReaderEvent) : Prop :=
  ∀ channel msg, .send channel msg ∈ events →
    msg.replyChannel = replyChannel ∧ msg.path = path

namespace WsReader

variable {replyChannel path : Bytes} {reader next : WsReader}

theorem readAsyncComplete_addressed
    {msg : AsgiWsReceiveMsg}
    (isChannel : msg.replyChannel = replyChannel)
    (isPath : msg.path = path)
    (hr : HResult)
    (numBytes : Nat)
    (utf8 final close : Bool) :
    let completed := readAsyncComplete msg hr numBytes utf8 final close
    completed.1.replyChannel = replyChannel ∧ completed.1.path = path ∧
      EventsAddressed replyChannel path completed.2 := by
  unfold readAsyncComplete
  cases final with
  | true =>
      refine ⟨isChannel, isPath, ?_⟩
      intro channel packed member
      simp [sendToApplication] at member
      rw [member.2]
      exact ⟨isChannel, isPath⟩
  | false =>
      simp only [Bool.false_eq_true, if_false]
      split_ifs
      · exact ⟨isChannel, isPath, by simp [EventsAddressed]⟩
      · exact ⟨isChannel, isPath, by simp [EventsAddressed]⟩

/-- A step keeps the address, and sends messages to it. -/
theorem Addressed.step
    {label : ReaderLabel}
    {events : List ReaderEvent}
    (addressed : reader.Addressed replyChannel path)
    (steps : reader.step label = some (next, events)) :
    next.Addressed replyChannel path ∧
      EventsAddressed replyChannel path events := by
  obtain ⟨isChannel, isPath⟩ := addressed
  cases stepped_of_step steps with
  | @returns index length caller fragment looped found fits loops =>
      have kept := @readAsyncComplete_addressed replyChannel path
        (deliver reader.msg fragment) isChannel isPath sOk
        fragment.payload.length fragment.utf8 fragment.final fragment.close
      generalize readAsyncComplete (deliver reader.msg fragment) sOk
        fragment.payload.length fragment.utf8 fragment.final fragment.close =
        completed at kept loops
      subst loops
      refine ⟨⟨kept.1, kept.2.1⟩, ?_⟩
      intro channel packed member
      simp only [loop_events, List.mem_cons, List.mem_append, List.not_mem_nil,
        or_false, reduceCtorEq, false_or] at member
      exact kept.2.2 channel packed member
  | @fails index length caller looped found loops =>
      have kept := readAsyncComplete_addressed isChannel isPath sOk length false
        false false
      generalize readAsyncComplete reader.msg sOk length false false false =
        completed at kept loops
      subst loops
      refine ⟨⟨kept.1, kept.2.1⟩, ?_⟩
      intro channel packed member
      simp only [loop_events, List.mem_cons, List.mem_append, List.not_mem_nil,
        or_false, reduceCtorEq, false_or] at member
      exact kept.2.2 channel packed member
  | pends found => exact ⟨⟨isChannel, isPath⟩, by simp [EventsAddressed]⟩
  | leaves found => exact ⟨⟨isChannel, isPath⟩, by simp [EventsAddressed]⟩
  | @calledBack index length hr fragment completed found fits completes =>
      have stored : (if failed hr then reader.msg
            else deliver reader.msg fragment).replyChannel = replyChannel ∧
          (if failed hr then reader.msg
            else deliver reader.msg fragment).path = path := by
        split_ifs
        · exact ⟨isChannel, isPath⟩
        · exact ⟨isChannel, isPath⟩
      have kept := readAsyncComplete_addressed stored.1 stored.2 hr
        fragment.payload.length fragment.utf8 fragment.final fragment.close
      rw [← completes] at kept
      refine ⟨⟨kept.1, kept.2.1⟩, ?_⟩
      intro channel packed member
      apply kept.2.2 channel packed
      split_ifs at member with fails
      · simpa only [List.mem_cons, List.mem_append, List.not_mem_nil, or_false,
          reduceCtorEq, false_or] using member
      · simpa only [List.mem_cons, List.mem_append, List.not_mem_nil, or_false,
          reduceCtorEq, false_or] using member

end WsReader

/-! ## The messages of a connection -/

section Connection

variable {unpack : Bytes → Option AsgiWsSendMsg}
variable {request : HttpRequest}
variable {replyChannel : Bytes}

/-- A message to the application says what the request says. -/
def WsEvent.Faithful
    (request : HttpRequest) (replyChannel : Bytes) : WsEvent → Prop
  | .send _ msg => msg = WsRequestHandler.asgiConnectMsg request replyChannel
  | .reader (.send _ msg) =>
      msg.replyChannel = replyChannel ∧ msg.path = getRequestPath request
  | _ => True

/-- A message to the application names a channel and a path. -/
def WsEvent.Names (replyChannel : Bytes) (path : List UInt16) : WsEvent → Prop
  | .send _ msg => msg.replyChannel = replyChannel ∧ msg.path = toBytes path
  | .reader (.send _ msg) =>
      msg.replyChannel = replyChannel ∧ msg.path = toBytes path
  | _ => True

theorem WsEvent.Faithful.names
    {event : WsEvent}
    (faithful : event.Faithful request replyChannel) :
    event.Names replyChannel request.absPath := by
  cases event with
  | send name msg =>
      cases faithful
      exact ⟨rfl, rfl⟩
  | reader event =>
      cases event with
      | send name msg => exact faithful
      | _ => trivial
  | _ => trivial

/-- A reader that has been started is addressed, and all messages are
faithful. -/
structure FaithfulLaw
    (request : HttpRequest) (replyChannel : Bytes)
    (events : List WsEvent) (session : Session) : Prop where
  reader : session.reader = {} ∨
    session.reader.Addressed replyChannel (getRequestPath request)
  messages : ∀ event ∈ events, event.Faithful request replyChannel

namespace FaithfulLaw

variable {session next : Session} {events shown : List WsEvent}

/-- Starting the reader addresses it. -/
theorem startReader
    (law : FaithfulLaw request replyChannel events session)
    (stage : ConnectStage)
    (hr : HResult)
    (before : List WsEvent)
    (faithful : ∀ event ∈ before, event.Faithful request replyChannel) :
    FaithfulLaw request replyChannel
      (events ++ (before ++ session.startReaderEvents request replyChannel))
      (session.startReader request replyChannel stage hr) where
  reader := .inr ⟨rfl, rfl⟩
  messages := by
    intro event member
    rw [List.mem_append, List.mem_append] at member
    rcases member with old | old | new
    · exact law.messages event old
    · exact faithful event old
    · rcases List.mem_cons.mp new with rfl | first
      · trivial
      · cases List.mem_singleton.mp first
        trivial

/-- Events that are no messages change nothing. -/
theorem silent
    (law : FaithfulLaw request replyChannel events session)
    (same : next.reader = session.reader)
    (faithful : ∀ event ∈ shown, event.Faithful request replyChannel) :
    FaithfulLaw request replyChannel (events ++ shown) next where
  reader := same ▸ law.reader
  messages := by
    intro event member
    rcases List.mem_append.mp member with old | new
    · exact law.messages event old
    · exact faithful event new

theorem step
    {label : WsLabel}
    (law : FaithfulLaw request replyChannel events session)
    (steps : SessionStep unpack request replyChannel session label shown next) :
    FaithfulLaw request replyChannel (events ++ shown) next := by
  cases steps with
  | flushCompletes hr atPhase =>
      exact law.startReader .accepting hr [.flushed (failed hr)]
        (by simp [WsEvent.Faithful])
  | completePosted hr atPhase =>
      exact law.startReader .sending hr [] (by simp)
  | taskSend index returned atPhase =>
      exact law.silent rfl (by simp [WsEvent.Faithful])
  | reader label readerNext readerEvents phase steps undeleted moves =>
      rcases law.reader with empty | addressed
      · rw [empty, WsReader.step_empty] at steps
        cases steps
      · obtain ⟨still, sends⟩ := addressed.step steps
        refine ⟨.inr still, ?_⟩
        intro event member
        rcases List.mem_append.mp member with old | new
        · exact law.messages event old
        · obtain ⟨shown, isShown, rfl⟩ := List.mem_map.mp new
          cases shown with
          | send channel msg => exact sends channel msg isShown
          | readFragment length => trivial
          | fragment fragment => trivial
          | readFailed => trivial
          | counted numBytes => trivial
  | writer label writerNext writerEvents steps undeleted =>
      refine law.silent rfl ?_
      intro event member
      obtain ⟨shown, -, rfl⟩ := List.mem_map.mp member
      trivial
  | startWriterAccepting hr atPhase =>
      refine law.silent rfl ?_
      simp [Session.startWriterEvents, WsEvent.Faithful]
  | startWriterSending hr atPhase =>
      refine law.silent rfl ?_
      simp [Session.startWriterEvents, WsEvent.Faithful]
  | execute atPhase => exact law.silent rfl (by simp [WsEvent.Faithful])
  | flushFails atPhase => exact law.silent rfl (by simp [WsEvent.Faithful])
  | flushPends atPhase => exact law.silent rfl (by simp)
  | flushReturns bytes atPhase =>
      exact law.silent rfl (by simp [WsEvent.Faithful])
  | sendConnect atPhase => exact law.silent rfl (by simp)
  | leavePending await atPhase =>
      exact law.silent rfl (by simp [WsEvent.Faithful])
  | leaveFinish stage atPhase =>
      exact law.silent rfl (by simp [WsEvent.Faithful])
  | taskPost index returned atPhase => exact law.silent rfl (by simp)
  | cleanup stage atPhase => exact law.silent rfl (by simp)
  | readerFreed label readerNext readerEvents stage steps atPhase =>
      exact law.silent rfl (by simp [WsEvent.Faithful])
  | writerFreed label writerNext writerEvents stage steps atPhase =>
      exact law.silent rfl (by simp [WsEvent.Faithful])

end FaithfulLaw

/-- In every run of a connection its messages say what the request says. -/
theorem ConnectionRun.faithful
    {good : WsRequestHandler → SubscriberLabel WsLabel → Prop}
    {labels : List (SubscriberLabel WsLabel)}
    {trace : List (SubscriberEvent WsEvent)}
    {system : SubscriberSystem WsRequestHandler}
    (nonempty : replyChannel ≠ [])
    (run : ConnectionRun unpack request replyChannel good labels trace system) :
    ∀ event ∈ ownEvents trace, event.Faithful request replyChannel := by
  obtain ⟨session, -, -, law⟩ := run.session_law
    (fun events session _ => FaithfulLaw request replyChannel events session)
    nonempty ⟨.inl rfl, by simp⟩ (by
      intro trace session view label next viewNext events law _ moved
      cases moved with
      | own label next shown steps seen =>
          rw [ownEvents_own]
          exact law.step steps
      | dispatched data label registered seen =>
          exact law.silent rfl (by simp [ownEvents])
      | other label events notOwn silent seen =>
          rw [silent]
          exact law.silent rfl (by simp))
  exact law.messages

/-- The strings of a faithful message are text in UTF-8 exactly when no unit of
the path is half of a surrogate pair. -/
theorem WsEvent.Faithful.isText_iff
    {random : Bytes}
    {event : WsEvent}
    (faithful : event.Faithful request (sendChannel random))
    (generated : RedisChannelLayer.IsRandomAscii 10 random)
    (isMessage : event.strings ≠ []) :
    (∀ text ∈ event.strings, Utf8.IsText text) ↔
      ∀ unit ∈ request.absPath, ¬ IsSurrogate unit := by
  have channel := isText_sendChannel generated
  rw [← isText_toBytes_iff]
  cases event with
  | send name msg =>
      have scheme : Utf8.IsText msg.scheme := by
        rw [show msg = _ from faithful, WsRequestHandler.asgiConnectMsg]
        simp only
        split
        · exact isText_of_ascii (by decide +kernel)
        · exact isText_of_ascii (by decide +kernel)
      rw [WsEvent.strings, stringFields_connect]
      rw [show msg = _ from faithful] at scheme ⊢
      simp only [List.forall_mem_cons]
      exact ⟨fun texts => texts.2.2.1, fun path => ⟨channel, scheme, path, by simp⟩⟩
  | reader event =>
      cases event with
      | send name msg =>
          obtain ⟨isChannel, isPath⟩ := faithful
          rw [WsEvent.strings, isChannel, isPath]
          simp only [List.forall_mem_cons]
          exact ⟨fun texts => texts.2.1, fun path => ⟨channel, path, by simp⟩⟩
      | readFragment length => exact absurd rfl isMessage
      | fragment fragment => exact absurd rfl isMessage
      | readFailed => exact absurd rfl isMessage
      | counted numBytes => exact absurd rfl isMessage
  | setStatus status => exact absurd rfl isMessage
  | flush => exact absurd rfl isMessage
  | flushed failed => exact absurd rfl isMessage
  | startReader => exact absurd rfl isMessage
  | startWriter => exact absurd rfl isMessage
  | writer event => exact absurd rfl isMessage
  | returned status => exact absurd rfl isMessage
  | fault fault => exact absurd rfl isMessage

/-- The messages of a connection name its channel and its path, and their strings
are text in UTF-8 exactly when no unit of the path is half of a surrogate pair. -/
theorem connection_strings_iff
    {random : Bytes}
    {good : WsRequestHandler → SubscriberLabel WsLabel → Prop}
    {labels : List (SubscriberLabel WsLabel)}
    {trace : List (SubscriberEvent WsEvent)}
    {system : SubscriberSystem WsRequestHandler}
    {event : WsEvent}
    (run : ConnectionRun unpack request (sendChannel random) good labels trace
      system)
    (generated : RedisChannelLayer.IsRandomAscii 10 random)
    (shown : event ∈ ownEvents trace)
    (isMessage : event.strings ≠ []) :
    event.Names (sendChannel random) request.absPath ∧
      ((∀ text ∈ event.strings, Utf8.IsText text) ↔
        ∀ unit ∈ request.absPath, ¬ IsSurrogate unit) := by
  have faithful := run.faithful (sendChannel_ne_nil random) event shown
  exact ⟨faithful.names, faithful.isText_iff generated isMessage⟩

/-- A request whose path holds a character beyond the first plane. -/
def emojiRequest : HttpRequest where
  absPath := [0x2F, 0xD83D, 0xDE00]

/-- Its connect message is no MessagePack text. -/
theorem connection_strings_iff_sample :
    ∃ trace system,
      ConnectionRun (fun _ => none) emojiRequest
        (sendChannel (ascii "AAAAAAAAAA")) (fun _ _ => True)
        [.own .onExecuteRequestHandler, .own (.flushReturns (.completed 0)),
          .own .stateMachine, .own (.taskSend 0)] trace system ∧
      ∃ event ∈ ownEvents trace, ∃ text ∈ event.strings, ¬ Utf8.IsText text := by
  have checked : EventMachine.checks
      ((WsRequestHandler.subscriber (fun _ => none) emojiRequest
        (sendChannel (ascii "AAAAAAAAAA"))).systemStep
          (sendChannel (ascii "AAAAAAAAAA")))
      (fun _ _ => True) connectionStart
      [.own .onExecuteRequestHandler, .own (.flushReturns (.completed 0)),
        .own .stateMachine, .own (.taskSend 0)]
      (fun _ trace => ∃ event ∈ ownEvents trace, event.strings ≠ []) = true := by
    decide +kernel
  obtain ⟨trace, system, run, event, shown, isMessage⟩ :=
    EventMachine.Run.of_checks checked
  have connection : ConnectionRun (fun _ => none) emojiRequest
      (sendChannel (ascii "AAAAAAAAAA")) (fun _ _ => True) _ trace system := run
  have generated : RedisChannelLayer.IsRandomAscii 10 (ascii "AAAAAAAAAA") := by
    decide +kernel
  refine ⟨trace, system, run, event, shown, ?_⟩
  by_contra texts
  have plain := (connection_strings_iff connection generated shown
    isMessage).2.mp (by simpa using texts)
  exact plain 0xD83D (by decide +kernel) (by decide)

end Connection

end IisAsgiHandler
