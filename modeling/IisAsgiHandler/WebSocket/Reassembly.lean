import Mathlib.Data.List.Forall2
import Mathlib.Data.List.Induction
import IisAsgiHandler.WebSocket.Reader

/-!
# Reassembly of WebSocket messages

The fragments that a reader is given are gathered into messages, each up to a
final fragment.  The reader stores every fragment at the start of its buffer,
so a message is sent as its fragments say while at most one of them carries
data; a second one overwrites the first.

Which messages are sent right whatever their bytes are depends on the lengths
of the fragments alone.
-/

namespace IisAsgiHandler

/-- Fragments, gathered into messages. -/
structure Assembly where
  completed : List (List Fragment) := []
  current : List Fragment := []

namespace Assembly

/-- A final fragment completes the current message. -/
def add (assembly : Assembly) (fragment : Fragment) : Assembly :=
  if fragment.final then
    { completed := assembly.completed ++ [assembly.current ++ [fragment]] }
  else { assembly with current := assembly.current ++ [fragment] }

/-- The messages of a sequence of fragments. -/
def gather (fragments : List Fragment) : Assembly := fragments.foldl add {}

theorem gather_snoc (fragments : List Fragment) (fragment : Fragment) :
    gather (fragments ++ [fragment]) = (gather fragments).add fragment := by
  rw [gather, List.foldl_append]
  rfl

end Assembly

/-- The fragments that labels deliver. -/
def fragmentsOf (labels : List ReaderLabel) : List Fragment :=
  labels.filterMap ReaderLabel.fragment

/-- What the fragments of a message say together. -/
def messagePayload (message : List Fragment) : Bytes :=
  message.flatMap Fragment.payload

/-- The message expected for the fragments with a number. -/
def expectedMessage
    (replyChannel requestPath : Bytes)
    (numbered : List Fragment × Nat) : PackedReceiveMsg where
  replyChannel := replyChannel
  path := requestPath
  order := numbered.2
  bytes := (messagePayload numbered.1).map some

/-- The messages expected of the reader, numbered from one. -/
def expectedMessages
    (replyChannel requestPath : Bytes)
    (fragments : List Fragment) : List PackedReceiveMsg :=
  ((Assembly.gather fragments).completed.zipIdx 1).map
    (expectedMessage replyChannel requestPath)

/-! ## First bytes -/

/-- The first byte of each fragment that carries data. -/
def heads (message : List Fragment) : Bytes :=
  message.filterMap fun fragment => fragment.payload.head?

@[simp] theorem messagePayload_snoc (message : List Fragment) (fragment : Fragment) :
    messagePayload (message ++ [fragment]) =
      messagePayload message ++ fragment.payload := by
  simp [messagePayload]

@[simp] theorem heads_snoc (message : List Fragment) (fragment : Fragment) :
    heads (message ++ [fragment]) =
      heads message ++ fragment.payload.head?.toList := by
  rw [heads, List.filterMap_append]
  cases carries : fragment.payload with
  | nil => simp [heads, carries]
  | cons byte bytes => simp [heads, carries]

/-- There are as many first bytes as fragments that carry data. -/
theorem length_heads (message : List Fragment) :
    (heads message).length =
      (message.filter fun fragment => fragment.payload ≠ []).length := by
  induction message with
  | nil => rfl
  | cons fragment message inductionHypothesis =>
      rw [heads] at inductionHypothesis ⊢
      cases carries : fragment.payload with
      | nil => simpa [carries] using inductionHypothesis
      | cons byte bytes => simpa [carries] using inductionHypothesis

/-- A message starts with the first byte of the first fragment with data. -/
theorem head?_messagePayload (message : List Fragment) :
    (messagePayload message).head? = (heads message).head? := by
  induction message with
  | nil => rfl
  | cons fragment message inductionHypothesis =>
      rw [messagePayload, heads] at inductionHypothesis ⊢
      cases carries : fragment.payload with
      | nil => simpa [carries] using inductionHypothesis
      | cons byte bytes => simp [carries]

theorem messagePayload_eq_nil
    {message : List Fragment}
    (none : heads message = []) :
    messagePayload message = [] := by
  rw [← List.head?_eq_none_iff, head?_messagePayload, none]
  rfl

/-! ## The buffer -/

/-- What the buffer holds of the current message. -/
structure Buffered (current : List Fragment) (msg : AsgiWsReceiveMsg) : Prop where
  size : msg.dataSize = (messagePayload current).length
  /-- While at most one fragment carries data, the buffer holds the message. -/
  single : (heads current).length ≤ 1 →
    msg.dataSize < dwordSize ∧
      msg.data.take msg.dataSize = messagePayload current
  /-- The last fragment with data is at the start of the buffer. -/
  last : ∀ byte, (heads current).getLast? = some byte →
    msg.data.head? = some byte

namespace Buffered

variable {current : List Fragment}
variable {msg : AsgiWsReceiveMsg}

/-- A message without fragments needs no data. -/
theorem empty (noData : msg.dataSize = 0) : Buffered [] msg := by
  refine ⟨noData, ?_, by simp [heads]⟩
  intro _
  rw [noData]
  exact ⟨Nat.two_pow_pos 32, rfl⟩

/-- A fragment with data replaces the start of the buffer. -/
theorem deliver
    {fragment : Fragment}
    (buffered : Buffered current msg)
    (fits : fragment.payload.length ≤ WsReader.offeredLength msg) :
    Buffered (current ++ [fragment])
      { WsReader.deliver msg fragment with
        dataSize := msg.dataSize + fragment.payload.length
        utf8 := fragment.utf8 } := by
  have size : msg.dataSize + fragment.payload.length =
      (messagePayload (current ++ [fragment])).length := by
    rw [messagePayload_snoc, List.length_append, buffered.size]
  cases carries : fragment.payload with
  | nil =>
      refine ⟨by simpa [carries] using size, ?_, ?_⟩
      · intro atMostOne
        simpa [WsReader.deliver, carries] using
          buffered.single (by simpa [carries] using atMostOne)
      · intro byte isLast
        simpa [WsReader.deliver, carries] using
          buffered.last byte (by simpa [carries] using isLast)
  | cons head rest =>
      refine ⟨by simpa [carries] using size, ?_, ?_⟩
      · intro atMostOne
        have noData : heads current = [] := by
          simpa [carries] using atMostOne
        have sized := buffered.size
        rw [messagePayload_eq_nil noData, List.length_nil] at sized
        have small : WsReader.offeredLength msg < dwordSize :=
          Nat.mod_lt _ (by decide)
        have stored := Buffer.take_store fragment.payload
          (Nat.zero_le msg.data.length)
        rw [carries] at fits stored
        refine ⟨?_, ?_⟩
        · show msg.dataSize + (head :: rest).length < dwordSize
          omega
        · simpa [WsReader.deliver, carries, sized, messagePayload_eq_nil noData]
            using stored
      · intro byte isLast
        have isHead : head = byte := by simpa [carries] using isLast
        simp [WsReader.deliver, carries, Buffer.store_zero, isHead]

/-- A larger buffer holds the same. -/
theorem grow
    (buffered : Buffered current msg)
    (more : Nat) :
    Buffered current
      { msg with
        data := Buffer.resize 0 msg.data (msg.data.length + more) } := by
  have larger : Buffer.resize 0 msg.data (msg.data.length + more) =
      msg.data ++ List.replicate more 0 := by
    rw [Buffer.resize, List.take_of_length_le (Nat.le_add_right _ _),
      Nat.add_sub_cancel_left]
  refine ⟨buffered.size, ?_, ?_⟩
  · intro atMostOne
    obtain ⟨small, holds⟩ := buffered.single atMostOne
    refine ⟨small, ?_⟩
    have inside : msg.dataSize ≤ msg.data.length := by
      have lengths := congrArg List.length holds
      rw [List.length_take, ← buffered.size] at lengths
      omega
    rw [larger, List.take_append_of_le_length inside]
    exact holds
  · intro byte isLast
    rw [larger, List.head?_append, buffered.last byte isLast]
    rfl

end Buffered

/-! ## Sent messages -/

/-- How the fragments with a number have been sent. -/
structure SentAs
    (replyChannel requestPath : Bytes)
    (numbered : List Fragment × Nat)
    (sent : PackedReceiveMsg) : Prop where
  replyChannel : sent.replyChannel = replyChannel
  path : sent.path = requestPath
  order : sent.order = (numbered.2 : Int).bmod (2 ^ 32)
  bytes : (heads numbered.1).length ≤ 1 →
    sent.bytes = (messagePayload numbered.1).map some
  /-- The last fragment with data has replaced the start of the message. -/
  overwritten : ∀ byte, (heads numbered.1).getLast? = some byte →
    sent.bytes = [] ∨ sent.bytes.head? = some (some byte)

/-- How the reader's message stands to the fragments gathered. -/
structure Reassembles
    (replyChannel requestPath : Bytes)
    (assembly : Assembly)
    (msg : AsgiWsReceiveMsg) : Prop where
  replyChannel : msg.replyChannel = replyChannel
  path : msg.path = requestPath
  order : msg.order =
    ((1 + assembly.completed.length : Nat) : Int).bmod (2 ^ 32)
  buffered : Buffered assembly.current msg

namespace Reassembles

variable {replyChannel requestPath : Bytes}
variable {assembly : Assembly}
variable {msg : AsgiWsReceiveMsg}

/-- What is packed of the current message. -/
theorem packed
    (reassembles : Reassembles replyChannel requestPath assembly msg) :
    SentAs replyChannel requestPath
      (assembly.current, 1 + assembly.completed.length) (WsReader.pack msg) := by
  refine ⟨reassembles.replyChannel, reassembles.path, reassembles.order, ?_, ?_⟩
  · intro atMostOne
    obtain ⟨small, holds⟩ := reassembles.buffered.single atMostOne
    have inside : msg.dataSize ≤ msg.data.length := by
      have lengths := congrArg List.length holds
      rw [List.length_take, ← reassembles.buffered.size] at lengths
      omega
    show Buffer.read msg.data (msg.dataSize % dwordSize) = _
    rw [Nat.mod_eq_of_lt small, Buffer.read_of_le inside, holds]
  · intro byte isLast
    show Buffer.read msg.data (msg.dataSize % dwordSize) = [] ∨
      (Buffer.read msg.data (msg.dataSize % dwordSize)).head? = _
    rcases Nat.eq_zero_or_pos (msg.dataSize % dwordSize) with zero | positive
    · left
      rw [zero]
      rfl
    · right
      rw [Buffer.head?_read _ positive, reassembles.buffered.last byte isLast]

/-- `ReadAsyncComplete` adds a fragment, and sends the message it completes. -/
theorem complete
    {fragment : Fragment}
    (reassembles : Reassembles replyChannel requestPath assembly msg)
    (fits : fragment.payload.length ≤ WsReader.offeredLength msg)
    {completed : AsgiWsReceiveMsg × List ReaderEvent}
    (completes : completed = WsReader.readAsyncComplete
      (WsReader.deliver msg fragment) sOk fragment.payload.length
      fragment.utf8 fragment.final fragment.close) :
    Reassembles replyChannel requestPath (assembly.add fragment) completed.1 ∧
      ∀ earlier, List.Forall₂ (SentAs replyChannel requestPath)
        (assembly.completed.zipIdx 1) earlier →
        List.Forall₂ (SentAs replyChannel requestPath)
          ((assembly.add fragment).completed.zipIdx 1)
          (earlier ++ receivedMessages completed.2) := by
  -- The message once the fragment is counted, before it is sent or grown.
  let counted : AsgiWsReceiveMsg :=
    { WsReader.deliver msg fragment with
      dataSize := msg.dataSize + fragment.payload.length
      utf8 := fragment.utf8 }
  have taken : Reassembles replyChannel requestPath
      { assembly with current := assembly.current ++ [fragment] } counted :=
    ⟨reassembles.replyChannel, reassembles.path, reassembles.order,
      reassembles.buffered.deliver fits⟩
  subst completes
  cases final : fragment.final with
  | true =>
      have added : assembly.add fragment =
          { completed := assembly.completed ++
              [assembly.current ++ [fragment]] } := by
        rw [Assembly.add, if_pos final]
      have reset : WsReader.readAsyncComplete (WsReader.deliver msg fragment)
          sOk fragment.payload.length fragment.utf8 true fragment.close =
          ((WsReader.sendToApplication counted).1,
            [.counted fragment.payload.length,
              .send (ascii "websocket.receive") (WsReader.pack counted)]) := rfl
      rw [added, reset]
      refine ⟨⟨taken.replyChannel, taken.path, ?_, Buffered.empty rfl⟩, ?_⟩
      · show nextInt counted.order = _
        rw [taken.order, nextInt_bmod]
        simp [Nat.add_assoc]
      · intro earlier sentAs
        rw [List.zipIdx_append]
        exact List.rel_append sentAs (.cons taken.packed .nil)
  | false =>
      have added : assembly.add fragment =
          { assembly with current := assembly.current ++ [fragment] } := by
        rw [Assembly.add, if_neg (by simp [final])]
      rw [added, WsReader.readAsyncComplete]
      simp only [Bool.false_eq_true, if_false]
      split
      · refine ⟨⟨taken.replyChannel, taken.path, taken.order,
          taken.buffered.grow _⟩, ?_⟩
        intro earlier sentAs
        show List.Forall₂ _ _ (earlier ++ [])
        rw [List.append_nil]
        exact sentAs
      · refine ⟨taken, ?_⟩
        intro earlier sentAs
        show List.Forall₂ _ _ (earlier ++ [])
        rw [List.append_nil]
        exact sentAs

/-- A step without failures adds its fragment and sends what that completes. -/
theorem step
    {labels : List ReaderLabel}
    {label : ReaderLabel}
    {trace events : List ReaderEvent}
    {next : AsgiWsReceiveMsg}
    (reassembles : Reassembles replyChannel requestPath
      (Assembly.gather (fragmentsOf labels)) msg)
    (sentAs : List.Forall₂ (SentAs replyChannel requestPath)
      ((Assembly.gather (fragmentsOf labels)).completed.zipIdx 1)
      (receivedMessages trace))
    (succeeds : label.fails = false)
    (moved : WsReader.Moved msg label next events) :
    Reassembles replyChannel requestPath
        (Assembly.gather (fragmentsOf (labels ++ [label]))) next ∧
      List.Forall₂ (SentAs replyChannel requestPath)
        ((Assembly.gather (fragmentsOf (labels ++ [label]))).completed.zipIdx 1)
        (receivedMessages (trace ++ events)) := by
  rw [fragmentsOf, List.filterMap_append]
  cases moved with
  | quiet missing =>
      rw [List.append_nil]
      simpa [missing] using ⟨reassembles, sentAs⟩
  | delivered fragment delivers _ fits completes =>
      obtain ⟨added, sends⟩ := reassembles.complete fits completes
      have gathered : Assembly.gather
          (labels.filterMap ReaderLabel.fragment ++
            [label].filterMap ReaderLabel.fragment) =
          (Assembly.gather (fragmentsOf labels)).add fragment := by
        rw [← Assembly.gather_snoc]
        simp [fragmentsOf, delivers]
      rw [gathered]
      refine ⟨added, ?_⟩
      simpa [receivedMessages, ReaderEvent.received, List.filterMap_cons]
        using sends _ sentAs
  | failed hr numBytes utf8 final close missing fails =>
      rw [succeeds] at fails
      contradiction

end Reassembles

/-- Labels of a reader none of whose reads fails. -/
def ReaderLabel.successful (_ : WsReader) (label : ReaderLabel) : Prop :=
  label.fails = false

instance (reader : WsReader) (label : ReaderLabel) :
    Decidable (ReaderLabel.successful reader label) :=
  inferInstanceAs (Decidable (label.fails = false))

/-- The runs of a started reader without failures. -/
abbrev ReaderRun
    (replyChannel requestPath : Bytes)
    (labels : List ReaderLabel)
    (trace : List ReaderEvent)
    (state : WsReader) : Prop :=
  EventMachine.Run WsReader.step ReaderLabel.successful
    (WsReader.started replyChannel requestPath) labels trace state

variable {replyChannel requestPath : Bytes}
variable {labels others : List ReaderLabel}
variable {trace : List ReaderEvent}
variable {state : WsReader}

/-- A run sends the messages of its fragments, each as the reader sends it. -/
theorem ReaderRun.sentAs
    (run : ReaderRun replyChannel requestPath labels trace state) :
    List.Forall₂ (SentAs replyChannel requestPath)
      ((Assembly.gather (fragmentsOf labels)).completed.zipIdx 1)
      (receivedMessages trace) := by
  obtain ⟨assembly, _, rfl, sent⟩ := run.simulates
    (fun reader assembly => reader.SingleRead ∧
      Reassembles replyChannel requestPath assembly reader.msg)
    (fun labels trace assembly =>
      assembly = Assembly.gather (fragmentsOf labels) ∧
        List.Forall₂ (SentAs replyChannel requestPath)
          (assembly.completed.zipIdx 1) (receivedMessages trace))
    {}
    ⟨WsReader.singleRead_start rfl _ _, rfl, rfl, rfl, Buffered.empty rfl⟩
    ⟨rfl, .nil⟩
    (by
      rintro labels trace reader label next events _
        ⟨single, reassembles⟩ ⟨rfl, sent⟩ succeeds steps
      obtain ⟨alone, moved⟩ := WsReader.step_moved single steps
      obtain ⟨added, sends⟩ := reassembles.step sent succeeds moved
      exact ⟨_, ⟨alone, added⟩, rfl, sends⟩)
  exact sent

/-- A message is right whatever its bytes are when at most one fragment carries
data. -/
theorem SentAs.expected
    {numbered : List Fragment × Nat}
    {sent : PackedReceiveMsg}
    (sentAs : SentAs replyChannel requestPath numbered sent)
    (atMostOne : (heads numbered.1).length ≤ 1)
    (small : numbered.2 < 2 ^ 31) :
    sent = expectedMessage replyChannel requestPath numbered := by
  obtain ⟨channel, path, wrapped, bytes, _⟩ := sentAs
  have order : sent.order = numbered.2 := by
    rw [wrapped, Int.bmod_eq_of_le (by omega) (by omega)]
  rw [expectedMessage, ← bytes atMostOne, ← order, ← channel, ← path]

/-! ## Shapes -/

/-- Fragments that differ in the values of their bytes only. -/
structure Fragment.SameShape (fragment other : Fragment) : Prop where
  length : fragment.payload.length = other.payload.length
  utf8 : fragment.utf8 = other.utf8
  final : fragment.final = other.final
  close : fragment.close = other.close

/-- Labels whose fragments differ in the values of their bytes only. -/
inductive ReaderLabel.SameShape : ReaderLabel → ReaderLabel → Prop
  | readReturns (index : Nat) {fragment other : Fragment}
      (same : fragment.SameShape other) :
      SameShape (.readReturns index fragment) (.readReturns index other)
  | readFails (index : Nat) : SameShape (.readFails index) (.readFails index)
  | readPends (index : Nat) : SameShape (.readPends index) (.readPends index)
  | leave (index : Nat) : SameShape (.leave index) (.leave index)
  | readCallback (index : Nat) (hr : HResult) {fragment other : Fragment}
      (same : fragment.SameShape other) :
      SameShape (.readCallback index hr fragment) (.readCallback index hr other)

theorem Fragment.SameShape.refl (fragment : Fragment) :
    fragment.SameShape fragment := ⟨rfl, rfl, rfl, rfl⟩

theorem ReaderLabel.SameShape.refl (label : ReaderLabel) :
    label.SameShape label := by
  cases label with
  | readReturns index fragment => exact .readReturns index (.refl fragment)
  | readFails index => exact .readFails index
  | readPends index => exact .readPends index
  | leave index => exact .leave index
  | readCallback index hr fragment =>
      exact .readCallback index hr (.refl fragment)

/-- The fragment of a label can be replaced by any of its shape. -/
theorem ReaderLabel.exists_sameShape
    {label : ReaderLabel}
    {fragment other : Fragment}
    (delivers : label.fragment = some fragment)
    (same : fragment.SameShape other) :
    ∃ otherLabel, label.SameShape otherLabel ∧
      otherLabel.fragment = some other := by
  cases label with
  | readReturns index delivered =>
      cases delivers
      exact ⟨_, .readReturns index same, rfl⟩
  | readCallback index hr delivered =>
      rw [ReaderLabel.fragment] at delivers
      cases fails : failed hr with
      | true => simp [fails] at delivers
      | false =>
          simp only [fails] at delivers
          cases delivers
          exact ⟨_, .readCallback index hr same,
            by simp [ReaderLabel.fragment, fails]⟩
  | readFails | readPends | leave => contradiction

/-- Messages whose buffers and sizes have the same size. -/
structure AsgiWsReceiveMsg.SameSize (msg other : AsgiWsReceiveMsg) : Prop where
  data : msg.data.length = other.data.length
  dataSize : msg.dataSize = other.dataSize

namespace AsgiWsReceiveMsg.SameSize

variable {msg other : AsgiWsReceiveMsg}

theorem deliver
    {fragment otherFragment : Fragment}
    (same : msg.SameSize other)
    (shape : fragment.SameShape otherFragment) :
    (WsReader.deliver msg fragment).SameSize
      (WsReader.deliver other otherFragment) := by
  refine ⟨?_, same.dataSize⟩
  simp [WsReader.deliver, Buffer.store_zero, shape.length, same.data]

theorem offeredLength (same : msg.SameSize other) :
    WsReader.offeredLength msg = WsReader.offeredLength other := by
  rw [WsReader.offeredLength, same.data, WsReader.offeredLength]

theorem readAsyncComplete
    (same : msg.SameSize other)
    (hr : HResult)
    (numBytes : Nat)
    (utf8 final close : Bool) :
    (WsReader.readAsyncComplete msg hr numBytes utf8 final close).1.SameSize
      (WsReader.readAsyncComplete other hr numBytes utf8 final close).1 := by
  have counted : msg.dataSize + numBytes = other.dataSize + numBytes := by
    rw [same.dataSize]
  cases final with
  | true =>
      refine ⟨?_, rfl⟩
      simp [WsReader.readAsyncComplete, WsReader.sendToApplication]
  | false =>
      simp only [WsReader.readAsyncComplete, Bool.false_eq_true, if_false,
        same.data, same.dataSize]
      split
      · exact ⟨by simp, rfl⟩
      · exact ⟨same.data, rfl⟩

/-- Fragments of one shape complete to messages of one size. -/
theorem completed
    {fragment otherFragment : Fragment}
    (same : msg.SameSize other)
    (shape : fragment.SameShape otherFragment)
    (hr : HResult) :
    (WsReader.readAsyncComplete msg hr fragment.payload.length fragment.utf8
        fragment.final fragment.close).1.SameSize
      (WsReader.readAsyncComplete other hr otherFragment.payload.length
        otherFragment.utf8 otherFragment.final otherFragment.close).1 := by
  rw [← shape.length, ← shape.utf8, ← shape.final, ← shape.close]
  exact same.readAsyncComplete _ _ _ _ _

end AsgiWsReceiveMsg.SameSize

/-- Readers in the same place, with messages of the same size. -/
structure WsReader.SameShape (reader other : WsReader) : Prop where
  calls : reader.calls = other.calls
  msg : reader.msg.SameSize other.msg

theorem WsReader.SameShape.loop
    {reader other : WsReader}
    {completed otherCompleted : AsgiWsReceiveMsg × List ReaderEvent}
    (same : reader.SameShape other)
    (sizes : completed.1.SameSize otherCompleted.1)
    (index : Nat)
    (caller : ReadCaller) :
    (reader.loop index caller completed).1.SameShape
      (other.loop index caller otherCompleted).1 := by
  refine ⟨?_, sizes⟩
  rw [WsReader.loop, WsReader.loop, same.calls, sizes.offeredLength]

/-- What a reader does next depends on the shape of its label only. -/
theorem WsReader.SameShape.step
    {reader other next : WsReader}
    {label otherLabel : ReaderLabel}
    {events : List ReaderEvent}
    (same : reader.SameShape other)
    (shape : label.SameShape otherLabel)
    (steps : reader.step label = some (next, events)) :
    ∃ otherNext otherEvents,
      other.step otherLabel = some (otherNext, otherEvents) ∧
        next.SameShape otherNext := by
  have calls := same.calls
  cases shape with
  | readReturns index shape =>
      simp only [WsReader.step, ← calls] at steps ⊢
      split at steps
      · rename_i caller length found
        split at steps
        · rename_i fits
          simp only [Option.some.injEq, Prod.mk.injEq] at steps
          obtain ⟨rfl, _⟩ := steps
          have completed := (same.msg.deliver shape).completed shape sOk
          rw [shape.length] at fits
          simp only [if_pos fits]
          exact ⟨_, _, rfl, same.loop completed index caller⟩
        · contradiction
      · contradiction
  | readFails index =>
      simp only [WsReader.step, ← calls] at steps ⊢
      split at steps
      · rename_i caller length found
        simp only [Option.some.injEq, Prod.mk.injEq] at steps
        obtain ⟨rfl, _⟩ := steps
        have completed := same.msg.readAsyncComplete sOk length false false false
        exact ⟨_, _, rfl, same.loop completed index caller⟩
      · contradiction
  | readPends index =>
      simp only [WsReader.step, ← calls] at steps ⊢
      split at steps
      · rename_i caller length found
        simp only [Option.some.injEq, Prod.mk.injEq] at steps
        obtain ⟨rfl, _⟩ := steps
        exact ⟨_, _, rfl, rfl, same.msg⟩
      · contradiction
  | leave index =>
      simp only [WsReader.step, ← calls] at steps ⊢
      split at steps
      · rename_i caller found
        simp only [Option.some.injEq, Prod.mk.injEq] at steps
        obtain ⟨rfl, _⟩ := steps
        exact ⟨_, _, rfl, rfl, same.msg⟩
      · contradiction
  | readCallback index hr shape =>
      rename_i fragment otherFragment
      simp only [WsReader.step, ← calls] at steps ⊢
      split at steps
      · contradiction
      · rename_i length found
        split at steps
        · rename_i fits
          simp only [Option.some.injEq, Prod.mk.injEq] at steps
          obtain ⟨rfl, _⟩ := steps
          have stored : AsgiWsReceiveMsg.SameSize
              (if failed hr = true then reader.msg
                else deliver reader.msg fragment)
              (if failed hr = true then other.msg
                else deliver other.msg otherFragment) := by
            split
            · exact same.msg
            · exact same.msg.deliver shape
          have completed := stored.completed shape hr
          rw [shape.length] at fits
          simp only [if_pos fits]
          refine ⟨_, _, rfl, ?_, completed⟩
          simp only [readAsync, completed.offeredLength]
        · contradiction

/-- The last of related lists. -/
theorem forall₂_snoc_left
    {α β : Type*}
    {relation : α → β → Prop}
    {left : List α}
    {last : α}
    {right : List β}
    (related : List.Forall₂ relation (left ++ [last]) right) :
    ∃ initial final, right = initial ++ [final] ∧
      List.Forall₂ relation left initial ∧ relation last final := by
  rw [← List.forall₂_reverse_iff, List.reverse_append, List.reverse_singleton,
    List.singleton_append] at related
  obtain ⟨final, reversed, lasts, initials, equal⟩ :=
    List.forall₂_cons_left_iff.mp related
  refine ⟨reversed.reverse, final, ?_, ?_, lasts⟩
  · rw [← List.reverse_cons, ← equal, List.reverse_reverse]
  · rw [← List.forall₂_reverse_iff, List.reverse_reverse]
    exact initials

/-- Labels of the same shape have a run as well. -/
theorem ReaderRun.sameShape
    (run : ReaderRun replyChannel requestPath labels trace state)
    (shapes : List.Forall₂ ReaderLabel.SameShape labels others) :
    ∃ otherTrace other,
      ReaderRun replyChannel requestPath others otherTrace other ∧
        state.SameShape other := by
  induction run generalizing others with
  | refl =>
      rw [List.forall₂_nil_left_iff.mp shapes]
      exact ⟨_, _, .refl, rfl, rfl, rfl⟩
  | step _ succeeds steps inductionHypothesis =>
      obtain ⟨earlier, label, rfl, earlierShapes, shape⟩ :=
        forall₂_snoc_left shapes
      obtain ⟨otherTrace, other, run, same⟩ := inductionHypothesis earlierShapes
      obtain ⟨next, events, otherSteps, sameNext⟩ := same.step shape steps
      refine ⟨_, _, run.step ?_ otherSteps, sameNext⟩
      cases shape <;> exact succeeds

/-- Labels of the same shape deliver fragments of the same shape. -/
theorem fragmentsOf_sameShape
    (shapes : List.Forall₂ ReaderLabel.SameShape labels others) :
    List.Forall₂ Fragment.SameShape (fragmentsOf labels) (fragmentsOf others) := by
  refine List.rel_filterMap ?_ shapes
  intro label other shape
  cases shape with
  | readReturns index same => exact .some same
  | readFails | readPends | leave => exact .none
  | readCallback index hr same =>
      simp only [ReaderLabel.fragment]
      split
      · exact .none
      · exact .some same

/-- Fragments of the same shape are gathered into messages of the same shape. -/
theorem gather_sameShape
    {fragments others : List Fragment}
    (shapes : List.Forall₂ Fragment.SameShape fragments others) :
    List.Forall₂ (List.Forall₂ Fragment.SameShape)
        (Assembly.gather fragments).completed (Assembly.gather others).completed ∧
      List.Forall₂ Fragment.SameShape
        (Assembly.gather fragments).current (Assembly.gather others).current := by
  induction fragments using List.reverseRecOn generalizing others with
  | nil =>
      rw [List.forall₂_nil_left_iff.mp shapes]
      exact ⟨.nil, .nil⟩
  | append_singleton fragments fragment inductionHypothesis =>
      obtain ⟨earlier, last, rfl, earlierShapes, shape⟩ :=
        forall₂_snoc_left shapes
      obtain ⟨completed, current⟩ := inductionHypothesis earlierShapes
      have longer := List.rel_append current (List.Forall₂.cons shape .nil)
      rw [Assembly.gather_snoc, Assembly.gather_snoc, Assembly.add, Assembly.add,
        shape.final]
      split
      · exact ⟨List.rel_append completed (.cons longer .nil), .nil⟩
      · exact ⟨completed, longer⟩

/-- How many fragments carry data depends on the shape only. -/
theorem length_heads_sameShape
    {message other : List Fragment}
    (shapes : List.Forall₂ Fragment.SameShape message other) :
    (heads message).length = (heads other).length := by
  have related : List.Forall₂ (fun _ _ => True) (heads message) (heads other) := by
    refine List.rel_filterMap ?_ shapes
    intro fragment otherFragment shape
    have length := shape.length
    show Option.Rel _ fragment.payload.head? otherFragment.payload.head?
    cases carries : fragment.payload with
    | nil =>
        rw [carries, List.length_nil] at length
        rw [List.eq_nil_of_length_eq_zero length.symm]
        exact .none
    | cons byte bytes =>
        rw [carries] at length
        obtain ⟨otherByte, otherBytes, otherCarries⟩ :=
          List.exists_cons_of_length_eq_add_one length.symm
        rw [otherCarries]
        exact .some trivial
  exact related.length_eq

/-! ## Painting -/

/-- The first fragment with data starts with a one, the others with a zero. -/
def Painted (message : List Fragment) : Prop :=
  ∀ first rest, heads message = first :: rest →
    first = 1 ∧ ∀ byte ∈ rest, byte = 0

/-- A painted message can be continued by a fragment of any shape. -/
theorem Painted.exists_snoc
    {message : List Fragment}
    (painted : Painted message)
    (fragment : Fragment) :
    ∃ other, fragment.SameShape other ∧ Painted (message ++ [other]) := by
  let colour : UInt8 := if heads message = [] then 1 else 0
  refine ⟨{ fragment with
    payload := List.replicate fragment.payload.length colour }, ?_, ?_⟩
  · exact ⟨by simp, rfl, rfl, rfl⟩
  · intro first rest equal
    rw [heads_snoc, List.head?_replicate] at equal
    split at equal
    · rw [Option.toList_none, List.append_nil] at equal
      exact painted first rest equal
    · rw [Option.toList_some] at equal
      cases heads : heads message with
      | nil =>
          simp only [heads, List.nil_append, List.cons.injEq, colour,
            if_true] at equal
          obtain ⟨rfl, rfl⟩ := equal
          simp
      | cons head tail =>
          simp only [heads, List.cons_append, List.cons.injEq, colour,
            reduceCtorEq, if_false] at equal
          obtain ⟨rfl, rfl⟩ := equal
          obtain ⟨one, zeros⟩ := painted head tail heads
          refine ⟨one, ?_⟩
          intro byte member
          rcases List.mem_append.mp member with earlier | last
          · exact zeros byte earlier
          · exact List.mem_singleton.mp last

/-- Labels of any shape can be painted. -/
theorem exists_painted (labels : List ReaderLabel) :
    ∃ others, List.Forall₂ ReaderLabel.SameShape labels others ∧
      (∀ message ∈ (Assembly.gather (fragmentsOf others)).completed,
        Painted message) ∧
      Painted (Assembly.gather (fragmentsOf others)).current := by
  induction labels using List.reverseRecOn with
  | nil =>
      refine ⟨[], .nil, ?_, ?_⟩
      · intro message member
        contradiction
      · intro first rest equal
        contradiction
  | append_singleton labels label inductionHypothesis =>
      obtain ⟨others, shapes, completed, current⟩ := inductionHypothesis
      cases delivers : label.fragment with
      | none =>
          refine ⟨others ++ [label],
            List.rel_append shapes (.cons (.refl label) .nil), ?_⟩
          have same : fragmentsOf (others ++ [label]) = fragmentsOf others := by
            simp [fragmentsOf, delivers]
          rw [same]
          exact ⟨completed, current⟩
      | some fragment =>
          obtain ⟨other, shape, longer⟩ := current.exists_snoc fragment
          obtain ⟨otherLabel, labelShape, otherDelivers⟩ :=
            ReaderLabel.exists_sameShape delivers shape
          refine ⟨others ++ [otherLabel],
            List.rel_append shapes (.cons labelShape .nil), ?_⟩
          have gathered : fragmentsOf (others ++ [otherLabel]) =
              fragmentsOf others ++ [other] := by
            simp [fragmentsOf, otherDelivers]
          rw [gathered, Assembly.gather_snoc, Assembly.add]
          split
          · refine ⟨?_, by intro first rest equal; contradiction⟩
            intro message member
            rcases List.mem_append.mp member with earlier | last
            · exact completed message earlier
            · rw [List.mem_singleton.mp last]
              exact longer
          · exact ⟨completed, longer⟩

/-- A painted message of several fragments with data is not sent as
expected. -/
theorem Painted.not_sentAs
    {message : List Fragment}
    {order : Nat}
    (painted : Painted message)
    (several : 1 < (heads message).length) :
    ¬ SentAs replyChannel requestPath (message, order)
      (expectedMessage replyChannel requestPath (message, order)) := by
  intro sentAs
  obtain ⟨first, rest, equal⟩ := List.exists_cons_of_length_pos
    (Nat.lt_trans Nat.zero_lt_one several)
  obtain ⟨rfl, zeros⟩ := painted first rest equal
  have notNil : rest ≠ [] := by
    rintro rfl
    rw [equal] at several
    exact Nat.lt_irrefl _ several
  have last : (heads message).getLast? = some 0 := by
    rw [equal, List.getLast?_cons, List.getLast?_eq_some_getLast notNil]
    exact congrArg some (zeros _ (List.getLast_mem notNil))
  have starts : (messagePayload message).head? = some 1 := by
    rw [head?_messagePayload, equal]
    rfl
  obtain ⟨bytes, carries⟩ := List.head?_eq_some_iff.mp starts
  rcases sentAs.overwritten 0 last with none | zero
  · rw [expectedMessage, carries] at none
    contradiction
  · rw [expectedMessage, carries] at zero
    simp at zero

/-! ## Which messages are reassembled -/

/-- An element of a list is related to one of the other. -/
theorem exists_of_forall₂
    {α β : Type*}
    {relation : α → β → Prop}
    {left : List α}
    {right : List β}
    {element : α}
    (related : List.Forall₂ relation left right)
    (member : element ∈ left) :
    ∃ other ∈ right, relation element other := by
  induction related with
  | nil => contradiction
  | cons holds _ inductionHypothesis =>
      rcases List.mem_cons.mp member with rfl | later
      · exact ⟨_, List.mem_cons_self, holds⟩
      · obtain ⟨other, inRight, holdsLater⟩ := inductionHypothesis later
        exact ⟨other, List.mem_cons_of_mem _ inRight, holdsLater⟩

/-- When a run sends what is expected, that is how the reader sends it. -/
theorem ReaderRun.sentAs_expected
    (run : ReaderRun replyChannel requestPath labels trace state)
    (correct : receivedMessages trace =
      expectedMessages replyChannel requestPath (fragmentsOf labels)) :
    ∀ numbered ∈ (Assembly.gather (fragmentsOf labels)).completed.zipIdx 1,
      SentAs replyChannel requestPath numbered
        (expectedMessage replyChannel requestPath numbered) := by
  have sentAs := run.sentAs
  rw [correct, expectedMessages, List.forall₂_map_right_iff] at sentAs
  exact List.forall₂_same.mp sentAs

/-- At most one fragment of a message carries data. -/
def SingleDataFragment (message : List Fragment) : Prop :=
  (message.filter fun fragment => fragment.payload ≠ []).length ≤ 1

instance (message : List Fragment) : Decidable (SingleDataFragment message) :=
  inferInstanceAs (Decidable (_ ≤ 1))

/-- A reader without failures sends every message as its fragments say,
whatever their bytes are, exactly when at most one fragment of each message
carries data and the orders stay in the range of an `int`. -/
theorem ReaderRun.reassembles_iff
    (run : ReaderRun replyChannel requestPath labels trace state) :
    (∀ others otherTrace other,
      List.Forall₂ ReaderLabel.SameShape labels others →
      ReaderRun replyChannel requestPath others otherTrace other →
      receivedMessages otherTrace =
        expectedMessages replyChannel requestPath (fragmentsOf others)) ↔
    (∀ message ∈ (Assembly.gather (fragmentsOf labels)).completed,
      SingleDataFragment message) ∧
      (Assembly.gather (fragmentsOf labels)).completed.length < 2 ^ 31 := by
  constructor
  · intro correct
    refine ⟨?_, ?_⟩
    · intro message member
      by_contra several
      -- Paint the fragments: the message would have to start with a one, and
      -- starts with the zero of its last fragment with data.
      obtain ⟨others, shapes, painted, _⟩ := exists_painted labels
      obtain ⟨otherTrace, other, otherRun, _⟩ := run.sameShape shapes
      obtain ⟨otherMessage, otherMember, shape⟩ := exists_of_forall₂
        (gather_sameShape (fragmentsOf_sameShape shapes)).1 member
      obtain ⟨index, found⟩ := List.mem_iff_getElem?.mp otherMember
      have sentAs := otherRun.sentAs_expected
        (correct others otherTrace other shapes otherRun) _
        (List.mk_add_mem_zipIdx_iff_getElem?.mpr found)
      refine (painted otherMessage otherMember).not_sentAs ?_ sentAs
      rw [← length_heads_sameShape shape, length_heads]
      exact Nat.lt_of_not_le several
    · by_contra many
      have sentAs := run.sentAs_expected (correct labels trace state
        (List.forall₂_same.mpr fun label _ => .refl label) run)
      have inside : 2 ^ 31 - 1 <
          (Assembly.gather (fragmentsOf labels)).completed.length := by
        omega
      have order := (sentAs _ (List.mk_add_mem_zipIdx_iff_getElem?.mpr
        (List.getElem?_eq_getElem inside))).order
      -- The order of message `2 ^ 31` has wrapped around.
      have wrapped : ((1 + (2 ^ 31 - 1) : Nat) : Int) ≠
          ((1 + (2 ^ 31 - 1) : Nat) : Int).bmod (2 ^ 32) := by
        decide
      exact wrapped order
  · rintro ⟨single, few⟩ others otherTrace other shapes otherRun
    have gathered := (gather_sameShape (fragmentsOf_sameShape shapes)).1
    have sent := otherRun.sentAs
    have expected : List.Forall₂
        (fun numbered sent =>
          expectedMessage replyChannel requestPath numbered = sent)
        ((Assembly.gather (fragmentsOf others)).completed.zipIdx 1)
        (receivedMessages otherTrace) := by
      refine ((List.forall₂_and_left _ _).mpr
        ⟨fun numbered member => member, sent⟩).imp ?_
      rintro numbered packed ⟨member, sentAs⟩
      refine (sentAs.expected ?_ ?_).symm
      · obtain ⟨message, inCompleted, shape⟩ := exists_of_forall₂
          gathered.flip (List.fst_mem_of_mem_zipIdx member)
        rw [← length_heads_sameShape shape, length_heads]
        exact single message inCompleted
      · have small := List.snd_lt_of_mem_zipIdx member
        rw [← gathered.length_eq] at small
        omega
    rw [← List.forall₂_map_left_iff, List.forall₂_eq_eq_eq] at expected
    exact expected.symm

/-- Two messages, one of them with an empty fragment, read at once and later. -/
def sampleReads : List ReaderLabel :=
  [.readReturns 0 { payload := ascii "hello", final := false },
    .readPends 0,
    .readCallback 0 sOk { payload := [] },
    .leave 0,
    .readReturns 0 { payload := ascii "world" }]

theorem ReaderRun.reassembles_iff_sample :
    ∃ trace state, ReaderRun (ascii "reply") (ascii "/ws") sampleReads trace state ∧
      ∀ others otherTrace other,
        List.Forall₂ ReaderLabel.SameShape sampleReads others →
        ReaderRun (ascii "reply") (ascii "/ws") others otherTrace other →
        receivedMessages otherTrace =
          expectedMessages (ascii "reply") (ascii "/ws") (fragmentsOf others) := by
  have checked : EventMachine.checks WsReader.step ReaderLabel.successful
      (WsReader.started (ascii "reply") (ascii "/ws")) sampleReads
      (fun _ trace => (receivedMessages trace).length = 2) = true := by
    decide +kernel
  obtain ⟨trace, state, run, _⟩ := EventMachine.Run.of_checks checked
  refine ⟨trace, state, run, (ReaderRun.reassembles_iff run).mpr ⟨?_, ?_⟩⟩
  · decide
  · decide

/-- Two fragments of one message: the second is stored over the first. -/
def splitReads : List ReaderLabel :=
  [.readReturns 0 { payload := ascii "ab", final := false },
    .readReturns 0 { payload := ascii "cd" }]

theorem ReaderRun.overwrites_split :
    ∃ trace state, ReaderRun (ascii "reply") (ascii "/ws") splitReads trace state ∧
      receivedMessages trace ≠
        expectedMessages (ascii "reply") (ascii "/ws") (fragmentsOf splitReads) := by
  have checked : EventMachine.checks WsReader.step ReaderLabel.successful
      (WsReader.started (ascii "reply") (ascii "/ws")) splitReads
      (fun _ trace => receivedMessages trace ≠
        expectedMessages (ascii "reply") (ascii "/ws")
          (fragmentsOf splitReads)) = true := by
    decide +kernel
  exact EventMachine.Run.of_checks checked

end IisAsgiHandler
