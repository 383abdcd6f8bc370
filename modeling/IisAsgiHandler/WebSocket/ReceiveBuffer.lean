import IisAsgiHandler.WebSocket.Reassembly

/-!
# The receive buffer

Which bytes of the buffer are sent, and how much room is left for the next
fragment.  Every fragment is offered the whole buffer, from its start, while
its size is added to that of the message; so the count runs ahead of what is in
the buffer, and finally of the buffer itself.
-/

namespace IisAsgiHandler

open AsgiWsReceiveMsg (bufferChunkSize bufferChunkIncreaseThreshold)

/-- The message fits into its buffer, with room for a read. -/
structure AsgiWsReceiveMsg.Roomy (msg : AsgiWsReceiveMsg) : Prop where
  inside : msg.dataSize ≤ msg.data.length
  unused : bufferChunkIncreaseThreshold < msg.data.length - msg.dataSize

/-- Every byte that is sent lies in the buffer, and a fragment of the message
has written it there. -/
def FromFragments (message : List Fragment) (sent : PackedReceiveMsg) : Prop :=
  ∀ (index : Nat) (cell : Option UInt8), sent.bytes[index]? = some cell →
    ∃ fragment ∈ message, ∃ byte,
      fragment.payload[index]? = some byte ∧ cell = some byte

/-- There is room for a read, and what has been sent came from fragments. -/
structure BufferLaw
    (labels : List ReaderLabel)
    (trace : List ReaderEvent)
    (reader : WsReader) : Prop where
  roomy : reader.msg.Roomy
  sent : List.Forall₂ FromFragments
    (Assembly.gather (fragmentsOf labels)).completed (receivedMessages trace)

/-- The fragments of the message that is not complete. -/
def currentFragments (labels : List ReaderLabel) : List Fragment :=
  (Assembly.gather (fragmentsOf labels)).current

/-- A final fragment comes when some fragment of the message is as long as what
is sent of it, and any other leaves room, once the buffer has grown. -/
def FitsBuffer
    (labels : List ReaderLabel) (reader : WsReader) (label : ReaderLabel) :
    Prop :=
  ∀ fragment, label.fragment = some fragment →
    if fragment.final then
      ∃ longest ∈ currentFragments labels ++ [fragment],
        (reader.msg.dataSize + fragment.payload.length) % dwordSize ≤
          longest.payload.length
    else
      reader.msg.dataSize + fragment.payload.length +
          bufferChunkIncreaseThreshold <
        reader.msg.data.length + bufferChunkSize

/-- What the fragments of a message have written is in the buffer. -/
def Stores (current : List Fragment) (data : Bytes) : Prop :=
  ∀ fragment ∈ current, ∀ index < fragment.payload.length,
    ∃ writer ∈ current, ∃ byte,
      writer.payload[index]? = some byte ∧ data[index]? = some byte

namespace Stores

variable {current : List Fragment}
variable {data : Bytes}

theorem nil : Stores [] data := by
  intro fragment member
  cases member

/-- A fragment writes the first bytes, and leaves the others. -/
theorem store
    (stores : Stores current data)
    (fragment : Fragment) :
    Stores (current ++ [fragment]) (Buffer.store data 0 fragment.payload) := by
  intro reader member index inside
  rw [Buffer.store_zero]
  by_cases written : index < fragment.payload.length
  · refine ⟨fragment, by simp, fragment.payload[index],
      List.getElem?_eq_getElem written, ?_⟩
    rw [List.getElem?_append_left written, List.getElem?_eq_getElem written]
  · have earlier : reader ∈ current := by
      rcases List.mem_append.mp member with earlier | last
      · exact earlier
      · rw [List.mem_singleton.mp last] at inside
        exact absurd inside written
    obtain ⟨writer, inCurrent, byte, wrote, held⟩ :=
      stores reader earlier index inside
    refine ⟨writer, List.mem_append_left _ inCurrent, byte, wrote, ?_⟩
    have outside := Nat.le_of_not_lt written
    rw [List.getElem?_append_right outside, List.getElem?_drop,
      Nat.add_sub_cancel' outside]
    exact held

theorem grow
    (stores : Stores current data)
    (more : Nat) :
    Stores current (Buffer.resize 0 data (data.length + more)) := by
  intro reader member index inside
  obtain ⟨writer, inCurrent, byte, wrote, held⟩ :=
    stores reader member index inside
  refine ⟨writer, inCurrent, byte, wrote, ?_⟩
  have within := (List.getElem?_eq_some_iff.mp held).1
  rw [Buffer.resize, List.take_of_length_le (Nat.le_add_right _ _),
    List.getElem?_append_left within]
  exact held

/-- What is read comes from fragments exactly when one of them is as long. -/
theorem fromFragments_iff
    (stores : Stores current data)
    (nonempty : current ≠ [])
    {sent : PackedReceiveMsg}
    {count : Nat}
    (read : sent.bytes = Buffer.read data count) :
    FromFragments current sent ↔
      ∃ longest ∈ current, count ≤ longest.payload.length := by
  have cells : ∀ index < count, sent.bytes[index]? = some data[index]? := by
    intro index inside
    rw [read, Buffer.read, List.getElem?_map, List.getElem?_range inside]
    rfl
  constructor
  · intro comes
    cases count with
    | zero =>
        obtain ⟨fragment, member⟩ := List.exists_mem_of_ne_nil current nonempty
        exact ⟨fragment, member, Nat.zero_le _⟩
    | succ last =>
        obtain ⟨fragment, member, byte, wrote, _⟩ :=
          comes last _ (cells last (Nat.lt_succ_self last))
        exact ⟨fragment, member, (List.getElem?_eq_some_iff.mp wrote).1⟩
  · rintro ⟨longest, member, covers⟩ index cell found
    have inside : index < count := by
      have bound := (List.getElem?_eq_some_iff.mp found).1
      rwa [read, Buffer.length_read] at bound
    obtain ⟨writer, inCurrent, byte, wrote, held⟩ :=
      stores longest member index (Nat.lt_of_lt_of_le inside covers)
    rw [cells index inside, held] at found
    exact ⟨writer, inCurrent, byte, wrote, (Option.some.inj found).symm⟩

end Stores

theorem gather_fragmentsOf_snoc
    (labels : List ReaderLabel)
    (label : ReaderLabel) :
    Assembly.gather (fragmentsOf (labels ++ [label])) =
      label.fragment.elim (Assembly.gather (fragmentsOf labels))
        (Assembly.gather (fragmentsOf labels)).add := by
  have longer : fragmentsOf (labels ++ [label]) =
      fragmentsOf labels ++ label.fragment.toList := by
    cases delivers : label.fragment <;> simp [fragmentsOf, delivers]
  rw [longer]
  cases label.fragment with
  | none => rw [Option.toList_none, List.append_nil, Option.elim_none]
  | some fragment => exact Assembly.gather_snoc _ fragment

/-- The buffer holds what the fragments of the current message have written. -/
theorem ReaderRun.stores
    {replyChannel requestPath : Bytes}
    {labels : List ReaderLabel}
    {trace : List ReaderEvent}
    {reader : WsReader}
    (run : ReaderRun replyChannel requestPath labels trace reader) :
    reader.SingleRead ∧ Stores (currentFragments labels) reader.msg.data := by
  induction run with
  | refl => exact ⟨WsReader.singleRead_start rfl _ _, Stores.nil⟩
  | @step labels trace reader next label events _ succeeds steps
      inductionHypothesis =>
      obtain ⟨single, stores⟩ := inductionHypothesis
      obtain ⟨alone, moved⟩ := WsReader.step_moved single steps
      refine ⟨alone, ?_⟩
      rw [currentFragments, gather_fragmentsOf_snoc]
      generalize next.msg = msg at moved ⊢
      cases moved with
      | quiet missing _ =>
          rw [missing, Option.elim_none]
          exact stores
      | delivered fragment delivers _ fits completes =>
          have stored := stores.store fragment
          rw [delivers, Option.elim_some, completes]
          cases final : fragment.final with
          | true =>
              rw [Assembly.add, if_pos final]
              exact Stores.nil
          | false =>
              rw [Assembly.add, if_neg (by simp [final]),
                WsReader.readAsyncComplete]
              simp only [Bool.false_eq_true, if_false]
              split
              · exact stored.grow _
              · exact stored
      | failed hr numBytes utf8 final close missing fails _ _ =>
          rw [succeeds] at fails
          contradiction

/-- A message that has been sent leaves an empty buffer of the first size. -/
theorem roomy_sendToApplication (msg : AsgiWsReceiveMsg) :
    (WsReader.sendToApplication msg).1.Roomy := by
  constructor
  · exact Nat.zero_le _
  · rw [WsReader.sendToApplication, Buffer.length_resize]
    exact (by decide : bufferChunkIncreaseThreshold < bufferChunkSize - 0)

theorem roomy_started (replyChannel requestPath : Bytes) :
    (WsReader.started replyChannel requestPath).msg.Roomy := by
  have length : (WsReader.started replyChannel requestPath).msg.data.length =
      bufferChunkSize := List.length_replicate
  constructor
  · exact Nat.zero_le _
  · rw [length]
    exact (by decide : bufferChunkIncreaseThreshold < bufferChunkSize - 0)

/-- A final fragment keeps the law when its message is sent as it came. -/
theorem BufferLaw.final_iff
    {labels : List ReaderLabel}
    {trace : List ReaderEvent}
    {reader : WsReader}
    {fragment : Fragment}
    (law : BufferLaw labels trace reader)
    (stores : Stores (currentFragments labels) reader.msg.data)
    {counted : AsgiWsReceiveMsg}
    (data : counted.data = Buffer.store reader.msg.data 0 fragment.payload)
    (size : counted.dataSize =
      reader.msg.dataSize + fragment.payload.length) :
    List.Forall₂ FromFragments
        ((Assembly.gather (fragmentsOf labels)).completed ++
          [currentFragments labels ++ [fragment]])
        (receivedMessages trace ++ [WsReader.pack counted]) ↔
      ∃ longest ∈ currentFragments labels ++ [fragment],
        (reader.msg.dataSize + fragment.payload.length) % dwordSize ≤
          longest.payload.length := by
  have stored := stores.store fragment
  rw [← data] at stored
  have read : (WsReader.pack counted).bytes =
      Buffer.read counted.data (counted.dataSize % dwordSize) := rfl
  have packed := stored.fromFragments_iff (by simp) read
  rw [size] at packed
  rw [← packed]
  constructor
  · intro all
    have last := List.forall₂_drop_append _ _ _ all
    rw [← law.sent.length_eq, List.drop_left] at last
    cases last with
    | cons comes _ => exact comes
  · intro comes
    exact List.rel_append law.sent (.cons comes .nil)

/-- A fragment that is not final leaves room for a read if the buffer, once it
has grown by a chunk, has room. -/
theorem roomy_readAsyncComplete_iff
    {msg : AsgiWsReceiveMsg}
    {fragment : Fragment}
    (fits : fragment.payload.length ≤ WsReader.offeredLength msg)
    (utf8 close : Bool) :
    (WsReader.readAsyncComplete (WsReader.deliver msg fragment) sOk
        fragment.payload.length utf8 false close).1.Roomy ↔
      msg.dataSize + fragment.payload.length + bufferChunkIncreaseThreshold <
        msg.data.length + bufferChunkSize := by
  have inside : fragment.payload.length ≤ msg.data.length :=
    Nat.le_trans fits (Nat.mod_le _ _)
  have length : (WsReader.deliver msg fragment).data.length =
      msg.data.length := by
    rw [WsReader.deliver]
    exact Buffer.length_store (by rw [Nat.zero_add]; exact inside)
  have chunk : bufferChunkSize = 4096 := rfl
  have threshold : bufferChunkIncreaseThreshold = 1024 := rfl
  unfold WsReader.readAsyncComplete
  simp only [Bool.false_eq_true, if_false]
  split
  next almostFull =>
    constructor
    · rintro ⟨_, unused⟩
      simp only [Buffer.length_resize, length] at unused
      simp only [WsReader.deliver] at unused
      omega
    · intro room
      constructor
      · simp only [Buffer.length_resize, length]
        simp only [WsReader.deliver]
        omega
      · simp only [Buffer.length_resize, length]
        simp only [WsReader.deliver]
        omega
  next hasRoom =>
    rw [length] at hasRoom
    simp only [WsReader.deliver] at hasRoom
    constructor
    · intro _
      omega
    · intro _
      constructor
      · simp only [length]
        simp only [WsReader.deliver]
        omega
      · simp only [length]
        simp only [WsReader.deliver]
        omega

/-- A step keeps the law of the buffer exactly when its fragment fits. -/
theorem BufferLaw.step_iff
    {labels : List ReaderLabel}
    {trace events : List ReaderEvent}
    {reader next : WsReader}
    {label : ReaderLabel}
    (law : BufferLaw labels trace reader)
    (stores : Stores (currentFragments labels) reader.msg.data)
    (succeeds : label.fails = false)
    (moved : WsReader.Moved reader.msg label next.msg events) :
    BufferLaw (labels ++ [label]) (trace ++ events) next ↔
      FitsBuffer labels reader label := by
  have split : BufferLaw (labels ++ [label]) (trace ++ events) next ↔
      next.msg.Roomy ∧
        List.Forall₂ FromFragments
          (Assembly.gather (fragmentsOf (labels ++ [label]))).completed
          (receivedMessages (trace ++ events)) :=
    ⟨fun law => ⟨law.roomy, law.sent⟩, fun both => ⟨both.1, both.2⟩⟩
  have received : receivedMessages (trace ++ events) =
      receivedMessages trace ++ receivedMessages events :=
    List.filterMap_append
  rw [split, received, gather_fragmentsOf_snoc]
  generalize next.msg = msg at moved ⊢
  cases moved with
  | quiet missing _ =>
      rw [missing, Option.elim_none]
      constructor
      · intro _ fragment delivers
        rw [missing] at delivers
        contradiction
      · intro _
        exact ⟨law.roomy, by simpa [receivedMessages] using law.sent⟩
  | delivered fragment delivers _ fits completes =>
      have condition : FitsBuffer labels reader label ↔
          if fragment.final then
            ∃ longest ∈ currentFragments labels ++ [fragment],
              (reader.msg.dataSize + fragment.payload.length) % dwordSize ≤
                longest.payload.length
          else
            reader.msg.dataSize + fragment.payload.length +
                bufferChunkIncreaseThreshold <
              reader.msg.data.length + bufferChunkSize := by
        constructor
        · intro fits
          exact fits fragment delivers
        · intro fits other deliversOther
          rw [delivers] at deliversOther
          cases deliversOther
          exact fits
      rw [condition, delivers, Option.elim_some, completes]
      let counted : AsgiWsReceiveMsg :=
        { WsReader.deliver reader.msg fragment with
          dataSize := reader.msg.dataSize + fragment.payload.length
          utf8 := fragment.utf8 }
      cases final : fragment.final with
      | true =>
          rw [if_pos rfl, Assembly.add, if_pos final]
          have roomy := roomy_sendToApplication counted
          have data : counted.data =
              Buffer.store reader.msg.data 0 fragment.payload := rfl
          have size : counted.dataSize =
              reader.msg.dataSize + fragment.payload.length := rfl
          rw [← law.final_iff stores data size]
          exact and_iff_right roomy
      | false =>
          have sent : List.Forall₂ FromFragments
              (Assembly.gather (fragmentsOf labels)).completed
              (receivedMessages trace ++ []) := by
            rw [List.append_nil]
            exact law.sent
          rw [if_neg (by simp), Assembly.add, if_neg (by simp [final]),
            ← roomy_readAsyncComplete_iff fits fragment.utf8 fragment.close]
          refine (and_congr_right fun _ => ?_).trans (and_iff_left trivial)
          refine iff_true_intro ?_
          unfold WsReader.readAsyncComplete
          simp only [Bool.false_eq_true, if_false]
          split <;> exact sent
  | failed hr numBytes utf8 final close missing fails _ _ =>
      rw [succeeds] at fails
      contradiction

/-- In a run without failures, the buffer has room before each read, and every
byte sent was brought by a fragment of its message, exactly when each fragment
fits. -/
theorem ReaderRun.bufferLaw_iff
    {replyChannel requestPath : Bytes}
    {labels : List ReaderLabel}
    {trace : List ReaderEvent}
    {reader : WsReader}
    (run : ReaderRun replyChannel requestPath labels trace reader) :
    EventMachine.Throughout WsReader.step ReaderLabel.successful
        (WsReader.started replyChannel requestPath) BufferLaw labels ↔
      EventMachine.EachStep WsReader.step ReaderLabel.successful
        (WsReader.started replyChannel requestPath) FitsBuffer labels := by
  refine run.throughout_iff ⟨roomy_started _ _, .nil⟩ ?_
  intro labels trace reader label next events earlier law succeeds steps
  obtain ⟨single, stores⟩ := ReaderRun.stores earlier
  obtain ⟨_, moved⟩ := WsReader.step_moved single steps
  exact law.step_iff stores succeeds moved

/-- A message whose last fragment brings no more bytes. -/
def emptyEnd : List ReaderLabel :=
  [.readReturns 0 { payload := ascii "hello", final := false },
    .readReturns 0 { payload := [] }]

theorem ReaderRun.bufferLaw_iff_sample :
    EventMachine.Throughout WsReader.step ReaderLabel.successful
      (WsReader.started (ascii "reply") (ascii "/ws")) BufferLaw emptyEnd := by
  have checked : EventMachine.checks WsReader.step ReaderLabel.successful
      (WsReader.started (ascii "reply") (ascii "/ws")) emptyEnd
      (fun _ _ => True) = true := by
    decide +kernel
  have checkedFirst : EventMachine.checks WsReader.step ReaderLabel.successful
      (WsReader.started (ascii "reply") (ascii "/ws")) (emptyEnd.take 1)
      (fun reader _ => reader.msg.dataSize = 5) = true := by
    decide +kernel
  obtain ⟨_, _, run, _⟩ := EventMachine.Run.of_checks checked
  obtain ⟨_, reader, first, counted⟩ := EventMachine.Run.of_checks checkedFirst
  refine (ReaderRun.bufferLaw_iff run).mpr (first.eachStep_snoc.mpr
    ⟨EventMachine.Run.refl.eachStep_snoc.mpr ⟨?_, ?_⟩, ?_⟩)
  · intro before label after _ _ equal
    simp at equal
  · rintro fragment ⟨⟩
    -- The empty buffer has room for a short fragment.
    rw [if_neg (by decide)]
    decide +kernel
  · rintro fragment ⟨⟩
    -- The first fragment is as long as the message.
    rw [if_pos (by decide), counted]
    exact ⟨_, List.mem_append_left _ List.mem_cons_self, by decide⟩

/-- Three fragments, each as long as the buffer is by then. -/
def largeReads : List ReaderLabel :=
  [.readReturns 0 { payload := List.replicate 4096 0x61, final := false },
    .readReturns 0 { payload := List.replicate 8192 0x62, final := false },
    .readReturns 0 { payload := List.replicate 12288 0x63, final := false }]

/-- A reader that has been offered the whole of its buffer, with the number of
bytes that it counts. -/
structure WsReader.Offers (reader : WsReader) (length counted : Nat) : Prop where
  frames : reader.calls.frames = [⟨.start, some length⟩]
  buffer : reader.msg.data.length = length
  counts : reader.msg.dataSize = counted

/-- A fragment that is not final and fills the buffer makes it grow by a chunk,
but is counted as a whole. -/
theorem WsReader.Offers.fill
    {reader : WsReader}
    {length longer counted : Nat}
    (offers : reader.Offers length counted)
    (payload : Bytes)
    (fills : payload.length = length)
    (grows : length + bufferChunkSize = longer)
    (small : longer < dwordSize) :
    ∃ events next,
      WsReader.step reader (.readReturns 0 { payload, final := false }) =
        some (next, events) ∧
      next.Offers longer (counted + length) := by
  let fragment : Fragment := { payload, final := false }
  let completed := WsReader.readAsyncComplete
    (WsReader.deliver reader.msg fragment) sOk payload.length fragment.utf8
    false fragment.close
  have stored : (Buffer.store reader.msg.data 0 payload).length = length := by
    rw [Buffer.length_store, offers.buffer]
    exact Nat.le_of_eq (by rw [Nat.zero_add, fills, offers.buffer])
  have almostFull : length - bufferChunkIncreaseThreshold ≤ counted + length :=
    Nat.le_trans (Nat.sub_le _ _) (Nat.le_add_left _ _)
  have grown : completed.1.data.length = longer ∧
      completed.1.dataSize = counted + length := by
    simp [completed, WsReader.readAsyncComplete, WsReader.deliver, fragment,
      stored, offers.counts, fills, almostFull, grows]
  have steps : WsReader.step reader (.readReturns 0 fragment) =
      some ((reader.loop 0 .start completed).1,
        .fragment fragment :: (reader.loop 0 .start completed).2) := by
    rw [WsReader.step, offers.frames]
    exact if_pos (Nat.le_of_eq fills)
  refine ⟨_, _, steps, ?_, ?_, ?_⟩
  · rw [WsReader.loop, PendingCalls.callAgain, offers.frames,
      WsReader.offeredLength, grown.1, Nat.mod_eq_of_lt small]
    rfl
  · rw [WsReader.loop_msg]
    exact grown.1
  · rw [WsReader.loop_msg]
    exact grown.2

/-- A reader is started with a buffer of one chunk. -/
theorem WsReader.offers_started (replyChannel requestPath : Bytes) :
    (WsReader.started replyChannel requestPath).Offers bufferChunkSize 0 := by
  have buffer : (WsReader.started replyChannel requestPath).msg.data.length =
      bufferChunkSize := List.length_replicate
  refine ⟨?_, buffer, rfl⟩
  have frames : (WsReader.started replyChannel requestPath).calls.frames =
      [⟨.start, some (WsReader.offeredLength
        (WsReader.started replyChannel requestPath).msg)⟩] := rfl
  rw [frames, WsReader.offeredLength, buffer]
  rfl

/-- Of two fragments, a byte is sent that neither has written; after three of
them the message is counted beyond the end of its buffer. -/
theorem ReaderRun.counts_past_buffer :
    (∃ trace reader,
      ReaderRun (ascii "reply") (ascii "/ws") splitReads trace reader ∧
        ¬ BufferLaw splitReads trace reader) ∧
    ∃ trace reader,
      ReaderRun (ascii "reply") (ascii "/ws") largeReads trace reader ∧
        reader.msg.data.length < reader.msg.dataSize := by
  constructor
  · have checked : EventMachine.checks WsReader.step ReaderLabel.successful
        (WsReader.started (ascii "reply") (ascii "/ws")) splitReads
        (fun _ trace => (receivedMessages trace).map (fun sent =>
          sent.bytes[2]?) = [some (some 0)]) = true := by
      decide +kernel
    obtain ⟨trace, reader, run, shown⟩ := EventMachine.Run.of_checks checked
    refine ⟨trace, reader, run, ?_⟩
    intro law
    obtain ⟨sent, received, third⟩ := List.map_eq_singleton_iff.mp shown
    have all := law.sent
    rw [received] at all
    have gathered : (Assembly.gather (fragmentsOf splitReads)).completed =
        [[{ payload := ascii "ab", final := false },
          { payload := ascii "cd" }]] := by
      decide
    rw [gathered] at all
    cases all with
    | cons comes _ =>
        obtain ⟨fragment, member, byte, wrote, _⟩ := comes 2 _ third
        simp only [List.mem_cons, List.not_mem_nil, or_false] at member
        rcases member with rfl | rfl <;> cases wrote
  · have first := WsReader.offers_started (ascii "reply") (ascii "/ws")
    obtain ⟨_, _, firstStep, second⟩ := first.fill (List.replicate 4096 0x61)
      List.length_replicate rfl (by decide)
    obtain ⟨_, _, secondStep, third⟩ := second.fill (List.replicate 8192 0x62)
      List.length_replicate rfl (by decide)
    obtain ⟨_, reader, thirdStep, last⟩ := third.fill
      (List.replicate 12288 0x63) List.length_replicate rfl (by decide)
    have succeeds : ∀ (reader : WsReader) (fragment : Fragment),
        ReaderLabel.successful reader (.readReturns 0 fragment) :=
      fun _ _ => rfl
    have run := ((EventMachine.Run.refl.step (succeeds _ _) firstStep).step
      (succeeds _ _) secondStep).step (succeeds _ _) thirdStep
    refine ⟨_, reader, run, ?_⟩
    rw [last.buffer, last.counts]
    decide

end IisAsgiHandler
