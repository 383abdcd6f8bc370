import IisAsgiHandler.ChannelLayer.Basic
import IisAsgiHandler.ResponsePump.Basic

/-!
# The replies that the pump reads

An iteration of the pump that finds channels calls `ReceiveMany`, which reads
the reply to `BLPOP` and then the reply to `GET`.  A reply is a tagged record,
or a null pointer when the connection is lost; `element` is valid in an array
only, and `str` and `len` in a string.  Each read shows as an event, with the
reply it is made on.
-/

namespace IisAsgiHandler
namespace RedisChannelLayer

open Redis (Command Reply)

/-- What is read of a reply: its tag, one of its elements, or `str` and `len`. -/
inductive ReplyField where
  | type
  | element (index : Nat)
  | text
  deriving DecidableEq

/-- A read of a field; a null pointer is no reply. -/
structure ReplyRead where
  field : ReplyField
  reply : Option Reply
  deriving DecidableEq

/-- The field exists in a reply with this tag. -/
def ReplyRead.valid (read : ReplyRead) : Bool :=
  match read.field, read.reply with
  | .type, some _ => true
  | .element index, some (.array elements) => decide (index < elements.length)
  | .text, some (.string _) => true
  | _, _ => false

/-- The reads of the reply to `BLPOP`, up to the first that goes wrong. -/
def popReads (mPrefix : Bytes) (reply : Option Reply) : List ReplyRead :=
  ⟨.type, reply⟩ ::
    match reply with
    | none => []
    | some .nil => []
    | some (.array (key :: rest)) =>
        [⟨.element 0, reply⟩, ⟨.text, some (.string key)⟩] ++
          if mPrefix.length ≤ key.length then
            ⟨.element 1, reply⟩ ::
              rest.head?.toList.map fun item => ⟨.text, some (.string item)⟩
          else []
    | some _ => [⟨.element 0, reply⟩]

/-- The reads of the reply to `GET`. -/
def getReads (reply : Option Reply) : List ReplyRead :=
  ⟨.type, reply⟩ ::
    match reply with
    | none => []
    | some .nil => []
    | some _ => [⟨.text, reply⟩]

/-- The reply to `BLPOP` is nil, or an array with a key that has room for the
prefix and another string. -/
def expectedPop (mPrefix : Bytes) : Option Reply → Bool
  | some .nil => true
  | some (.array (key :: _ :: _)) => decide (mPrefix.length ≤ key.length)
  | _ => false

/-- The reply to `GET` is nil or a string. -/
def expectedGet : Option Reply → Bool
  | some .nil => true
  | some (.string _) => true
  | _ => false

/-- Every read of the reply to `BLPOP` is valid, and the call goes on, exactly
when the reply is expected. -/
theorem popReads_valid_iff (mPrefix : Bytes) (reply : Option Reply) :
    ((∀ read ∈ popReads mPrefix reply, read.valid = true) ∧
        afterPop mPrefix reply ≠ .crashed) ↔
      expectedPop mPrefix reply = true := by
  cases reply with
  | none => simp [popReads, ReplyRead.valid, expectedPop]
  | some reply =>
      cases reply with
      | nil => simp [popReads, ReplyRead.valid, expectedPop, afterPop]
      | array elements =>
          rcases elements with _ | ⟨key, _ | ⟨item, rest⟩⟩
          · simp [popReads, ReplyRead.valid, expectedPop]
          · simp [afterPop, expectedPop]
          · by_cases room : mPrefix.length ≤ key.length
            · simp [popReads, ReplyRead.valid, expectedPop, afterPop, room]
            · simp [expectedPop, afterPop, room]
      | string str => simp [popReads, ReplyRead.valid, expectedPop]
      | integer value => simp [popReads, ReplyRead.valid, expectedPop]
      | status str => simp [popReads, ReplyRead.valid, expectedPop]
      | error str => simp [popReads, ReplyRead.valid, expectedPop]

theorem getReads_valid_iff (reply : Option Reply) :
    (∀ read ∈ getReads reply, read.valid = true) ↔ expectedGet reply = true := by
  cases reply with
  | none => simp [getReads, ReplyRead.valid, expectedGet]
  | some reply => cases reply <;> simp [getReads, ReplyRead.valid, expectedGet]

/-- After an expected reply to `BLPOP` the call returns nothing, or goes on to
`GET`. -/
theorem afterPop_of_expected
    {mPrefix : Bytes}
    {reply : Option Reply}
    (expected : expectedPop mPrefix reply = true) :
    afterPop mPrefix reply = .done [] [] ∨
      ∃ channel dataKey, afterPop mPrefix reply = .get channel dataKey := by
  match reply with
  | some .nil => exact .inl rfl
  | some (.array (key :: item :: rest)) =>
      right
      have room := of_decide_eq_true expected
      exact ⟨key.drop mPrefix.length, item, by simp [afterPop, room]⟩

/-- After an expected reply to `GET` the call returns nothing, or the string. -/
theorem afterGet_of_expected
    {reply : Option Reply}
    (expected : expectedGet reply = true)
    (channel : Bytes) :
    afterGet channel reply = .done [] [] ∨
      ∃ payload, reply = some (.string payload) ∧
        afterGet channel reply = .done channel payload := by
  match reply with
  | some .nil => exact .inl rfl
  | some (.string payload) => exact .inr ⟨payload, rfl, rfl⟩

end RedisChannelLayer

/-! ## The thread of the pump -/

open RedisChannelLayer (Receive ReceiveStage ReplyRead prefixedChannels)
open Redis (Reply)

/-- The pump, with the call of `ReceiveMany` that its thread is in. -/
structure Poller (κ : Type) where
  pump : ResponsePump κ := {}
  receive : Option Receive := none

/-- What happens next around the pump. -/
inductive PollLabel (κ : Type)
  | addChannel (channel : Bytes) (callback : κ)
  | removeChannel (channel : Bytes)
  | stop
  /-- The thread takes its snapshot. -/
  | snapshot
  /-- `ReceiveMany` shuffles its keys. -/
  | shuffle (keys : List Bytes)
  /-- The next command of `ReceiveMany` results in a reply. -/
  | reply (reply : Option Reply)
  /-- The thread looks the callback up. -/
  | dispatch
  deriving DecidableEq

inductive PollEvent (κ : Type)
  | read (read : ReplyRead)
  /-- The call threw, or read what is not there. -/
  | died
  /-- `ReceiveMany` returned after its last reply. -/
  | returned (channel payload : Bytes) (last : Option Reply)
  | delivered (callback : κ) (channel data : Bytes)
  deriving DecidableEq

namespace Poller

variable {κ : Type}

/-- The thread after `ReceiveMany` has returned. -/
def afterReceive (pump : ResponsePump κ) (channel payload : Bytes) :
    ResponsePump κ :=
  { pump with
    thread := if channel = [] then .loopHead else .received channel payload }

/-- A message from the front of a queue moves the pump over queues likewise. -/
theorem receiveMany_eq_afterReceive
    {pump : ResponsePump κ}
    {queues : ChannelQueues}
    {channelNames rest : List Bytes}
    {channel payload : Bytes}
    (thread : pump.thread = .receiving channelNames)
    (asked : channel ∈ channelNames)
    (front : queues channel = payload :: rest) :
    (pump.threadMain queues (.receiveMany (some channel))).map PumpStep.pump =
      some (afterReceive pump channel payload) := by
  simp [ResponsePump.threadMain, thread, front, asked, afterReceive]

/-- So does the absence of one. -/
theorem receiveMany_none_eq_afterReceive
    {pump : ResponsePump κ}
    {channelNames : List Bytes}
    (thread : pump.thread = .receiving channelNames)
    (queues : ChannelQueues)
    (payload : Bytes) :
    (pump.threadMain queues (.receiveMany none)).map PumpStep.pump =
      some (afterReceive pump [] payload) := by
  simp [ResponsePump.threadMain, thread, afterReceive]

/-- The reads of a reply, by the command that it answers. -/
def replyReads (mPrefix : Bytes) (stage : ReceiveStage) (reply : Option Reply) :
    List ReplyRead :=
  match stage with
  | .pop => RedisChannelLayer.popReads mPrefix reply
  | .get _ _ => RedisChannelLayer.getReads reply
  | .done _ _ => []
  | .crashed => []

/-- `ReceiveMany` goes on with a reply. -/
def read
    (mPrefix : Bytes) (poller : Poller κ) (receive : Receive)
    (reply : Option Reply) : Poller κ × List (PollEvent κ) :=
  let next := receive.advance mPrefix reply
  let reads := (replyReads mPrefix receive.stage reply).map PollEvent.read
  match next.stage with
  | .done channel payload =>
      ({ pump := afterReceive poller.pump channel payload },
        reads ++ [.returned channel payload reply])
  | .crashed => ({ poller with receive := some next }, reads ++ [.died])
  | _ => ({ poller with receive := some next }, reads)

/-- `ThreadMain` over the Redis channel layer, among other threads. -/
def threadMain (mPrefix : Bytes) :
    EventMachine (Poller κ) (PollLabel κ) (PollEvent κ) := fun poller label =>
  match label with
  | .addChannel channel callback =>
      some ({ poller with pump := poller.pump.addChannel channel callback }, [])
  | .removeChannel channel =>
      some ({ poller with pump := poller.pump.removeChannel channel }, [])
  | .stop =>
      some ({ poller with pump := { poller.pump with threadStop := true } }, [])
  | .snapshot =>
      (poller.pump.threadMain (fun _ => []) .snapshot).map fun result =>
        ({ poller with pump := result.pump }, [])
  | .shuffle keys =>
      match poller.pump.thread, poller.receive with
      | .receiving channelNames, none =>
          if keys.Perm (prefixedChannels mPrefix channelNames) then
            some ({ poller with
              receive := some { channels := channelNames, keys := keys } }, [])
          else none
      | _, _ => none
  | .reply reply =>
      match poller.receive with
      | none => none
      | some receive =>
          receive.command.map fun _ => poller.read mPrefix receive reply
  | .dispatch =>
      (poller.pump.threadMain (fun _ => []) .dispatch).map fun result =>
        ({ poller with pump := result.pump },
          result.task.toList.map fun task =>
            .delivered task.callback task.channel task.data)

/-- What a reply leads to. -/
inductive Replied
    (mPrefix : Bytes) (poller : Poller κ) (receive : Receive)
    (reply : Option Reply) : Poller κ × List (PollEvent κ) → Prop
  | fetch {channel dataKey : Bytes}
      (start : receive.stage = .pop)
      (popped : RedisChannelLayer.afterPop mPrefix reply =
        .get channel dataKey) :
      Replied mPrefix poller receive reply
        ({ poller with
            receive := some { receive with stage := .get channel dataKey } },
          (replyReads mPrefix receive.stage reply).map PollEvent.read)
  | returned {channel payload : Bytes}
      (stage : (receive.advance mPrefix reply).stage = .done channel payload) :
      Replied mPrefix poller receive reply
        ({ pump := afterReceive poller.pump channel payload },
          (replyReads mPrefix receive.stage reply).map PollEvent.read ++
            [.returned channel payload reply])
  | died
      (stage : (receive.advance mPrefix reply).stage = .crashed) :
      Replied mPrefix poller receive reply
        ({ poller with receive := some (receive.advance mPrefix reply) },
          (replyReads mPrefix receive.stage reply).map PollEvent.read ++
            [.died])

/-- `BLPOP` and its reply lead nowhere else. -/
theorem afterPop_ne_pop (mPrefix : Bytes) (reply : Option Reply) :
    RedisChannelLayer.afterPop mPrefix reply ≠ .pop := by
  unfold RedisChannelLayer.afterPop
  split
  · simp
  · split <;> simp
  · simp

theorem afterGet_cases (channel : Bytes) (reply : Option Reply) :
    RedisChannelLayer.afterGet channel reply = .crashed ∨
      ∃ name payload,
        RedisChannelLayer.afterGet channel reply = .done name payload := by
  match reply with
  | none => exact .inl rfl
  | some .nil => exact .inr ⟨[], [], rfl⟩
  | some (.string str) => exact .inr ⟨channel, str, rfl⟩
  | some (.status str) => exact .inr ⟨channel, str, rfl⟩
  | some (.error str) => exact .inr ⟨channel, str, rfl⟩
  | some (.integer value) => exact .inr ⟨channel, [], rfl⟩
  | some (.array elements) => exact .inr ⟨channel, [], rfl⟩

theorem replied_read
    {receive : Receive}
    {command : Redis.Command}
    (mPrefix : Bytes)
    (poller : Poller κ)
    (issues : receive.command = some command)
    (reply : Option Reply) :
    Replied mPrefix poller receive reply (poller.read mPrefix receive reply) := by
  obtain ⟨channels, keys, stage⟩ := receive
  cases stage with
  | pop =>
      have stage :
          ((⟨channels, keys, .pop⟩ : Receive).advance mPrefix reply).stage =
            RedisChannelLayer.afterPop mPrefix reply := rfl
      rw [read]
      cases popped : RedisChannelLayer.afterPop mPrefix reply with
      | pop => exact absurd popped (afterPop_ne_pop mPrefix reply)
      | get channel dataKey =>
          rw [popped] at stage
          simp only [Receive.advance, popped]
          exact .fetch rfl popped
      | done channel payload =>
          rw [popped] at stage
          simp only [stage]
          exact .returned stage
      | crashed =>
          rw [popped] at stage
          simp only [stage]
          exact .died stage
  | get asked dataKey =>
      have stage :
          ((⟨channels, keys, .get asked dataKey⟩ : Receive).advance mPrefix
              reply).stage =
            RedisChannelLayer.afterGet asked reply := rfl
      rw [read]
      rcases afterGet_cases asked reply with crashed | ⟨channel, payload, done⟩
      · rw [crashed] at stage
        simp only [stage]
        exact .died stage
      · rw [done] at stage
        simp only [stage]
        exact .returned stage
  | done channel payload => cases issues
  | crashed => cases issues

/-! ## Steps -/

/-- What the thread of the pump does, as opposed to others. -/
def ofThread : PollLabel κ → Bool
  | .snapshot => true
  | .shuffle _ => true
  | .reply _ => true
  | .dispatch => true
  | _ => false

/-- The steps of the thread and around it. -/
inductive Stepped (mPrefix : Bytes) (poller : Poller κ) :
    PollLabel κ → Poller κ → List (PollEvent κ) → Prop
  /-- Another thread changes the callbacks or tells the thread to stop. -/
  | around {label : PollLabel κ} {pump : ResponsePump κ}
      (others : ofThread label = false)
      (thread : pump.thread = poller.pump.thread) :
      Stepped mPrefix poller label { poller with pump := pump } []
  | snapshot {pump : ResponsePump κ}
      (atHead : poller.pump.thread = .loopHead)
      (thread : pump.thread = .loopHead ∨ pump.thread = .exited ∨
        ∃ channelNames, pump.thread = .receiving channelNames) :
      Stepped mPrefix poller .snapshot { poller with pump := pump } []
  | shuffle {channelNames keys : List Bytes}
      (thread : poller.pump.thread = .receiving channelNames)
      (idle : poller.receive = none) :
      Stepped mPrefix poller (.shuffle keys)
        { poller with
          receive := some { channels := channelNames, keys := keys } } []
  | reply {receive : Receive} {reply : Option Reply} {command : Redis.Command}
      {result : Poller κ × List (PollEvent κ)}
      (calling : poller.receive = some receive)
      (issues : receive.command = some command)
      (replied : Replied mPrefix poller receive reply result) :
      Stepped mPrefix poller (.reply reply) result.1 result.2
  | deliver {pump : ResponsePump κ} {callback : κ} {channel data : Bytes}
      (holding : poller.pump.thread = .received channel data)
      (thread : pump.thread = .loopHead) :
      Stepped mPrefix poller .dispatch { poller with pump := pump }
        [.delivered callback channel data]
  | drop {pump : ResponsePump κ} {channel data : Bytes}
      (holding : poller.pump.thread = .received channel data)
      (thread : pump.thread = .loopHead) :
      Stepped mPrefix poller .dispatch { poller with pump := pump } []

theorem stepped_of_threadMain
    {mPrefix : Bytes}
    {poller next : Poller κ}
    {label : PollLabel κ}
    {events : List (PollEvent κ)}
    (steps : threadMain mPrefix poller label = some (next, events)) :
    Stepped mPrefix poller label next events := by
  cases label with
  | addChannel channel callback =>
      cases steps
      exact .around rfl rfl
  | removeChannel channel =>
      cases steps
      exact .around rfl rfl
  | stop =>
      cases steps
      exact .around rfl rfl
  | snapshot =>
      obtain ⟨result, threadSteps, equal⟩ := Option.map_eq_some_iff.mp steps
      cases equal
      cases ResponsePump.threadMain_stepped threadSteps with
      | exit atHead _ => exact .snapshot atHead (.inr (.inl rfl))
      | idle atHead => exact .snapshot atHead (.inl atHead)
      | snapshot atHead => exact .snapshot atHead (.inr (.inr ⟨_, rfl⟩))
  | shuffle keys =>
      simp only [threadMain] at steps
      split at steps
      next channelNames thread idle =>
        split at steps
        next =>
          cases steps
          exact .shuffle thread idle
        next => cases steps
      next => cases steps
  | reply reply =>
      simp only [threadMain] at steps
      split at steps
      next => cases steps
      next receive calling =>
        obtain ⟨command, issues, equal⟩ := Option.map_eq_some_iff.mp steps
        have replied := replied_read mPrefix poller issues reply
        rw [equal] at replied
        exact .reply calling issues replied
  | dispatch =>
      obtain ⟨result, threadSteps, equal⟩ := Option.map_eq_some_iff.mp steps
      cases equal
      cases ResponsePump.threadMain_stepped threadSteps with
      | dispatch channel data callback holding _ => exact .deliver holding rfl
      | drop channel data holding _ => exact .drop holding rfl

/-- A call is open only while the thread receives, and what the thread has
received was returned to it. -/
structure Consistent (trace : List (PollEvent κ)) (poller : Poller κ) : Prop where
  calling : ∀ receive, poller.receive = some receive →
    ∃ channelNames, poller.pump.thread = .receiving channelNames
  unfinished : ∀ receive, poller.receive = some receive →
    receive.stage = .crashed ∨ receive.command.isSome = true
  received : ∀ channel data, poller.pump.thread = .received channel data →
    channel ≠ [] ∧ ∃ last, .returned channel data last ∈ trace

/-- Outside of `ReceiveMany` no call is open. -/
theorem Consistent.idle
    {trace : List (PollEvent κ)}
    {poller : Poller κ}
    (consistent : Consistent trace poller)
    (outside : ∀ channelNames, poller.pump.thread ≠ .receiving channelNames) :
    poller.receive = none := by
  cases isCalling : poller.receive with
  | none => rfl
  | some receive =>
      obtain ⟨channelNames, thread⟩ := consistent.calling receive isCalling
      exact absurd thread (outside channelNames)

theorem Consistent.step
    {mPrefix : Bytes}
    {trace events : List (PollEvent κ)}
    {poller next : Poller κ}
    {label : PollLabel κ}
    (consistent : Consistent trace poller)
    (stepped : Stepped mPrefix poller label next events) :
    Consistent (trace ++ events) next := by
  cases stepped with
  | around _ thread =>
      rw [List.append_nil]
      constructor
      · intro receive isCalling
        rw [thread]
        exact consistent.calling receive isCalling
      · exact consistent.unfinished
      · intro channel data
        rw [thread]
        exact consistent.received channel data
  | snapshot atHead thread =>
      have idle := consistent.idle (by simp [atHead])
      rw [List.append_nil]
      constructor
      · simp [idle]
      · simp [idle]
      · intro channel data received
        rcases thread with atHead | exited | ⟨channelNames, receiving⟩
        · rw [atHead] at received
          cases received
        · rw [exited] at received
          cases received
        · rw [receiving] at received
          cases received
  | shuffle thread idle =>
      rw [List.append_nil]
      constructor
      · intro _ _
        exact ⟨_, thread⟩
      · rintro _ ⟨⟩
        exact .inr rfl
      · exact consistent.received
  | reply isCalling issues replied =>
      obtain ⟨channelNames, thread⟩ := consistent.calling _ isCalling
      cases replied with
      | fetch start popped =>
          constructor
          · intro _ _
            exact ⟨_, thread⟩
          · rintro _ ⟨⟩
            exact .inr rfl
          · intro channel data received
            rw [thread] at received
            cases received
      | @returned channel payload stage =>
          constructor
          · rintro _ ⟨⟩
          · rintro _ ⟨⟩
          · intro other data received
            by_cases unnamed : channel = []
            · rw [afterReceive, if_pos unnamed] at received
              cases received
            · rw [afterReceive, if_neg unnamed] at received
              cases received
              exact ⟨unnamed, _, List.mem_append_right _
                (List.mem_append_right _ List.mem_cons_self)⟩
      | died stage =>
          constructor
          · intro _ _
            exact ⟨_, thread⟩
          · rintro _ ⟨⟩
            exact .inl stage
          · intro channel data received
            rw [thread] at received
            cases received
  | deliver holding thread =>
      have idle := consistent.idle (by simp [holding])
      constructor
      · simp [idle]
      · simp [idle]
      · simp [thread]
  | drop holding thread =>
      have idle := consistent.idle (by simp [holding])
      constructor
      · simp [idle]
      · simp [idle]
      · simp [thread]

theorem consistent_of_run
    {mPrefix : Bytes}
    {labels : List (PollLabel κ)}
    {trace : List (PollEvent κ)}
    {poller : Poller κ}
    (run : EventMachine.Run (threadMain mPrefix) EventMachine.always {} labels
      trace poller) :
    Consistent trace poller := by
  refine run.preserves_trace Consistent ?_ ?_
  · constructor
    · rintro _ ⟨⟩
    · rintro _ ⟨⟩
    · rintro _ _ ⟨⟩
  · intro trace poller label next events consistent _ steps
    exact consistent.step (stepped_of_threadMain steps)

/-! ## Surviving every reply -/

/-- What is asked of the pump: valid reads, no exception, and nothing returned
or delivered but a string from `GET`. -/
def Survives (before : List (PollEvent κ)) : PollEvent κ → Prop
  | .read read => read.valid = true
  | .died => False
  | .returned channel payload last =>
      channel ≠ [] → last = some (.string payload)
  | .delivered _ channel data =>
      .returned channel data (some (.string data)) ∈ before

/-- No call of `ReceiveMany` has died. -/
def Alive (poller : Poller κ) : Prop :=
  ∀ receive, poller.receive = some receive → receive.stage ≠ .crashed

/-- The reply is one that the code looks for. -/
def expectedReply
    (mPrefix : Bytes) (stage : ReceiveStage) (reply : Option Reply) : Bool :=
  match stage with
  | .pop => RedisChannelLayer.expectedPop mPrefix reply
  | .get _ _ => RedisChannelLayer.expectedGet reply
  | .done _ _ => true
  | .crashed => true

/-- A step is not the reading of a reply, or the reply is expected. -/
def expected (mPrefix : Bytes) (poller : Poller κ) : PollLabel κ → Bool
  | .reply reply => poller.receive.all fun receive =>
      expectedReply mPrefix receive.stage reply
  | _ => true

theorem expected_reply
    {poller : Poller κ}
    {receive : Receive}
    (mPrefix : Bytes)
    (isCalling : poller.receive = some receive)
    (reply : Option Reply) :
    expected mPrefix poller (.reply reply) =
      expectedReply mPrefix receive.stage reply := by
  rw [expected, isCalling, Option.all_some]

theorem justified_reads
    {before : List (PollEvent κ)}
    {reads : List ReplyRead}
    {later : List (PollEvent κ)} :
    EventMachine.Justified (fun earlier => Survives (before ++ earlier))
        (reads.map PollEvent.read ++ later) →
      ∀ read ∈ reads, read.valid = true := by
  intro justified read member
  have isEvent : (.read read : PollEvent κ) ∈ reads.map PollEvent.read :=
    List.mem_map_of_mem member
  obtain ⟨first, rest, split⟩ :=
    List.append_of_mem (List.mem_append_left later isEvent)
  exact justified first (.read read) rest split

theorem survives_reads
    {reads : List ReplyRead}
    (valid : ∀ read ∈ reads, read.valid = true) :
    ∀ event ∈ reads.map PollEvent.read,
      ∀ before : List (PollEvent κ), Survives before event := by
  intro event member before
  obtain ⟨read, readMember, rfl⟩ := List.mem_map.mp member
  exact valid read readMember

/-- The reads of a reply are valid, and the call does not crash, exactly when
the reply is expected. -/
theorem reads_valid_iff
    {receive : Receive}
    {command : Redis.Command}
    (mPrefix : Bytes)
    (issues : receive.command = some command)
    (reply : Option Reply) :
    ((∀ read ∈ replyReads mPrefix receive.stage reply, read.valid = true) ∧
        (receive.advance mPrefix reply).stage ≠ .crashed) ↔
      expectedReply mPrefix receive.stage reply = true := by
  obtain ⟨channels, keys, stage⟩ := receive
  cases stage with
  | pop => exact RedisChannelLayer.popReads_valid_iff mPrefix reply
  | get channel dataKey =>
      constructor
      · rintro ⟨valid, -⟩
        exact (RedisChannelLayer.getReads_valid_iff reply).mp valid
      · intro expected
        refine ⟨(RedisChannelLayer.getReads_valid_iff reply).mpr expected, ?_⟩
        change RedisChannelLayer.afterGet channel reply ≠ .crashed
        rcases RedisChannelLayer.afterGet_of_expected expected channel with
          nothing | ⟨payload, -, done⟩
        · rw [nothing]
          simp
        · rw [done]
          simp
  | done channel payload => cases issues
  | crashed => cases issues

/-- After an expected reply, only a string is returned with a name. -/
theorem string_of_expected
    {receive : Receive}
    {command : Redis.Command}
    {mPrefix channel payload : Bytes}
    {reply : Option Reply}
    (issues : receive.command = some command)
    (expected : expectedReply mPrefix receive.stage reply = true)
    (stage : (receive.advance mPrefix reply).stage = .done channel payload)
    (named : channel ≠ []) :
    reply = some (.string payload) := by
  obtain ⟨channels, keys, start⟩ := receive
  cases start with
  | pop =>
      change RedisChannelLayer.afterPop mPrefix reply = _ at stage
      rcases RedisChannelLayer.afterPop_of_expected expected with
        nothing | ⟨name, dataKey, fetches⟩
      · rw [nothing] at stage
        cases stage
        exact absurd rfl named
      · rw [fetches] at stage
        cases stage
  | get asked dataKey =>
      change RedisChannelLayer.afterGet asked reply = _ at stage
      rcases RedisChannelLayer.afterGet_of_expected expected asked with
        nothing | ⟨text, string, done⟩
      · rw [nothing] at stage
        cases stage
        exact absurd rfl named
      · rw [done] at stage
        cases stage
        exact string
  | done name text => cases issues
  | crashed => cases issues

theorem survives_reply_iff
    {mPrefix : Bytes}
    {poller : Poller κ}
    {receive : Receive}
    {command : Redis.Command}
    {reply : Option Reply}
    {result : Poller κ × List (PollEvent κ)}
    (trace : List (PollEvent κ))
    (issues : receive.command = some command)
    (replied : Replied mPrefix poller receive reply result) :
    EventMachine.Justified (fun before => Survives (trace ++ before)) result.2 ∧
        Alive result.1 ↔
      expectedReply mPrefix receive.stage reply = true := by
  rw [← reads_valid_iff mPrefix issues reply]
  cases replied with
  | @fetch channel dataKey start popped =>
      have stage : (receive.advance mPrefix reply).stage =
          .get channel dataKey := by
        rw [Receive.advance, start]
        exact popped
      constructor
      · rintro ⟨justified, -⟩
        rw [← List.append_nil (List.map _ _)] at justified
        exact ⟨justified_reads justified, by simp [stage]⟩
      · rintro ⟨valid, -⟩
        refine ⟨.of_forall fun event member before =>
          survives_reads valid event member _, ?_⟩
        rintro _ ⟨⟩
        simp
  | @returned channel payload stage =>
      constructor
      · rintro ⟨justified, -⟩
        exact ⟨justified_reads justified, by simp [stage]⟩
      · intro good
        have expected := (reads_valid_iff mPrefix issues reply).mp good
        refine ⟨.of_forall ?_, ?_⟩
        · intro event member before
          rcases List.mem_append.mp member with isRead | last
          · exact survives_reads good.1 event isRead _
          · rw [List.mem_singleton.mp last]
            exact string_of_expected issues expected stage
        · rintro _ ⟨⟩
  | died stage =>
      constructor
      · rintro ⟨-, alive⟩
        exact absurd stage (alive _ rfl)
      · rintro ⟨-, running⟩
        exact absurd stage running

/-! ## The next iteration -/

/-- The thread is between two iterations, or has left the loop. -/
def AtHead (poller : Poller κ) : Prop :=
  poller.pump.thread = .loopHead ∨ poller.pump.thread = .exited

/-- The thread comes back to the head of its loop in so many steps, whatever
expected replies it reads. -/
inductive ReturnsWithin (mPrefix : Bytes) : Nat → Poller κ → Prop
  | head {count : Nat} {poller : Poller κ} (atHead : AtHead poller) :
      ReturnsWithin mPrefix count poller
  | step {count : Nat} {poller : Poller κ}
      (enabled : ∃ label, ofThread label = true ∧
        expected mPrefix poller label = true ∧
        (threadMain mPrefix poller label).isSome = true)
      (returns : ∀ label next events, ofThread label = true →
        expected mPrefix poller label = true →
        threadMain mPrefix poller label = some (next, events) →
        ReturnsWithin mPrefix count next) :
      ReturnsWithin mPrefix (count + 1) poller

/-- The number of steps back to the head of the loop. -/
def distance (poller : Poller κ) : Nat :=
  match poller.pump.thread, poller.receive with
  | .receiving _, none => 4
  | .receiving _, some receive => if receive.stage = .pop then 3 else 2
  | .received _ _, _ => 1
  | _, _ => 0

theorem distance_afterReceive
    (pump : ResponsePump κ) (channel payload : Bytes) :
    distance { pump := afterReceive pump channel payload } ≤ 1 := by
  by_cases unnamed : channel = []
  · simp [distance, afterReceive, unnamed]
  · simp [distance, afterReceive, unnamed]

/-- Every step of the thread shortens the way back. -/
theorem distance_lt
    {mPrefix : Bytes}
    {trace events : List (PollEvent κ)}
    {poller next : Poller κ}
    {label : PollLabel κ}
    (consistent : Consistent trace poller)
    (alive : Alive next)
    (busy : ¬ AtHead poller)
    (own : ofThread label = true)
    (stepped : Stepped mPrefix poller label next events) :
    next.distance < poller.distance := by
  cases stepped with
  | around others =>
      rw [own] at others
      cases others
  | snapshot atHead _ => exact absurd (.inl atHead) busy
  | shuffle thread idle => simp [distance, thread, idle]
  | reply isCalling issues replied =>
      obtain ⟨channelNames, thread⟩ := consistent.calling _ isCalling
      cases replied with
      | fetch start popped => simp [distance, thread, isCalling, start]
      | @returned channel payload stage =>
          have near := distance_afterReceive poller.pump channel payload
          have far : 2 ≤ poller.distance := by
            simp only [distance, thread, isCalling]
            split <;> omega
          exact lt_of_le_of_lt near far
      | died stage => exact absurd stage (alive _ rfl)
  | deliver holding thread => simp [distance, thread, holding]
  | drop holding thread => simp [distance, thread, holding]

/-- Away from the head of the loop the thread has a step, with an expected
reply where it reads one. -/
theorem exists_step
    {trace : List (PollEvent κ)}
    {poller : Poller κ}
    (mPrefix : Bytes)
    (consistent : Consistent trace poller)
    (alive : Alive poller)
    (busy : ¬ AtHead poller) :
    ∃ label, ofThread label = true ∧ expected mPrefix poller label = true ∧
      (threadMain mPrefix poller label).isSome = true := by
  cases thread : poller.pump.thread with
  | loopHead => exact absurd (.inl thread) busy
  | exited => exact absurd (.inr thread) busy
  | receiving channelNames =>
      cases isCalling : poller.receive with
      | none =>
          refine ⟨.shuffle (prefixedChannels mPrefix channelNames), rfl, rfl,
            ?_⟩
          simp [threadMain, thread, isCalling]
      | some receive =>
          refine ⟨.reply (some .nil), rfl, ?_, ?_⟩
          · rw [expected_reply mPrefix isCalling]
            cases receive.stage <;> rfl
          · have issues := (consistent.unfinished receive isCalling).resolve_left
              (alive receive isCalling)
            simp [threadMain, isCalling, issues]
  | received channel data =>
      refine ⟨.dispatch, rfl, rfl, ?_⟩
      simp only [threadMain, ResponsePump.threadMain, thread]
      split <;> rfl

/-- An expected reply keeps the call of `ReceiveMany` alive. -/
theorem Alive.step
    {mPrefix : Bytes}
    {events : List (PollEvent κ)}
    {poller next : Poller κ}
    {label : PollLabel κ}
    (alive : Alive poller)
    (isExpected : expected mPrefix poller label = true)
    (stepped : Stepped mPrefix poller label next events) :
    Alive next := by
  cases stepped with
  | around _ _ => exact alive
  | snapshot _ _ => exact alive
  | shuffle _ _ =>
      rintro _ ⟨⟩
      simp
  | reply isCalling issues replied =>
      rw [expected_reply mPrefix isCalling] at isExpected
      exact ((survives_reply_iff [] issues replied).mpr isExpected).2
  | deliver _ _ => exact alive
  | drop _ _ => exact alive

theorem returnsWithin_of_alive
    {mPrefix : Bytes}
    {trace : List (PollEvent κ)}
    {poller : Poller κ}
    {count : Nat}
    (consistent : Consistent trace poller)
    (alive : Alive poller)
    (near : poller.distance ≤ count) :
    ReturnsWithin mPrefix count poller := by
  induction count generalizing trace poller with
  | zero =>
      refine .head ?_
      by_contra busy
      obtain ⟨label, own, isExpected, enabled⟩ :=
        exists_step mPrefix consistent alive busy
      obtain ⟨⟨next, events⟩, steps⟩ := Option.isSome_iff_exists.mp enabled
      have stepped := stepped_of_threadMain steps
      have shorter := distance_lt consistent
        (alive.step isExpected stepped) busy own stepped
      omega
  | succ count inductionHypothesis =>
      by_cases busy : AtHead poller
      · exact .head busy
      · refine .step (exists_step mPrefix consistent alive busy) ?_
        intro label next events own isExpected steps
        have stepped := stepped_of_threadMain steps
        have nextAlive := alive.step isExpected stepped
        have shorter := distance_lt consistent nextAlive busy own stepped
        exact inductionHypothesis (consistent.step stepped) nextAlive (by omega)

/-- A call that has died is never left. -/
theorem alive_of_returnsWithin
    {mPrefix : Bytes}
    {trace : List (PollEvent κ)}
    {poller : Poller κ}
    {count : Nat}
    (consistent : Consistent trace poller)
    (returns : ReturnsWithin mPrefix count poller) :
    Alive poller := by
  intro receive isCalling crashed
  obtain ⟨channelNames, thread⟩ := consistent.calling receive isCalling
  cases returns with
  | head atHead => simp [AtHead, thread] at atHead
  | step enabled _ =>
      obtain ⟨label, own, -, isEnabled⟩ := enabled
      obtain ⟨⟨next, events⟩, steps⟩ := Option.isSome_iff_exists.mp isEnabled
      cases stepped_of_threadMain steps with
      | around others =>
          rw [own] at others
          cases others
      | snapshot atHead => simp [atHead] at thread
      | shuffle _ idle => simp [idle] at isCalling
      | reply sameCall issues _ =>
          rw [isCalling] at sameCall
          cases sameCall
          rw [Receive.command, crashed] at issues
          cases issues
      | deliver holding _ => simp [holding] at thread
      | drop holding _ => simp [holding] at thread

theorem distance_le (poller : Poller κ) : poller.distance ≤ 4 := by
  unfold distance
  split
  · omega
  · split <;> omega
  · omega
  · omega

theorem survives_step_iff
    {mPrefix : Bytes}
    {trace events : List (PollEvent κ)}
    {poller next : Poller κ}
    {label : PollLabel κ}
    (consistent : Consistent trace poller)
    (survives : EventMachine.Justified Survives trace)
    (alive : Alive poller)
    (stepped : Stepped mPrefix poller label next events) :
    EventMachine.Justified Survives (trace ++ events) ∧ Alive next ↔
      expected mPrefix poller label = true := by
  rw [EventMachine.Justified.append_iff, and_assoc, and_iff_right survives]
  cases stepped with
  | @around _ pump others _ =>
      refine iff_of_true ⟨.nil, alive⟩ ?_
      cases label with
      | reply reply => cases others
      | _ => rfl
  | snapshot _ _ => exact iff_of_true ⟨.nil, alive⟩ rfl
  | shuffle _ _ =>
      refine iff_of_true ⟨.nil, ?_⟩ rfl
      rintro _ ⟨⟩
      simp
  | reply isCalling issues replied =>
      rw [expected_reply mPrefix isCalling]
      exact survives_reply_iff trace issues replied
  | deliver holding _ =>
      refine iff_of_true ⟨?_, alive⟩ rfl
      obtain ⟨named, last, returned⟩ := consistent.received _ _ holding
      obtain ⟨before, after, split⟩ := List.append_of_mem returned
      -- It was returned with the string that it holds.
      have isString := survives before _ after split named
      rw [isString] at returned
      rw [EventMachine.Justified.singleton, List.append_nil]
      exact returned
  | drop _ _ => exact iff_of_true ⟨.nil, alive⟩ rfl

/-- In a run of the pump every read is valid, nothing is thrown, nothing but a
string from `GET` is returned with a name or delivered, and the thread comes
back to the head of its loop, exactly when every reply is nil or what the
command asks for. -/
theorem pump_survives_iff
    {mPrefix : Bytes}
    {labels : List (PollLabel κ)}
    {trace : List (PollEvent κ)}
    {poller : Poller κ}
    (run : EventMachine.Run (threadMain mPrefix) EventMachine.always {} labels
      trace poller) :
    EventMachine.Throughout (threadMain mPrefix) EventMachine.always
        ({} : Poller κ)
        (fun _ trace poller => EventMachine.Justified Survives trace ∧
          ReturnsWithin mPrefix 4 poller) labels ↔
      EventMachine.EachStep (threadMain mPrefix) EventMachine.always
        ({} : Poller κ)
        (fun _ poller label => expected mPrefix poller label = true) labels := by
  have returns_iff : ∀ {trace : List (PollEvent κ)} {poller : Poller κ},
      Consistent trace poller →
        (ReturnsWithin mPrefix 4 poller ↔ Alive poller) := by
    intro trace poller consistent
    exact ⟨alive_of_returnsWithin consistent,
      fun alive => returnsWithin_of_alive consistent alive (distance_le poller)⟩
  refine run.throughout_iff ⟨.nil, .head (.inl rfl)⟩ ?_
  intro labels trace poller label next events run law _ steps
  have consistent := consistent_of_run run
  have stepped := stepped_of_threadMain steps
  rw [returns_iff (consistent.step stepped)]
  exact survives_step_iff consistent law.1 ((returns_iff consistent).mp law.2)
    stepped

/-- A message that is fetched and delivered. -/
theorem pump_survives_message :
    ∃ trace, ∃ poller : Poller Nat,
      EventMachine.Run (threadMain (ascii "asgi:")) EventMachine.always {}
        [.addChannel (ascii "c") 7, .snapshot, .shuffle [[], ascii "asgi:c"],
          .reply (some (.array [ascii "asgi:c", ascii "k"])),
          .reply (some (.string [1])), .dispatch] trace poller ∧
      .delivered 7 (ascii "c") [1] ∈ trace ∧
      EventMachine.Throughout (threadMain (ascii "asgi:")) EventMachine.always
        ({} : Poller Nat)
        (fun _ trace poller => EventMachine.Justified Survives trace ∧
          ReturnsWithin (ascii "asgi:") 4 poller)
        [.addChannel (ascii "c") 7, .snapshot, .shuffle [[], ascii "asgi:c"],
          .reply (some (.array [ascii "asgi:c", ascii "k"])),
          .reply (some (.string [1])), .dispatch] := by
  have executes : EventMachine.checks (threadMain (ascii "asgi:"))
      (fun poller label => expected (ascii "asgi:") poller label = true)
      ({} : Poller Nat)
      [.addChannel (ascii "c") 7, .snapshot, .shuffle [[], ascii "asgi:c"],
        .reply (some (.array [ascii "asgi:c", ascii "k"])),
        .reply (some (.string [1])), .dispatch]
      (fun _ trace => .delivered 7 (ascii "c") [1] ∈ trace) = true := by
    decide +kernel
  obtain ⟨trace, poller, run, delivered⟩ := EventMachine.Run.of_checks executes
  have anyRun : EventMachine.Run (threadMain (ascii "asgi:"))
      EventMachine.always {}
      [.addChannel (ascii "c") 7, .snapshot, .shuffle [[], ascii "asgi:c"],
        .reply (some (.array [ascii "asgi:c", ascii "k"])),
        .reply (some (.string [1])), .dispatch] trace poller :=
    run.mono fun _ _ _ => trivial
  exact ⟨trace, poller, anyRun, delivered, (pump_survives_iff anyRun).mpr
    (run.eachStep (fun _ _ _ => trivial) fun _ _ _ isExpected => isExpected)⟩

/-- The text of an error reply to `GET` is delivered as a message, and a lost
connection ends the thread. -/
theorem error_text_delivered :
    (∃ trace, ∃ poller : Poller Nat,
      EventMachine.Run (threadMain (ascii "asgi:")) EventMachine.always {}
        [.addChannel (ascii "c") 7, .snapshot, .shuffle [[], ascii "asgi:c"],
          .reply (some (.array [ascii "asgi:c", ascii "k"])),
          .reply (some (.error (ascii "OOM"))), .dispatch] trace poller ∧
      .delivered 7 (ascii "c") (ascii "OOM") ∈ trace ∧
      ¬ EventMachine.Justified Survives trace) ∧
    ∃ trace, ∃ poller : Poller Nat,
      EventMachine.Run (threadMain (ascii "asgi:")) EventMachine.always {}
        [.addChannel (ascii "c") 7, .snapshot, .shuffle [[], ascii "asgi:c"],
          .reply none] trace poller ∧
      .died ∈ trace ∧ .read ⟨.type, none⟩ ∈ trace := by
  have delivers : EventMachine.checks (threadMain (ascii "asgi:"))
      EventMachine.always ({} : Poller Nat)
      [.addChannel (ascii "c") 7, .snapshot, .shuffle [[], ascii "asgi:c"],
        .reply (some (.array [ascii "asgi:c", ascii "k"])),
        .reply (some (.error (ascii "OOM"))), .dispatch]
      (fun _ trace => .delivered 7 (ascii "c") (ascii "OOM") ∈ trace ∧
        .returned (ascii "c") (ascii "OOM") (some (.error (ascii "OOM"))) ∈
          trace) = true := by
    decide +kernel
  have dies : EventMachine.checks (threadMain (ascii "asgi:"))
      EventMachine.always ({} : Poller Nat)
      [.addChannel (ascii "c") 7, .snapshot, .shuffle [[], ascii "asgi:c"],
        .reply none]
      (fun _ trace => .died ∈ trace ∧ .read ⟨.type, none⟩ ∈ trace) = true := by
    decide +kernel
  obtain ⟨trace, poller, run, delivered, returned⟩ :=
    EventMachine.Run.of_checks delivers
  refine ⟨⟨trace, poller, run, delivered, ?_⟩,
    EventMachine.Run.of_checks dies⟩
  intro survives
  obtain ⟨before, after, split⟩ := List.append_of_mem returned
  have isString := survives before _ after split (by decide)
  cases isString

end Poller
end IisAsgiHandler
