import Mathlib.Data.List.AList
import Mathlib.Logic.Function.Basic
import IisAsgiHandler.Messages

/-!
# The response pump

One thread polls the channel layer for every channel that has a callback and
hands each message that it receives to the callback registered for the
message's channel.  The callback map is locked only while it is read or
changed: an iteration of the thread takes a snapshot of the channel names,
waits in `ReceiveMany` with the lock dropped, and looks the callback up again
under the lock.  These three stretches are the atomic steps of the thread.

The channel layer is seen through its interface: every channel is a queue, and
`ReceiveMany` pops the front of one of the channels it is given, or nothing.
-/

namespace IisAsgiHandler

/-! ## The channel layer -/

/-- The messages sent to each channel and not received yet, oldest first. -/
abbrev ChannelQueues := Bytes → List Bytes

namespace ChannelQueues

/-- Append a message to a channel. -/
def send (queues : ChannelQueues) (channel data : Bytes) : ChannelQueues :=
  Function.update queues channel (queues channel ++ [data])

@[simp] theorem send_self (queues : ChannelQueues) (channel data : Bytes) :
    queues.send channel data channel = queues channel ++ [data] := by
  simp [send]

theorem send_ne
    (queues : ChannelQueues)
    {channel other : Bytes}
    (data : Bytes)
    (different : other ≠ channel) :
    queues.send channel data other = queues other := by
  simp [send, different]

end ChannelQueues

/-- `NewChannel` appends random characters to a prefix. -/
def newChannel (channelPrefix random : Bytes) : Bytes := channelPrefix ++ random

/-! ## The pump -/

/-- Where the pump thread is between two atomic steps. -/
inductive PumpThread
  /-- At the head of the loop. -/
  | loopHead
  /-- In `ReceiveMany` with a snapshot of the registered channels. -/
  | receiving (channelNames : List Bytes)
  /-- Holding a received message, before the lookup. -/
  | received (channel data : Bytes)
  /-- The loop has been left. -/
  | exited
  deriving DecidableEq

/-- The pump with callbacks of an arbitrary type. -/
structure ResponsePump (κ : Type) where
  callbacks : AList fun _ : Bytes => κ := ∅
  threadStop : Bool := false
  thread : PumpThread := .loopHead

/-- A task that the pump has created: a callback with the message it gets. -/
structure DispatchedTask (κ : Type) where
  callback : κ
  channel : Bytes
  data : Bytes
  deriving DecidableEq

/-- What the pump thread does next. -/
inductive PumpLabel
  /-- Test `m_thread_stop` and take the snapshot. -/
  | snapshot
  /-- `ReceiveMany` returns, having popped a message of the channel, if any. -/
  | receiveMany (popped : Option Bytes)
  /-- Look the callback up, erase it and create the task. -/
  | dispatch
  deriving DecidableEq

/-- What one step of the pump thread leads to. -/
structure PumpStep (κ : Type) where
  pump : ResponsePump κ
  queues : ChannelQueues
  task : Option (DispatchedTask κ) := none

namespace ResponsePump

variable {κ : Type}

/-- `AddChannel` registers a callback, replacing the channel's previous one. -/
def addChannel (pump : ResponsePump κ) (channel : Bytes) (callback : κ) :
    ResponsePump κ :=
  { pump with callbacks := pump.callbacks.insert channel callback }

/-- `RemoveChannel` drops a channel's callback, if it has one. -/
def removeChannel (pump : ResponsePump κ) (channel : Bytes) : ResponsePump κ :=
  { pump with callbacks := pump.callbacks.erase channel }

/-- The callback registered for a channel. -/
def registered (pump : ResponsePump κ) (channel : Bytes) : Option κ :=
  pump.callbacks.lookup channel

@[simp] theorem registered_empty (channel : Bytes) :
    ({} : ResponsePump κ).registered channel = none := rfl

@[simp] theorem registered_addChannel
    (pump : ResponsePump κ)
    (channel : Bytes)
    (callback : κ) :
    (pump.addChannel channel callback).registered channel = some callback := by
  simp [addChannel, registered]

theorem registered_addChannel_ne
    (pump : ResponsePump κ)
    {channel other : Bytes}
    (callback : κ)
    (different : other ≠ channel) :
    (pump.addChannel channel callback).registered other =
      pump.registered other := by
  simp [addChannel, registered, AList.lookup_insert_ne different]

@[simp] theorem registered_removeChannel
    (pump : ResponsePump κ)
    (channel : Bytes) :
    (pump.removeChannel channel).registered channel = none := by
  simp [removeChannel, registered]

theorem registered_removeChannel_ne
    (pump : ResponsePump κ)
    {channel other : Bytes}
    (different : other ≠ channel) :
    (pump.removeChannel channel).registered other = pump.registered other := by
  simp [removeChannel, registered, AList.lookup_erase_ne different]

/-- `AddChannel` changes one entry of the map. -/
theorem registered_addChannel_eq
    (pump : ResponsePump κ)
    (channel : Bytes)
    (callback : κ) :
    (pump.addChannel channel callback).registered =
      Function.update pump.registered channel (some callback) := by
  funext other
  by_cases same : other = channel
  · simp [same]
  · rw [pump.registered_addChannel_ne callback same,
      Function.update_of_ne same]

/-- `RemoveChannel` clears one entry of the map. -/
theorem registered_removeChannel_eq
    (pump : ResponsePump κ)
    (channel : Bytes) :
    (pump.removeChannel channel).registered =
      Function.update pump.registered channel none := by
  funext other
  by_cases same : other = channel
  · simp [same]
  · rw [pump.registered_removeChannel_ne same, Function.update_of_ne same]

@[simp] theorem thread_addChannel
    (pump : ResponsePump κ)
    (channel : Bytes)
    (callback : κ) :
    (pump.addChannel channel callback).thread = pump.thread := rfl

@[simp] theorem thread_removeChannel
    (pump : ResponsePump κ)
    (channel : Bytes) :
    (pump.removeChannel channel).thread = pump.thread := rfl

/-- The snapshot names exactly the channels that have a callback. -/
theorem mem_keys_iff
    (pump : ResponsePump κ)
    (channel : Bytes) :
    channel ∈ pump.callbacks.keys ↔ (pump.registered channel).isSome := by
  rw [registered, AList.lookup_isSome, AList.mem_keys]

/-- What is selected from the callbacks of a map, when only callbacks of one
channel are selected. -/
theorem filterMap_entries
    {β : Type}
    {channel : Bytes}
    (pump : ResponsePump κ)
    (select : κ → Option β)
    (owned : ∀ other callback, pump.registered other = some callback →
      (select callback).isSome → other = channel) :
    pump.callbacks.entries.filterMap (fun entry => select entry.2) =
      ((pump.registered channel).bind select).toList := by
  obtain ⟨⟨entries, distinct⟩, _, _⟩ := pump
  have member : ∀ entry ∈ entries, (select entry.2).isSome →
      entry.1 = channel := by
    intro entry inEntries selected
    exact owned entry.1 entry.2 (List.mem_dlookup distinct inEntries) selected
  change entries.filterMap _ = ((entries.dlookup channel).bind select).toList
  clear owned
  induction entries with
  | nil => rfl
  | cons entry entries inductionHypothesis =>
      obtain ⟨fresh, distinctRest⟩ := List.nodupKeys_cons.mp distinct
      have later : ∀ other ∈ entries, (select other.2).isSome →
          other.1 = channel := by
        intro other inEntries
        exact member other (List.mem_cons_of_mem entry inEntries)
      obtain ⟨key, callback⟩ := entry
      by_cases same : key = channel
      · subst same
        have rest : entries.filterMap (fun entry => select entry.2) = [] := by
          rw [List.filterMap_eq_nil_iff]
          intro other inEntries
          by_contra selected
          have inKeys := List.mem_keys_of_mem inEntries
          rw [later other inEntries (Option.ne_none_iff_isSome.mp selected)]
            at inKeys
          exact fresh inKeys
        rw [List.dlookup_cons_eq, List.filterMap_cons]
        cases selected : select callback with
        | none => simp [selected, rest]
        | some value => simp [selected, rest]
      · have unselected : select callback = none := by
          by_contra selected
          exact same (member ⟨key, callback⟩ List.mem_cons_self
            (Option.ne_none_iff_isSome.mp selected))
        rw [List.dlookup_cons_ne _ _ (Ne.symm same), List.filterMap_cons,
          unselected]
        exact inductionHypothesis distinctRest later

/-- One atomic step of `ThreadMain`. -/
def threadMain (pump : ResponsePump κ) (queues : ChannelQueues) :
    PumpLabel → Option (PumpStep κ)
  | .snapshot =>
      match pump.thread with
      | .loopHead =>
          if pump.threadStop then
            some { pump := { pump with thread := .exited }, queues := queues }
          -- With no channel registered the thread only sleeps.
          else if pump.callbacks.keys = [] then
            some { pump := pump, queues := queues }
          else
            some {
              pump := { pump with thread := .receiving pump.callbacks.keys }
              queues := queues }
      | _ => none
  | .receiveMany popped =>
      match pump.thread, popped with
      | .receiving _, none =>
          some { pump := { pump with thread := .loopHead }, queues := queues }
      | .receiving channelNames, some channel =>
          match queues channel with
          | [] => none
          | data :: rest =>
              if channel ∈ channelNames then
                some {
                  pump := { pump with
                    -- An empty channel name is taken for "no message".
                    thread :=
                      if channel = [] then .loopHead
                      else .received channel data }
                  queues := Function.update queues channel rest }
              else none
      | _, _ => none
  | .dispatch =>
      match pump.thread with
      | .received channel data =>
          match pump.registered channel with
          | some callback =>
              some {
                pump := { pump.removeChannel channel with thread := .loopHead }
                queues := queues
                task := some ⟨callback, channel, data⟩ }
          | none =>
              some { pump := { pump with thread := .loopHead }, queues := queues }
      | _ => none

/-! ## What a step of the thread can do -/

/-- The cases of one step of the pump thread. -/
inductive Stepped
    (pump : ResponsePump κ)
    (queues : ChannelQueues) : PumpLabel → PumpStep κ → Prop
  | exit :
      pump.thread = .loopHead →
      pump.threadStop = true →
      Stepped pump queues .snapshot
        { pump := { pump with thread := .exited }, queues := queues }
  | idle :
      pump.thread = .loopHead →
      Stepped pump queues .snapshot { pump := pump, queues := queues }
  | snapshot :
      pump.thread = .loopHead →
      Stepped pump queues .snapshot
        { pump := { pump with thread := .receiving pump.callbacks.keys }
          queues := queues }
  | nothing (channelNames : List Bytes) :
      pump.thread = .receiving channelNames →
      Stepped pump queues (.receiveMany none)
        { pump := { pump with thread := .loopHead }, queues := queues }
  | receive (channelNames : List Bytes) (channel data : Bytes)
      (rest : List Bytes) :
      pump.thread = .receiving channelNames →
      channel ∈ channelNames →
      queues channel = data :: rest →
      channel ≠ [] →
      Stepped pump queues (.receiveMany (some channel))
        { pump := { pump with thread := .received channel data }
          queues := Function.update queues channel rest }
  | discard (channelNames : List Bytes) (data : Bytes) (rest : List Bytes) :
      pump.thread = .receiving channelNames →
      [] ∈ channelNames →
      queues [] = data :: rest →
      Stepped pump queues (.receiveMany (some []))
        { pump := { pump with thread := .loopHead }
          queues := Function.update queues [] rest }
  | dispatch (channel data : Bytes) (callback : κ) :
      pump.thread = .received channel data →
      pump.registered channel = some callback →
      Stepped pump queues .dispatch
        { pump := { pump.removeChannel channel with thread := .loopHead }
          queues := queues
          task := some ⟨callback, channel, data⟩ }
  | drop (channel data : Bytes) :
      pump.thread = .received channel data →
      pump.registered channel = none →
      Stepped pump queues .dispatch
        { pump := { pump with thread := .loopHead }, queues := queues }

/-- Every step of the pump thread is one of these cases. -/
theorem threadMain_stepped
    {pump : ResponsePump κ}
    {queues : ChannelQueues}
    {label : PumpLabel}
    {result : PumpStep κ}
    (steps : pump.threadMain queues label = some result) :
    Stepped pump queues label result := by
  cases label with
  | snapshot =>
      simp only [threadMain] at steps
      split at steps
      · rename_i atHead
        split_ifs at steps with stop noKeys
        · cases steps
          exact .exit atHead stop
        · cases steps
          exact .idle atHead
        · cases steps
          exact .snapshot atHead
      · contradiction
  | receiveMany popped =>
      simp only [threadMain] at steps
      split at steps
      · rename_i names waiting
        cases steps
        exact .nothing names waiting
      · rename_i names channel waiting
        split at steps
        · contradiction
        · rename_i data rest front
          split_ifs at steps with offered empty
          · subst empty
            cases steps
            exact .discard names data rest waiting offered front
          · cases steps
            exact .receive names channel data rest waiting offered front empty
      · contradiction
  | dispatch =>
      simp only [threadMain] at steps
      split at steps
      · rename_i channel data holding
        split at steps
        · rename_i callback found
          cases steps
          exact .dispatch channel data callback holding found
        · rename_i missing
          cases steps
          exact .drop channel data holding missing
      · contradiction

end ResponsePump

end IisAsgiHandler
