import IisAsgiHandler.Library.Components
import IisAsgiHandler.ResponsePump.Basic

/-!
# The response pump as a component

Handlers use the pump as a component: they request registrations, and the pump
hands them tasks.  Over queues, which stand for the channel layer, a message is
sent and popped in one step.
-/

namespace IisAsgiHandler

/-- What another thread asks of the pump. -/
inductive PumpRequest (κ : Type)
  | addChannel (channel : Bytes) (callback : κ)
  | removeChannel (channel : Bytes)
  deriving DecidableEq

/-- A message that an application has sent. -/
structure SentMessage where
  channel : Bytes
  data : Bytes
  deriving DecidableEq

/-- What happens next to the pump and the queues. -/
inductive QueuePumpLabel
  | pump (label : PumpLabel)
  | send (channel data : Bytes)
  | stop
  deriving DecidableEq

namespace ResponsePump

variable {κ : Type}

/-- What a request does to the pump. -/
def accept (pump : ResponsePump κ) : PumpRequest κ → ResponsePump κ
  | .addChannel channel callback => pump.addChannel channel callback
  | .removeChannel channel => pump.removeChannel channel

@[simp] theorem thread_accept (pump : ResponsePump κ) (request : PumpRequest κ) :
    (pump.accept request).thread = pump.thread := by
  cases request <;> rfl

@[simp] theorem threadStop_accept
    (pump : ResponsePump κ) (request : PumpRequest κ) :
    (pump.accept request).threadStop = pump.threadStop := by
  cases request <;> rfl

/-- The thread goes on if it has not been told to stop. -/
theorem threadStop_of_snapshot
    {pump : ResponsePump κ}
    {queues : ChannelQueues}
    {result : PumpStep κ}
    (steps : pump.threadMain queues .snapshot = some result)
    (goesOn : result.pump.thread ≠ .exited) :
    pump.threadStop = false := by
  simp only [threadMain] at steps
  split at steps
  · split at steps
    · cases steps
      exact absurd rfl goesOn
    · simp_all
  · cases steps

/-! ## Names of callbacks -/

section Relabels

variable {κ' : Type}

/-- Two pumps that differ in their callbacks only: one has a name for each of
the other's. -/
structure Relabels
    (name : κ → κ') (pump : ResponsePump κ) (image : ResponsePump κ') : Prop where
  thread : image.thread = pump.thread
  threadStop : image.threadStop = pump.threadStop
  keys : image.callbacks.keys = pump.callbacks.keys
  registered : ∀ channel,
    image.registered channel = (pump.registered channel).map name

variable {name : κ → κ'}
variable {pump : ResponsePump κ}
variable {image : ResponsePump κ'}

theorem relabels_empty : Relabels name {} {} where
  thread := rfl
  threadStop := rfl
  keys := rfl
  registered := by simp

theorem Relabels.addChannel
    (relabels : Relabels name pump image)
    (channel : Bytes)
    (callback : κ) :
    Relabels name (pump.addChannel channel callback)
      (image.addChannel channel (name callback)) where
  thread := relabels.thread
  threadStop := relabels.threadStop
  keys := by simp [ResponsePump.addChannel, AList.keys_insert, relabels.keys]
  registered other := by
    by_cases same : other = channel
    · subst same
      simp
    · rw [registered_addChannel_ne _ _ same, registered_addChannel_ne _ _ same]
      exact relabels.registered other

theorem Relabels.removeChannel
    (relabels : Relabels name pump image)
    (channel : Bytes) :
    Relabels name (pump.removeChannel channel) (image.removeChannel channel) where
  thread := relabels.thread
  threadStop := relabels.threadStop
  keys := by simp [ResponsePump.removeChannel, relabels.keys]
  registered other := by
    by_cases same : other = channel
    · subst same
      simp
    · rw [registered_removeChannel_ne _ same, registered_removeChannel_ne _ same]
      exact relabels.registered other

/-- Only the thread changes. -/
theorem Relabels.goTo (relabels : Relabels name pump image) (thread : PumpThread) :
    Relabels name { pump with thread := thread } { image with thread := thread } where
  thread := rfl
  threadStop := relabels.threadStop
  keys := relabels.keys
  registered := relabels.registered

/-- Both threads take the same steps. -/
theorem Relabels.threadMain
    {queues : ChannelQueues}
    {label : PumpLabel}
    {result : PumpStep κ}
    (relabels : Relabels name pump image)
    (steps : pump.threadMain queues label = some result) :
    ∃ imageResult, image.threadMain queues label = some imageResult ∧
      Relabels name result.pump imageResult.pump ∧
      imageResult.queues = result.queues ∧
      imageResult.task = result.task.map fun task =>
        ⟨name task.callback, task.channel, task.data⟩ := by
  have sameThread := relabels.thread
  cases label with
  | snapshot =>
      simp only [ResponsePump.threadMain] at steps
      split at steps
      next atHead =>
        split_ifs at steps with stop noKeys <;> cases steps
        · refine ⟨{ pump := { image with thread := .exited }, queues := queues },
            ?_, relabels.goTo _, rfl, rfl⟩
          simp [ResponsePump.threadMain, sameThread, atHead, relabels.threadStop,
            stop]
        · refine ⟨{ pump := image, queues := queues }, ?_, relabels, rfl, rfl⟩
          simp [ResponsePump.threadMain, sameThread, atHead, relabels.threadStop,
            stop, relabels.keys, noKeys]
        · refine ⟨{
            pump := { image with thread := .receiving pump.callbacks.keys }
            queues := queues }, ?_, relabels.goTo _, rfl, rfl⟩
          simp [ResponsePump.threadMain, sameThread, atHead, relabels.threadStop,
            stop, relabels.keys, noKeys]
      next => cases steps
  | receiveMany popped =>
      simp only [ResponsePump.threadMain] at steps
      split at steps
      next waiting =>
        cases steps
        refine ⟨{ pump := { image with thread := .loopHead }, queues := queues },
          ?_, relabels.goTo _, rfl, rfl⟩
        simp [ResponsePump.threadMain, sameThread, waiting]
      next channelNames channel waiting =>
        split at steps
        next => cases steps
        next data rest front =>
          rw [Option.ite_none_right_eq_some] at steps
          obtain ⟨asked, equal⟩ := steps
          cases equal
          refine ⟨{
            pump := { image with
              thread :=
                if channel = [] then .loopHead else .received channel data }
            queues := Function.update queues channel rest }, ?_,
            relabels.goTo _, rfl, rfl⟩
          simp [ResponsePump.threadMain, sameThread, waiting, front, asked]
      next => cases steps
  | dispatch =>
      simp only [ResponsePump.threadMain] at steps
      split at steps
      next channel data holding =>
        split at steps
        next callback found =>
          cases steps
          refine ⟨{
            pump := { image.removeChannel channel with thread := .loopHead }
            queues := queues
            task := some ⟨name callback, channel, data⟩ }, ?_,
            (relabels.removeChannel channel).goTo _, rfl, rfl⟩
          simp [ResponsePump.threadMain, sameThread, holding,
            relabels.registered, found]
        next missing =>
          cases steps
          refine ⟨{ pump := { image with thread := .loopHead }, queues := queues },
            ?_, relabels.goTo _, rfl, rfl⟩
          simp [ResponsePump.threadMain, sameThread, holding,
            relabels.registered, missing]
      next => cases steps

end Relabels

end ResponsePump

/-- The pump over queues. -/
def queuePump (κ : Type) :
    EventMachine.Component (ResponsePump κ × ChannelQueues) QueuePumpLabel
      SentMessage (PumpRequest κ) (DispatchedTask κ) where
  accept inner request := (inner.1.accept request, inner.2)
  step
    | (pump, queues), .pump label =>
        (pump.threadMain queues label).map fun result =>
          ((result.pump, result.queues), result.task.toList, [])
    | (pump, queues), .send channel data =>
        some ((pump, queues.send channel data), [], [⟨channel, data⟩])
    | (pump, queues), .stop =>
        some (({ pump with threadStop := true }, queues), [], [])

/-- The messages sent to a channel. -/
def messagesTo (channel : Bytes) (messages : List SentMessage) : List Bytes :=
  messages.filterMap fun message =>
    if message.channel = channel then some message.data else none

end IisAsgiHandler
