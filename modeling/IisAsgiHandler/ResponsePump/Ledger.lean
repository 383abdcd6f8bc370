import Mathlib.Data.List.Perm.Basic
import IisAsgiHandler.ResponsePump.System

/-!
# The ledger of the response pump

What the events of a run say about its last state: the callback map, the
numbers given so far, the messages handled and the one in hand, the tasks run
and those that wait, and the queues.  The messages handled, followed by the one
that the thread holds, are exactly the messages popped from channels that have
a name.
-/

namespace IisAsgiHandler

open PumpEvent

variable {κ : Type}

/-- The message that the pump thread holds. -/
def PumpSystem.inHand (system : PumpSystem κ) : List PoppedMessage :=
  match system.pump.thread with
  | .received channel data => [⟨system.popped, channel, data⟩]
  | _ => []

/-- What the pump thread polls or holds was registered at the last snapshot,
and nothing has been dispatched since. -/
def Polled (trace : List (PumpEvent κ)) : PumpThread → Prop
  | .receiving channelNames => SinceSnapshot trace fun before after =>
      (∀ channel ∈ channelNames, (registeredAfter before channel).isSome) ∧
        dispatchedTasks after = []
  | .received channel _ => SinceSnapshot trace fun before after =>
      (registeredAfter before channel).isSome ∧ dispatchedTasks after = []
  | .loopHead | .exited => True

/-- What the events of a run say about its last state. -/
structure Ledger (trace : List (PumpEvent κ)) (system : PumpSystem κ) : Prop where
  registered : system.pump.registered = registeredAfter trace
  added : ∀ channel registration callback,
    .addChannel channel registration callback ∈ trace →
      registration < system.registrations
  numbers : (poppedMessages trace).map PoppedMessage.number =
    (List.range system.popped).map (· + 1)
  handled : handledMessages trace ++ system.inHand =
    (poppedMessages trace).filter fun message => message.channel ≠ []
  tasks : (dispatchedTasks trace).Perm (invokedTasks trace ++ system.tasks)
  spent : ((dispatchedTasks trace).map PumpTask.registration).Nodup
  current : ∀ channel registration callback,
    system.pump.registered channel = some (registration, callback) →
      registration < system.registrations ∧
      (∀ other later,
        system.pump.registered other = some (registration, later) →
          other = channel) ∧
      ∀ task ∈ dispatchedTasks trace, task.registration ≠ registration
  used : ∀ task ∈ dispatchedTasks trace,
    task.registration < system.registrations
  queues : ∀ channel,
    ((poppedMessages trace).filter fun message =>
        message.channel = channel).map PoppedMessage.data ++
      system.queues channel = sentOn channel trace
  polled : Polled trace system.pump.thread

variable {trace events : List (PumpEvent κ)}
variable {system next : PumpSystem κ}

namespace PumpSystem.Moved

/-- A step shows at most one event. -/
theorem events_eq (moved : system.Moved next events) :
    events = [] ∨ ∃ event, events = [event] := by
  cases moved with
  | quiet => exact .inl rfl
  | _ => exact .inr ⟨_, rfl⟩

theorem registered
    (same : system.pump.registered = registeredAfter trace)
    (moved : system.Moved next events) :
    next.pump.registered = registeredAfter (trace ++ events) := by
  cases moved with
  | quiet pump callbacks =>
      rw [List.append_nil, ← same]
      funext channel
      simp only [ResponsePump.registered, callbacks]
  | addChannel channel callback =>
      rw [registeredAfter_append, ← same]
      exact system.pump.registered_addChannel_eq channel _
  | removeChannel channel =>
      rw [registeredAfter_append, ← same]
      exact system.pump.registered_removeChannel_eq channel
  | dispatch channel data registration callback =>
      rw [registeredAfter_append, ← same]
      exact system.pump.registered_removeChannel_eq channel
  | _ =>
      rw [registeredAfter_append, ← same]
      rfl

theorem added
    (bounded : ∀ channel registration callback,
      .addChannel channel registration callback ∈ trace →
        registration < system.registrations)
    (moved : system.Moved next events) :
    ∀ channel registration callback,
      .addChannel channel registration callback ∈ trace ++ events →
        registration < next.registrations := by
  intro channel registration callback member
  rcases List.mem_append.mp member with earlier | last
  · have before := bounded channel registration callback earlier
    cases moved <;> simp only <;> omega
  · cases moved <;> simp_all

theorem numbers
    (counted : (poppedMessages trace).map PoppedMessage.number =
      (List.range system.popped).map (· + 1))
    (moved : system.Moved next events) :
    (poppedMessages (trace ++ events)).map PoppedMessage.number =
      (List.range next.popped).map (· + 1) := by
  rw [poppedMessages_append, List.map_append, counted]
  cases moved <;> simp [poppedMessages, List.range_succ]

theorem handled
    (settled : handledMessages trace ++ system.inHand =
      (poppedMessages trace).filter fun message => message.channel ≠ [])
    (moved : system.Moved next events) :
    handledMessages (trace ++ events) ++ next.inHand =
      (poppedMessages (trace ++ events)).filter
        fun message => message.channel ≠ [] := by
  rw [handledMessages_append, poppedMessages_append, List.filter_append,
    ← settled]
  unfold inHand
  cases moved with
  | quiet pump callbacks thread =>
      rcases thread with same | ⟨left, waiting⟩
      · simp [same, handledMessages, poppedMessages]
      · have nothing : system.inHand = [] := by
          unfold inHand
          split
          · rename_i channel data holding
            exact absurd holding (waiting channel data)
          · rfl
        unfold inHand at nothing
        rw [nothing]
        rcases left with atHead | exited
        · simp [atHead, handledMessages, poppedMessages]
        · simp [exited, handledMessages, poppedMessages]
  | receive channelNames channel data rest thread waiting polled front next =>
      rcases next with ⟨rfl, nonempty⟩ | ⟨rfl, rfl⟩
      · simp [waiting, nonempty, handledMessages, poppedMessages]
      · simp [waiting, handledMessages, poppedMessages]
  | _ => simp_all [handledMessages, poppedMessages]

theorem tasks
    (balanced : (dispatchedTasks trace).Perm
      (invokedTasks trace ++ system.tasks))
    (moved : system.Moved next events) :
    (dispatchedTasks (trace ++ events)).Perm
      (invokedTasks (trace ++ events) ++ next.tasks) := by
  rw [dispatchedTasks_append, invokedTasks_append]
  cases moved with
  | dispatch channel data registration callback =>
      simpa [dispatchedTasks, invokedTasks, ← List.append_assoc]
        using balanced.append_right _
  | invoke index task found =>
      obtain ⟨inside, rfl⟩ := List.getElem?_eq_some_iff.mp found
      have taken := List.getElem_cons_eraseIdx_perm inside
      simp only [dispatchedTasks, invokedTasks] at balanced ⊢
      simpa using balanced.trans (taken.symm.append_left _)
  | _ => simpa [dispatchedTasks, invokedTasks] using balanced

theorem dispatched_eq
    (moved : system.Moved next events) :
    dispatchedTasks events = [] ∨
      ∃ task, dispatchedTasks events = [task] ∧
        system.pump.registered task.message.channel =
          some (task.registration, task.callback) ∧
        next.pump.registered =
          Function.update system.pump.registered task.message.channel none := by
  cases moved with
  | dispatch channel data registration callback holding found =>
      refine .inr ⟨_, rfl, found, ?_⟩
      exact system.pump.registered_removeChannel_eq channel
  | _ => exact .inl rfl

theorem spent
    (ledger : Ledger trace system)
    (moved : system.Moved next events) :
    ((dispatchedTasks (trace ++ events)).map PumpTask.registration).Nodup := by
  rw [dispatchedTasks_append, List.map_append]
  rcases moved.dispatched_eq with none | ⟨task, one, found, _⟩
  · rw [none]
    simpa using ledger.spent
  · rw [one]
    obtain ⟨_, _, fresh⟩ := ledger.current _ _ _ found
    refine List.nodup_append.mpr ⟨ledger.spent, List.nodup_singleton _, ?_⟩
    intro registration member other last
    obtain ⟨earlier, dispatched, rfl⟩ := List.mem_map.mp member
    rw [List.map_singleton, List.mem_singleton] at last
    rw [last]
    exact fresh earlier dispatched

theorem registrations_le (moved : system.Moved next events) :
    system.registrations ≤ next.registrations := by
  cases moved <;> simp

theorem used
    (ledger : Ledger trace system)
    (moved : system.Moved next events) :
    ∀ task ∈ dispatchedTasks (trace ++ events),
      task.registration < next.registrations := by
  intro task member
  have more := moved.registrations_le
  rw [dispatchedTasks_append] at member
  rcases List.mem_append.mp member with earlier | last
  · exact Nat.lt_of_lt_of_le (ledger.used task earlier) more
  · rcases moved.dispatched_eq with none | ⟨other, one, found, _⟩
    · simp [none] at last
    · rw [one] at last
      rw [List.mem_singleton.mp last]
      exact Nat.lt_of_lt_of_le (ledger.current _ _ _ found).1 more

/-- A step registers a fresh number, or it only removes registrations. -/
theorem registered_eq
    (moved : system.Moved next events) :
    (∃ channel callback,
      next.pump.registered = Function.update system.pump.registered channel
          (some (system.registrations, callback)) ∧
        next.registrations = system.registrations + 1 ∧
        dispatchedTasks events = []) ∨
      ∀ channel callback, next.pump.registered channel = some callback →
        system.pump.registered channel = some callback := by
  have removes : ∀ removed channel callback,
      Function.update system.pump.registered removed none channel =
        some callback → system.pump.registered channel = some callback := by
    intro removed channel callback found
    by_cases same : channel = removed
    · simp [same] at found
    · rwa [Function.update_of_ne same] at found
  cases moved with
  | addChannel channel callback =>
      refine .inl ⟨channel, callback, ?_, rfl, rfl⟩
      exact system.pump.registered_addChannel_eq channel _
  | removeChannel channel =>
      refine .inr ?_
      rw [system.pump.registered_removeChannel_eq channel]
      exact removes channel
  | dispatch channel =>
      refine .inr ?_
      intro other callback found
      apply removes channel
      rw [← system.pump.registered_removeChannel_eq channel]
      exact found
  | quiet pump callbacks =>
      refine .inr ?_
      intro channel callback found
      unfold ResponsePump.registered at found ⊢
      rwa [callbacks] at found
  | _ => exact .inr fun channel callback found => found

theorem current
    (ledger : Ledger trace system)
    (moved : system.Moved next events) :
    ∀ channel registration callback,
      next.pump.registered channel = some (registration, callback) →
        registration < next.registrations ∧
        (∀ other later,
          next.pump.registered other = some (registration, later) →
            other = channel) ∧
        ∀ task ∈ dispatchedTasks (trace ++ events),
          task.registration ≠ registration := by
  intro channel registration callback found
  rw [dispatchedTasks_append]
  rcases moved.registered_eq with
    ⟨added, addedCallback, adds, counted, none⟩ | fewer
  · rw [adds] at found ⊢
    rw [counted, none, List.append_nil]
    by_cases same : channel = added
    · subst same
      rw [Function.update_self, Option.some.injEq, Prod.mk.injEq] at found
      obtain ⟨rfl, _⟩ := found
      refine ⟨by omega, ?_, ?_⟩
      · intro other later foundOther
        by_contra different
        rw [Function.update_of_ne different] at foundOther
        exact absurd (ledger.current _ _ _ foundOther).1 (Nat.lt_irrefl _)
      · intro task dispatched
        exact Nat.ne_of_lt (ledger.used task dispatched)
    · rw [Function.update_of_ne same] at found
      obtain ⟨bounded, unique, fresh⟩ := ledger.current _ _ _ found
      refine ⟨by omega, ?_, fresh⟩
      intro other later foundOther
      by_cases isAdded : other = added
      · subst isAdded
        rw [Function.update_self, Option.some.injEq, Prod.mk.injEq]
          at foundOther
        omega
      · rw [Function.update_of_ne isAdded] at foundOther
        exact unique other later foundOther
  · obtain ⟨bounded, unique, fresh⟩ :=
      ledger.current _ _ _ (fewer _ _ found)
    refine ⟨Nat.lt_of_lt_of_le bounded moved.registrations_le, ?_, ?_⟩
    · intro other later foundOther
      exact unique other later (fewer _ _ foundOther)
    · intro task member
      rcases List.mem_append.mp member with earlier | last
      · exact fresh task earlier
      · rcases moved.dispatched_eq with none | ⟨one, isOne, foundOne, cleared⟩
        · simp [none] at last
        · rw [isOne] at last
          rw [List.mem_singleton.mp last]
          intro equal
          subst equal
          have here := unique _ _ foundOne
          rw [cleared, ← here, Function.update_self] at found
          contradiction

theorem queues
    (accounted : ∀ channel,
      ((poppedMessages trace).filter fun message =>
          message.channel = channel).map PoppedMessage.data ++
        system.queues channel = sentOn channel trace)
    (moved : system.Moved next events) :
    ∀ channel,
      ((poppedMessages (trace ++ events)).filter fun message =>
          message.channel = channel).map PoppedMessage.data ++
        next.queues channel = sentOn channel (trace ++ events) := by
  intro channel
  have before := accounted channel
  rw [poppedMessages_append, sentOn_append, List.filter_append,
    List.map_append, ← before]
  cases moved with
  | send other data =>
      by_cases same : other = channel
      · subst same
        simp [poppedMessages, sentOn]
      · simp [same, system.queues.send_ne data (Ne.symm same), poppedMessages,
          sentOn]
  | receive channelNames other data rest thread waiting polled front =>
      by_cases same : other = channel
      · subst same
        simp [front, poppedMessages, sentOn]
      · simp [same, Function.update_of_ne (Ne.symm same), poppedMessages,
          sentOn]
  | _ => simp [poppedMessages, sentOn]

end PumpSystem.Moved

/-- An event that is neither a snapshot nor a dispatch changes nothing that is
known since the snapshot. -/
theorem Polled.append
    {thread : PumpThread}
    {event : PumpEvent κ}
    (polled : Polled trace thread)
    (different : event ≠ .snapshot)
    (silent : dispatchedTasks [event] = []) :
    Polled (trace ++ [event]) thread := by
  cases thread with
  | receiving channelNames | received channel data =>
      refine SinceSnapshot.append polled different ?_
      rintro before after ⟨registered, none⟩
      exact ⟨registered, by rw [dispatchedTasks_append, none, silent]; rfl⟩
  | loopHead | exited => trivial

theorem PumpSystem.Moved.polled
    (ledger : Ledger trace system)
    (moved : system.Moved next events) :
    Polled (trace ++ events) next.pump.thread := by
  have polled := ledger.polled
  cases moved with
  | quiet pump callbacks thread =>
      rw [List.append_nil]
      rcases thread with same | ⟨atHead | exited, _⟩
      · simpa only [same] using polled
      · simp only [atHead]
        trivial
      · simp only [exited]
        trivial
  | addChannel channel callback | removeChannel channel | send channel data
  | invoke index task found =>
      exact polled.append (by simp) rfl
  | snapshot atHead =>
      refine ⟨trace, [], rfl, by simp, ?_, rfl⟩
      intro channel member
      rw [← ledger.registered]
      exact (system.pump.mem_keys_iff channel).mp member
  | receive channelNames channel data rest thread waiting offered front next =>
      rcases next with ⟨rfl, nonempty⟩ | ⟨rfl, rfl⟩
      · rw [waiting] at polled
        refine SinceSnapshot.append polled (by simp) ?_
        rintro before after ⟨registered, none⟩
        exact ⟨registered channel offered,
          by rw [dispatchedTasks_append, none]; rfl⟩
      · trivial
  | dispatch | drop => trivial

/-- The ledger is kept by every step. -/
theorem Ledger.step
    (ledger : Ledger trace system)
    (moved : system.Moved next events) :
    Ledger (trace ++ events) next where
  registered := moved.registered ledger.registered
  added := moved.added ledger.added
  numbers := moved.numbers ledger.numbers
  handled := moved.handled ledger.handled
  tasks := moved.tasks ledger.tasks
  spent := moved.spent ledger
  current := moved.current ledger
  used := moved.used ledger
  queues := moved.queues ledger.queues
  polled := moved.polled ledger

theorem Ledger.initial : Ledger [] ({} : PumpSystem κ) where
  registered := rfl
  added := by simp
  numbers := rfl
  handled := rfl
  tasks := List.Perm.refl _
  spent := List.nodup_nil
  current := by simp
  used := by simp [dispatchedTasks]
  queues _ := rfl
  polled := trivial

end IisAsgiHandler
