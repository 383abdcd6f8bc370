import IisAsgiHandler.ChannelLayer.Delivery
import IisAsgiHandler.Library.Occurrences

/-!
# Senders and receivers

Whatever a `ReceiveMany` returns is the buffer of one `Send` to that channel,
and no two calls return what the same `Send` has sent.
-/

namespace IisAsgiHandler
namespace RedisChannelLayer

open Redis (Database Command Reply)

/-- Pushes show the `Send` that pushes, and a result shows in what its call has
popped. -/
structure Attributed
    (mPrefix : Bytes) (trace : List LayerEvent) (layer : Layer) : Prop where
  pushed : ∀ {index : Nat} {channel item payload : Bytes},
    .pushed index channel item payload ∈ trace →
    ∃ send, layer.calls[index]? = some (.send send) ∧
      send.channel = channel ∧ send.dataKey = item ∧ send.buffer = payload
  done : ∀ {index : Nat} {receive : Receive} {channel payload : Bytes},
    layer.calls[index]? = some (.receive receive) →
    receive.stage = .done channel payload → channel ≠ [] →
    ∃ item, .popped index (mPrefix ++ channel) item (some payload) ∈ trace

variable {mPrefix : Bytes}
variable {trace events : List LayerEvent}
variable {layer next : Layer}
variable {label : LayerLabel}

theorem attributed_initial (mPrefix : Bytes) : Attributed mPrefix [] {} where
  pushed := nofun
  done := by simp

/-- A step that pushes is one of the `Send` that it shows. -/
theorem Delivering.pushed_of_step
    {index : Nat}
    {channel item payload : Bytes}
    (delivering : Delivering mPrefix trace layer)
    (steps : LayerStep mPrefix layer label next events)
    (shown : .pushed index channel item payload ∈ events) :
    ∃ send, layer.calls[index]? = some (.send send) ∧
      send.channel = channel ∧ send.dataKey = item ∧ send.buffer = payload := by
  cases steps with
  | startSend generated => cases shown
  | startReceive shuffled => cases shown
  | @send current send command found issues =>
      unfold sendEvents at shown
      split at shown
      · cases List.mem_singleton.mp shown
        exact ⟨send, found, rfl, rfl, rfl⟩
      · cases shown
  | @receive current receive command found issues =>
      obtain ⟨stage, reads, -, isEvents, step⟩ :=
        delivering.receive_step found issues
      rw [isEvents] at shown
      cases step with
      | popped start asked located begun => cases List.mem_singleton.mp shown
      | empty start => cases List.mem_singleton.mp shown
      | refused start => cases shown
      | got stage held => cases List.mem_singleton.mp shown
  | elapse => cases shown

/-- A call that returns with a channel has popped what it returns. -/
theorem Delivering.done_of_step
    {index : Nat}
    {receive : Receive}
    {channel payload : Bytes}
    (delivering : Delivering mPrefix trace layer)
    (attributed : Attributed mPrefix trace layer)
    (steps : LayerStep mPrefix layer label next events)
    (located : next.calls[index]? = some (.receive receive))
    (done : receive.stage = .done channel payload)
    (named : channel ≠ []) :
    ∃ item, .popped index (mPrefix ++ channel) item (some payload) ∈ trace := by
  cases steps with
  | startSend generated =>
      rcases getElem?_append_singleton located with before | ⟨-, isNew⟩
      · exact attributed.done before done named
      · cases isNew
  | startReceive shuffled =>
      rcases getElem?_append_singleton located with before | ⟨-, isNew⟩
      · exact attributed.done before done named
      · cases isNew
        cases done
  | @send current send command found issues =>
      rcases getElem?_set_cases located with ⟨-, isNew⟩ | ⟨-, before⟩
      · cases isNew
      · exact attributed.done before done named
  | @receive current earlier command found issues =>
      rcases getElem?_set_cases located with ⟨rfl, isNew⟩ | ⟨-, before⟩
      · obtain ⟨stage, shown, advanced, -, step⟩ :=
          delivering.receive_step found issues
        rw [advanced] at isNew
        cases isNew
        change stage = .done channel payload at done
        subst done
        cases step with
        | empty start => exact absurd rfl named
        | @got _ item _ stage held =>
            obtain ⟨-, sender, send, sent, begun, rfl, popped⟩ :=
              (delivering.receives found).2.2 _ _ stage
            rw [delivering.stocked.stored sent begun] at held
            cases held
            exact ⟨send.dataKey, popped⟩
      · exact attributed.done before done named
  | elapse => exact attributed.done located done named

theorem Attributed.step
    (attributed : Attributed mPrefix trace layer)
    (delivering : Delivering mPrefix trace layer)
    (steps : LayerStep mPrefix layer label next events) :
    Attributed mPrefix (trace ++ events) next where
  pushed := by
    intro index channel item payload member
    have before : ∃ send, layer.calls[index]? = some (.send send) ∧
        send.channel = channel ∧ send.dataKey = item ∧ send.buffer = payload := by
      rcases List.mem_append.mp member with old | new
      · exact attributed.pushed old
      · exact delivering.pushed_of_step steps new
    obtain ⟨send, located, isChannel, isItem, isPayload⟩ := before
    obtain ⟨later, found, dataKey, channel, buffer, -⟩ := steps.send_after located
    exact ⟨later, found, channel.trans isChannel, dataKey.trans isItem,
      buffer.trans isPayload⟩
  done := by
    intro index receive channel payload located done named
    obtain ⟨item, popped⟩ :=
      delivering.done_of_step attributed steps located done named
    exact ⟨item, List.mem_append_left events popped⟩

/-- No key is popped by two calls. -/
theorem Delivering.popper_unique
    {index other : Nat}
    {key otherKey item : Bytes}
    {held otherHeld : Option Bytes}
    (delivering : Delivering mPrefix trace layer)
    (popped : .popped index key item held ∈ trace)
    (again : .popped other otherKey item otherHeld ∈ trace) :
    index = other := by
  have once : (poppedItems trace).Nodup := by
    rw [← pops_items mPrefix]
    exact delivering.queues.nodup_pops Prod.fst delivering.pushedOnce
  have same := Occurrences.eq_of_nodup once popped again rfl rfl
  cases same
  rfl

/-- What a call has popped was pushed by a `Send` to that channel. -/
theorem Delivering.sender_of_popped
    {index : Nat}
    {channel item payload : Bytes}
    (delivering : Delivering mPrefix trace layer)
    (attributed : Attributed mPrefix trace layer)
    (popped : .popped index (mPrefix ++ channel) item (some payload) ∈ trace) :
    ∃ (sender : Nat) (send : Send), layer.calls[sender]? = some (.send send) ∧
      send.channel = channel ∧ send.dataKey = item ∧ send.buffer = payload := by
  have taken : (mPrefix ++ channel, item, some payload) ∈
      Queues.pops (operations mPrefix trace) := by
    apply List.mem_filterMap.mpr
    exact ⟨.pop (mPrefix ++ channel) (item, some payload),
      List.mem_filterMap.mpr ⟨_, popped, rfl⟩, rfl⟩
  obtain ⟨operation, member, isPush⟩ :=
    List.mem_filterMap.mp (delivering.queues.pushed_of_popped taken)
  obtain ⟨event, shown, isOperation⟩ := List.mem_filterMap.mp member
  cases event with
  | pushed sender name pushedItem pushedPayload =>
      cases isOperation
      simp only [Option.some.injEq, Prod.mk.injEq, List.append_cancel_left_eq]
        at isPush
      obtain ⟨rfl, rfl, rfl⟩ := isPush
      exact ⟨sender, attributed.pushed shown⟩
  | popped index key item held =>
      cases isOperation
      cases isPush
  | returned index channels channel payload => cases isOperation

/-- A call of `ReceiveMany` has returned a message of a channel. -/
def Layer.Received
    (layer : Layer) (index : Nat) (channel payload : Bytes) : Prop :=
  ∃ receive, layer.calls[index]? = some (.receive receive) ∧
    receive.stage = .done channel payload

/-- The `Send` that a call has received from. -/
theorem Delivering.sender_of_received
    {index : Nat}
    {channel payload : Bytes}
    (delivering : Delivering mPrefix trace layer)
    (attributed : Attributed mPrefix trace layer)
    (received : layer.Received index channel payload)
    (named : channel ≠ []) :
    ∃ (sender : Nat) (send : Send), layer.calls[sender]? = some (.send send) ∧
      send.channel = channel ∧ send.buffer = payload ∧
      .popped index (mPrefix ++ channel) send.dataKey (some payload) ∈ trace := by
  obtain ⟨receive, located, done⟩ := received
  obtain ⟨item, popped⟩ := attributed.done located done named
  obtain ⟨sender, send, sent, isChannel, rfl, isPayload⟩ :=
    delivering.sender_of_popped attributed popped
  exact ⟨sender, send, sent, isChannel, isPayload, popped⟩

end RedisChannelLayer
end IisAsgiHandler
