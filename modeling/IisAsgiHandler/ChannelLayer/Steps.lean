import IisAsgiHandler.ChannelLayer.Basic

/-!
# Steps of the channel layer

What a step can do is said once.  Generated keys that are new when their `Send`
begins name nothing else for the rest of the run.
-/

namespace IisAsgiHandler
namespace RedisChannelLayer

open Redis (Database Command Reply)

/-- The steps of the channel layer. -/
inductive LayerStep (mPrefix : Bytes) (layer : Layer) :
    LayerLabel → Layer → List LayerEvent → Prop
  | startSend {channel buffer random : Bytes}
      (generated : IsRandomAscii 10 random) :
      LayerStep mPrefix layer (.startSend channel buffer random)
        { layer with
          calls := layer.calls ++ [.send {
            channel := channel, buffer := buffer,
            dataKey := mPrefix ++ random }] } []
  | startReceive {channels keys : List Bytes}
      (shuffled : keys.Perm (prefixedChannels mPrefix channels)) :
      LayerStep mPrefix layer (.startReceive channels keys)
        { layer with
          calls := layer.calls ++ [.receive {
            channels := channels, keys := keys }] } []
  | send {index : Nat} {send : Send} {command : Command}
      (found : layer.calls[index]? = some (.send send))
      (issues : send.command mPrefix = some command) :
      LayerStep mPrefix layer (.runCommand index)
        { db := (layer.db.execute command).1
          calls := layer.calls.set index (.send (send.advance layer.db.now)) }
        (sendEvents index send (layer.db.execute command).2)
  | receive {index : Nat} {receive : Receive} {command : Command}
      (found : layer.calls[index]? = some (.receive receive))
      (issues : receive.command = some command) :
      LayerStep mPrefix layer (.runCommand index)
        { db := (layer.db.execute command).1
          calls := layer.calls.set index
            (.receive (receive.advance mPrefix
              (some (layer.db.execute command).2))) }
        (receiveEvents index layer.db receive
          (receive.advance mPrefix (some (layer.db.execute command).2))
          (layer.db.execute command).2)
  | elapse {milliseconds : Nat} :
      LayerStep mPrefix layer (.elapse milliseconds)
        { layer with db := layer.db.elapse milliseconds } []

/-- Each step of the machine is one of the steps. -/
theorem layerStep_of_channelLayer
    {mPrefix : Bytes}
    {layer next : Layer}
    {label : LayerLabel}
    {events : List LayerEvent}
    (steps : channelLayer mPrefix layer label = some (next, events)) :
    LayerStep mPrefix layer label next events := by
  cases label with
  | startSend channel buffer random =>
      simp only [channelLayer] at steps
      split at steps
      next generated =>
        cases steps
        exact .startSend generated
      next => cases steps
  | startReceive channels keys =>
      simp only [channelLayer] at steps
      split at steps
      next shuffled =>
        cases steps
        exact .startReceive shuffled
      next => cases steps
  | runCommand index =>
      simp only [channelLayer, Layer.runCommand] at steps
      split at steps
      next => cases steps
      next send found =>
        obtain ⟨command, issues, equal⟩ := Option.map_eq_some_iff.mp steps
        cases equal
        exact .send found issues
      next receive found =>
        obtain ⟨command, issues, equal⟩ := Option.map_eq_some_iff.mp steps
        cases equal
        exact .receive found issues
  | elapse milliseconds =>
      cases steps
      exact .elapse

@[simp] theorem Send.advance_channel (now : Nat) (send : Send) :
    (send.advance now).channel = send.channel := by
  unfold Send.advance
  split <;> rfl

@[simp] theorem Send.advance_dataKey (now : Nat) (send : Send) :
    (send.advance now).dataKey = send.dataKey := by
  unfold Send.advance
  split <;> rfl

@[simp] theorem Send.advance_buffer (now : Nat) (send : Send) :
    (send.advance now).buffer = send.buffer := by
  unfold Send.advance
  split <;> rfl

@[simp] theorem Send.advance_channelKey
    (mPrefix : Bytes) (now : Nat) (send : Send) :
    (send.advance now).channelKey mPrefix = send.channelKey mPrefix := by
  rw [Send.channelKey, Send.advance_channel, Send.channelKey]

/-- The key has been appended to the list of the channel. -/
def SendStage.pushed : SendStage → Bool
  | .expireChannel _ => true
  | .done _ => true
  | _ => false

/-! ## Generated keys -/

/-- The calls of `Send`. -/
def Layer.sends (layer : Layer) : List Send :=
  layer.calls.filterMap fun call =>
    match call with
    | .send send => some send
    | .receive _ => none

theorem Layer.mem_sends {layer : Layer} {send : Send} :
    send ∈ layer.sends ↔ Call.send send ∈ layer.calls := by
  constructor
  · intro member
    obtain ⟨call, callMember, equal⟩ := List.mem_filterMap.mp member
    cases call with
    | send other =>
        cases equal
        exact callMember
    | receive other => cases equal
  · intro member
    exact List.mem_filterMap.mpr ⟨.send send, member, rfl⟩

/-- A generated key that Redis does not know from another `Send`: it is neither
a data key nor the list of a channel, and the channel's list is no data key. -/
def FreshKey
    (mPrefix : Bytes) (layer : Layer) (channel random : Bytes) : Prop :=
  cStr (mPrefix ++ random) ≠ cStr (mPrefix ++ channel) ∧
    ∀ send ∈ layer.sends,
      cStr send.dataKey ≠ cStr (mPrefix ++ random) ∧
        send.channelKey mPrefix ≠ cStr (mPrefix ++ random) ∧
        cStr send.dataKey ≠ cStr (mPrefix ++ channel)

instance (mPrefix : Bytes) (layer : Layer) (channel random : Bytes) :
    Decidable (FreshKey mPrefix layer channel random) :=
  inferInstanceAs (Decidable
    (cStr (mPrefix ++ random) ≠ cStr (mPrefix ++ channel) ∧
      ∀ send ∈ layer.sends,
        cStr send.dataKey ≠ cStr (mPrefix ++ random) ∧
          send.channelKey mPrefix ≠ cStr (mPrefix ++ random) ∧
          cStr send.dataKey ≠ cStr (mPrefix ++ channel)))

/-- The reply to the next command of a call. -/
def Layer.reply (mPrefix : Bytes) (layer : Layer) (index : Nat) :
    Option Reply :=
  match layer.calls[index]? with
  | none => none
  | some (.send send) =>
      (send.command mPrefix).map fun command => (layer.db.execute command).2
  | some (.receive receive) =>
      receive.command.map fun command => (layer.db.execute command).2

/-- Every command succeeds, and generated keys are new. -/
def Orderly (mPrefix : Bytes) (layer : Layer) : LayerLabel → Prop
  | .startSend channel _ random => FreshKey mPrefix layer channel random
  | .startReceive _ _ => True
  | .runCommand index =>
      (layer.reply mPrefix index).any Reply.isError = false
  | .elapse _ => True

instance (mPrefix : Bytes) (layer : Layer) (label : LayerLabel) :
    Decidable (Orderly mPrefix layer label) :=
  match label with
  | .startSend channel _ random =>
      inferInstanceAs (Decidable (FreshKey mPrefix layer channel random))
  | .startReceive _ _ => inferInstanceAs (Decidable True)
  | .runCommand index =>
      inferInstanceAs (Decidable
        ((layer.reply mPrefix index).any Reply.isError = false))
  | .elapse _ => inferInstanceAs (Decidable True)

theorem Layer.succeeds_of_send
    {mPrefix : Bytes}
    {index : Nat}
    {send : Send}
    {command : Command}
    (layer : Layer)
    (orderly : Orderly mPrefix layer (.runCommand index))
    (found : layer.calls[index]? = some (.send send))
    (issues : send.command mPrefix = some command) :
    (layer.db.execute command).2.isError = false := by
  simpa [Orderly, Layer.reply, found, issues] using orderly

/-- Data keys name one message each, and no list. -/
structure KeysDistinct (mPrefix : Bytes) (layer : Layer) : Prop where
  data : ∀ {index other : Nat} {send later : Send},
    layer.calls[index]? = some (.send send) →
    layer.calls[other]? = some (.send later) →
    cStr send.dataKey = cStr later.dataKey → index = other
  list : ∀ {index other : Nat} {send later : Send},
    layer.calls[index]? = some (.send send) →
    layer.calls[other]? = some (.send later) →
    cStr send.dataKey ≠ later.channelKey mPrefix

/-- A call that was there before the last one was added. -/
theorem getElem?_append_singleton
    {α : Type}
    {items : List α}
    {item found : α}
    {index : Nat}
    (located : (items ++ [item])[index]? = some found) :
    items[index]? = some found ∨ index = items.length ∧ found = item := by
  rcases Nat.lt_trichotomy index items.length with less | equal | more
  · rw [List.getElem?_append_left less] at located
    exact .inl located
  · rw [equal, List.getElem?_concat_length] at located
    exact .inr ⟨equal, (Option.some.inj located).symm⟩
  · rw [List.getElem?_append_right (Nat.le_of_lt more)] at located
    obtain ⟨gap, equal⟩ := Nat.exists_eq_add_of_lt more
    simp [equal, Nat.add_assoc] at located

theorem getElem?_set_cases
    {α : Type}
    {items : List α}
    {item found : α}
    {current index : Nat}
    (located : (items.set current item)[index]? = some found) :
    current = index ∧ found = item ∨
      current ≠ index ∧ items[index]? = some found := by
  by_cases same : current = index
  · subst same
    refine .inl ⟨rfl, ?_⟩
    have inside := (List.getElem?_eq_some_iff.mp located).1
    rw [List.length_set] at inside
    rw [List.getElem?_set_self inside] at located
    exact (Option.some.inj located).symm
  · rw [List.getElem?_set_ne same] at located
    exact .inr ⟨same, located⟩

/-- Where a `Send` of the next state comes from: it was there, with the same
key and the same channel, or it has just begun. -/
theorem LayerStep.send_before
    {mPrefix : Bytes}
    {layer next : Layer}
    {label : LayerLabel}
    {events : List LayerEvent}
    {index : Nat}
    {send : Send}
    (steps : LayerStep mPrefix layer label next events)
    (located : next.calls[index]? = some (.send send)) :
    (∃ earlier, layer.calls[index]? = some (.send earlier) ∧
      earlier.dataKey = send.dataKey ∧ earlier.channel = send.channel) ∨
    index = layer.calls.length ∧ ∃ channel buffer random,
      label = .startSend channel buffer random ∧
      send = { channel := channel, buffer := buffer,
               dataKey := mPrefix ++ random } := by
  cases steps with
  | @startSend channel buffer random generated =>
      rcases getElem?_append_singleton located with before | ⟨last, equal⟩
      · exact .inl ⟨send, before, rfl, rfl⟩
      · cases equal
        exact .inr ⟨last, channel, buffer, random, rfl, rfl⟩
  | startReceive shuffled =>
      rcases getElem?_append_singleton located with before | ⟨-, equal⟩
      · exact .inl ⟨send, before, rfl, rfl⟩
      · cases equal
  | @send current issuer command found issues =>
      rcases getElem?_set_cases located with ⟨rfl, equal⟩ | ⟨-, old⟩
      · cases equal
        exact .inl ⟨issuer, found, (issuer.advance_dataKey _).symm,
          (issuer.advance_channel _).symm⟩
      · exact .inl ⟨send, old, rfl, rfl⟩
  | @receive current receive command found issues =>
      rcases getElem?_set_cases located with ⟨-, equal⟩ | ⟨-, old⟩
      · cases equal
      · exact .inl ⟨send, old, rfl, rfl⟩
  | elapse => exact .inl ⟨send, located, rfl, rfl⟩

/-- A `Send` stays what it is, and does not go back to its beginning. -/
theorem LayerStep.send_after
    {mPrefix : Bytes}
    {layer next : Layer}
    {label : LayerLabel}
    {events : List LayerEvent}
    {index : Nat}
    {send : Send}
    (steps : LayerStep mPrefix layer label next events)
    (located : layer.calls[index]? = some (.send send)) :
    ∃ later, next.calls[index]? = some (.send later) ∧
      later.dataKey = send.dataKey ∧ later.channel = send.channel ∧
      later.buffer = send.buffer ∧
      (send.stage.pushed = true → later.stage.pushed = true) ∧
      (send.stage ≠ .set → later.stage ≠ .set) := by
  have inside := (List.getElem?_eq_some_iff.mp located).1
  cases steps with
  | startSend generated =>
      refine ⟨send, ?_, rfl, rfl, rfl, id, id⟩
      rwa [List.getElem?_append_left inside]
  | startReceive shuffled =>
      refine ⟨send, ?_, rfl, rfl, rfl, id, id⟩
      rwa [List.getElem?_append_left inside]
  | @send current issuer command found issues =>
      by_cases same : current = index
      · subst same
        rw [found] at located
        cases located
        refine ⟨send.advance layer.db.now, List.getElem?_set_self inside,
          send.advance_dataKey _, send.advance_channel _,
          send.advance_buffer _, ?_, ?_⟩
        · unfold Send.advance
          cases send.stage <;> simp [SendStage.pushed]
        · unfold Send.advance
          cases send.stage <;> simp
      · refine ⟨send, ?_, rfl, rfl, rfl, id, id⟩
        rwa [List.getElem?_set_ne same]
  | @receive current receive command found issues =>
      have different : current ≠ index := by
        rintro rfl
        rw [found] at located
        cases located
      refine ⟨send, ?_, rfl, rfl, rfl, id, id⟩
      rwa [List.getElem?_set_ne different]
  | elapse => exact ⟨send, located, rfl, rfl, rfl, id, id⟩

/-- A key that is new when its `Send` begins stays apart from all others. -/
theorem KeysDistinct.step
    {mPrefix : Bytes}
    {layer next : Layer}
    {label : LayerLabel}
    {events : List LayerEvent}
    (distinct : KeysDistinct mPrefix layer)
    (fresh : ∀ channel buffer random, label = .startSend channel buffer random →
      FreshKey mPrefix layer channel random)
    (steps : LayerStep mPrefix layer label next events) :
    KeysDistinct mPrefix next where
  data := by
    intro index other send later located laterLocated same
    rcases steps.send_before located with
      ⟨send₀, before, key, -⟩ | ⟨last, channel, buffer, random, starts, rfl⟩ <;>
    rcases steps.send_before laterLocated with
      ⟨later₀, laterBefore, laterKey, -⟩ |
        ⟨laterLast, laterChannel, laterBuffer, laterRandom, laterStarts, rfl⟩
    · rw [← key, ← laterKey] at same
      exact distinct.data before laterBefore same
    · obtain ⟨-, apart⟩ := fresh _ _ _ laterStarts
      have member := Layer.mem_sends.mpr (List.mem_of_getElem? before)
      rw [← key] at same
      exact absurd same (apart send₀ member).1
    · obtain ⟨-, apart⟩ := fresh _ _ _ starts
      have member := Layer.mem_sends.mpr (List.mem_of_getElem? laterBefore)
      rw [← laterKey] at same
      exact absurd same.symm (apart later₀ member).1
    · rw [last, laterLast]
  list := by
    intro index other send later located laterLocated
    rcases steps.send_before located with
      ⟨send₀, before, key, -⟩ | ⟨last, channel, buffer, random, starts, rfl⟩ <;>
    rcases steps.send_before laterLocated with
      ⟨later₀, laterBefore, -, laterChannel⟩ |
        ⟨laterLast, laterChannel, laterBuffer, laterRandom, laterStarts, rfl⟩
    · have apart := distinct.list before laterBefore
      rwa [key, Send.channelKey, laterChannel] at apart
    · obtain ⟨-, apart⟩ := fresh _ _ _ laterStarts
      have member := Layer.mem_sends.mpr (List.mem_of_getElem? before)
      have listApart := (apart send₀ member).2.2
      rwa [key] at listApart
    · obtain ⟨-, apart⟩ := fresh _ _ _ starts
      have member := Layer.mem_sends.mpr (List.mem_of_getElem? laterBefore)
      have listApart := (apart later₀ member).2.1
      rw [Send.channelKey, laterChannel] at listApart
      exact listApart.symm
    · obtain ⟨own, -⟩ := fresh _ _ _ starts
      rw [starts] at laterStarts
      cases laterStarts
      exact own

end RedisChannelLayer
end IisAsgiHandler
