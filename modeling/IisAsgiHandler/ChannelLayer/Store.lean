import IisAsgiHandler.ChannelLayer.Steps
import Mathlib.Data.List.TakeWhile

/-!
# What the channel layer keeps in store

With regular names and new keys, and where nothing expires, the lists of the
channels hold keys whose payloads are stored.  Each step leaves the lists alone,
pushes the key of one stored message or pops one.
-/

namespace IisAsgiHandler
namespace RedisChannelLayer

open Redis (Database Command Reply Entry Stored)

/-- A name that is not empty and has no NUL. -/
def RegularName (name : Bytes) : Prop := name ≠ [] ∧ (0 : UInt8) ∉ name

instance (name : Bytes) : Decidable (RegularName name) :=
  inferInstanceAs (Decidable (name ≠ [] ∧ (0 : UInt8) ∉ name))

/-- Orderly calls with regular names; no key expires. -/
def Undisturbed (mPrefix : Bytes) (layer : Layer) (label : LayerLabel) : Prop :=
  Orderly mPrefix layer label ∧
  match label with
  | .startSend channel _ _ => RegularName channel
  | .startReceive channels _ => ∀ channel ∈ channels, RegularName channel
  | .runCommand _ => True
  | .elapse milliseconds => ∀ key entry, layer.db.find key = some entry →
      entry.alive (layer.db.now + milliseconds) = true

/-- A call with regular names or one of its commands, at no cost of time. -/
def LayerLabel.atOnce : LayerLabel → Bool
  | .startSend channel _ _ => decide (RegularName channel)
  | .startReceive channels _ =>
      channels.all fun channel => decide (RegularName channel)
  | .runCommand _ => true
  | .elapse _ => false

/-- Where no time passes, nothing expires. -/
theorem undisturbed_of_atOnce
    {mPrefix : Bytes}
    {layer : Layer}
    {label : LayerLabel}
    (allowed : Orderly mPrefix layer label ∧ label.atOnce = true) :
    Undisturbed mPrefix layer label := by
  refine ⟨allowed.1, ?_⟩
  cases label with
  | startSend channel buffer random => exact of_decide_eq_true allowed.2
  | startReceive channels keys =>
      intro channel member
      exact of_decide_eq_true (List.all_eq_true.mp allowed.2 channel member)
  | runCommand index => trivial
  | elapse milliseconds => cases allowed.2

/-! ## Names without NUL -/

/-- Nothing behind a NUL is seen. -/
theorem cStr_append_of_mem {text : Bytes} (stops : (0 : UInt8) ∈ text)
    (rest : Bytes) :
    cStr (text ++ rest) = cStr text := by
  induction text with
  | nil => cases stops
  | cons byte text inductionHypothesis =>
      by_cases zero : byte = 0
      · simp [cStr, zero]
      · have later := inductionHypothesis
          ((List.mem_cons.mp stops).resolve_left (Ne.symm zero))
        rw [cStr, List.cons_append, List.takeWhile_cons_of_pos (by simpa),
          cStr, List.takeWhile_cons_of_pos (by simpa)]
        exact congrArg (byte :: ·) later

/-- Random text has no NUL. -/
theorem IsRandomAscii.clean
    {length : Nat}
    {text : Bytes}
    (generated : IsRandomAscii length text) :
    (0 : UInt8) ∉ text := by
  intro member
  have absent : (0 : UInt8) ∉ charset := by decide
  exact absent (generated.2 0 member)

/-- A `Send` whose key and list are what they look like to Redis. -/
structure Send.Clean (mPrefix : Bytes) (send : Send) : Prop where
  mPrefix : (0 : UInt8) ∉ mPrefix
  dataKey : (0 : UInt8) ∉ send.dataKey
  channel : RegularName send.channel

namespace Send.Clean

variable {mPrefix : Bytes} {send : Send}

theorem channelKey (clean : send.Clean mPrefix) :
    send.channelKey mPrefix = mPrefix ++ send.channel := by
  apply cStr_of_notMem
  rw [List.mem_append]
  exact not_or.mpr ⟨clean.mPrefix, clean.channel.2⟩

end Send.Clean

/-- A `Send` that begins with a fresh key is clean: behind a NUL in the prefix
its key and its list would be the same. -/
theorem FreshKey.clean
    {mPrefix channel buffer random : Bytes}
    {layer : Layer}
    (fresh : FreshKey mPrefix layer channel random)
    (generated : IsRandomAscii 10 random)
    (regular : RegularName channel) :
    Send.Clean mPrefix
      { channel := channel, buffer := buffer, dataKey := mPrefix ++ random } := by
  have noNul : (0 : UInt8) ∉ mPrefix := by
    intro member
    apply fresh.1
    rw [cStr_append_of_mem member, cStr_append_of_mem member]
  refine ⟨noNul, ?_, regular⟩
  rw [List.mem_append]
  exact not_or.mpr ⟨noNul, generated.clean⟩

/-! ## What is in store -/

/-- The store holds the payload of every `Send` that has stored it, and the
lists hold keys of `Send`s that have pushed them. -/
structure Stocked (mPrefix : Bytes) (layer : Layer) : Prop where
  distinct : KeysDistinct mPrefix layer
  clean : ∀ {index : Nat} {send : Send},
    layer.calls[index]? = some (.send send) → send.Clean mPrefix
  stored : ∀ {index : Nat} {send : Send},
    layer.calls[index]? = some (.send send) → send.stage ≠ .set →
    layer.db.stringAt (cStr send.dataKey) = some send.buffer
  lists : ∀ {key item : Bytes}, item ∈ layer.db.itemsAt key →
    ∃ (index : Nat) (send : Send), layer.calls[index]? = some (.send send) ∧
      send.stage.pushed = true ∧ send.channelKey mPrefix = key ∧
      send.dataKey = item

/-- What a step does to the store: nothing that matters, or one item is pushed
or popped. -/
inductive StoreEffect (mPrefix : Bytes) (layer next : Layer) :
    List LayerEvent → Prop
  | quiet {events : List LayerEvent}
      (items : ∀ key, next.db.itemsAt key = layer.db.itemsAt key)
      (strings : ∀ {index : Nat} {send : Send},
        layer.calls[index]? = some (.send send) → send.stage ≠ .set →
        next.db.stringAt (cStr send.dataKey) =
          layer.db.stringAt (cStr send.dataKey))
      (silent : ∀ event ∈ events, ∃ index channels channel payload,
        event = .returned index channels channel payload) :
      StoreEffect mPrefix layer next events
  | pushed {index since : Nat} {send : Send}
      (found : layer.calls[index]? = some (.send send))
      (stage : send.stage = .push since)
      (after : next.calls[index]? = some (.send (send.advance layer.db.now)))
      (appended : next.db.itemsAt (send.channelKey mPrefix) =
        layer.db.itemsAt (send.channelKey mPrefix) ++ [send.dataKey])
      (others : ∀ key, key ≠ send.channelKey mPrefix →
        next.db.itemsAt key = layer.db.itemsAt key)
      (strings : ∀ key, next.db.stringAt key = layer.db.stringAt key) :
      StoreEffect mPrefix layer next
        [.pushed index send.channel send.dataKey send.buffer]
  | popped {index : Nat} {key item : Bytes}
      (taken : layer.db.itemsAt key = item :: next.db.itemsAt key)
      (others : ∀ other, other ≠ key →
        next.db.itemsAt other = layer.db.itemsAt other)
      (strings : ∀ other, next.db.stringAt other = layer.db.stringAt other) :
      StoreEffect mPrefix layer next
        [.popped index key item (layer.db.stringAt (cStr item))]

/-- What the commands of a `Send` do. -/
theorem effect_of_send
    {mPrefix : Bytes}
    {layer : Layer}
    {index : Nat}
    {send : Send}
    {command : Command}
    {calls : List Call}
    (distinct : KeysDistinct mPrefix layer)
    (bare : layer.db.itemsAt (cStr send.dataKey) = [])
    (found : layer.calls[index]? = some (.send send))
    (issues : send.command mPrefix = some command)
    (succeeds : (layer.db.execute command).2.isError = false)
    (after : calls[index]? = some (.send (send.advance layer.db.now))) :
    StoreEffect mPrefix layer
      { db := (layer.db.execute command).1, calls := calls }
      (sendEvents index send (layer.db.execute command).2) := by
  cases stage : send.stage with
  | set =>
      rw [Send.command, stage] at issues
      cases issues
      simp only [sendEvents, stage]
      have kept : ∀ key, key ≠ cStr send.dataKey →
          (layer.db.execute (.set (cStr send.dataKey) send.buffer)).1.find key =
            layer.db.find key :=
        fun key different =>
          Database.find_execute_ne (List.mem_singleton.not.mpr different)
      refine .quiet (fun key => ?_) (fun located begun => ?_) (by simp)
      · by_cases same : key = cStr send.dataKey
        · rw [same, bare]
          exact Database.itemsAt_set _ _ _
        · exact Database.itemsAt_congr (kept key same)
      · apply Database.stringAt_congr
        apply kept
        intro same
        have equal := distinct.data located found same
        subst equal
        rw [found] at located
        cases located
        exact begun stage
  | expireData =>
      rw [Send.command, stage] at issues
      cases issues
      simp only [sendEvents, stage]
      exact .quiet
        (fun key => (Database.values_expire (by decide) layer.db _ key).1)
        (fun _ _ => (Database.values_expire (by decide) layer.db _ _).2) (by simp)
  | push since =>
      rw [Send.command, stage] at issues
      cases issues
      obtain ⟨value, reply⟩ := Database.reply_of_rpush succeeds
      obtain ⟨appended, others, strings⟩ := Database.values_rpush succeeds
      simp only [sendEvents, stage, reply]
      exact .pushed found stage after appended others strings
  | expireChannel since =>
      rw [Send.command, stage] at issues
      cases issues
      simp only [sendEvents, stage]
      exact .quiet
        (fun key => (Database.values_expire (by decide) layer.db _ key).1)
        (fun _ _ => (Database.values_expire (by decide) layer.db _ _).2) (by simp)
  | done since =>
      rw [Send.command, stage] at issues
      cases issues

namespace Stocked

variable {mPrefix : Bytes} {layer next : Layer} {events : List LayerEvent}

/-- No list stands under a data key. -/
theorem itemsAt_dataKey
    {index : Nat}
    {send : Send}
    (stocked : Stocked mPrefix layer)
    (found : layer.calls[index]? = some (.send send)) :
    layer.db.itemsAt (cStr send.dataKey) = [] := by
  apply List.eq_nil_iff_forall_not_mem.mpr
  intro item member
  obtain ⟨other, pusher, located, -, same, -⟩ := stocked.lists member
  exact stocked.distinct.list found located same.symm

/-- What the commands of a `ReceiveMany` do. -/
theorem effect_of_receive
    {index : Nat}
    {receive : Receive}
    {command : Command}
    {calls : List Call}
    (issues : receive.command = some command) :
    StoreEffect mPrefix layer
      { db := (layer.db.execute command).1, calls := calls }
      (receiveEvents index layer.db receive
        (receive.advance mPrefix (some (layer.db.execute command).2))
        (layer.db.execute command).2) := by
  cases stage : receive.stage with
  | pop =>
      rw [Receive.command, stage] at issues
      cases issues
      rw [Receive.advance, stage, Database.execute]
      rcases Database.popFirst_cases layer.db (receive.keys.map cStr) with
        ⟨key, -, item, items, deadline, found, popped⟩ | unchanged | unchanged
      · obtain ⟨taken, others, strings⟩ := Database.values_put_listEntry found
        rw [popped]
        have events : receiveEvents index layer.db receive
            { receive with stage := afterPop mPrefix (some (.array [key, item])) }
            (.array [key, item]) =
              [.popped index key item (layer.db.stringAt (cStr item))] := by
          simp only [receiveEvents, stage, afterPop]
          split_ifs <;> rfl
        rw [events]
        exact .popped taken others strings
      · rw [unchanged]
        refine .quiet (fun _ => rfl) (fun _ _ => rfl) ?_
        simp [receiveEvents, stage, afterPop]
      · rw [unchanged]
        refine .quiet (fun _ => rfl) (fun _ _ => rfl) ?_
        simp [receiveEvents, stage, afterPop, Redis.wrongType]
  | get channel dataKey =>
      rw [Receive.command, stage] at issues
      cases issues
      have kept : ∀ key,
          (layer.db.execute (.get (cStr dataKey))).1.find key =
            layer.db.find key :=
        fun key => Database.find_execute_ne List.not_mem_nil
      refine .quiet (fun key => Database.itemsAt_congr (kept key))
        (fun _ _ => Database.stringAt_congr (kept _)) ?_
      intro event member
      simp only [receiveEvents, stage, List.nil_append] at member
      split at member
      · exact ⟨_, _, _, _, List.mem_singleton.mp member⟩
      · cases member
  | done channel payload =>
      rw [Receive.command, stage] at issues
      cases issues
  | crashed =>
      rw [Receive.command, stage] at issues
      cases issues

/-- What each step does. -/
theorem effect
    {label : LayerLabel}
    (stocked : Stocked mPrefix layer)
    (undisturbed : Undisturbed mPrefix layer label)
    (steps : LayerStep mPrefix layer label next events) :
    StoreEffect mPrefix layer next events := by
  obtain ⟨orderly, regular⟩ := undisturbed
  cases steps with
  | startSend generated => exact .quiet (fun _ => rfl) (fun _ _ => rfl) (by simp)
  | startReceive shuffled =>
      exact .quiet (fun _ => rfl) (fun _ _ => rfl) (by simp)
  | @send index send command found issues =>
      exact effect_of_send stocked.distinct (stocked.itemsAt_dataKey found)
        found issues
        (layer.succeeds_of_send orderly found issues)
        (List.getElem?_set_self (List.getElem?_eq_some_iff.mp found).1)
  | receive found issues => exact effect_of_receive issues
  | @elapse milliseconds =>
      have kept : ∀ key, (layer.db.elapse milliseconds).find key =
          layer.db.find key := by
        intro key
        rw [Database.find_elapse]
        cases found : layer.db.find key with
        | none => rfl
        | some entry => simp [Option.filter, regular key entry found]
      exact .quiet (fun key => Database.itemsAt_congr (kept key))
        (fun _ _ => Database.stringAt_congr (kept _)) (by simp)

end Stocked

/-- What was stored is kept. -/
theorem StoreEffect.stringAt_dataKey
    {mPrefix : Bytes}
    {layer next : Layer}
    {events : List LayerEvent}
    {index : Nat}
    {send : Send}
    (effect : StoreEffect mPrefix layer next events)
    (located : layer.calls[index]? = some (.send send))
    (begun : send.stage ≠ .set) :
    next.db.stringAt (cStr send.dataKey) =
      layer.db.stringAt (cStr send.dataKey) := by
  cases effect with
  | quiet items strings silent => exact strings located begun
  | pushed found stage after appended others strings => exact strings _
  | popped taken others strings => exact strings _

/-- A `Send` that leaves its first stage has stored its payload. -/
theorem LayerStep.stringAt_set
    {mPrefix : Bytes}
    {layer next : Layer}
    {events : List LayerEvent}
    {label : LayerLabel}
    {index : Nat}
    {send later : Send}
    (steps : LayerStep mPrefix layer label next events)
    (before : layer.calls[index]? = some (.send send))
    (first : send.stage = .set)
    (located : next.calls[index]? = some (.send later))
    (begun : later.stage ≠ .set) :
    next.db.stringAt (cStr later.dataKey) = some later.buffer := by
  have inside := (List.getElem?_eq_some_iff.mp before).1
  cases steps with
  | startSend generated =>
      rw [List.getElem?_append_left inside, before] at located
      cases located
      exact absurd first begun
  | startReceive shuffled =>
      rw [List.getElem?_append_left inside, before] at located
      cases located
      exact absurd first begun
  | @send current issuer command found issues =>
      by_cases same : current = index
      · subst same
        rw [found] at before
        cases before
        rw [List.getElem?_set_self inside] at located
        cases located
        rw [Send.command, first] at issues
        cases issues
        rw [Send.advance_dataKey, Send.advance_buffer]
        exact Database.stringAt_set _ _ _
      · rw [List.getElem?_set_ne same, before] at located
        cases located
        exact absurd first begun
  | @receive current receive command found issues =>
      have different : current ≠ index := by
        rintro rfl
        rw [found] at before
        cases before
      rw [List.getElem?_set_ne different, before] at located
      cases located
      exact absurd first begun
  | elapse =>
      rw [before] at located
      cases located
      exact absurd first begun

/-- An item of a list was there before, or its `Send` has just pushed it. -/
theorem StoreEffect.lists_step
    {mPrefix key item : Bytes}
    {layer next : Layer}
    {events : List LayerEvent}
    (effect : StoreEffect mPrefix layer next events)
    (old : item ∈ layer.db.itemsAt key → ∃ (index : Nat) (send : Send),
      next.calls[index]? = some (.send send) ∧ send.stage.pushed = true ∧
      send.channelKey mPrefix = key ∧ send.dataKey = item)
    (member : item ∈ next.db.itemsAt key) :
    ∃ (index : Nat) (send : Send), next.calls[index]? = some (.send send) ∧
      send.stage.pushed = true ∧ send.channelKey mPrefix = key ∧
      send.dataKey = item := by
  cases effect with
  | quiet items strings silent =>
      rw [items] at member
      exact old member
  | @pushed index since send found stage after appended others strings =>
      by_cases same : key = send.channelKey mPrefix
      · subst same
        rw [appended, List.mem_append, List.mem_singleton] at member
        rcases member with before | rfl
        · exact old before
        · refine ⟨index, _, after, ?_, send.advance_channelKey mPrefix _,
            send.advance_dataKey _⟩
          simp [Send.advance, stage, SendStage.pushed]
      · rw [others key same] at member
        exact old member
  | @popped index popped first taken others strings =>
      by_cases same : key = popped
      · subst same
        apply old
        rw [taken]
        exact List.mem_cons_of_mem first member
      · rw [others key same] at member
        exact old member

/-- The store stays in order. -/
theorem Stocked.step
    {mPrefix : Bytes}
    {layer next : Layer}
    {events : List LayerEvent}
    {label : LayerLabel}
    (stocked : Stocked mPrefix layer)
    (undisturbed : Undisturbed mPrefix layer label)
    (steps : LayerStep mPrefix layer label next events) :
    Stocked mPrefix next where
  distinct := stocked.distinct.step
    (fun _ _ _ starts => by rw [starts] at undisturbed; exact undisturbed.1) steps
  clean := by
    intro index send located
    rcases steps.send_before located with
      ⟨earlier, before, dataKey, channel⟩ |
        ⟨-, channel, buffer, random, starts, rfl⟩
    · have clean := stocked.clean before
      exact ⟨clean.mPrefix, dataKey ▸ clean.dataKey, channel ▸ clean.channel⟩
    · subst starts
      cases steps with
      | startSend generated =>
          exact FreshKey.clean undisturbed.1 generated undisturbed.2
  stored := by
    intro index send located begun
    rcases steps.send_before located with
      ⟨earlier, before, -, -⟩ | ⟨-, channel, buffer, random, -, rfl⟩
    · by_cases first : earlier.stage = .set
      · exact steps.stringAt_set before first located begun
      · obtain ⟨later, found, dataKey, -, buffer, -⟩ := steps.send_after before
        rw [located] at found
        cases found
        rw [dataKey, buffer, ← stocked.stored before first]
        exact (stocked.effect undisturbed steps).stringAt_dataKey before first
    · exact absurd rfl begun
  lists := by
    intro key item member
    have old : item ∈ layer.db.itemsAt key → ∃ (index : Nat) (send : Send),
        next.calls[index]? = some (.send send) ∧ send.stage.pushed = true ∧
        send.channelKey mPrefix = key ∧ send.dataKey = item := by
      intro before
      obtain ⟨index, send, located, pushed, list, data⟩ := stocked.lists before
      obtain ⟨later, found, sameKey, sameChannel, -, stays, -⟩ :=
        steps.send_after located
      refine ⟨index, later, found, stays pushed, ?_, sameKey.trans data⟩
      rw [Send.channelKey, sameChannel]
      exact list
    exact (stocked.effect undisturbed steps).lists_step old member

end RedisChannelLayer
end IisAsgiHandler
