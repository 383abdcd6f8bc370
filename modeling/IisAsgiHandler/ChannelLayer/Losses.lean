import IisAsgiHandler.ChannelLayer.Delivery

/-!
# Delivery where keys expire

Time may pass between any two commands, so that a payload or the whole list of a
channel can expire.  Then messages are lost, but those that arrive still arrive
unchanged, once, on their channel, and in the order in which they were sent.
-/

namespace IisAsgiHandler
namespace RedisChannelLayer

open EventMachine (Run)
open Redis (Database Command Reply Entry Stored)

/-- Orderly calls with regular names; anything may expire. -/
def Regular (mPrefix : Bytes) (layer : Layer) (label : LayerLabel) : Prop :=
  Orderly mPrefix layer label ∧
  match label with
  | .startSend channel _ _ => RegularName channel
  | .startReceive channels _ => ∀ channel ∈ channels, RegularName channel
  | .runCommand _ => True
  | .elapse _ => True

instance (mPrefix : Bytes) (layer : Layer) (label : LayerLabel) :
    Decidable (Regular mPrefix layer label) :=
  match label with
  | .startSend channel buffer random =>
      inferInstanceAs (Decidable
        (Orderly mPrefix layer (.startSend channel buffer random) ∧
          RegularName channel))
  | .startReceive channels keys =>
      inferInstanceAs (Decidable
        (Orderly mPrefix layer (.startReceive channels keys) ∧
          ∀ channel ∈ channels, RegularName channel))
  | .runCommand index =>
      inferInstanceAs (Decidable
        (Orderly mPrefix layer (.runCommand index) ∧ True))
  | .elapse milliseconds =>
      inferInstanceAs (Decidable
        (Orderly mPrefix layer (.elapse milliseconds) ∧ True))

/-! ## What is left in store -/

/-- A data key holds the payload of its `Send` or nothing, and the lists hold
keys of `Send`s that have pushed them. -/
structure Shelved (mPrefix : Bytes) (layer : Layer) : Prop where
  distinct : KeysDistinct mPrefix layer
  clean : ∀ {index : Nat} {send : Send},
    layer.calls[index]? = some (.send send) → send.Clean mPrefix
  stored : ∀ {index : Nat} {send : Send} {value : Bytes},
    layer.calls[index]? = some (.send send) → send.stage ≠ .set →
    layer.db.stringAt (cStr send.dataKey) = some value → value = send.buffer
  lists : ∀ {key item : Bytes}, item ∈ layer.db.itemsAt key →
    ∃ (index : Nat) (send : Send), layer.calls[index]? = some (.send send) ∧
      send.stage.pushed = true ∧ send.channelKey mPrefix = key ∧
      send.dataKey = item

/-- What a step does to the store where keys can expire. -/
inductive LossyEffect (mPrefix : Bytes) (layer next : Layer) :
    List LayerEvent → Prop
  | kept {events : List LayerEvent}
      (effect : StoreEffect mPrefix layer next events) :
      LossyEffect mPrefix layer next events
  | expired
      (calls : next.calls = layer.calls)
      (items : ∀ key, next.db.itemsAt key = layer.db.itemsAt key ∨
        next.db.itemsAt key = [])
      (strings : ∀ key value, next.db.stringAt key = some value →
        layer.db.stringAt key = some value) :
      LossyEffect mPrefix layer next []

/-- What a key holds after some time it held before. -/
theorem find_elapse_cases
    (db : Database)
    (milliseconds : Nat)
    (key : Bytes) :
    (db.elapse milliseconds).find key = db.find key ∨
      (db.elapse milliseconds).find key = none := by
  rw [Database.find_elapse]
  cases found : db.find key with
  | none => exact .inr rfl
  | some entry =>
      by_cases alive : entry.alive (db.now + milliseconds) = true
      · left
        simp [Option.filter, alive]
      · right
        simp [Option.filter, alive]

namespace Shelved

variable {mPrefix : Bytes} {layer next : Layer} {events : List LayerEvent}
variable {label : LayerLabel}

/-- No list stands under a data key. -/
theorem itemsAt_dataKey
    {index : Nat}
    {send : Send}
    (shelved : Shelved mPrefix layer)
    (found : layer.calls[index]? = some (.send send)) :
    layer.db.itemsAt (cStr send.dataKey) = [] := by
  apply List.eq_nil_iff_forall_not_mem.mpr
  intro item member
  obtain ⟨other, pusher, located, -, same, -⟩ := shelved.lists member
  exact shelved.distinct.list found located same.symm

/-- What each step does. -/
theorem effect
    (shelved : Shelved mPrefix layer)
    (regular : Regular mPrefix layer label)
    (steps : LayerStep mPrefix layer label next events) :
    LossyEffect mPrefix layer next events := by
  cases steps with
  | startSend generated =>
      exact .kept (.quiet (fun _ => rfl) (fun _ _ => rfl) (by simp))
  | startReceive shuffled =>
      exact .kept (.quiet (fun _ => rfl) (fun _ _ => rfl) (by simp))
  | @send index send command found issues =>
      exact .kept (effect_of_send shelved.distinct
        (shelved.itemsAt_dataKey found) found issues
        (layer.succeeds_of_send regular.1 found issues)
        (List.getElem?_set_self (List.getElem?_eq_some_iff.mp found).1))
  | receive found issues => exact .kept (Stocked.effect_of_receive issues)
  | @elapse milliseconds =>
      refine .expired rfl ?_ ?_
      · intro key
        rcases find_elapse_cases layer.db milliseconds key with same | gone
        · exact .inl (Database.itemsAt_congr same)
        · right
          unfold Database.itemsAt
          rw [gone]
      · intro key value held
        rcases find_elapse_cases layer.db milliseconds key with same | gone
        · exact (Database.stringAt_congr same).symm.trans held
        · unfold Database.stringAt at held
          rw [gone] at held
          cases held

/-- A data key holds what it held, or nothing. -/
theorem stringAt_kept
    {index : Nat}
    {send : Send}
    {value : Bytes}
    (effect : LossyEffect mPrefix layer next events)
    (located : layer.calls[index]? = some (.send send))
    (begun : send.stage ≠ .set)
    (held : next.db.stringAt (cStr send.dataKey) = some value) :
    layer.db.stringAt (cStr send.dataKey) = some value := by
  cases effect with
  | kept effect => exact (effect.stringAt_dataKey located begun).symm.trans held
  | expired calls items strings => exact strings _ _ held

/-- The store stays in order. -/
theorem step
    (shelved : Shelved mPrefix layer)
    (regular : Regular mPrefix layer label)
    (steps : LayerStep mPrefix layer label next events) :
    Shelved mPrefix next where
  distinct := shelved.distinct.step
    (fun _ _ _ starts => by rw [starts] at regular; exact regular.1) steps
  clean := by
    intro index send located
    rcases steps.send_before located with
      ⟨earlier, before, dataKey, channel⟩ |
        ⟨-, channel, buffer, random, starts, rfl⟩
    · have clean := shelved.clean before
      exact ⟨clean.mPrefix, dataKey ▸ clean.dataKey, channel ▸ clean.channel⟩
    · subst starts
      cases steps with
      | startSend generated =>
          exact FreshKey.clean regular.1 generated regular.2
  stored := by
    intro index send value located begun held
    rcases steps.send_before located with
      ⟨earlier, before, -, -⟩ | ⟨-, channel, buffer, random, -, rfl⟩
    · by_cases first : earlier.stage = .set
      · rw [steps.stringAt_set before first located begun] at held
        exact (Option.some.inj held).symm
      · obtain ⟨later, found, dataKey, -, buffer, -⟩ := steps.send_after before
        rw [located] at found
        cases found
        rw [buffer]
        rw [dataKey] at held
        exact shelved.stored before first
          (stringAt_kept (shelved.effect regular steps) before first held)
    · exact absurd rfl begun
  lists := by
    intro key item member
    have old : item ∈ layer.db.itemsAt key → ∃ (index : Nat) (send : Send),
        next.calls[index]? = some (.send send) ∧ send.stage.pushed = true ∧
        send.channelKey mPrefix = key ∧ send.dataKey = item := by
      intro before
      obtain ⟨index, send, located, pushed, list, data⟩ := shelved.lists before
      obtain ⟨later, found, sameKey, sameChannel, -, stays, -⟩ :=
        steps.send_after located
      refine ⟨index, later, found, stays pushed, ?_, sameKey.trans data⟩
      rw [Send.channelKey, sameChannel]
      exact list
    cases shelved.effect regular steps with
    | kept effect => exact effect.lists_step old member
    | expired calls items strings =>
        rcases items key with same | empty
        · rw [same] at member
          exact old member
        · rw [empty] at member
          cases member

end Shelved

/-! ## Queues that lose messages -/

/-- A message is seen under its key, with its payload or with none. -/
def SeenAs (message seen : Bytes × Option Bytes) : Prop :=
  seen.1 = message.1 ∧ (seen.2 = none ∨ seen.2 = message.2)

/-- Queues whose messages are those of the lists, with the payloads that were
sent. -/
structure Lists
    (layer : Layer) (queues : Bytes → List (Bytes × Option Bytes)) : Prop where
  items : ∀ key, (queues key).map Prod.fst = layer.db.itemsAt key
  payloads : ∀ {key : Bytes} {message : Bytes × Option Bytes},
    message ∈ queues key → ∃ (index : Nat) (send : Send),
      layer.calls[index]? = some (.send send) ∧ send.stage ≠ .set ∧
      send.dataKey = message.1 ∧ some send.buffer = message.2

namespace Lists

variable {mPrefix : Bytes} {layer next : Layer} {events : List LayerEvent}
variable {label : LayerLabel} {trace : List LayerEvent}
variable {queues nextQueues : Bytes → List (Bytes × Option Bytes)}

/-- Messages that were there before come from the same `Send`s. -/
theorem sent_step
    {message : Bytes × Option Bytes}
    {key : Bytes}
    (lists : Lists layer queues)
    (steps : LayerStep mPrefix layer label next events)
    (member : message ∈ queues key) :
    ∃ (index : Nat) (send : Send),
      next.calls[index]? = some (.send send) ∧ send.stage ≠ .set ∧
      send.dataKey = message.1 ∧ some send.buffer = message.2 := by
  obtain ⟨index, send, located, begun, dataKey, buffer⟩ := lists.payloads member
  obtain ⟨later, found, sameKey, -, sameBuffer, -, stays⟩ :=
    steps.send_after located
  exact ⟨index, later, found, stays begun, sameKey.trans dataKey,
    sameBuffer ▸ buffer⟩

/-- The lists are queues that can lose what they hold. -/
theorem step
    (shelved : Shelved mPrefix layer)
    (regular : Regular mPrefix layer label)
    (steps : LayerStep mPrefix layer label next events)
    (lists : Lists layer queues)
    (run : Queues.LossyRun SeenAs (operations mPrefix trace) queues) :
    ∃ nextQueues,
      Queues.LossyRun SeenAs (operations mPrefix (trace ++ events)) nextQueues ∧
      Lists next nextQueues := by
  rw [operations_append]
  cases shelved.effect regular steps with
  | kept effect =>
      cases effect with
      | quiet items strings silent =>
          rw [operations_returned mPrefix silent, List.append_nil]
          refine ⟨queues, run, ?_, lists.sent_step steps⟩
          intro key
          rw [items, lists.items]
      | @pushed index since send found stage after appended others strings =>
          have list := (shelved.clean found).channelKey
          rw [list] at appended others
          let queue := mPrefix ++ send.channel
          let message : Bytes × Option Bytes := (send.dataKey, some send.buffer)
          refine ⟨Function.update queues queue (queues queue ++ [message]),
            run.push (Function.update_self _ _ _)
              (fun other different => Function.update_of_ne different _ _),
            ?_, ?_⟩
          · intro key
            by_cases same : key = queue
            · subst same
              rw [Function.update_self, List.map_append, lists.items, appended]
              rfl
            · rw [Function.update_of_ne same, lists.items, others key same]
          · intro key entry member
            have fresh : entry ∈ queues key ∨ entry = message := by
              by_cases same : key = queue
              · subst same
                rw [Function.update_self, List.mem_append] at member
                exact member.imp_right List.mem_singleton.mp
              · rw [Function.update_of_ne same] at member
                exact .inl member
            rcases fresh with before | rfl
            · exact lists.sent_step steps before
            · refine ⟨index, _, after, ?_, send.advance_dataKey _,
                congrArg some (send.advance_buffer _)⟩
              simp [Send.advance, stage]
      | @popped index key item taken others strings =>
          have items := lists.items key
          rw [taken] at items
          obtain ⟨message, rest, holds, rfl, restItems⟩ :=
            List.map_eq_cons_iff.mp items
          have seen : SeenAs message
              (message.1, layer.db.stringAt (cStr message.1)) := by
            obtain ⟨sender, send, located, begun, dataKey, buffer⟩ :=
              lists.payloads (holds ▸ List.mem_cons_self)
            refine ⟨rfl, ?_⟩
            cases held : layer.db.stringAt (cStr message.1) with
            | none => exact .inl rfl
            | some value =>
                right
                rw [← buffer]
                rw [← dataKey] at held
                exact congrArg some (shelved.stored located begun held)
          refine ⟨Function.update queues key rest,
            run.pop (holds.trans ?_)
              (fun other different => Function.update_of_ne different _ _) seen,
            ?_, ?_⟩
          · rw [Function.update_self]
          · intro other
            by_cases same : other = key
            · subst same
              rw [Function.update_self, restItems]
            · rw [Function.update_of_ne same, lists.items, others other same]
          · intro other entry member
            have old : entry ∈ queues other := by
              by_cases same : other = key
              · subst same
                rw [Function.update_self] at member
                rw [holds]
                exact List.mem_cons_of_mem message member
              · rwa [Function.update_of_ne same] at member
            exact lists.sent_step steps old
  | expired calls items strings =>
      refine ⟨fun key => if next.db.itemsAt key = [] then [] else queues key,
        ?_, ?_, ?_⟩
      · rw [show operations mPrefix [] = [] from rfl, List.append_nil]
        apply run.lose
        intro key
        split
        · exact .inr rfl
        · exact .inl rfl
      · intro key
        split
        next empty => rw [empty, List.map_nil]
        next remains =>
          rw [lists.items, (items key).resolve_right remains]
      · intro key entry member
        split at member
        · cases member
        · exact lists.sent_step steps member

end Lists

/-! ## What a receiver gets -/

/-- A call of `ReceiveMany` with regular names; once it has popped a key, that
is the key of a `Send` that had pushed it to a channel that was asked for. -/
def Receive.Heard
    (mPrefix : Bytes) (trace : List LayerEvent) (layer : Layer) (index : Nat)
    (receive : Receive) : Prop :=
  receive.keys.Perm (prefixedChannels mPrefix receive.channels) ∧
  (∀ channel ∈ receive.channels, RegularName channel) ∧
  ∀ channel item, receive.stage = .get channel item →
    channel ∈ receive.channels ∧
    ∃ (sender : Nat) (send : Send) (held : Option Bytes),
      layer.calls[sender]? = some (.send send) ∧ send.stage ≠ .set ∧
      send.dataKey = item ∧
      .popped index (mPrefix ++ channel) item held ∈ trace ∧
      .pushed sender channel item send.buffer ∈ trace

/-- The steps of a `ReceiveMany` over a store that can lose messages. -/
inductive LossyReceiveStep
    (mPrefix : Bytes) (layer : Layer) (index : Nat) (receive : Receive) :
    ReceiveStage → List LayerEvent → Prop
  | popped {sender : Nat} {send : Send} {held : Option Bytes}
      (start : receive.stage = .pop)
      (asked : send.channel ∈ receive.channels)
      (located : layer.calls[sender]? = some (.send send))
      (pushed : send.stage.pushed = true) :
      LossyReceiveStep mPrefix layer index receive
        (.get send.channel send.dataKey)
        [.popped index (mPrefix ++ send.channel) send.dataKey held]
  | empty :
      LossyReceiveStep mPrefix layer index receive (.done [] [])
        [.returned index receive.channels [] []]
  | refused : LossyReceiveStep mPrefix layer index receive .crashed []
  | got {channel item payload : Bytes}
      (stage : receive.stage = .get channel item)
      (held : layer.db.stringAt (cStr item) = some payload) :
      LossyReceiveStep mPrefix layer index receive (.done channel payload)
        [.returned index receive.channels channel payload]

theorem Shelved.receiveStep
    {mPrefix : Bytes}
    {trace : List LayerEvent}
    {layer : Layer}
    {index : Nat}
    {receive : Receive}
    {command : Command}
    (shelved : Shelved mPrefix layer)
    (heard : receive.Heard mPrefix trace layer index)
    (issues : receive.command = some command)
    (succeeds : (layer.db.execute command).2.isError = false) :
    LossyReceiveStep mPrefix layer index receive
      (receive.advance mPrefix (some (layer.db.execute command).2)).stage
      (receiveEvents index layer.db receive
        (receive.advance mPrefix (some (layer.db.execute command).2))
        (layer.db.execute command).2) := by
  obtain ⟨shuffled, regular, -⟩ := heard
  cases stage : receive.stage with
  | pop =>
      rw [Receive.command, stage] at issues
      cases issues
      rw [Receive.advance, stage, Database.execute]
      rcases Database.popFirst_cases layer.db (receive.keys.map cStr) with
        ⟨key, member, item, items, deadline, found, popped⟩ | same | same
      · have first : item ∈ layer.db.itemsAt key := by
          rw [Database.itemsAt, found]
          exact List.mem_cons_self
        obtain ⟨sender, send, located, pushed, list, rfl⟩ := shelved.lists first
        obtain ⟨channel, asked, rfl⟩ :=
          (shelved.clean located).asked list shuffled regular member
        obtain rfl : send.channel = channel :=
          List.append_cancel_left
            ((shelved.clean located).channelKey.symm.trans list)
        have step : LossyReceiveStep mPrefix layer index receive
            (.get send.channel send.dataKey)
            [.popped index (mPrefix ++ send.channel) send.dataKey
              (layer.db.stringAt (cStr send.dataKey))] :=
          .popped stage asked located pushed
        rw [popped]
        simpa [receiveEvents, stage, afterPop] using step
      · have step : LossyReceiveStep mPrefix layer index receive (.done [] [])
            [.returned index receive.channels [] []] := .empty
        rw [same]
        simpa [receiveEvents, stage, afterPop] using step
      · have step : LossyReceiveStep mPrefix layer index receive .crashed [] :=
          .refused
        rw [same]
        simpa [receiveEvents, stage, afterPop, Redis.wrongType] using step
  | get channel item =>
      rw [Receive.command, stage] at issues
      cases issues
      cases held : layer.db.stringAt (cStr item) with
      | some payload =>
          have step : LossyReceiveStep mPrefix layer index receive
              (.done channel payload)
              [.returned index receive.channels channel payload] :=
            .got stage held
          rw [Receive.advance, stage, Database.execute_get held]
          simpa [receiveEvents, stage, afterGet] using step
      | none =>
          have step : LossyReceiveStep mPrefix layer index receive (.done [] [])
              [.returned index receive.channels [] []] := .empty
          have gone : layer.db.find (cStr item) = none := by
            unfold Database.stringAt at held
            cases found : layer.db.find (cStr item) with
            | none => rfl
            | some entry =>
                obtain ⟨stored, deadline⟩ := entry
                cases stored with
                | string value =>
                    rw [found] at held
                    cases held
                | list items =>
                    rw [Database.execute, found] at succeeds
                    cases succeeds
          rw [Receive.advance, stage, Database.execute, gone]
          simpa [receiveEvents, stage, afterGet] using step
  | done channel payload =>
      rw [Receive.command, stage] at issues
      cases issues
  | crashed =>
      rw [Receive.command, stage] at issues
      cases issues

/-- A `ReceiveMany` stays what it is when others take a step. -/
theorem Receive.Heard.later
    {mPrefix : Bytes}
    {trace events : List LayerEvent}
    {layer next : Layer}
    {label : LayerLabel}
    {index : Nat}
    {receive : Receive}
    (heard : receive.Heard mPrefix trace layer index)
    (steps : LayerStep mPrefix layer label next events) :
    receive.Heard mPrefix (trace ++ events) next index := by
  obtain ⟨shuffled, regular, getting⟩ := heard
  refine ⟨shuffled, regular, ?_⟩
  intro channel item stage
  obtain ⟨asked, sender, send, held, located, begun, same, popped, pushed⟩ :=
    getting channel item stage
  obtain ⟨later, found, dataKey, -, buffer, -, stays⟩ := steps.send_after located
  refine ⟨asked, sender, later, held, found, stays begun, dataKey.trans same,
    List.mem_append_left events popped, ?_⟩
  rw [buffer]
  exact List.mem_append_left events pushed

/-! ## Runs -/

/-- What has been sent and received so far, where messages can be lost. -/
structure Receiving
    (mPrefix : Bytes) (trace : List LayerEvent) (layer : Layer) : Prop where
  shelved : Shelved mPrefix layer
  queues : ∃ queues,
    Queues.LossyRun SeenAs (operations mPrefix trace) queues ∧
      Lists layer queues
  pushedOnce : PushedOnce mPrefix trace layer
  pushed : ∀ {index : Nat} {send : Send},
    layer.calls[index]? = some (.send send) → send.stage.pushed = true →
    .pushed index send.channel send.dataKey send.buffer ∈ trace
  receives : ∀ {index : Nat} {receive : Receive},
    layer.calls[index]? = some (.receive receive) →
    receive.Heard mPrefix trace layer index
  results : ∀ {index : Nat} {channels : List Bytes} {channel payload : Bytes},
    .returned index channels channel payload ∈ trace →
    (channel, payload) ≠ ([], []) →
    channel ∈ channels ∧ ∃ item held sender,
      .popped index (mPrefix ++ channel) item held ∈ trace ∧
      .pushed sender channel item payload ∈ trace

/-- A `Send` that has pushed its key has shown it. -/
theorem LayerStep.pushed_step
    {mPrefix : Bytes}
    {trace events : List LayerEvent}
    {layer next : Layer}
    {label : LayerLabel}
    {index : Nat}
    {send : Send}
    (steps : LayerStep mPrefix layer label next events)
    (orderly : Orderly mPrefix layer label)
    (before : ∀ {index : Nat} {send : Send},
      layer.calls[index]? = some (.send send) → send.stage.pushed = true →
      .pushed index send.channel send.dataKey send.buffer ∈ trace)
    (located : next.calls[index]? = some (.send send))
    (pushed : send.stage.pushed = true) :
    .pushed index send.channel send.dataKey send.buffer ∈ trace ++ events := by
  have old : layer.calls[index]? = some (.send send) →
      .pushed index send.channel send.dataKey send.buffer ∈ trace ++ events :=
    fun earlier => List.mem_append_left events (before earlier pushed)
  cases steps with
  | startSend generated =>
      rcases getElem?_append_singleton located with earlier | ⟨-, equal⟩
      · exact old earlier
      · cases equal
        cases pushed
  | startReceive shuffled =>
      rcases getElem?_append_singleton located with earlier | ⟨-, equal⟩
      · exact old earlier
      · cases equal
  | @send current issuer command found issues =>
      rcases getElem?_set_cases located with ⟨rfl, equal⟩ | ⟨-, earlier⟩
      · cases equal
        rw [Send.advance_channel, Send.advance_dataKey, Send.advance_buffer]
        cases stage : issuer.stage with
        | push since =>
            have succeeds := layer.succeeds_of_send orderly found issues
            rw [Send.command, stage] at issues
            cases issues
            obtain ⟨value, reply⟩ := Database.reply_of_rpush succeeds
            simp [sendEvents, stage, reply]
        | set =>
            rw [Send.advance, stage] at pushed
            cases pushed
        | expireData =>
            rw [Send.advance, stage] at pushed
            cases pushed
        | expireChannel since =>
            exact List.mem_append_left _ (before found (by rw [stage]; rfl))
        | done since =>
            exact List.mem_append_left _ (before found (by rw [stage]; rfl))
      · exact old earlier
  | @receive current receive command found issues =>
      rcases getElem?_set_cases located with ⟨-, equal⟩ | ⟨-, earlier⟩
      · cases equal
      · exact old earlier
  | elapse => exact old located

namespace Receiving

variable {mPrefix : Bytes} {trace events : List LayerEvent}
variable {layer next : Layer} {label : LayerLabel}

/-- At the start. -/
theorem initial (mPrefix : Bytes) : Receiving mPrefix [] {} where
  shelved :=
    { distinct := ⟨fun located => by simp at located,
        fun located => by simp at located⟩
      clean := fun located => by simp at located
      stored := fun located => by simp at located
      lists := fun member => by
        cases member }
  queues := ⟨fun _ => [], .start, fun _ => rfl, fun member => by cases member⟩
  pushedOnce := ⟨List.nodup_nil, fun _ member => by cases member⟩
  pushed := fun located => by simp at located
  receives := fun located => by simp at located
  results := fun member => by cases member

/-- The step of a `ReceiveMany`, with what becomes of it. -/
theorem receive_step
    {index : Nat}
    {receive : Receive}
    {command : Command}
    (before : Receiving mPrefix trace layer)
    (orderly : Orderly mPrefix layer (.runCommand index))
    (found : layer.calls[index]? = some (.receive receive))
    (issues : receive.command = some command) :
    ∃ stage events,
      receive.advance mPrefix (some (layer.db.execute command).2) =
        { receive with stage := stage } ∧
      receiveEvents index layer.db receive
        (receive.advance mPrefix (some (layer.db.execute command).2))
        (layer.db.execute command).2 = events ∧
      LossyReceiveStep mPrefix layer index receive stage events := by
  have succeeds : (layer.db.execute command).2.isError = false := by
    simpa [Orderly, Layer.reply, found, issues] using orderly
  refine ⟨_, _, ?_, rfl,
    before.shelved.receiveStep (before.receives found) issues succeeds⟩
  unfold Receive.advance
  split <;> rfl

/-- Whoever receives goes on as it began. -/
theorem receives_step
    {index : Nat}
    {receive : Receive}
    (before : Receiving mPrefix trace layer)
    (regular : Regular mPrefix layer label)
    (steps : LayerStep mPrefix layer label next events)
    (located : next.calls[index]? = some (.receive receive)) :
    receive.Heard mPrefix (trace ++ events) next index := by
  have others : layer.calls[index]? = some (.receive receive) →
      receive.Heard mPrefix (trace ++ events) next index :=
    fun old => (before.receives old).later steps
  have sends := fun (sender : Nat) (send : Send)
    (old : layer.calls[sender]? = some (.send send)) => steps.send_after old
  cases steps with
  | startSend generated =>
      rcases getElem?_append_singleton located with old | ⟨-, equal⟩
      · exact others old
      · cases equal
  | startReceive shuffled =>
      rcases getElem?_append_singleton located with old | ⟨-, equal⟩
      · exact others old
      · cases equal
        exact ⟨shuffled, regular.2, fun _ _ isGet => by cases isGet⟩
  | @send current send command found issues =>
      rcases getElem?_set_cases located with ⟨-, equal⟩ | ⟨-, old⟩
      · cases equal
      · exact others old
  | @receive current earlier command found issues =>
      rcases getElem?_set_cases located with ⟨rfl, equal⟩ | ⟨-, old⟩
      · obtain ⟨stage, shown, advanced, events, step⟩ :=
          before.receive_step regular.1 found issues
        have kept := (before.receives found).later (.receive found issues)
        rw [events] at kept ⊢
        rw [advanced] at equal
        cases equal
        refine ⟨kept.1, kept.2.1, ?_⟩
        intro channel item isGet
        change stage = .get channel item at isGet
        subst isGet
        cases step with
        | @popped sender send held start asked sentBy pushed =>
            obtain ⟨later, foundLater, dataKey, -, buffer, -, stays⟩ :=
              sends sender send sentBy
            have begun : send.stage ≠ .set := by
              intro first
              rw [first] at pushed
              cases pushed
            refine ⟨asked, sender, later, held, foundLater, stays begun,
              dataKey, List.mem_append_right trace (List.mem_singleton_self _),
              List.mem_append_left _ ?_⟩
            rw [buffer]
            exact before.pushed sentBy pushed
      · exact others old
  | elapse => exact others located

/-- A result was sent under the key that its call popped. -/
theorem results_step
    {index : Nat}
    {channels : List Bytes}
    {channel payload : Bytes}
    (before : Receiving mPrefix trace layer)
    (regular : Regular mPrefix layer label)
    (steps : LayerStep mPrefix layer label next events)
    (returned : .returned index channels channel payload ∈ events)
    (nonempty : (channel, payload) ≠ ([], [])) :
    channel ∈ channels ∧ ∃ item held sender,
      .popped index (mPrefix ++ channel) item held ∈ trace ∧
      .pushed sender channel item payload ∈ trace := by
  cases steps with
  | startSend generated => cases returned
  | startReceive shuffled => cases returned
  | @send current send command found issues =>
      unfold sendEvents at returned
      split at returned
      · cases List.mem_singleton.mp returned
      · cases returned
  | @receive current receive command found issues =>
      obtain ⟨stage, shown, -, events, step⟩ :=
        before.receive_step regular.1 found issues
      rw [events] at returned
      cases step with
      | popped start asked located pushed => cases List.mem_singleton.mp returned
      | empty =>
          cases List.mem_singleton.mp returned
          exact absurd rfl nonempty
      | refused => cases returned
      | @got got item payload stage stored =>
          cases List.mem_singleton.mp returned
          obtain ⟨-, -, getting⟩ := before.receives found
          obtain ⟨asked, sender, send, held, located, begun, rfl, popped,
            pushed⟩ := getting _ _ stage
          obtain rfl := before.shelved.stored located begun stored
          exact ⟨asked, send.dataKey, held, sender, popped, pushed⟩
  | elapse => cases returned

/-- Each step keeps the account. -/
theorem step
    (before : Receiving mPrefix trace layer)
    (regular : Regular mPrefix layer label)
    (steps : LayerStep mPrefix layer label next events) :
    Receiving mPrefix (trace ++ events) next where
  shelved := before.shelved.step regular steps
  queues := by
    obtain ⟨queues, run, lists⟩ := before.queues
    exact lists.step before.shelved regular steps run
  pushedOnce := by
    cases before.shelved.effect regular steps with
    | kept effect =>
        exact before.pushedOnce.step before.shelved.distinct effect steps
    | expired calls items strings =>
        rw [List.append_nil]
        refine ⟨before.pushedOnce.once, ?_⟩
        rw [calls]
        exact before.pushedOnce.pushers
  pushed := fun located isPushed =>
    steps.pushed_step regular.1 before.pushed located isPushed
  receives := before.receives_step regular steps
  results := by
    intro index channels channel payload member nonempty
    rcases List.mem_append.mp member with old | new
    · obtain ⟨asked, item, held, sender, popped, pushed⟩ :=
        before.results old nonempty
      exact ⟨asked, item, held, sender, List.mem_append_left events popped,
        List.mem_append_left events pushed⟩
    · obtain ⟨asked, item, held, sender, popped, pushed⟩ :=
        before.results_step regular steps new nonempty
      exact ⟨asked, item, held, sender, List.mem_append_left events popped,
        List.mem_append_left events pushed⟩

theorem of_run
    {labels : List LayerLabel}
    (run : Run (channelLayer mPrefix) (Regular mPrefix) {} labels trace layer) :
    Receiving mPrefix trace layer := by
  apply run.preserves_trace (Receiving mPrefix) (initial mPrefix)
  intro trace state label next events before regular steps
  exact before.step regular (layerStep_of_channelLayer steps)

end Receiving

/-- What the channel layer promises even where keys expire. -/
structure DeliveredWithLosses
    (mPrefix : Bytes) (trace : List LayerEvent) : Prop where
  /-- A non-empty result was sent to the channel that it names, which was asked
  for, under a key that the call popped from it. -/
  results : ∀ index channels channel payload,
    .returned index channels channel payload ∈ trace →
    (channel, payload) ≠ ([], []) →
    channel ∈ channels ∧ ∃ item held sender,
      .popped index (mPrefix ++ channel) item held ∈ trace ∧
      .pushed sender channel item payload ∈ trace
  /-- The payloads popped from a channel are some of those sent to it, in that
  order, each unchanged or gone. -/
  inOrder : ∀ channel, List.SublistForall₂
    (fun held payload => held = none ∨ held = some payload)
    (poppedFrom mPrefix channel trace) (sentTo channel trace)
  /-- No key is popped twice. -/
  poppedOnce : (poppedItems trace).Nodup

/-- Where keys expire, messages are delivered in order, at most once, and as
they were sent. -/
theorem delivered_with_losses
    {mPrefix : Bytes}
    {labels : List LayerLabel}
    {trace : List LayerEvent}
    {layer : Layer}
    (run : Run (channelLayer mPrefix) (Regular mPrefix) {} labels trace layer) :
    DeliveredWithLosses mPrefix trace := by
  have receiving := Receiving.of_run run
  obtain ⟨queues, lossy, -⟩ := receiving.queues
  constructor
  · intro index channels channel payload
    exact receiving.results
  · intro channel
    have messages : List.SublistForall₂
        (fun held sent => held = none ∨ held = sent)
        (poppedFrom mPrefix channel trace) ((sentTo channel trace).map some) := by
      rw [← pops_payloads, ← pushes_payloads, List.sublistForall₂_map_left_iff,
        List.sublistForall₂_map_right_iff, List.sublistForall₂_iff]
      obtain ⟨taken, shown, sublist⟩ := List.sublistForall₂_iff.mp
        (lossy.pops_among (mPrefix ++ channel))
      exact ⟨taken, shown.imp fun _ _ seen => seen.2, sublist⟩
    exact List.sublistForall₂_map_right_iff.mp messages
  · rw [← pops_items mPrefix]
    exact lossy.nodup_pops Prod.fst (fun _ _ seen => seen.1)
      receiving.pushedOnce.once

/-- Two messages to one channel, the second of which arrives when the payload of
the first has expired. -/
def expiringRun : List LayerLabel :=
  let keys := [[], ascii "asgi:c"]
  [.startSend (ascii "c") [1] (ascii "AAAAAAAAAA"),
    .runCommand 0, .runCommand 0, .runCommand 0, .runCommand 0,
    .elapse 30000, .startSend (ascii "c") [2] (ascii "BBBBBBBBBB"),
    .runCommand 1, .runCommand 1, .runCommand 1, .runCommand 1,
    .elapse 30000, .startReceive [ascii "c"] keys, .runCommand 2, .runCommand 2,
    .startReceive [ascii "c"] keys, .runCommand 3, .runCommand 3]

theorem delivered_with_losses_sample :
    ∃ trace layer,
      Run (channelLayer defaultPrefix) (Regular defaultPrefix) {} expiringRun
        trace layer ∧
      poppedFrom defaultPrefix (ascii "c") trace = [none, some [2]] ∧
      DeliveredWithLosses defaultPrefix trace := by
  have checked : EventMachine.checks (channelLayer defaultPrefix)
      (Regular defaultPrefix) {} expiringRun (fun _ trace =>
        poppedFrom defaultPrefix (ascii "c") trace = [none, some [2]]) =
      true := by
    decide +kernel
  obtain ⟨trace, layer, run, shown⟩ := Run.of_checks checked
  exact ⟨trace, layer, run, shown, delivered_with_losses run⟩

end RedisChannelLayer
end IisAsgiHandler
