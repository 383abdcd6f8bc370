import IisAsgiHandler.ChannelLayer.Store

/-!
# The keys of `BLPOP`

The vector of prefixed names begins with an empty string for each channel, so
`BLPOP` also waits for the key with the empty name.  What it reports from there
has no prefix and belongs to no channel.
-/

namespace IisAsgiHandler
namespace RedisChannelLayer

open Redis (Database Command Reply)

/-- The arguments of `redisCommandArgv`, each up to its first NUL. -/
def blpopArguments (keys : List Bytes) : List Bytes :=
  cStr (ascii "BLPOP") :: (keys.map cStr ++ [cStr (ascii "1")])

/-- The keys are the prefixed names of the channels, once for each occurrence,
in some order, and the timeout comes last. -/
def AsksExactly (mPrefix : Bytes) (channels keys : List Bytes) : Prop :=
  ∃ order, order.Perm (channels.map (mPrefix ++ ·)) ∧
    blpopArguments keys = ascii "BLPOP" :: (order ++ [ascii "1"])

/-- A reported key begins with the prefix, and without it names a channel that
was asked for. -/
def NamesRequested (mPrefix : Bytes) (channels : List Bytes) (key item : Bytes) :
    Prop :=
  mPrefix <+: key ∧
    ∃ channel ∈ channels,
      afterPop mPrefix (some (.array [key, item])) = .get channel item

/-- In every state of the store, what `BLPOP` reports names a channel. -/
def ReportsRequested (mPrefix : Bytes) (channels keys : List Bytes) : Prop :=
  ∀ (db later : Database) (key item : Bytes),
    db.execute (.blpop (keys.map cStr)) = (later, .array [key, item]) →
      NamesRequested mPrefix channels key item

variable {mPrefix : Bytes} {channels keys : List Bytes}

/-- The keys that `BLPOP` is given. -/
theorem mem_blpopKeys
    (shuffled : keys.Perm (prefixedChannels mPrefix channels))
    (nonempty : channels ≠ [])
    {key : Bytes} :
    key ∈ keys.map cStr ↔
      key = [] ∨ ∃ channel ∈ channels, key = cStr (mPrefix ++ channel) := by
  have count : channels.length ≠ 0 := by
    rwa [Ne, List.length_eq_zero_iff]
  rw [(shuffled.map cStr).mem_iff, prefixedChannels, List.map_append,
    List.mem_append, List.map_replicate, List.mem_replicate, List.map_map,
    List.mem_map]
  constructor
  · rintro (⟨-, empty⟩ | ⟨channel, asked, rfl⟩)
    · exact .inl empty
    · exact .inr ⟨channel, asked, rfl⟩
  · rintro (rfl | ⟨channel, asked, rfl⟩)
    · exact .inl ⟨count, rfl⟩
    · exact .inr ⟨channel, asked, rfl⟩

/-- There are twice as many keys as channels. -/
theorem not_asksExactly
    (shuffled : keys.Perm (prefixedChannels mPrefix channels))
    (nonempty : channels ≠ []) :
    ¬ AsksExactly mPrefix channels keys := by
  rintro ⟨order, permuted, equal⟩
  have expected : order.length = channels.length := by
    rw [permuted.length_eq, List.length_map]
  have actual : keys.length = channels.length + channels.length := by
    rw [shuffled.length_eq, prefixedChannels, List.length_append,
      List.length_replicate, List.length_map]
  have lengths := congrArg List.length equal
  simp only [blpopArguments, List.length_cons, List.length_append,
    List.length_map, List.length_nil] at lengths
  have some := List.length_pos_iff.mpr nonempty
  omega

/-- The key with the empty name is the list of no channel with a name. -/
theorem not_namesRequested_nil
    (named : ∀ channel ∈ channels, channel ≠ [])
    (item : Bytes) :
    ¬ NamesRequested mPrefix channels [] item := by
  rintro ⟨begins, channel, asked, stripped⟩
  have noPrefix := List.prefix_nil.mp begins
  subst noPrefix
  cases stripped
  exact named [] asked rfl

/-- A store in which only the key with the empty name holds something. -/
def unnamedStore (item : Bytes) : Database where
  entries key := if key = [] then some ⟨.list [item], none⟩ else none

theorem find_unnamedStore (item key : Bytes) :
    (unnamedStore item).find key =
      if key = [] then some ⟨.list [item], none⟩ else none := by
  by_cases empty : key = []
  · rw [if_pos empty, empty]
    rfl
  · change Option.filter _ (if key = [] then _ else none) = _
    rw [if_neg empty]
    rfl

/-- `BLPOP` reports the empty name when a list is stored there. -/
theorem not_reportsRequested
    (shuffled : keys.Perm (prefixedChannels mPrefix channels))
    (nonempty : channels ≠ [])
    (named : ∀ channel ∈ channels, channel ≠ []) :
    ¬ ReportsRequested mPrefix channels keys := by
  intro reports
  have asked : [] ∈ keys.map cStr :=
    (mem_blpopKeys shuffled nonempty).mpr (.inl rfl)
  have found : (unnamedStore []).find [] = some ⟨.list [[]], none⟩ :=
    find_unnamedStore [] []
  have others : ∀ other ≠ [], (unnamedStore []).find other = none := by
    intro other isNamed
    rw [find_unnamedStore, if_neg isNamed]
  have popped := Database.popFirst_of_lone asked found others
  exact not_namesRequested_nil named [] (reports _ _ [] [] popped)

/-- A key that `BLPOP` reports names a channel exactly when it is not empty,
under a prefix that `c_str` shows whole. -/
theorem namesRequested_iff
    (clean : (0 : UInt8) ∉ mPrefix)
    (shuffled : keys.Perm (prefixedChannels mPrefix channels))
    (regular : ∀ channel ∈ channels, RegularName channel)
    {db later : Database}
    {key item : Bytes}
    (reported : db.execute (.blpop (keys.map cStr)) =
      (later, .array [key, item])) :
    NamesRequested mPrefix channels key item ↔ key ≠ [] := by
  constructor
  · rintro names rfl
    exact not_namesRequested_nil (fun channel asked => (regular channel asked).1)
      item names
  · intro isNamed
    have member : key ∈ keys.map cStr := by
      rcases Database.popFirst_cases db (keys.map cStr) with
        ⟨known, asked, front, items, deadline, -, popped⟩ | same | same
      · rw [Database.execute, popped] at reported
        cases reported
        exact asked
      · rw [Database.execute, same] at reported
        cases reported
      · rw [Database.execute, same] at reported
        cases reported
    have nonempty : channels ≠ [] := by
      rintro rfl
      rw [prefixedChannels] at shuffled
      rw [List.perm_nil.mp shuffled] at member
      cases member
    rcases (mem_blpopKeys shuffled nonempty).mp member with
      empty | ⟨channel, asked, rfl⟩
    · exact absurd empty isNamed
    · have whole : cStr (mPrefix ++ channel) = mPrefix ++ channel := by
        apply cStr_of_notMem
        rw [List.mem_append]
        exact not_or.mpr ⟨clean, (regular channel asked).2⟩
      rw [whole]
      refine ⟨List.prefix_append mPrefix channel, channel, asked, ?_⟩
      simp [afterPop]

/-- `BLPOP` is never given the prefixed names alone, and no shuffle keeps it
from reporting a key that names no channel. -/
theorem blpop_asks_too_much
    (mPrefix : Bytes)
    (channels keys : List Bytes)
    (nonempty : channels ≠ [])
    (regular : ∀ channel ∈ channels, RegularName channel)
    (shuffled : keys.Perm (prefixedChannels mPrefix channels)) :
    ¬ AsksExactly mPrefix channels keys ∧
      ¬ ReportsRequested mPrefix channels keys :=
  ⟨not_asksExactly shuffled nonempty,
    not_reportsRequested shuffled nonempty fun channel asked =>
      (regular channel asked).1⟩

/-- One channel, not shuffled. -/
theorem blpop_asks_too_much_sample :
    ¬ AsksExactly defaultPrefix [ascii "c"] [[], ascii "asgi:c"] ∧
      ¬ ReportsRequested defaultPrefix [ascii "c"] [[], ascii "asgi:c"] :=
  blpop_asks_too_much defaultPrefix [ascii "c"] [[], ascii "asgi:c"]
    (by decide) (by decide) (by decide)

/-- For one channel `BLPOP` gets two keys.  A list at the one with the empty
name is popped, and removing the prefix from that name throws. -/
theorem empty_key_reported :
    [[], ascii "asgi:c"].Perm (prefixedChannels defaultPrefix [ascii "c"]) ∧
      blpopArguments [[], ascii "asgi:c"] =
        [ascii "BLPOP", [], ascii "asgi:c", ascii "1"] ∧
      ¬ AsksExactly defaultPrefix [ascii "c"] [[], ascii "asgi:c"] ∧
      ((unnamedStore (ascii "x")).execute
          (.blpop ([[], ascii "asgi:c"].map cStr))).2 =
        .array [[], ascii "x"] ∧
      afterPop defaultPrefix (some (.array [[], ascii "x"])) = .crashed ∧
      ¬ NamesRequested defaultPrefix [ascii "c"] [] (ascii "x") :=
  ⟨by decide, by decide, not_asksExactly (by decide) (by decide), by decide,
    by decide, not_namesRequested_nil (by decide) (ascii "x")⟩

end RedisChannelLayer
end IisAsgiHandler
