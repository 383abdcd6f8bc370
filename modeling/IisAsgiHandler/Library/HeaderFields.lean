import Mathlib.Data.List.Nodup
import Mathlib.Data.List.Count
import Mathlib.Data.List.Induction

/-!
# Header fields

A header is a list of fields, in which a name can occur several times.  Names
are compared by a key; those of HTTP are compared without regard to the case of
ASCII letters.  Setting a field appends it, after all fields of its name have
been dropped if they are to be replaced.
-/

namespace HeaderFields

/-- An ASCII letter in lower case; any other byte as it is. -/
def lower (byte : UInt8) : UInt8 :=
  if 0x41 ≤ byte ∧ byte ≤ 0x5a then byte + 0x20 else byte

/-- The key by which names of HTTP are compared. -/
def nameKey (name : List UInt8) : List UInt8 := name.map lower

variable {ν κ β : Type*} [DecidableEq κ] (key : ν → κ)

/-- The values of a name, in order. -/
def values (fields : List (ν × β)) (name : ν) : List β :=
  (fields.filter fun field => key field.1 = key name).map Prod.snd

/-- Append a field, in place of the others of its name or after them. -/
def set (fields : List (ν × β)) (name : ν) (value : β) (replace : Bool) :
    List (ν × β) :=
  (if replace then fields.filter fun field => key field.1 ≠ key name
    else fields) ++ [(name, value)]

/-- Set one field after the other, replacing what is there. -/
def replaceAll (fields more : List (ν × β)) : List (ν × β) :=
  more.foldl (fun fields field => set key fields field.1 field.2 true) fields

variable {key}
variable {fields more : List (ν × β)}
variable {name other : ν}

theorem values_append (fields more : List (ν × β)) (name : ν) :
    values key (fields ++ more) name =
      values key fields name ++ values key more name := by
  rw [values, List.filter_append, List.map_append, values, values]

theorem values_singleton_self {value : β} (same : key other = key name) :
    values key [(other, value)] name = [value] := by
  simp [values, same]

theorem values_singleton_ne {value : β} (different : key other ≠ key name) :
    values key [(other, value)] name = [] := by
  simp [values, different]

theorem length_values (fields : List (ν × β)) (name : ν) :
    (values key fields name).length =
      (fields.map fun field => key field.1).count (key name) := by
  rw [values, List.length_map, List.count, List.countP_map,
    List.countP_eq_length_filter]
  rfl

theorem mem_values {value : β} :
    value ∈ values key fields name ↔
      ∃ field ∈ fields, key field.1 = key name ∧ field.2 = value := by
  rw [values, List.mem_map]
  constructor
  · rintro ⟨field, member, rfl⟩
    obtain ⟨inFields, same⟩ := List.mem_filter.mp member
    exact ⟨field, inFields, of_decide_eq_true same, rfl⟩
  · rintro ⟨field, inFields, same, rfl⟩
    exact ⟨field, List.mem_filter.mpr ⟨inFields, decide_eq_true same⟩, rfl⟩

theorem values_set_replace {value : β} (same : key other = key name) :
    values key (set key fields other value true) name = [value] := by
  rw [set, if_pos rfl, values_append, values_singleton_self same, values,
    List.filter_filter, List.filter_eq_nil_iff.mpr]
  · rfl
  · intro field _
    simp [same]

theorem values_set_ne
    {value : β} {replace : Bool} (different : key other ≠ key name) :
    values key (set key fields other value replace) name =
      values key fields name := by
  rw [set, values_append, values_singleton_ne different, List.append_nil]
  split
  · rw [values, values, List.filter_filter]
    congr 1
    refine List.filter_congr fun field _ => ?_
    by_cases same : key field.1 = key name
    · simp [same, Ne.symm different]
    · simp [same]
  · rfl

/-- Of several values of a name only the last is left. -/
theorem values_replaceAll (fields more : List (ν × β)) (name : ν) :
    values key (replaceAll key fields more) name =
      match (values key more name).getLast? with
      | none => values key fields name
      | some value => [value] := by
  induction more using List.reverseRecOn with
  | nil => rfl
  | append_singleton more last inductionHypothesis =>
      rw [replaceAll, List.foldl_append, List.foldl_cons, List.foldl_nil,
        ← replaceAll, values_append]
      by_cases same : key last.1 = key name
      · rw [values_set_replace same, values_singleton_self same,
          List.getLast?_concat]
      · rw [values_set_ne same, values_singleton_ne same, List.append_nil,
          inductionHypothesis]

/-- No name occurs twice exactly when each has at most one value. -/
theorem nodup_iff_length_values (fields : List (ν × β)) :
    (fields.map fun field => key field.1).Nodup ↔
      ∀ name, (values key fields name).length ≤ 1 := by
  rw [List.nodup_iff_count_le_one]
  constructor
  · intro once name
    rw [length_values]
    exact once (key name)
  · intro once value
    by_cases member : value ∈ fields.map fun field => key field.1
    · obtain ⟨field, -, rfl⟩ := List.mem_map.mp member
      rw [← length_values]
      exact once field.1
    · rw [List.count_eq_zero_of_not_mem member]
      exact Nat.zero_le 1

end HeaderFields
