import Mathlib.Algebra.GroupWithZero.Nat
import Mathlib.Data.List.Basic

/-!
# Buffers

A buffer is a list of cells.  Data is stored through a window that starts at
an offset, a buffer is resized as a vector is, and cells are read from the
front; a read past the end of the buffer yields no value.
-/

namespace Buffer

variable {α : Type*}

/-- Store data in the cells from an offset on. -/
def store (buffer : List α) (offset : Nat) (data : List α) : List α :=
  buffer.take offset ++ data ++ buffer.drop (offset + data.length)

/-- Cut a buffer to a size, or extend it with a filler. -/
def resize (filler : α) (buffer : List α) (size : Nat) : List α :=
  buffer.take size ++ List.replicate (size - buffer.length) filler

/-- The first cells of a buffer; a cell past its end has no value. -/
def read (buffer : List α) (count : Nat) : List (Option α) :=
  (List.range count).map fun index => buffer[index]?

@[simp] theorem store_nil (buffer : List α) (offset : Nat) :
    store buffer offset [] = buffer := by
  simp [store]

theorem store_zero (buffer data : List α) :
    store buffer 0 data = data ++ buffer.drop data.length := by
  simp [store]

/-- Storing inside a buffer keeps its size. -/
theorem length_store
    {buffer data : List α}
    {offset : Nat}
    (fits : offset + data.length ≤ buffer.length) :
    (store buffer offset data).length = buffer.length := by
  simp only [store, List.length_append, List.length_take, List.length_drop]
  omega

/-- Up to the end of the stored data, a buffer holds what it held before the
offset, followed by the data. -/
theorem take_store
    {buffer : List α}
    {offset : Nat}
    (data : List α)
    (inside : offset ≤ buffer.length) :
    (store buffer offset data).take (offset + data.length) =
      buffer.take offset ++ data := by
  unfold store
  apply List.take_left'
  simp only [List.length_append, List.length_take]
  omega

@[simp] theorem length_resize
    (filler : α)
    (buffer : List α)
    (size : Nat) :
    (resize filler buffer size).length = size := by
  simp only [resize, List.length_append, List.length_take,
    List.length_replicate]
  omega

@[simp] theorem length_read (buffer : List α) (count : Nat) :
    (read buffer count).length = count := by
  simp [read]

/-- Reading inside a buffer yields the values of its first cells. -/
theorem read_of_le
    {buffer : List α}
    {count : Nat}
    (inside : count ≤ buffer.length) :
    read buffer count = (buffer.take count).map some := by
  apply List.ext_getElem
  · simp only [length_read, List.length_map, List.length_take]
    omega
  · intro index before _
    rw [length_read] at before
    simp [read, List.getElem?_eq_getElem (Nat.lt_of_lt_of_le before inside)]

/-- The first cell that a nonempty read yields is the head of the buffer. -/
theorem head?_read
    (buffer : List α)
    {count : Nat}
    (positive : 0 < count) :
    (read buffer count).head? = some buffer.head? := by
  obtain ⟨count, rfl⟩ := Nat.exists_eq_succ_of_ne_zero
    (Nat.pos_iff_ne_zero.mp positive)
  simp [read, List.range_succ_eq_map, List.head?_eq_getElem?]

/-! ## Pieces -/

/-- Pieces of the given sizes, each taken from the front of the data. -/
def restarts (data : List α) (counts : List Nat) : List α :=
  counts.flatMap fun count => data.take count

/-- From an offset on, each piece of the data looks like its front. -/
def Repeats (data : List α) : Nat → List Nat → Prop
  | _, [] => True
  | offset, count :: counts =>
      (data.drop offset).take count = data.take count ∧
        Repeats data (offset + count) counts

/-- Pieces taken from the front make up the data exactly when all of them look
like it. -/
theorem restarts_eq_iff
    {data : List α}
    {counts : List Nat}
    {offset : Nat}
    (within : offset + counts.sum ≤ data.length) :
    restarts data counts = (data.drop offset).take counts.sum ↔
      Repeats data offset counts := by
  induction counts generalizing offset with
  | nil => simp [restarts, Repeats]
  | cons count counts inductionHypothesis =>
      rw [List.sum_cons] at within
      have rest := @inductionHypothesis (offset + count) (by omega)
      have lengths : (data.take count).length =
          ((data.drop offset).take count).length := by
        rw [List.length_take, List.length_take, List.length_drop]
        omega
      rw [restarts, List.flatMap_cons, List.sum_cons, List.take_add,
        List.drop_drop, Repeats]
      constructor
      · intro equal
        obtain ⟨first, others⟩ := List.append_inj equal lengths
        exact ⟨first.symm, rest.mp others⟩
      · rintro ⟨first, others⟩
        rw [first]
        exact congrArg _ (rest.mpr others)

end Buffer
