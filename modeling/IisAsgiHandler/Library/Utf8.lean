import Mathlib.Data.List.Basic

/-!
# UTF-8 of numbers

The layout of UTF-8, applied to any number that it has room for, whether or not
that is the code of a character.  What is written of a list of numbers is read
back from its bytes, and it is text in UTF-8 exactly when every number is the
code of a character.
-/

namespace Utf8

/-- The first number for which four bytes have no room. -/
def bound : Nat := 0x200000

/-- The bytes of a number. -/
def encode (code : Nat) : List UInt8 :=
  if code < 0x80 then [UInt8.ofNat code]
  else if code < 0x800 then
    [UInt8.ofNat (code / 64 % 32 + 0xC0), UInt8.ofNat (code % 64 + 0x80)]
  else if code < 0x10000 then
    [UInt8.ofNat (code / 4096 % 16 + 0xE0), UInt8.ofNat (code / 64 % 64 + 0x80),
      UInt8.ofNat (code % 64 + 0x80)]
  else
    [UInt8.ofNat (code / 262144 % 8 + 0xF0),
      UInt8.ofNat (code / 4096 % 64 + 0x80), UInt8.ofNat (code / 64 % 64 + 0x80),
      UInt8.ofNat (code % 64 + 0x80)]

/-- Read one number. -/
def decode : List UInt8 → Option (Nat × List UInt8)
  | [] => none
  | first :: rest =>
      let lead := first.toNat
      if lead < 0x80 then some (lead, rest)
      else match rest with
        | [] => none
        | second :: rest =>
            let code := second.toNat - 0x80
            if lead < 0xE0 then some ((lead - 0xC0) * 64 + code, rest)
            else match rest with
              | [] => none
              | third :: rest =>
                  let code := code * 64 + (third.toNat - 0x80)
                  if lead < 0xF0 then some ((lead - 0xE0) * 4096 + code, rest)
                  else match rest with
                    | [] => none
                    | fourth :: rest =>
                        let code := code * 64 + (fourth.toNat - 0x80)
                        some ((lead - 0xF0) * 262144 + code, rest)

/-- Read numbers to the end of an input of at most some length. -/
def decodeMany : Nat → List UInt8 → Option (List Nat)
  | _, [] => some []
  | 0, _ :: _ => none
  | fuel + 1, first :: rest =>
      match decode (first :: rest) with
      | none => none
      | some (code, rest) => (decodeMany fuel rest).map (code :: ·)

/-- Read numbers to the end. -/
def decodeAll (bytes : List UInt8) : Option (List Nat) :=
  decodeMany bytes.length bytes

/-- Characters are written as UTF-8 writes them. -/
theorem encode_toNat (char : Char) :
    encode char.toNat = String.utf8EncodeChar char := by
  unfold encode String.utf8EncodeChar
  simp only [Nat.lt_succ_iff]
  rfl

theorem length_encode_pos (code : Nat) : 0 < (encode code).length := by
  unfold encode
  split_ifs <;> simp

/-- A number is read back, whatever follows it. -/
theorem decode_encode
    {code : Nat}
    (fits : code < bound)
    (rest : List UInt8) :
    decode (encode code ++ rest) = some (code, rest) := by
  unfold bound at fits
  unfold encode
  split_ifs with one two three
  · have lead : code % 256 = code := by omega
    simp [decode, lead, one]
  · have lead : (code / 64 % 32 + 0xC0) % 256 = code / 64 + 0xC0 := by omega
    have second : (code % 64 + 0x80) % 256 = code % 64 + 0x80 := by omega
    have notOne : ¬ code / 64 + 0xC0 < 0x80 := by omega
    have isTwo : code / 64 + 0xC0 < 0xE0 := by omega
    simp only [List.cons_append, List.nil_append, decode, UInt8.toNat_ofNat',
      Nat.reducePow, lead, second, if_neg notOne, if_pos isTwo, Option.some.injEq,
      Prod.mk.injEq, and_true]
    omega
  · have lead : (code / 4096 % 16 + 0xE0) % 256 = code / 4096 + 0xE0 := by omega
    have second : (code / 64 % 64 + 0x80) % 256 = code / 64 % 64 + 0x80 := by
      omega
    have third : (code % 64 + 0x80) % 256 = code % 64 + 0x80 := by omega
    have notOne : ¬ code / 4096 + 0xE0 < 0x80 := by omega
    have notTwo : ¬ code / 4096 + 0xE0 < 0xE0 := by omega
    have isThree : code / 4096 + 0xE0 < 0xF0 := by omega
    simp only [List.cons_append, List.nil_append, decode, UInt8.toNat_ofNat',
      Nat.reducePow, lead, second, third, if_neg notOne, if_neg notTwo,
      if_pos isThree, Option.some.injEq, Prod.mk.injEq, and_true]
    omega
  · have lead : (code / 262144 % 8 + 0xF0) % 256 = code / 262144 + 0xF0 := by
      omega
    have second : (code / 4096 % 64 + 0x80) % 256 = code / 4096 % 64 + 0x80 := by
      omega
    have third : (code / 64 % 64 + 0x80) % 256 = code / 64 % 64 + 0x80 := by
      omega
    have fourth : (code % 64 + 0x80) % 256 = code % 64 + 0x80 := by omega
    have notOne : ¬ code / 262144 + 0xF0 < 0x80 := by omega
    have notTwo : ¬ code / 262144 + 0xF0 < 0xE0 := by omega
    have notThree : ¬ code / 262144 + 0xF0 < 0xF0 := by omega
    simp only [List.cons_append, List.nil_append, decode, UInt8.toNat_ofNat',
      Nat.reducePow, lead, second, third, fourth, if_neg notOne, if_neg notTwo,
      if_neg notThree, Option.some.injEq, Prod.mk.injEq, and_true]
    omega

/-- A list of numbers is read back. -/
theorem decodeMany_flatMap
    {codes : List Nat}
    {fuel : Nat}
    (fits : ∀ code ∈ codes, code < bound)
    (enough : (codes.flatMap encode).length ≤ fuel) :
    decodeMany fuel (codes.flatMap encode) = some codes := by
  induction codes generalizing fuel with
  | nil => cases fuel <;> rfl
  | cons code codes inductionHypothesis =>
      rw [List.forall_mem_cons] at fits
      rw [List.flatMap_cons, List.length_append] at enough
      rw [List.flatMap_cons]
      have nonempty := length_encode_pos code
      have read := decode_encode fits.1 (codes.flatMap encode)
      obtain ⟨first, more, written⟩ := List.exists_cons_of_length_pos nonempty
      rw [written, List.cons_append] at read ⊢
      cases fuel with
      | zero => omega
      | succ fuel =>
          rw [decodeMany, read]
          simp only
          rw [inductionHypothesis fits.2 (by omega)]
          rfl

theorem decodeAll_flatMap
    {codes : List Nat}
    (fits : ∀ code ∈ codes, code < bound) :
    decodeAll (codes.flatMap encode) = some codes :=
  decodeMany_flatMap fits (Nat.le_refl _)

/-- Different numbers are written differently. -/
theorem flatMap_encode_injective
    {codes others : List Nat}
    (fits : ∀ code ∈ codes, code < bound)
    (otherFits : ∀ code ∈ others, code < bound)
    (same : codes.flatMap encode = others.flatMap encode) :
    codes = others := by
  have read := decodeAll_flatMap fits
  rw [same, decodeAll_flatMap otherFits] at read
  exact (Option.some.inj read).symm

/-- There is room for every character. -/
theorem lt_bound_of_isValidChar {code : Nat} (valid : code.isValidChar) :
    code < bound := by
  unfold bound
  unfold Nat.isValidChar at valid
  omega

theorem toNat_ofNat {code : Nat} (valid : code.isValidChar) :
    (Char.ofNat code).toNat = code := by
  rw [Char.ofNat, dif_pos valid]
  rfl

/-- Text in UTF-8. -/
def IsText (bytes : List UInt8) : Prop := bytes.toByteArray.IsValidUTF8

theorem isText_iff {bytes : List UInt8} :
    IsText bytes ↔
      ∃ text : List Char, bytes = (text.map Char.toNat).flatMap encode := by
  have written : ∀ text : List Char,
      (text.map Char.toNat).flatMap encode = text.flatMap String.utf8EncodeChar := by
    intro text
    rw [List.flatMap_map]
    exact congrArg (fun write => text.flatMap write) (funext encode_toNat)
  constructor
  · rintro ⟨text, equal⟩
    refine ⟨text, ?_⟩
    rw [written]
    exact List.toByteArray_inj.mp equal
  · rintro ⟨text, rfl⟩
    rw [written]
    exact ⟨text, rfl⟩

/-- The numbers of a text are codes of characters, and no others make one. -/
theorem isText_flatMap_iff
    {codes : List Nat}
    (fits : ∀ code ∈ codes, code < bound) :
    IsText (codes.flatMap encode) ↔ ∀ code ∈ codes, code.isValidChar := by
  rw [isText_iff]
  constructor
  · rintro ⟨text, same⟩ code member
    have charFits : ∀ code ∈ text.map Char.toNat, code < bound := by
      intro code isChar
      obtain ⟨char, -, rfl⟩ := List.mem_map.mp isChar
      exact lt_bound_of_isValidChar char.valid
    rw [flatMap_encode_injective fits charFits same] at member
    obtain ⟨char, -, rfl⟩ := List.mem_map.mp member
    exact char.valid
  · intro valid
    refine ⟨codes.map Char.ofNat, ?_⟩
    rw [List.map_map]
    have same : codes.map (Char.toNat ∘ Char.ofNat) = codes := by
      apply (List.map_congr_left _).trans (List.map_id codes)
      intro code member
      exact toNat_ofNat (valid code member)
    rw [same]

end Utf8
