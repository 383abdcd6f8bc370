import Mathlib.Algebra.GroupWithZero.Nat
import Mathlib.Data.List.Basic
import Mathlib.Data.List.Nodup

/-!
# MessagePack

Values of the MessagePack format, the shortest header for each kind of value,
and a reader that knows every header of the specification.  What is written of
a value is read back as that value, whatever follows it.
-/

namespace MessagePack

/-- The values of the format.  Floating-point numbers are kept as their bits. -/
inductive Value where
  | nil
  | bool (value : Bool)
  | int (value : Int)
  | float32 (bits : Nat)
  | float64 (bits : Nat)
  | str (bytes : List UInt8)
  | bin (bytes : List UInt8)
  | ext (kind : UInt8) (bytes : List UInt8)
  | array (items : List Value)
  | map (entries : List (Value × Value))

/-! ## Numbers -/

/-- A number as its bytes, the most significant one first. -/
def bigEndian : Nat → Nat → List UInt8
  | 0, _ => []
  | width + 1, value => bigEndian width (value / 256) ++ [UInt8.ofNat value]

/-- The number that some bytes stand for, the most significant one first. -/
def ofBigEndian (bytes : List UInt8) : Nat :=
  bytes.foldl (fun value byte => 256 * value + byte.toNat) 0

@[simp] theorem length_bigEndian (width value : Nat) :
    (bigEndian width value).length = width := by
  induction width generalizing value with
  | zero => rfl
  | succ width inductionHypothesis =>
      rw [bigEndian, List.length_append, inductionHypothesis]
      rfl

/-- A number that fits the width is read back from its bytes. -/
theorem ofBigEndian_bigEndian
    {width value : Nat}
    (fits : value < 256 ^ width) :
    ofBigEndian (bigEndian width value) = value := by
  induction width generalizing value with
  | zero =>
      rw [pow_zero] at fits
      simp only [bigEndian, ofBigEndian, List.foldl_nil]
      omega
  | succ width inductionHypothesis =>
      have quotientFits : value / 256 < 256 ^ width := by
        rw [pow_succ] at fits
        exact Nat.div_lt_of_lt_mul (by omega)
      have read := inductionHypothesis quotientFits
      rw [ofBigEndian] at read
      rw [bigEndian, ofBigEndian, List.foldl_append, read, List.foldl_cons,
        List.foldl_nil, UInt8.toNat_ofNat']
      omega

/-- The two's complement of a number, as a natural number. -/
def complement (width : Nat) (value : Int) : Nat :=
  (value % (256 ^ width : Nat)).toNat

/-- The number that a two's complement stands for. -/
def ofComplement (width value : Nat) : Int :=
  (value : Int).bmod (256 ^ width)

theorem complement_lt (width : Nat) (value : Int) :
    complement width value < 256 ^ width := by
  have positive : (0 : Int) < (256 ^ width : Nat) :=
    Int.natCast_pos.mpr (Nat.pow_pos (by omega))
  have below := Int.emod_lt_of_pos value positive
  have nonneg := Int.emod_nonneg value (Int.ne_of_gt positive)
  rw [complement]
  omega

/-- A number in the signed range of the width is read back from its two's
complement. -/
theorem ofComplement_complement
    {width : Nat}
    {value : Int}
    (low : -((256 ^ width : Nat) : Int) ≤ 2 * value)
    (high : 2 * value < (256 ^ width : Nat)) :
    ofComplement width (complement width value) = value := by
  have positive : (0 : Int) < (256 ^ width : Nat) :=
    Int.natCast_pos.mpr (Nat.pow_pos (by omega))
  have nonneg := Int.emod_nonneg value (Int.ne_of_gt positive)
  rw [ofComplement, complement, Int.toNat_of_nonneg nonneg, Int.emod_bmod]
  apply Int.bmod_eq_of_le <;> omega

/-! ## Headers -/

/-- A header with its tag and a number of a fixed width. -/
def tagged (tag : UInt8) (width value : Nat) : List UInt8 :=
  tag :: bigEndian width value

def packNil : List UInt8 := [0xc0]

def packBool (value : Bool) : List UInt8 :=
  if value then [0xc3] else [0xc2]

/-- A nonnegative number takes an unsigned header, a negative one a signed
header. -/
def packInt (value : Int) : List UInt8 :=
  if value < 0 then
    if -32 ≤ value then [UInt8.ofNat (complement 1 value)]
    else if -128 ≤ value then tagged 0xd0 1 (complement 1 value)
    else if -32768 ≤ value then tagged 0xd1 2 (complement 2 value)
    else if -2147483648 ≤ value then tagged 0xd2 4 (complement 4 value)
    else tagged 0xd3 8 (complement 8 value)
  else
    if value < 128 then [UInt8.ofNat value.toNat]
    else if value < 256 then tagged 0xcc 1 value.toNat
    else if value < 65536 then tagged 0xcd 2 value.toNat
    else if value < 4294967296 then tagged 0xce 4 value.toNat
    else tagged 0xcf 8 value.toNat

def packFloat32 (bits : Nat) : List UInt8 := tagged 0xca 4 bits

def packFloat64 (bits : Nat) : List UInt8 := tagged 0xcb 8 bits

def packStr (length : Nat) : List UInt8 :=
  if length < 32 then [UInt8.ofNat (0xa0 + length)]
  else if length < 256 then tagged 0xd9 1 length
  else if length < 65536 then tagged 0xda 2 length
  else tagged 0xdb 4 length

def packBin (length : Nat) : List UInt8 :=
  if length < 256 then tagged 0xc4 1 length
  else if length < 65536 then tagged 0xc5 2 length
  else tagged 0xc6 4 length

def packExt (kind : UInt8) (length : Nat) : List UInt8 :=
  if length = 1 then [0xd4, kind]
  else if length = 2 then [0xd5, kind]
  else if length = 4 then [0xd6, kind]
  else if length = 8 then [0xd7, kind]
  else if length = 16 then [0xd8, kind]
  else if length < 256 then tagged 0xc7 1 length ++ [kind]
  else if length < 65536 then tagged 0xc8 2 length ++ [kind]
  else tagged 0xc9 4 length ++ [kind]

def packArray (count : Nat) : List UInt8 :=
  if count < 16 then [UInt8.ofNat (0x90 + count)]
  else if count < 65536 then tagged 0xdc 2 count
  else tagged 0xdd 4 count

def packMap (count : Nat) : List UInt8 :=
  if count < 16 then [UInt8.ofNat (0x80 + count)]
  else if count < 65536 then tagged 0xde 2 count
  else tagged 0xdf 4 count

/-! ## Values -/

mutual

/-- A value as its header and its body. -/
def encode : Value → List UInt8
  | .nil => packNil
  | .bool value => packBool value
  | .int value => packInt value
  | .float32 bits => packFloat32 bits
  | .float64 bits => packFloat64 bits
  | .str bytes => packStr bytes.length ++ bytes
  | .bin bytes => packBin bytes.length ++ bytes
  | .ext kind bytes => packExt kind bytes.length ++ bytes
  | .array items => packArray items.length ++ encodeItems items
  | .map entries => packMap entries.length ++ encodeEntries entries

def encodeItems : List Value → List UInt8
  | [] => []
  | item :: items => encode item ++ encodeItems items

def encodeEntries : List (Value × Value) → List UInt8
  | [] => []
  | (key, value) :: entries =>
      encode key ++ encode value ++ encodeEntries entries

end

theorem encodeItems_eq (items : List Value) :
    encodeItems items = items.flatMap encode := by
  induction items with
  | nil => rw [encodeItems, List.flatMap_nil]
  | cons item items inductionHypothesis =>
      rw [encodeItems, List.flatMap_cons, inductionHypothesis]

/-- A key followed by its value. -/
def encodeEntry (entry : Value × Value) : List UInt8 :=
  encode entry.1 ++ encode entry.2

theorem encodeEntries_eq (entries : List (Value × Value)) :
    encodeEntries entries = entries.flatMap encodeEntry := by
  induction entries with
  | nil => rw [encodeEntries, List.flatMap_nil]
  | cons entry entries inductionHypothesis =>
      rw [encodeEntries, List.flatMap_cons, inductionHypothesis, encodeEntry]

/-- The values that the format has room for. -/
inductive Encodable : Value → Prop
  | nil : Encodable .nil
  | bool (value : Bool) : Encodable (.bool value)
  | int {value : Int}
      (low : -9223372036854775808 ≤ value)
      (high : value < 18446744073709551616) : Encodable (.int value)
  | float32 {bits : Nat} (fits : bits < 2 ^ 32) : Encodable (.float32 bits)
  | float64 {bits : Nat} (fits : bits < 2 ^ 64) : Encodable (.float64 bits)
  | str {bytes : List UInt8}
      (fits : bytes.length < 2 ^ 32) : Encodable (.str bytes)
  | bin {bytes : List UInt8}
      (fits : bytes.length < 2 ^ 32) : Encodable (.bin bytes)
  | ext (kind : UInt8) {bytes : List UInt8}
      (fits : bytes.length < 2 ^ 32) : Encodable (.ext kind bytes)
  | array {items : List Value}
      (fits : items.length < 2 ^ 32)
      (each : ∀ item ∈ items, Encodable item) : Encodable (.array items)
  | map {entries : List (Value × Value)}
      (fits : entries.length < 2 ^ 32)
      (keys : ∀ entry ∈ entries, Encodable entry.1)
      (values : ∀ entry ∈ entries, Encodable entry.2) : Encodable (.map entries)

/-! ## Reading -/

/-- What a header announces: a whole value, a body of some length, or a number
of values. -/
inductive Token where
  | value (value : Value)
  | str (length : Nat)
  | bin (length : Nat)
  | ext (length : Nat)
  | array (count : Nat)
  | map (count : Nat)

/-- For each first byte of the specification, the width of the number that
follows it and what that number means.  The byte `0xc1` is never used. -/
def header (tag : Nat) : Option (Nat × (Nat → Token)) :=
  if tag < 0x80 then some (0, fun _ => .value (.int tag))
  else if tag < 0x90 then some (0, fun _ => .map (tag - 0x80))
  else if tag < 0xa0 then some (0, fun _ => .array (tag - 0x90))
  else if tag < 0xc0 then some (0, fun _ => .str (tag - 0xa0))
  else if 0xe0 ≤ tag then some (0, fun _ => .value (.int (ofComplement 1 tag)))
  else match tag with
    | 0xc0 => some (0, fun _ => .value .nil)
    | 0xc2 => some (0, fun _ => .value (.bool false))
    | 0xc3 => some (0, fun _ => .value (.bool true))
    | 0xc4 => some (1, .bin)
    | 0xc5 => some (2, .bin)
    | 0xc6 => some (4, .bin)
    | 0xc7 => some (1, .ext)
    | 0xc8 => some (2, .ext)
    | 0xc9 => some (4, .ext)
    | 0xca => some (4, fun bits => .value (.float32 bits))
    | 0xcb => some (8, fun bits => .value (.float64 bits))
    | 0xcc => some (1, fun number => .value (.int number))
    | 0xcd => some (2, fun number => .value (.int number))
    | 0xce => some (4, fun number => .value (.int number))
    | 0xcf => some (8, fun number => .value (.int number))
    | 0xd0 => some (1, fun number => .value (.int (ofComplement 1 number)))
    | 0xd1 => some (2, fun number => .value (.int (ofComplement 2 number)))
    | 0xd2 => some (4, fun number => .value (.int (ofComplement 4 number)))
    | 0xd3 => some (8, fun number => .value (.int (ofComplement 8 number)))
    | 0xd4 => some (0, fun _ => .ext 1)
    | 0xd5 => some (0, fun _ => .ext 2)
    | 0xd6 => some (0, fun _ => .ext 4)
    | 0xd7 => some (0, fun _ => .ext 8)
    | 0xd8 => some (0, fun _ => .ext 16)
    | 0xd9 => some (1, .str)
    | 0xda => some (2, .str)
    | 0xdb => some (4, .str)
    | 0xdc => some (2, .array)
    | 0xdd => some (4, .array)
    | 0xde => some (2, .map)
    | 0xdf => some (4, .map)
    | _ => none

/-- The next bytes of an input, when it holds that many. -/
def takeBytes (count : Nat) (input : List UInt8) :
    Option (List UInt8 × List UInt8) :=
  if count ≤ input.length then some (input.take count, input.drop count)
  else none

def readToken : List UInt8 → Option (Token × List UInt8)
  | [] => none
  | tag :: input =>
      match header tag.toNat with
      | none => none
      | some (width, token) =>
          (takeBytes width input).map fun (number, rest) =>
            (token (ofBigEndian number), rest)

/-- Read a number of items in a row. -/
def readMany {α : Type} (read : List UInt8 → Option (α × List UInt8)) :
    Nat → List UInt8 → Option (List α × List UInt8)
  | 0, input => some ([], input)
  | count + 1, input =>
      match read input with
      | none => none
      | some (item, input) =>
          (readMany read count input).map fun (items, rest) =>
            (item :: items, rest)

/-- Read two items in a row. -/
def readPair {α : Type} (read : List UInt8 → Option (α × List UInt8))
    (input : List UInt8) : Option ((α × α) × List UInt8) :=
  match read input with
  | none => none
  | some (first, input) =>
      (read input).map fun (second, rest) => ((first, second), rest)

/-- Read one value, nested at most as deeply as the fuel says. -/
def decode : Nat → List UInt8 → Option (Value × List UInt8)
  | 0, _ => none
  | fuel + 1, input =>
      match readToken input with
      | none => none
      | some (.value value, input) => some (value, input)
      | some (.str length, input) =>
          (takeBytes length input).map fun (bytes, rest) => (.str bytes, rest)
      | some (.bin length, input) =>
          (takeBytes length input).map fun (bytes, rest) => (.bin bytes, rest)
      | some (.ext length, input) =>
          match takeBytes (length + 1) input with
          | some (kind :: bytes, rest) => some (.ext kind bytes, rest)
          | _ => none
      | some (.array count, input) =>
          (readMany (decode fuel) count input).map fun (items, rest) =>
            (.array items, rest)
      | some (.map count, input) =>
          (readMany (readPair (decode fuel)) count input).map
            fun (entries, rest) => (.map entries, rest)

/-- Read one value from the front of an input.  A value takes at least one
byte, so the length of the input bounds how deep it is nested. -/
def decodeFirst (input : List UInt8) : Option (Value × List UInt8) :=
  decode input.length input

@[simp] theorem takeBytes_append (bytes rest : List UInt8) :
    takeBytes bytes.length (bytes ++ rest) = some (bytes, rest) := by
  rw [takeBytes, if_pos (by rw [List.length_append]; omega),
    List.take_left, List.drop_left]

/-- A header without a number is read by its tag alone. -/
theorem readToken_single
    (tag : UInt8)
    {token : Nat → Token}
    (known : header tag.toNat = some (0, token))
    (rest : List UInt8) :
    readToken ([tag] ++ rest) = some (token 0, rest) := by
  rw [List.singleton_append, readToken, known]
  simp [takeBytes, ofBigEndian]

/-- A header with a number is read as its tag and that number. -/
theorem readToken_tagged
    {tag : UInt8}
    {width value : Nat}
    {token : Nat → Token}
    (known : header tag.toNat = some (width, token))
    (fits : value < 256 ^ width)
    (rest : List UInt8) :
    readToken (tagged tag width value ++ rest) = some (token value, rest) := by
  have taken :
      takeBytes width (bigEndian width value ++ rest) =
        some (bigEndian width value, rest) := by
    have whole := takeBytes_append (bigEndian width value) rest
    rwa [length_bigEndian] at whole
  rw [tagged, List.cons_append, readToken, known]
  simp only [taken, Option.map_some, ofBigEndian_bigEndian fits]

/-! ## What is written is read back -/

/-- The first byte of a header that holds its number itself. -/
theorem readToken_fixed
    {tag : Nat}
    {token : Nat → Token}
    (byte : tag < 256)
    (known : header tag = some (0, token))
    (rest : List UInt8) :
    readToken ([UInt8.ofNat tag] ++ rest) = some (token 0, rest) := by
  apply readToken_single (UInt8.ofNat tag)
  rw [UInt8.toNat_ofNat', Nat.mod_eq_of_lt byte]
  exact known

theorem readToken_packBool (value : Bool) (rest : List UInt8) :
    readToken (packBool value ++ rest) = some (.value (.bool value), rest) := by
  cases value with
  | false => exact readToken_single 0xc2 rfl rest
  | true => exact readToken_single 0xc3 rfl rest

theorem readToken_packStr
    {length : Nat}
    (fits : length < 2 ^ 32)
    (rest : List UInt8) :
    readToken (packStr length ++ rest) = some (.str length, rest) := by
  rw [packStr]
  split_ifs with fixed one two
  · have known : header (0xa0 + length) = some (0, fun _ => .str length) := by
      simp only [header]
      split_ifs <;> first | omega | simp
    exact readToken_fixed (by omega) known rest
  · exact readToken_tagged rfl (by omega) rest
  · exact readToken_tagged rfl (by omega) rest
  · exact readToken_tagged rfl (by omega) rest

theorem readToken_packBin
    {length : Nat}
    (fits : length < 2 ^ 32)
    (rest : List UInt8) :
    readToken (packBin length ++ rest) = some (.bin length, rest) := by
  rw [packBin]
  split_ifs with one two
  · exact readToken_tagged rfl (by omega) rest
  · exact readToken_tagged rfl (by omega) rest
  · exact readToken_tagged rfl (by omega) rest

theorem readToken_packArray
    {count : Nat}
    (fits : count < 2 ^ 32)
    (rest : List UInt8) :
    readToken (packArray count ++ rest) = some (.array count, rest) := by
  rw [packArray]
  split_ifs with fixed two
  · have known : header (0x90 + count) = some (0, fun _ => .array count) := by
      simp only [header]
      split_ifs <;> first | omega | simp
    exact readToken_fixed (by omega) known rest
  · exact readToken_tagged rfl (by omega) rest
  · exact readToken_tagged rfl (by omega) rest

theorem readToken_packMap
    {count : Nat}
    (fits : count < 2 ^ 32)
    (rest : List UInt8) :
    readToken (packMap count ++ rest) = some (.map count, rest) := by
  rw [packMap]
  split_ifs with fixed two
  · have known : header (0x80 + count) = some (0, fun _ => .map count) := by
      simp only [header]
      split_ifs <;> first | omega | simp
    exact readToken_fixed (by omega) known rest
  · exact readToken_tagged rfl (by omega) rest
  · exact readToken_tagged rfl (by omega) rest

/-- The kind of an extension follows its header, in front of the body. -/
theorem readToken_packExt
    {length : Nat}
    (fits : length < 2 ^ 32)
    (kind : UInt8)
    (rest : List UInt8) :
    readToken (packExt kind length ++ rest) =
      some (.ext length, kind :: rest) := by
  rw [packExt]
  split_ifs with one two four eight sixteen byte word
  · rw [one]
    exact readToken_single 0xd4 rfl (kind :: rest)
  · rw [two]
    exact readToken_single 0xd5 rfl (kind :: rest)
  · rw [four]
    exact readToken_single 0xd6 rfl (kind :: rest)
  · rw [eight]
    exact readToken_single 0xd7 rfl (kind :: rest)
  · rw [sixteen]
    exact readToken_single 0xd8 rfl (kind :: rest)
  all_goals
    rw [List.append_assoc]
    exact readToken_tagged rfl (by omega) (kind :: rest)

/-- A negative number between the header's own range and that of the width is
read back from its two's complement. -/
theorem readToken_signed
    {tag : UInt8}
    {width : Nat}
    {value : Int}
    (known : header tag.toNat =
      some (width, fun number => .value (.int (ofComplement width number))))
    (low : -((256 ^ width : Nat) : Int) ≤ 2 * value)
    (negative : value < 0)
    (rest : List UInt8) :
    readToken (tagged tag width (complement width value) ++ rest) =
      some (.value (.int value), rest) := by
  have high : 2 * value < (256 ^ width : Nat) := by
    have nonneg : (0 : Int) ≤ (256 ^ width : Nat) := Int.natCast_nonneg _
    omega
  have read := readToken_tagged known (complement_lt width value) rest
  rwa [ofComplement_complement low high] at read

/-- A nonnegative number that fits the width is read back. -/
theorem readToken_unsigned
    {tag : UInt8}
    {width : Nat}
    {value : Int}
    (known : header tag.toNat =
      some (width, fun number => .value (.int number)))
    (nonneg : 0 ≤ value)
    (fits : value.toNat < 256 ^ width)
    (rest : List UInt8) :
    readToken (tagged tag width value.toNat ++ rest) =
      some (.value (.int value), rest) := by
  have read := readToken_tagged known fits rest
  rwa [Int.toNat_of_nonneg nonneg] at read

theorem readToken_packInt
    {value : Int}
    (low : -9223372036854775808 ≤ value)
    (high : value < 18446744073709551616)
    (rest : List UInt8) :
    readToken (packInt value ++ rest) = some (.value (.int value), rest) := by
  rw [packInt]
  split_ifs with negative fixed one two four positive byte word double
  · have back : ofComplement 1 (complement 1 value) = value :=
      ofComplement_complement (by omega) (by omega)
    have tag : 0xe0 ≤ complement 1 value := by
      rw [complement]
      omega
    have known : header (complement 1 value) =
        some (0, fun _ => .value (.int value)) := by
      simp only [header]
      split_ifs <;> first | omega | simp [back]
    exact readToken_fixed (complement_lt 1 value) known rest
  · exact readToken_signed rfl (by omega) negative rest
  · exact readToken_signed rfl (by omega) negative rest
  · exact readToken_signed rfl (by omega) negative rest
  · exact readToken_signed rfl (by omega) negative rest
  · have back := Int.toNat_of_nonneg (Int.not_lt.mp negative)
    have known : header value.toNat =
        some (0, fun _ => .value (.int value)) := by
      unfold header
      rw [if_pos (by omega), back]
    exact readToken_fixed (by omega) known rest
  · exact readToken_unsigned rfl (Int.not_lt.mp negative) (by omega) rest
  · exact readToken_unsigned rfl (Int.not_lt.mp negative) (by omega) rest
  · exact readToken_unsigned rfl (Int.not_lt.mp negative) (by omega) rest
  · exact readToken_unsigned rfl (Int.not_lt.mp negative) (by omega) rest

/-- Items that are each read back from their bytes are read back in a row. -/
theorem readMany_flatMap
    {α : Type}
    {read : List UInt8 → Option (α × List UInt8)}
    {write : α → List UInt8}
    {items : List α}
    (each : ∀ item ∈ items, ∀ rest, read (write item ++ rest) = some (item, rest))
    (rest : List UInt8) :
    readMany read items.length (items.flatMap write ++ rest) =
      some (items, rest) := by
  induction items with
  | nil => rfl
  | cons item items inductionHypothesis =>
      have first := each item List.mem_cons_self (items.flatMap write ++ rest)
      have others := inductionHypothesis fun later member =>
        each later (List.mem_cons_of_mem item member)
      rw [List.length_cons, List.flatMap_cons, List.append_assoc, readMany, first]
      simp only [others, Option.map_some]

theorem readPair_append
    {α : Type}
    {read : List UInt8 → Option (α × List UInt8)}
    {write : α → List UInt8}
    {pair : α × α}
    (first : ∀ rest, read (write pair.1 ++ rest) = some (pair.1, rest))
    (second : ∀ rest, read (write pair.2 ++ rest) = some (pair.2, rest))
    (rest : List UInt8) :
    readPair read (write pair.1 ++ write pair.2 ++ rest) = some (pair, rest) := by
  rw [List.append_assoc, readPair, first]
  simp only [second, Option.map_some]

/-- A header that is read takes at least one byte. -/
theorem length_pos_of_readToken
    {bytes : List UInt8}
    {read : List UInt8 → Token × List UInt8}
    (known : ∀ rest, readToken (bytes ++ rest) = some (read rest)) :
    0 < bytes.length := by
  apply List.length_pos_of_ne_nil
  intro empty
  have nothing := known []
  rw [empty, List.nil_append, readToken] at nothing
  cases nothing

/-- Each part of a row is no longer than the row. -/
theorem length_le_flatMap
    {α : Type}
    {items : List α}
    {item : α}
    (write : α → List UInt8)
    (member : item ∈ items) :
    (write item).length ≤ (items.flatMap write).length := by
  obtain ⟨before, after, rfl⟩ := List.append_of_mem member
  rw [List.flatMap_append, List.flatMap_cons, List.length_append,
    List.length_append]
  omega

/-- What is written of a value is read back as that value, with enough fuel
and whatever follows it. -/
theorem decode_encode
    {value : Value}
    (encodable : Encodable value) :
    ∀ fuel rest, (encode value).length ≤ fuel →
      decode fuel (encode value ++ rest) = some (value, rest) := by
  induction encodable with
  | nil =>
      rintro (_ | fuel) rest enough
      · cases enough
      · rw [encode, packNil, decode, readToken_single 0xc0 rfl]
  | bool value =>
      rintro (_ | fuel) rest enough
      · cases value <;> cases enough
      · rw [encode, decode, readToken_packBool]
  | int low high =>
      rintro (_ | fuel) rest enough
      · have positive := length_pos_of_readToken (readToken_packInt low high)
        rw [encode] at enough
        omega
      · rw [encode, decode, readToken_packInt low high]
  | float32 fits =>
      rintro (_ | fuel) rest enough
      · cases enough
      · rw [encode, packFloat32, decode, readToken_tagged rfl (by omega)]
  | float64 fits =>
      rintro (_ | fuel) rest enough
      · cases enough
      · rw [encode, packFloat64, decode, readToken_tagged rfl (by omega)]
  | @str bytes fits =>
      rintro (_ | fuel) rest enough
      · have positive := length_pos_of_readToken (readToken_packStr fits)
        rw [encode, List.length_append] at enough
        omega
      · rw [encode, List.append_assoc, decode, readToken_packStr fits]
        simp only [takeBytes_append, Option.map_some]
  | @bin bytes fits =>
      rintro (_ | fuel) rest enough
      · have positive := length_pos_of_readToken (readToken_packBin fits)
        rw [encode, List.length_append] at enough
        omega
      · rw [encode, List.append_assoc, decode, readToken_packBin fits]
        simp only [takeBytes_append, Option.map_some]
  | @ext kind bytes fits =>
      rintro (_ | fuel) rest enough
      · have positive := length_pos_of_readToken (readToken_packExt fits kind)
        rw [encode, List.length_append] at enough
        omega
      · have taken := takeBytes_append (kind :: bytes) rest
        rw [List.length_cons, List.cons_append] at taken
        rw [encode, List.append_assoc, decode, readToken_packExt fits]
        simp only [taken]
  | @array items fits each inductionHypothesis =>
      rintro (_ | fuel) rest enough
      all_goals
        have positive := length_pos_of_readToken (readToken_packArray fits)
        rw [encode, List.length_append, encodeItems_eq] at enough
      · omega
      · have each : ∀ item ∈ items, ∀ rest,
            decode fuel (encode item ++ rest) = some (item, rest) := by
          intro item member rest
          have shorter := length_le_flatMap encode member
          exact inductionHypothesis item member fuel rest (by omega)
        rw [encode, List.append_assoc, encodeItems_eq, decode,
          readToken_packArray fits]
        simp only [readMany_flatMap each, Option.map_some]
  | @map entries fits keys values keysHypothesis valuesHypothesis =>
      rintro (_ | fuel) rest enough
      all_goals
        have positive := length_pos_of_readToken (readToken_packMap fits)
        rw [encode, List.length_append, encodeEntries_eq] at enough
      · omega
      · have each : ∀ entry ∈ entries, ∀ rest,
            readPair (decode fuel) (encodeEntry entry ++ rest) =
              some (entry, rest) := by
          intro entry member rest
          have shorter := length_le_flatMap encodeEntry member
          rw [encodeEntry, List.length_append] at shorter
          exact readPair_append
            (fun rest => keysHypothesis entry member fuel rest (by omega))
            (fun rest => valuesHypothesis entry member fuel rest (by omega)) rest
        rw [encode, List.append_assoc, encodeEntries_eq, decode,
          readToken_packMap fits]
        simp only [readMany_flatMap each, Option.map_some]

/-- One value is written as one value: reading it leaves what follows. -/
theorem decodeFirst_encode
    {value : Value}
    (encodable : Encodable value)
    (rest : List UInt8) :
    decodeFirst (encode value ++ rest) = some (value, rest) :=
  decode_encode encodable _ rest (by rw [List.length_append]; omega)

/-- Different values are written differently. -/
theorem encode_injective
    {value other : Value}
    (encodable : Encodable value)
    (otherEncodable : Encodable other)
    (same : encode value = encode other) :
    value = other := by
  have read := decodeFirst_encode encodable []
  rw [same, decodeFirst_encode otherEncodable []] at read
  exact (congrArg Prod.fst (Option.some.inj read)).symm

end MessagePack
