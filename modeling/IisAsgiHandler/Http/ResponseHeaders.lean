import IisAsgiHandler.Http.Steps
import IisAsgiHandler.Library.HeaderFields

/-!
# The headers of a response

`WaitForResponseStep` sets the headers of a message one by one, each in place of
what IIS has under its name, and passes the length of a value as 16 bits.  Of a
name that is given several times only the last value is left, and a long value
is cut off.
-/

namespace IisAsgiHandler

open HeaderFields

/-- The headers of a response in IIS. -/
abbrev ResponseHeaders := List (Bytes × Bytes)

/-- The values of a name, whatever the case of its letters. -/
abbrev ResponseHeaders.get (headers : ResponseHeaders) (name : Bytes) :
    List Bytes :=
  HeaderFields.values nameKey headers name

/-- `SetHeader` reads as many bytes of the value as it is told. -/
def ResponseHeaders.apply (headers : ResponseHeaders) :
    HttpEvent → ResponseHeaders
  | .setHeader name value length replace =>
      HeaderFields.set nameKey headers name (value.take length) replace
  | _ => headers

/-- The headers after `OnAsyncCompletion`. -/
def WaitForResponseStep.headersAfter
    (step : WaitForResponseStep) (before : ResponseHeaders) :
    Except Fault ResponseHeaders :=
  step.onAsyncCompletion.map fun completed =>
    completed.2.foldl ResponseHeaders.apply before

/-- All values of the names in a message are applied, and other headers are
left alone. -/
structure AppliesAll
    (msg : AsgiHttpResponseMsg) (before after : ResponseHeaders) : Prop where
  named : ∀ name, (∃ header ∈ msg.headers, nameKey header.1 = nameKey name) →
    after.get name = ResponseHeaders.get msg.headers name
  others : ∀ name, (∀ header ∈ msg.headers, nameKey header.1 ≠ nameKey name) →
    after.get name = before.get name

/-- Names do not repeat, and the lengths of values have 16 bits. -/
def PlainHeaders (msg : AsgiHttpResponseMsg) : Prop :=
  (msg.headers.map fun header => nameKey header.1).Nodup ∧
    ∀ header ∈ msg.headers, header.2.length < ushortSize

instance (msg : AsgiHttpResponseMsg) : Decidable (PlainHeaders msg) :=
  inferInstanceAs (Decidable (_ ∧ ∀ _ ∈ _, _))

/-- A value as `SetHeader` reads it. -/
def cutValue (value : Bytes) : Bytes :=
  value.take (value.length % ushortSize)

theorem cutValue_eq_iff (value : Bytes) :
    cutValue value = value ↔ value.length < ushortSize := by
  have positive : 0 < ushortSize := by decide
  rw [cutValue]
  constructor
  · intro whole
    have lengths := congrArg List.length whole
    rw [List.length_take] at lengths
    have bound := Nat.mod_lt value.length positive
    omega
  · intro short
    rw [Nat.mod_eq_of_lt short, List.take_length]

/-- Applying a message replaces the headers that it names, one by one. -/
theorem foldl_applyResponse
    {msg : AsgiHttpResponseMsg}
    (clean : ∀ header ∈ msg.headers, (0 : UInt8) ∉ header.1)
    (before : ResponseHeaders) :
    (applyResponse msg).foldl ResponseHeaders.apply before =
      replaceAll nameKey before
        (msg.headers.map fun header => (header.1, cutValue header.2)) := by
  have status : (if 0 < msg.status then
        [HttpEvent.setStatus (msg.status % ushortSize).toNat]
      else []).foldl ResponseHeaders.apply before = before := by
    split <;> rfl
  rw [applyResponse, List.foldl_append, status, replaceAll]
  clear status
  generalize msg.headers = headers at clean ⊢
  induction headers generalizing before with
  | nil => rfl
  | cons header headers inductionHypothesis =>
      have whole := cStr_of_notMem (clean header List.mem_cons_self)
      simp only [List.map_cons, List.foldl_cons]
      rw [inductionHypothesis _ fun later member =>
        clean later (List.mem_cons_of_mem header member)]
      rw [ResponseHeaders.apply, whole]
      rfl

/-- The values of a message, cut off. -/
theorem get_map_cutValue (headers : ResponseHeaders) (name : Bytes) :
    ResponseHeaders.get (headers.map fun header => (header.1, cutValue header.2))
        name =
      (headers.get name).map cutValue := by
  simp only [ResponseHeaders.get, HeaderFields.values, List.filter_map,
    List.map_map]
  rfl

/-- What is left of each name after a message has been applied. -/
theorem get_headersAfter
    {msg : AsgiHttpResponseMsg}
    (clean : ∀ header ∈ msg.headers, (0 : UInt8) ∉ header.1)
    (before : ResponseHeaders)
    (name : Bytes) :
    ResponseHeaders.get
        ((applyResponse msg).foldl ResponseHeaders.apply before) name =
      match (ResponseHeaders.get msg.headers name).getLast? with
      | none => before.get name
      | some value => [cutValue value] := by
  rw [foldl_applyResponse clean, ResponseHeaders.get, values_replaceAll,
    ← ResponseHeaders.get, get_map_cutValue, List.getLast?_map]
  cases (ResponseHeaders.get msg.headers name).getLast? with
  | none => rfl
  | some value => rfl

theorem headersAfter_eq
    {step : WaitForResponseStep}
    {msg : AsgiHttpResponseMsg}
    (isSet : step.asgiResponseMsg = some msg)
    (before : ResponseHeaders) :
    step.headersAfter before =
      .ok ((applyResponse msg).foldl ResponseHeaders.apply before) := by
  rw [WaitForResponseStep.headersAfter, WaitForResponseStep.onAsyncCompletion,
    isSet]
  by_cases last : msg.content.length = 0 ∧ msg.moreContent = false
  · simp only [if_pos last]
    rfl
  · simp only [if_neg last]
    rfl

/-- A name that does not occur has no values. -/
theorem get_of_unnamed
    {headers : ResponseHeaders}
    {name : Bytes}
    (unnamed : ∀ header ∈ headers, nameKey header.1 ≠ nameKey name) :
    headers.get name = [] := by
  rw [List.eq_nil_iff_forall_not_mem]
  intro value isValue
  obtain ⟨header, member, same, -⟩ := mem_values.mp isValue
  exact unnamed header member same

theorem eq_singleton_of_mem
    {value : Bytes}
    {found : List Bytes}
    (member : value ∈ found)
    (few : found.length ≤ 1) :
    found = [value] := by
  match found with
  | [only] => rw [List.mem_singleton.mp member]

/-- A name with one value, which is short, has that value afterwards. -/
theorem PlainHeaders.appliesAll
    {msg : AsgiHttpResponseMsg}
    (plain : PlainHeaders msg)
    (clean : ∀ header ∈ msg.headers, (0 : UInt8) ∉ header.1)
    (before : ResponseHeaders) :
    AppliesAll msg before
      ((applyResponse msg).foldl ResponseHeaders.apply before) := by
  obtain ⟨distinct, short⟩ := plain
  have once := (nodup_iff_length_values msg.headers).mp distinct
  constructor
  · rintro name ⟨header, member, same⟩
    have isValue : header.2 ∈ ResponseHeaders.get msg.headers name :=
      mem_values.mpr ⟨header, member, same, rfl⟩
    have alone := eq_singleton_of_mem isValue (once name)
    rw [get_headersAfter clean, alone]
    exact congrArg ([·]) ((cutValue_eq_iff _).mpr (short header member))
  · intro name unnamed
    rw [get_headersAfter clean, get_of_unnamed unnamed]
    rfl

/-- Of each name only one value is left, cut off. -/
theorem AppliesAll.plainHeaders
    {msg : AsgiHttpResponseMsg}
    {before : ResponseHeaders}
    (clean : ∀ header ∈ msg.headers, (0 : UInt8) ∉ header.1)
    (applies : AppliesAll msg before
      ((applyResponse msg).foldl ResponseHeaders.apply before)) :
    PlainHeaders msg := by
  have left : ∀ name,
      (∃ header ∈ msg.headers, nameKey header.1 = nameKey name) →
      ∃ value, ResponseHeaders.get msg.headers name = [value] ∧
        cutValue value = value := by
    rintro name ⟨header, member, isName⟩
    have same := applies.named name ⟨header, member, isName⟩
    rw [get_headersAfter clean] at same
    have isValue : header.2 ∈ ResponseHeaders.get msg.headers name :=
      mem_values.mpr ⟨header, member, isName, rfl⟩
    cases last : (ResponseHeaders.get msg.headers name).getLast? with
    | none =>
        rw [List.getLast?_eq_none_iff.mp last] at isValue
        cases isValue
    | some value =>
        rw [last] at same
        have cut : [cutValue value] = ResponseHeaders.get msg.headers name :=
          same
        rw [← cut, List.getLast?_singleton] at last
        have whole := Option.some.inj last
        exact ⟨value, by rw [← cut, whole], whole⟩
  constructor
  · rw [nodup_iff_length_values]
    intro name
    by_cases named : ∃ header ∈ msg.headers, nameKey header.1 = nameKey name
    · obtain ⟨value, alone, -⟩ := left name named
      exact Nat.le_of_eq (congrArg List.length alone)
    · have none := get_of_unnamed fun header member same =>
        named ⟨header, member, same⟩
      rw [← ResponseHeaders.get, none]
      exact Nat.zero_le 1
  · intro header member
    obtain ⟨value, alone, whole⟩ := left header.1 ⟨header, member, rfl⟩
    have isValue : header.2 ∈ ResponseHeaders.get msg.headers header.1 :=
      mem_values.mpr ⟨header, member, rfl, rfl⟩
    rw [alone, List.mem_singleton] at isValue
    rw [isValue]
    exact (cutValue_eq_iff value).mp whole

/-- A completed wait applies all headers of its message exactly when no name
repeats, up to the case of letters, and every value has fewer than 65536
bytes. -/
theorem response_headers_iff
    (step : WaitForResponseStep)
    (msg : AsgiHttpResponseMsg)
    (isSet : step.asgiResponseMsg = some msg)
    (clean : ∀ header ∈ msg.headers,
      (0 : UInt8) ∉ header.1 ∧ (0 : UInt8) ∉ header.2)
    (before : ResponseHeaders) :
    ∃ after, step.headersAfter before = .ok after ∧
      (AppliesAll msg before after ↔ PlainHeaders msg) := by
  have cleanNames : ∀ header ∈ msg.headers, (0 : UInt8) ∉ header.1 :=
    fun header member => (clean header member).1
  exact ⟨_, headersAfter_eq isSet before,
    fun applies => applies.plainHeaders cleanNames,
    fun plain => plain.appliesAll cleanNames before⟩

/-- Two headers, one of which IIS had set to something else. -/
theorem response_headers_iff_sample :
    ∃ after,
      ({ replyChannel := []
         asgiResponseMsg := some { headers :=
          [(ascii "Server", ascii "asgi"), (ascii "X-A", ascii "b")] } } :
          WaitForResponseStep).headersAfter [(ascii "server", ascii "IIS")] =
        .ok after ∧
      AppliesAll
        { headers :=
          [(ascii "Server", ascii "asgi"), (ascii "X-A", ascii "b")] }
        [(ascii "server", ascii "IIS")] after := by
  obtain ⟨after, completes, applies⟩ := response_headers_iff
    { replyChannel := []
      asgiResponseMsg := some { headers :=
        [(ascii "Server", ascii "asgi"), (ascii "X-A", ascii "b")] } }
    _ rfl (by decide) [(ascii "server", ascii "IIS")]
  exact ⟨after, completes, applies.mpr (by decide)⟩

/-- Of two cookies the second is left, and nothing is left of a value of 65536
bytes. -/
theorem first_cookie_is_lost :
    ({ replyChannel := []
       asgiResponseMsg := some { headers :=
        [(ascii "Set-Cookie", ascii "a=1"),
          (ascii "Set-Cookie", ascii "b=2")] } } :
        WaitForResponseStep).headersAfter [] =
      .ok [(ascii "Set-Cookie", ascii "b=2")] ∧
    ¬ AppliesAll
      { headers :=
        [(ascii "Set-Cookie", ascii "a=1"), (ascii "Set-Cookie", ascii "b=2")] }
      [] [(ascii "Set-Cookie", ascii "b=2")] ∧
    cutValue (List.replicate 65536 0x61) = [] := by
  refine ⟨by decide, ?_, ?_⟩
  · intro applies
    have cookies := applies.named (ascii "Set-Cookie")
      ⟨_, List.mem_cons_self, rfl⟩
    exact absurd cookies (by decide)
  · rw [cutValue, List.length_replicate]
    rfl

end IisAsgiHandler
