import IisAsgiHandler.Library.MessagePack
import IisAsgiHandler.WebSocket.Reader

/-!
# Encoding of outbound messages

The three packers write a map header, and then the keys and the values one
after the other.  The fields of a message say what the map is meant to hold;
the bytes that are written are the encoding of exactly these fields.
-/

namespace IisAsgiHandler

open MessagePack (Value Encodable)

/-! ## The packers -/

namespace AsgiMsg

/-- `pack_string`.  The packer takes lengths as 32-bit numbers. -/
def packString (str : Bytes) : Bytes :=
  MessagePack.packStr (str.length % dwordSize) ++
    str.take (str.length % dwordSize)

/-- `pack_bytestring`. -/
def packBytestring (str : Bytes) : Bytes :=
  MessagePack.packBin (str.length % dwordSize) ++
    str.take (str.length % dwordSize)

/-- The headers as an array of arrays of two, as both requests write them. -/
def packHeaders (headers : List (Bytes × Bytes)) : Bytes :=
  MessagePack.packArray (headers.length % dwordSize) ++
    headers.flatMap fun header =>
      MessagePack.packArray 2 ++ packBytestring header.1 ++
        packBytestring header.2

end AsgiMsg

open AsgiMsg

/-- The root path is not packed. -/
def AsgiHttpRequestMsg.msgpackPack (msg : AsgiHttpRequestMsg) : Bytes :=
  MessagePack.packMap 8 ++
  packString (ascii "reply_channel") ++ packString msg.replyChannel ++
  packString (ascii "http_version") ++ packString msg.httpVersion ++
  packString (ascii "method") ++ packString msg.method ++
  packString (ascii "scheme") ++ packString msg.scheme ++
  packString (ascii "path") ++ packBytestring msg.path ++
  packString (ascii "query_string") ++ packBytestring msg.queryString ++
  packString (ascii "headers") ++ packHeaders msg.headers ++
  packString (ascii "body") ++ packBytestring msg.body

def AsgiWsConnectMsg.msgpackPack (msg : AsgiWsConnectMsg) : Bytes :=
  MessagePack.packMap 7 ++
  packString (ascii "reply_channel") ++ packString msg.replyChannel ++
  packString (ascii "scheme") ++ packString msg.scheme ++
  packString (ascii "path") ++ packString msg.path ++
  packString (ascii "query_string") ++ packBytestring msg.queryString ++
  packString (ascii "root_path") ++ packBytestring msg.rootPath ++
  packString (ascii "headers") ++ packHeaders msg.headers ++
  packString (ascii "order") ++ MessagePack.packInt AsgiWsConnectMsg.packedOrder

/-- The buffer is read up to `data_size`; a read past its end has no bytes to
show for it. -/
def AsgiWsReceiveMsg.msgpackPack (msg : AsgiWsReceiveMsg) : Option Bytes :=
  ((Buffer.read msg.data (msg.dataSize % dwordSize)).mapM id).map fun bytes =>
    MessagePack.packMap 4 ++
    packString (ascii "reply_channel") ++ packString msg.replyChannel ++
    packString (ascii "path") ++ packString msg.path ++
    packString (ascii "order") ++ MessagePack.packInt msg.order ++
    packString (ascii "bytes") ++
      MessagePack.packBin (msg.dataSize % dwordSize) ++ bytes

/-! ## What the messages say -/

/-- The headers as a list of lists of two, in their order. -/
def headersValue (headers : List (Bytes × Bytes)) : Value :=
  .array (headers.map fun header => .array [.bin header.1, .bin header.2])

namespace AsgiHttpRequestMsg

/-- The names and the values of the packed fields. -/
def fields (msg : AsgiHttpRequestMsg) : List (Bytes × Value) :=
  [(ascii "reply_channel", .str msg.replyChannel),
    (ascii "http_version", .str msg.httpVersion),
    (ascii "method", .str msg.method),
    (ascii "scheme", .str msg.scheme),
    (ascii "path", .bin msg.path),
    (ascii "query_string", .bin msg.queryString),
    (ascii "headers", headersValue msg.headers),
    (ascii "body", .bin msg.body)]

end AsgiHttpRequestMsg

namespace AsgiWsConnectMsg

/-- The names and the values of the packed fields. -/
def fields (msg : AsgiWsConnectMsg) : List (Bytes × Value) :=
  [(ascii "reply_channel", .str msg.replyChannel),
    (ascii "scheme", .str msg.scheme),
    (ascii "path", .str msg.path),
    (ascii "query_string", .bin msg.queryString),
    (ascii "root_path", .bin msg.rootPath),
    (ascii "headers", headersValue msg.headers),
    (ascii "order", .int packedOrder)]

end AsgiWsConnectMsg

namespace AsgiWsReceiveMsg

/-- The names and the values of the packed fields. -/
def fields (msg : AsgiWsReceiveMsg) : List (Bytes × Value) :=
  [(ascii "reply_channel", .str msg.replyChannel),
    (ascii "path", .str msg.path),
    (ascii "order", .int msg.order),
    (ascii "bytes", .bin (msg.data.take msg.dataSize))]

end AsgiWsReceiveMsg

/-- A map from names to values. -/
def fieldMap (fields : List (Bytes × Value)) : Value :=
  .map (fields.map fun field => (.str field.1, field.2))

/-! ## The sizes that the format has room for -/

/-- A header list whose strings have lengths of 32 bits. -/
def HeadersFit (headers : List (Bytes × Bytes)) : Prop :=
  headers.length < dwordSize ∧
    ∀ header ∈ headers,
      header.1.length < dwordSize ∧ header.2.length < dwordSize

/-- Strings whose lengths have 32 bits. -/
def StringsFit (strings : List Bytes) : Prop :=
  ∀ str ∈ strings, str.length < dwordSize

def AsgiHttpRequestMsg.Fits (msg : AsgiHttpRequestMsg) : Prop :=
  StringsFit [msg.replyChannel, msg.httpVersion, msg.method, msg.scheme,
    msg.path, msg.queryString, msg.body] ∧ HeadersFit msg.headers

def AsgiWsConnectMsg.Fits (msg : AsgiWsConnectMsg) : Prop :=
  StringsFit [msg.replyChannel, msg.scheme, msg.path, msg.queryString,
    msg.rootPath] ∧ HeadersFit msg.headers

/-- The order is a value of an `int`, and the buffer holds the message. -/
structure AsgiWsReceiveMsg.Fits (msg : AsgiWsReceiveMsg) : Prop where
  strings : StringsFit [msg.replyChannel, msg.path]
  low : -2147483648 ≤ msg.order
  high : msg.order < 2147483648
  size : msg.dataSize < dwordSize
  inside : msg.dataSize ≤ msg.data.length

/-! ## The bytes are the encoding of the fields -/

theorem packString_eq_encode
    {str : Bytes}
    (fits : str.length < dwordSize) :
    packString str = MessagePack.encode (.str str) := by
  rw [packString, MessagePack.encode, Nat.mod_eq_of_lt fits, List.take_length]

theorem packBytestring_eq_encode
    {str : Bytes}
    (fits : str.length < dwordSize) :
    packBytestring str = MessagePack.encode (.bin str) := by
  rw [packBytestring, MessagePack.encode, Nat.mod_eq_of_lt fits,
    List.take_length]

theorem packHeaders_eq_encode
    {headers : List (Bytes × Bytes)}
    (fit : HeadersFit headers) :
    packHeaders headers = MessagePack.encode (headersValue headers) := by
  obtain ⟨count, each⟩ := fit
  rw [packHeaders, headersValue, MessagePack.encode, Nat.mod_eq_of_lt count,
    List.length_map, MessagePack.encodeItems_eq, List.flatMap_map]
  congr 1
  apply List.flatMap_congr
  intro header member
  obtain ⟨name, value⟩ := each header member
  rw [packBytestring_eq_encode name, packBytestring_eq_encode value]
  simp [MessagePack.encode, MessagePack.encodeItems]

theorem HeadersFit.encodable
    {headers : List (Bytes × Bytes)}
    (fit : HeadersFit headers) :
    Encodable (headersValue headers) := by
  obtain ⟨count, each⟩ := fit
  apply Encodable.array
  · rwa [List.length_map]
  · intro item member
    obtain ⟨header, headerMember, rfl⟩ := List.mem_map.mp member
    obtain ⟨name, value⟩ := each header headerMember
    apply Encodable.array (by simp)
    intro part partMember
    simp only [List.mem_cons, List.not_mem_nil, or_false] at partMember
    rcases partMember with rfl | rfl
    · exact .bin name
    · exact .bin value

/-- The map that declares as many entries as there are fields, followed by the
fields. -/
theorem encode_fieldMap (fields : List (Bytes × Value)) :
    MessagePack.encode (fieldMap fields) =
      MessagePack.packMap fields.length ++
        fields.flatMap fun field =>
          MessagePack.encode (.str field.1) ++ MessagePack.encode field.2 := by
  rw [fieldMap, MessagePack.encode, List.length_map,
    MessagePack.encodeEntries_eq, List.flatMap_map]
  rfl

theorem AsgiHttpRequestMsg.msgpackPack_eq_encode
    {msg : AsgiHttpRequestMsg}
    (fits : msg.Fits) :
    msg.msgpackPack = MessagePack.encode (fieldMap msg.fields) := by
  obtain ⟨strings, headers⟩ := fits
  simp only [StringsFit, List.forall_mem_cons] at strings
  obtain ⟨channel, version, method, scheme, path, query, body, -⟩ := strings
  rw [msgpackPack, encode_fieldMap, fields]
  simp (disch := first | assumption | decide) only [packString_eq_encode,
    packBytestring_eq_encode, packHeaders_eq_encode, List.flatMap_cons,
    List.flatMap_nil, List.length_cons, List.length_nil, List.append_assoc,
    List.append_nil, Nat.zero_add, Nat.reduceAdd]

theorem AsgiWsConnectMsg.msgpackPack_eq_encode
    {msg : AsgiWsConnectMsg}
    (fits : msg.Fits) :
    msg.msgpackPack = MessagePack.encode (fieldMap msg.fields) := by
  obtain ⟨strings, headers⟩ := fits
  simp only [StringsFit, List.forall_mem_cons] at strings
  obtain ⟨channel, scheme, path, query, root, -⟩ := strings
  have order : MessagePack.packInt packedOrder =
      MessagePack.encode (.int packedOrder) := by
    rw [MessagePack.encode]
  rw [msgpackPack, encode_fieldMap, fields, order]
  simp (disch := first | assumption | decide) only [packString_eq_encode,
    packBytestring_eq_encode, packHeaders_eq_encode, List.flatMap_cons,
    List.flatMap_nil, List.length_cons, List.length_nil, List.append_assoc,
    List.append_nil, Nat.zero_add, Nat.reduceAdd]

/-- Reading inside the buffer yields the bytes of the message. -/
theorem mapM_read
    {data : Bytes}
    {count : Nat}
    (inside : count ≤ data.length) :
    (Buffer.read data count).mapM id = some (data.take count) := by
  rw [Buffer.read_of_le inside]
  induction data.take count with
  | nil => rfl
  | cons byte bytes inductionHypothesis =>
      rw [List.map_cons, List.mapM_cons, inductionHypothesis]
      rfl

theorem AsgiWsReceiveMsg.msgpackPack_eq_encode
    {msg : AsgiWsReceiveMsg}
    (fits : msg.Fits) :
    msg.msgpackPack = some (MessagePack.encode (fieldMap msg.fields)) := by
  obtain ⟨strings, low, high, size, inside⟩ := fits
  simp only [StringsFit, List.forall_mem_cons] at strings
  obtain ⟨channel, path, -⟩ := strings
  have order : MessagePack.packInt msg.order =
      MessagePack.encode (.int msg.order) := by
    rw [MessagePack.encode]
  have bytes : MessagePack.packBin msg.dataSize ++ msg.data.take msg.dataSize =
      MessagePack.encode (.bin (msg.data.take msg.dataSize)) := by
    rw [MessagePack.encode, List.length_take_of_le inside]
  rw [msgpackPack, Nat.mod_eq_of_lt size, mapM_read inside, Option.map_some,
    encode_fieldMap, fields, order]
  simp (disch := first | assumption | decide) only [packString_eq_encode,
    List.flatMap_cons, List.flatMap_nil, List.length_cons, List.length_nil,
    List.append_assoc, List.append_nil, Nat.zero_add, Nat.reduceAdd, bytes]

/-! ## Outbound messages -/

/-- The messages that are packed and sent to the application. -/
inductive OutboundMsg where
  | httpRequest (msg : AsgiHttpRequestMsg)
  | wsConnect (msg : AsgiWsConnectMsg)
  | wsReceive (msg : AsgiWsReceiveMsg)

namespace OutboundMsg

def msgpackPack : OutboundMsg → Option Bytes
  | .httpRequest msg => some msg.msgpackPack
  | .wsConnect msg => some msg.msgpackPack
  | .wsReceive msg => msg.msgpackPack

def fields : OutboundMsg → List (Bytes × Value)
  | .httpRequest msg => msg.fields
  | .wsConnect msg => msg.fields
  | .wsReceive msg => msg.fields

/-- The sizes for which nothing is cut off. -/
def Fits : OutboundMsg → Prop
  | .httpRequest msg => msg.Fits
  | .wsConnect msg => msg.Fits
  | .wsReceive msg => msg.Fits

/-- Two messages of one kind that agree on everything that is packed: not on
the root path of a request, and only on the bytes of the buffer that belong to
the message. -/
def SamePacked : OutboundMsg → OutboundMsg → Prop
  | .httpRequest msg, .httpRequest other =>
      { msg with rootPath := [] } = { other with rootPath := [] }
  | .wsConnect msg, .wsConnect other => msg = other
  | .wsReceive msg, .wsReceive other =>
      msg.order = other.order ∧ msg.replyChannel = other.replyChannel ∧
        msg.path = other.path ∧
        msg.data.take msg.dataSize = other.data.take other.dataSize
  | _, _ => False

theorem msgpackPack_eq_encode
    {msg : OutboundMsg}
    (fits : msg.Fits) :
    msg.msgpackPack = some (MessagePack.encode (fieldMap msg.fields)) := by
  cases msg with
  | httpRequest msg =>
      exact congrArg some (AsgiHttpRequestMsg.msgpackPack_eq_encode fits)
  | wsConnect msg =>
      exact congrArg some (AsgiWsConnectMsg.msgpackPack_eq_encode fits)
  | wsReceive msg => exact AsgiWsReceiveMsg.msgpackPack_eq_encode fits

/-- No name is used twice. -/
theorem names_nodup (msg : OutboundMsg) : (msg.fields.map Prod.fst).Nodup := by
  cases msg with
  | httpRequest msg => exact of_decide_eq_true rfl
  | wsConnect msg => exact of_decide_eq_true rfl
  | wsReceive msg => exact of_decide_eq_true rfl

theorem names_fit (msg : OutboundMsg) :
    ∀ field ∈ msg.fields, field.1.length < dwordSize := by
  cases msg <;>
    simp only [fields, AsgiHttpRequestMsg.fields, AsgiWsConnectMsg.fields,
      AsgiWsReceiveMsg.fields, List.forall_mem_cons] <;>
    decide

theorem values_encodable
    {msg : OutboundMsg}
    (fits : msg.Fits) :
    ∀ field ∈ msg.fields, Encodable field.2 := by
  cases msg with
  | httpRequest msg =>
      obtain ⟨strings, headers⟩ := fits
      simp only [StringsFit, List.forall_mem_cons] at strings
      obtain ⟨channel, version, method, scheme, path, query, body, -⟩ := strings
      simp only [fields, AsgiHttpRequestMsg.fields, List.forall_mem_cons]
      exact ⟨.str channel, .str version, .str method, .str scheme, .bin path,
        .bin query, headers.encodable, .bin body, by simp⟩
  | wsConnect msg =>
      obtain ⟨strings, headers⟩ := fits
      simp only [StringsFit, List.forall_mem_cons] at strings
      obtain ⟨channel, scheme, path, query, root, -⟩ := strings
      simp only [fields, AsgiWsConnectMsg.fields, List.forall_mem_cons]
      exact ⟨.str channel, .str scheme, .str path, .bin query, .bin root,
        headers.encodable, .int (by decide) (by decide), by simp⟩
  | wsReceive msg =>
      obtain ⟨strings, low, high, size, inside⟩ := fits
      simp only [StringsFit, List.forall_mem_cons] at strings
      obtain ⟨channel, path, -⟩ := strings
      simp only [fields, AsgiWsReceiveMsg.fields, List.forall_mem_cons]
      refine ⟨.str channel, .str path, .int (by omega) (by omega), .bin ?_,
        by simp⟩
      rwa [List.length_take_of_le inside]

theorem fieldMap_encodable
    {msg : OutboundMsg}
    (fits : msg.Fits) :
    Encodable (fieldMap msg.fields) := by
  have count : msg.fields.length < 2 ^ 32 := by
    cases msg <;> exact of_decide_eq_true rfl
  apply Encodable.map (by rwa [List.length_map])
  all_goals
    intro entry member
    obtain ⟨field, fieldMember, rfl⟩ := List.mem_map.mp member
  · exact .str (names_fit msg field fieldMember)
  · exact values_encodable fits field fieldMember

theorem fieldMap_injective : Function.Injective fieldMap := by
  intro fields others same
  have entries := Value.map.inj same
  refine List.map_injective_iff.mpr ?_ entries
  rintro ⟨name, value⟩ ⟨otherName, otherValue⟩ equal
  simpa using equal

theorem headersValue_injective : Function.Injective headersValue := by
  intro headers others same
  have items := Value.array.inj same
  refine List.map_injective_iff.mpr ?_ items
  rintro ⟨name, value⟩ ⟨otherName, otherValue⟩ equal
  simpa using equal

/-- The fields of a message are what is packed of it. -/
theorem fields_eq_iff (msg other : OutboundMsg) :
    msg.fields = other.fields ↔ SamePacked msg other := by
  by_cases count : msg.fields.length = other.fields.length
  · match msg, other with
    | .httpRequest msg, .httpRequest other =>
        simp only [fields, AsgiHttpRequestMsg.fields, SamePacked,
          List.cons.injEq, Prod.mk.injEq, Value.str.injEq, Value.bin.injEq,
          headersValue_injective.eq_iff, AsgiHttpRequestMsg.mk.injEq]
        tauto
    | .wsConnect msg, .wsConnect other =>
        cases msg
        cases other
        simp only [fields, AsgiWsConnectMsg.fields, SamePacked,
          List.cons.injEq, Prod.mk.injEq, Value.str.injEq, Value.bin.injEq,
          headersValue_injective.eq_iff, AsgiWsConnectMsg.mk.injEq]
        tauto
    | .wsReceive msg, .wsReceive other =>
        simp only [fields, AsgiWsReceiveMsg.fields, SamePacked,
          List.cons.injEq, Prod.mk.injEq, Value.str.injEq, Value.bin.injEq,
          Value.int.injEq]
        tauto
  · constructor
    · intro same
      exact absurd (congrArg List.length same) count
    · intro same
      match msg, other with
      | .httpRequest _, .httpRequest _ => exact absurd rfl count
      | .wsConnect _, .wsConnect _ => exact absurd rfl count
      | .wsReceive _, .wsReceive _ => exact absurd rfl count

/-- Reading what is written of a message yields its fields and nothing else. -/
theorem decode_msgpackPack
    {msg : OutboundMsg}
    {bytes : Bytes}
    (fits : msg.Fits)
    (packed : msg.msgpackPack = some bytes) :
    MessagePack.decodeFirst bytes = some (fieldMap msg.fields, []) := by
  rw [msgpackPack_eq_encode fits] at packed
  have read := MessagePack.decodeFirst_encode (fieldMap_encodable fits) []
  rwa [List.append_nil, Option.some.inj packed] at read

/-- Two messages are written alike exactly when they agree on what is
packed. -/
theorem msgpackPack_eq_iff
    {msg other : OutboundMsg}
    (fits : msg.Fits)
    (otherFits : other.Fits) :
    other.msgpackPack = msg.msgpackPack ↔ SamePacked msg other := by
  rw [← fields_eq_iff, msgpackPack_eq_encode fits,
    msgpackPack_eq_encode otherFits, Option.some.injEq]
  constructor
  · intro same
    apply fieldMap_injective
    exact MessagePack.encode_injective (fieldMap_encodable fits)
      (fieldMap_encodable otherFits) same.symm
  · intro same
    rw [same]

end OutboundMsg

/-- Each outbound message is written as one map that declares as many entries
as it has fields, with distinct names; reading it back yields every field, with
nothing left, and two messages are written alike exactly when they agree on
what is packed. -/
theorem outbound_messages_round_trip
    {msg : OutboundMsg}
    (fits : msg.Fits) :
    ∃ bytes, msg.msgpackPack = some bytes ∧
      bytes = MessagePack.packMap msg.fields.length ++
        msg.fields.flatMap (fun field =>
          MessagePack.encode (.str field.1) ++ MessagePack.encode field.2) ∧
      (msg.fields.map Prod.fst).Nodup ∧
      MessagePack.decodeFirst bytes = some (fieldMap msg.fields, []) ∧
      ∀ other : OutboundMsg, other.Fits →
        (other.msgpackPack = some bytes ↔ OutboundMsg.SamePacked msg other) := by
  have packed := OutboundMsg.msgpackPack_eq_encode fits
  refine ⟨_, packed, encode_fieldMap msg.fields, msg.names_nodup,
    OutboundMsg.decode_msgpackPack fits packed, ?_⟩
  intro other otherFits
  rw [← packed]
  exact OutboundMsg.msgpackPack_eq_iff fits otherFits

/-- A message of three bytes in a buffer of five. -/
def receiveSample : AsgiWsReceiveMsg where
  replyChannel := ascii "websocket.send!abc"
  path := ascii "/chat"
  data := [1, 0, 3, 9, 9]
  dataSize := 3

theorem receiveSample_fits : receiveSample.Fits where
  strings := by
    unfold StringsFit
    decide
  low := by decide
  high := by decide
  size := by decide
  inside := by decide

theorem outbound_messages_round_trip_sample :
    ∃ bytes, receiveSample.msgpackPack = some bytes ∧
      MessagePack.decodeFirst bytes =
        some (fieldMap receiveSample.fields, []) := by
  obtain ⟨bytes, packed, -, -, read, -⟩ :=
    outbound_messages_round_trip (show OutboundMsg.Fits (.wsReceive receiveSample)
      from receiveSample_fits)
  exact ⟨bytes, packed, read⟩

/-- A connect message with a root path. -/
def connectSample : AsgiWsConnectMsg where
  rootPath := ascii "/app"

/-- The root path of a connect message travels as bytes, not as text. -/
theorem connect_root_path_as_bytes :
    connectSample.Fits ∧
      ∃ fields, MessagePack.decodeFirst connectSample.msgpackPack =
          some (fieldMap fields, []) ∧
        (ascii "root_path", .bin (ascii "/app")) ∈ fields ∧
        ∀ text, (ascii "root_path", .str text) ∉ fields := by
  have fits : OutboundMsg.Fits (.wsConnect connectSample) :=
    ⟨by unfold StringsFit; decide, by decide, by decide⟩
  refine ⟨fits, connectSample.fields,
    OutboundMsg.decode_msgpackPack fits rfl, ?_, ?_⟩
  · simp [AsgiWsConnectMsg.fields, connectSample]
  · intro text member
    have other : ascii "root_path" ∉
        [ascii "reply_channel", ascii "scheme", ascii "path"] := by
      decide
    simp [AsgiWsConnectMsg.fields, headersValue] at member
    simp_all

/-- The record of a packed message says all that the bytes depend on. -/
theorem AsgiWsReceiveMsg.msgpackPack_congr
    {msg other : AsgiWsReceiveMsg}
    (same : WsReader.pack msg = WsReader.pack other) :
    msg.msgpackPack = other.msgpackPack := by
  simp only [WsReader.pack, PackedReceiveMsg.mk.injEq] at same
  obtain ⟨channel, path, order, bytes⟩ := same
  have count := congrArg List.length bytes
  rw [Buffer.length_read, Buffer.length_read] at count
  rw [msgpackPack, msgpackPack, bytes, channel, path, order, count]

end IisAsgiHandler
