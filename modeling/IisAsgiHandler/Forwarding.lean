import IisAsgiHandler.Http.RequestBody
import IisAsgiHandler.Library.Utf8
import IisAsgiHandler.MessageEncoding
import IisAsgiHandler.RequestHeaders
import IisAsgiHandler.WebSocket.Connection

/-!
# What the application learns of a request

The parts of a URL are UTF-16 units, each of which is written in the layout of
UTF-8 by itself.  An application that reads the messages gets back every part of
the request, under names that are not always those of its headers; but what it
reads of a URL is text in UTF-8 only where no unit is half of a surrogate pair.
-/

namespace IisAsgiHandler

open MessagePack (Value)

/-! ## Units and their bytes -/

/-- The last six bits under the mark of a continuation byte. -/
theorem or_continuation (value : Nat) :
    0x80 ||| (value &&& 0x3F) % 256 = (value % 64 + 0x80) % 256 := by
  have marked : ∀ bits < 64, 0x80 ||| bits % 256 = (bits + 0x80) % 256 := by
    decide
  have low : value &&& 0x3F = value % 64 := Nat.and_two_pow_sub_one_eq_mod value 6
  rw [low]
  exact marked _ (Nat.mod_lt value (by decide))

/-- `encodeUnit` has the layout of UTF-8. -/
theorem encodeUnit_eq (unit : UInt16) :
    encodeUnit unit = Utf8.encode unit.toNat := by
  have bound := unit.toNat_lt
  have leadTwo : ∀ bits < 32, 0xC0 ||| bits % 256 = (bits % 32 + 0xC0) % 256 := by
    decide
  have leadThree : ∀ bits < 16,
      0xE0 ||| bits % 256 = (bits % 16 + 0xE0) % 256 := by
    decide
  unfold encodeUnit Utf8.encode
  simp only [UInt16.lt_iff_toNat_lt, UInt16.reduceToNat]
  split_ifs with one two
  · rfl
  · simp only [List.cons.injEq, and_true, ← UInt8.toNat_inj, UInt8.toNat_or,
      UInt16.toNat_toUInt8, UInt16.toNat_shiftRight, UInt16.toNat_and,
      UInt8.toNat_ofNat', UInt8.reduceToNat, UInt16.reduceToNat, Nat.reducePow,
      Nat.reduceMod, Nat.shiftRight_eq_div_pow]
    exact ⟨leadTwo _ (by omega), or_continuation _⟩
  · simp only [List.cons.injEq, and_true, ← UInt8.toNat_inj, UInt8.toNat_or,
      UInt16.toNat_toUInt8, UInt16.toNat_shiftRight, UInt16.toNat_and,
      UInt8.toNat_ofNat', UInt8.reduceToNat, UInt16.reduceToNat, Nat.reducePow,
      Nat.reduceMod, Nat.shiftRight_eq_div_pow]
    exact ⟨leadThree _ (by omega), or_continuation _, or_continuation _⟩

theorem toBytes_eq (text : List UInt16) :
    toBytes text = (text.map UInt16.toNat).flatMap Utf8.encode := by
  rw [toBytes, List.flatMap_map]
  exact congrArg (fun write => text.flatMap write) (funext encodeUnit_eq)

theorem toNat_lt_bound (text : List UInt16) :
    ∀ code ∈ text.map UInt16.toNat, code < Utf8.bound := by
  intro code member
  obtain ⟨unit, -, rfl⟩ := List.mem_map.mp member
  exact Nat.lt_trans unit.toNat_lt (by decide)

/-- The units that some bytes stand for. -/
def fromBytes (bytes : Bytes) : Option (List UInt16) :=
  (Utf8.decodeAll bytes).map fun codes => codes.map UInt16.ofNat

/-- Units are read back from their bytes. -/
theorem fromBytes_toBytes (text : List UInt16) :
    fromBytes (toBytes text) = some text := by
  rw [fromBytes, toBytes_eq, Utf8.decodeAll_flatMap (toNat_lt_bound text),
    Option.map_some, List.map_map]
  exact congrArg some ((List.map_congr_left fun unit _ =>
    UInt16.ofNat_toNat).trans (List.map_id text))

theorem length_toBytes_le (text : List UInt16) :
    (toBytes text).length ≤ 3 * text.length := by
  induction text with
  | nil => rfl
  | cons unit text inductionHypothesis =>
      have unitLength : (encodeUnit unit).length ≤ 3 := by
        unfold encodeUnit
        split_ifs <;> simp
      rw [toBytes, List.flatMap_cons, List.length_append, List.length_cons]
      rw [toBytes] at inductionHypothesis
      omega

/-- Half of a surrogate pair. -/
def IsSurrogate (unit : UInt16) : Prop := 0xD800 ≤ unit ∧ unit ≤ 0xDFFF

instance (unit : UInt16) : Decidable (IsSurrogate unit) :=
  inferInstanceAs (Decidable (0xD800 ≤ unit ∧ unit ≤ 0xDFFF))

theorem isValidChar_iff (unit : UInt16) :
    unit.toNat.isValidChar ↔ ¬ IsSurrogate unit := by
  have bound := unit.toNat_lt
  unfold Nat.isValidChar IsSurrogate
  simp only [UInt16.le_iff_toNat_le, UInt16.reduceToNat]
  omega

/-- What is written of units is text in UTF-8 exactly when none of them is half
of a surrogate pair. -/
theorem isText_toBytes_iff (text : List UInt16) :
    Utf8.IsText (toBytes text) ↔ ∀ unit ∈ text, ¬ IsSurrogate unit := by
  rw [toBytes_eq, Utf8.isText_flatMap_iff (toNat_lt_bound text),
    List.forall_mem_map]
  exact forall₂_congr fun unit _ => isValidChar_iff unit

/-! ## Reading a request -/

/-- The value of a name in the entries of a map. -/
def lookupField (name : Bytes) : List (Value × Value) → Option Value
  | [] => none
  | (.str key, value) :: entries =>
      if key = name then some value else lookupField name entries
  | _ :: entries => lookupField name entries

/-- A field of a map with distinct names is found. -/
theorem lookupField_of_mem
    {fields : List (Bytes × Value)}
    {name : Bytes}
    {value : Value}
    (distinct : (fields.map Prod.fst).Nodup)
    (member : (name, value) ∈ fields) :
    lookupField name (fields.map fun field => (.str field.1, field.2)) =
      some value := by
  induction fields with
  | nil => cases member
  | cons field fields inductionHypothesis =>
      rw [List.map_cons, List.nodup_cons] at distinct
      rw [List.map_cons, lookupField]
      rcases List.mem_cons.mp member with first | later
      · cases first
        rw [if_pos rfl]
      · rw [if_neg, inductionHypothesis distinct.2 later]
        rintro rfl
        exact distinct.1 (List.mem_map.mpr ⟨_, later, rfl⟩)

def readStr : Value → Option Bytes
  | .str bytes => some bytes
  | _ => none

def readBin : Value → Option Bytes
  | .bin bytes => some bytes
  | _ => none

/-- A header is a list of two byte strings. -/
def readHeader : Value → Option (Bytes × Bytes)
  | .array [.bin name, .bin value] => some (name, value)
  | _ => none

def readHeaders : Value → Option (List (Bytes × Bytes))
  | .array items => items.mapM readHeader
  | _ => none

theorem readHeaders_headersValue (headers : List (Bytes × Bytes)) :
    readHeaders (headersValue headers) = some headers := by
  rw [headersValue, readHeaders]
  induction headers with
  | nil => rfl
  | cons header headers inductionHypothesis =>
      rw [List.map_cons, List.mapM_cons, inductionHypothesis]
      rfl

/-- What an application reads of a request. -/
structure ForwardedRequest where
  replyChannel : Bytes
  httpVersion : Bytes
  method : Bytes
  scheme : List UInt16
  path : List UInt16
  queryString : List UInt16
  headers : List (Bytes × Bytes)
  body : Bytes
  deriving DecidableEq

/-- Read a request from the bytes of its message. -/
def readRequest (bytes : Bytes) : Option ForwardedRequest :=
  match MessagePack.decodeFirst bytes with
  | some (.map entries, []) => do
      let text (name : String) := (lookupField (ascii name) entries).bind readStr
      let bytes (name : String) := (lookupField (ascii name) entries).bind readBin
      let replyChannel ← text "reply_channel"
      let httpVersion ← text "http_version"
      let method ← text "method"
      let scheme ← (text "scheme").bind fromBytes
      let path ← (bytes "path").bind fromBytes
      let queryString ← (bytes "query_string").bind fromBytes
      let headers ← (lookupField (ascii "headers") entries).bind readHeaders
      let body ← bytes "body"
      some (.mk replyChannel httpVersion method scheme path queryString headers
        body)
  | _ => none

/-- The scheme of a URL. -/
def schemeUnits (url : List UInt16) : List UInt16 :=
  if (0x3A : UInt16) ∈ url then url.takeWhile (· ≠ 0x3A) else []

/-- The name of a version of HTTP: only HTTP/1 has minor versions. -/
def versionName : Nat × Nat → Bytes
  | (1, minor) => ascii "1." ++ ascii (toString minor)
  | (major, _) => ascii (toString major)

/-- The name that an application reads of a known header.  It is the standard
name, but for the case of a few letters and the hyphen of `Content-Type`. -/
def forwardedName : HttpHeaderId → String
  | .contentMd5 => "Content-Md5"
  | .contentType => "ContentType"
  | .te => "Te"
  | header => standardName header

/-- What there is to read of a request: its fields, with the known headers that
have a value in slot order, then the unknown ones. -/
def ForwardedRequest.of (request : HttpRequest) (replyChannel : Bytes) :
    ForwardedRequest where
  replyChannel := replyChannel
  httpVersion := versionName request.httpVersion
  method := request.httpMethod
  scheme := schemeUnits request.fullUrl
  path := request.absPath
  queryString := request.queryString
  headers :=
    request.present.map (fun header =>
      (ascii (forwardedName header), request.knownHeaders header)) ++
    request.unknownHeaders
  body := request.entityBody

/-- The sizes that the fields of an `HTTP_REQUEST` have room for. -/
structure HttpRequest.Sized (request : HttpRequest) : Prop where
  httpVersion : request.httpVersion.1 < ushortSize ∧
    request.httpVersion.2 < ushortSize
  httpMethod : request.httpMethod.length < dwordSize
  fullUrl : request.fullUrl.length < ushortSize
  absPath : request.absPath.length < ushortSize
  queryString : request.queryString.length < ushortSize
  knownHeaders : ∀ header, (request.knownHeaders header).length < ushortSize
  unknownHeaders : request.unknownHeaders.length < ushortSize ∧
    ∀ header ∈ request.unknownHeaders,
      header.1.length < ushortSize ∧ header.2.length < ushortSize
  entityBody : request.entityBody.length < dwordSize

theorem toBytes_schemeUnits (request : HttpRequest) :
    getRequestScheme request = toBytes (schemeUnits request.fullUrl) := by
  unfold getRequestScheme schemeUnits
  split
  · rfl
  · rfl

theorem getRequestHttpVersion_eq (request : HttpRequest) :
    getRequestHttpVersion request = versionName request.httpVersion := by
  have one : ascii (toString 1) ++ ascii "." = ascii "1." := by decide
  rcases version : request.httpVersion with ⟨major, minor⟩
  unfold getRequestHttpVersion
  simp only [version]
  split
  next isOne => rw [isOne, one, versionName]
  next other =>
    rw [versionName]
    exact fun same => other same

theorem knownHeaderName_eq (header : HttpHeaderId) :
    knownHeaderName header = ascii (forwardedName header) := by
  cases header <;> decide

/-- Up to the case of letters, all of these names but one are standard. -/
theorem forwardedName_iff (header : HttpHeaderId) :
    HeaderFields.nameKey (ascii (forwardedName header)) =
        HeaderFields.nameKey (ascii (standardName header)) ↔
      header ≠ .contentType := by
  rw [← knownHeaderName_eq]
  exact knownHeaderName_eq_iff header

/-- Known headers are forwarded under these names. -/
theorem getRequestHeaders_eq_headers
    (request : HttpRequest) (replyChannel : Bytes) :
    getRequestHeaders request =
      (ForwardedRequest.of request replyChannel).headers := by
  rw [HttpRequest.getRequestHeaders_eq, HttpRequest.knownFields]
  simp only [knownHeaderName_eq]
  rfl

/-- Every field of the message is read back. -/
theorem readRequest_msgpackPack
    {msg : AsgiHttpRequestMsg}
    {scheme path queryString : List UInt16}
    (fits : msg.Fits)
    (isScheme : msg.scheme = toBytes scheme)
    (isPath : msg.path = toBytes path)
    (isQueryString : msg.queryString = toBytes queryString) :
    readRequest msg.msgpackPack = some {
      replyChannel := msg.replyChannel
      httpVersion := msg.httpVersion
      method := msg.method
      scheme := scheme
      path := path
      queryString := queryString
      headers := msg.headers
      body := msg.body } := by
  have read : MessagePack.decodeFirst msg.msgpackPack =
      some (fieldMap msg.fields, []) :=
    @OutboundMsg.decode_msgpackPack (.httpRequest msg) _ fits rfl
  have found : ∀ {name : Bytes} {value : Value}, (name, value) ∈ msg.fields →
      lookupField name (msg.fields.map fun field => (.str field.1, field.2)) =
        some value :=
    fun member => lookupField_of_mem
      (OutboundMsg.names_nodup (.httpRequest msg)) member
  have replyChannel : (ascii "reply_channel", .str msg.replyChannel) ∈
      msg.fields := by simp [AsgiHttpRequestMsg.fields]
  have httpVersion : (ascii "http_version", .str msg.httpVersion) ∈
      msg.fields := by simp [AsgiHttpRequestMsg.fields]
  have method : (ascii "method", .str msg.method) ∈ msg.fields := by
    simp [AsgiHttpRequestMsg.fields]
  have schemeField : (ascii "scheme", .str msg.scheme) ∈ msg.fields := by
    simp [AsgiHttpRequestMsg.fields]
  have pathField : (ascii "path", .bin msg.path) ∈ msg.fields := by
    simp [AsgiHttpRequestMsg.fields]
  have queryField : (ascii "query_string", .bin msg.queryString) ∈
      msg.fields := by simp [AsgiHttpRequestMsg.fields]
  have headers : (ascii "headers", headersValue msg.headers) ∈ msg.fields := by
    simp [AsgiHttpRequestMsg.fields]
  have body : (ascii "body", .bin msg.body) ∈ msg.fields := by
    simp [AsgiHttpRequestMsg.fields]
  unfold readRequest
  rw [read, fieldMap]
  simp only [found replyChannel, found httpVersion, found method,
    found schemeField, found pathField, found queryField, found headers,
    found body, Option.bind_some, readStr, readBin, readHeaders_headersValue,
    isScheme, isPath, isQueryString, fromBytes_toBytes, Option.bind_eq_bind]

/-! ## Sizes -/

/-- A character takes at most four bytes. -/
theorem length_ascii_le (text : String) :
    (ascii text).length ≤ 4 * text.length := by
  have written : ∀ chars : List Char,
      (chars.flatMap String.utf8EncodeChar).length ≤ 4 * chars.length := by
    intro chars
    induction chars with
    | nil => simp
    | cons char chars inductionHypothesis =>
        have size := char.utf8Size_le_four
        rw [List.flatMap_cons, List.length_append, String.length_utf8EncodeChar,
          List.length_cons]
        omega
  have bytes : ascii (String.ofList text.toList) =
      text.toList.flatMap String.utf8EncodeChar := by
    unfold ascii
    simp [String.ofList, List.utf8Encode, String.toUTF8]
  rw [String.ofList_toList] at bytes
  rw [bytes, ← String.length_toList]
  exact written text.toList

/-- The digits of a 16-bit number. -/
theorem length_digits_le {number : Nat} (short : number < ushortSize) :
    (ascii (toString number)).length ≤ 20 := by
  unfold ushortSize at short
  have digits : (toString number).length ≤ 5 := by
    rw [Nat.toString_eq_repr]
    apply (Nat.length_repr_le_iff (by decide)).mpr
    omega
  have bytes := length_ascii_le (toString number)
  omega

theorem knownHeaderName_fits (header : HttpHeaderId) :
    (knownHeaderName header).length < dwordSize := by
  cases header <;> decide

namespace HttpRequest

variable {request : HttpRequest}

theorem Sized.httpVersion_fits (sized : request.Sized) :
    (getRequestHttpVersion request).length < dwordSize := by
  have major := length_digits_le sized.httpVersion.1
  have minor := length_digits_le sized.httpVersion.2
  have dot : (ascii ".").length = 1 := by decide
  unfold getRequestHttpVersion dwordSize
  simp only
  split
  · rw [List.length_append, List.length_append]
    omega
  · omega

theorem Sized.scheme_fits (sized : request.Sized) :
    (getRequestScheme request).length < dwordSize := by
  have url := sized.fullUrl
  have units : (schemeUnits request.fullUrl).length ≤ request.fullUrl.length := by
    unfold schemeUnits
    split
    · exact (List.takeWhile_sublist _).length_le
    · exact Nat.zero_le _
  have bytes := length_toBytes_le (schemeUnits request.fullUrl)
  rw [toBytes_schemeUnits]
  unfold ushortSize at url
  unfold dwordSize
  omega

theorem toBytes_fits
    {text : List UInt16}
    (short : text.length < ushortSize) :
    (toBytes text).length < dwordSize := by
  have bytes := length_toBytes_le text
  unfold ushortSize at short
  unfold dwordSize
  omega

theorem Sized.headers_fit (sized : request.Sized) :
    HeadersFit (getRequestHeaders request) := by
  have less : ushortSize < dwordSize := by decide
  have slots : httpHeaderIds.length = 41 := by decide
  constructor
  · have unknown := sized.unknownHeaders.1
    have known := List.length_filter_le
      (fun header => decide (0 < (request.knownHeaders header).length))
      httpHeaderIds
    rw [getRequestHeaders, List.length_append, List.length_map]
    unfold ushortSize at unknown
    unfold dwordSize
    omega
  · intro header member
    rcases List.mem_append.mp member with known | unknown
    · obtain ⟨id, -, rfl⟩ := List.mem_map.mp known
      exact ⟨knownHeaderName_fits id, Nat.lt_trans (sized.knownHeaders id) less⟩
    · obtain ⟨name, value⟩ := sized.unknownHeaders.2 header unknown
      exact ⟨Nat.lt_trans name less, Nat.lt_trans value less⟩

/-- What IIS can report fits the message. -/
theorem Sized.requestMsg_fits
    {replyChannel : Bytes}
    (sized : request.Sized)
    (short : replyChannel.length < dwordSize) :
    (HttpRequestHandler.asgiRequestMsg request replyChannel
      request.entityBody).Fits := by
  refine ⟨?_, sized.headers_fit⟩
  simp only [StringsFit, List.forall_mem_cons]
  exact ⟨short, sized.httpVersion_fits, sized.httpMethod, sized.scheme_fits,
    toBytes_fits sized.absPath, toBytes_fits sized.queryString,
    sized.entityBody, by simp⟩

end HttpRequest

/-- An application reads back the fields of the request. -/
theorem readRequest_requestMsg
    {request : HttpRequest}
    {replyChannel : Bytes}
    (sized : request.Sized)
    (short : replyChannel.length < dwordSize) :
    readRequest (HttpRequestHandler.asgiRequestMsg request replyChannel
        request.entityBody).msgpackPack =
      some (.of request replyChannel) := by
  have read := readRequest_msgpackPack (sized.requestMsg_fits short)
    (toBytes_schemeUnits request) rfl rfl
  have version := getRequestHttpVersion_eq request
  have headers := getRequestHeaders_eq_headers request replyChannel
  rw [read]
  simp only [HttpRequestHandler.asgiRequestMsg, version, headers]
  rfl

namespace HttpSystem

variable {ρ : Type} [DecidableEq ρ]
variable {unpack : Bytes → Option AsgiHttpResponseMsg}
variable {requests : Requests ρ}
variable {labels : List (HttpSystemLabel ρ)}
variable {trace : List (HttpSystemEvent ρ)}
variable {system : HttpSystem ρ}

/-- A request sends its message once at most. -/
theorem sends_cases
    (run : EventMachine.Run (step unpack requests) EventMachine.always {} labels
      trace system)
    (id : ρ)
    (delivers : ∀ event ∈ requestEvents id trace, readDelivers event) :
    sends (requestEvents id trace) = [] ∨
      sends (requestEvents id trace) =
        [requestMsg (requests.request id) (requests.channel id)] := by
  obtain ⟨life, -, assembling⟩ :=
    life_induction id (fun event => readDelivers event) (fun _ => True)
      (Assembling (requests.request id) (requests.channel id))
      (Assembling.initial _ _)
      (fun _ _ _ _ _ assembling delivers _ steps =>
        assembling.step delivers steps)
      delivers (fun _ _ => trivial) run
  rcases assembling.once.cases with ⟨unsent, -⟩ | ⟨once, -⟩
  · exact .inl unsent
  · exact .inr once

/-- Whatever a request sends is its message. -/
theorem eq_requestMsg_of_mem
    {sent : Bytes × AsgiHttpRequestMsg}
    (run : EventMachine.Run (step unpack requests) EventMachine.always {} labels
      trace system)
    (id : ρ)
    (delivers : ∀ event ∈ requestEvents id trace, readDelivers event)
    (member : sent ∈ sends (requestEvents id trace)) :
    sent = requestMsg (requests.request id) (requests.channel id) := by
  rcases sends_cases run id delivers with unsent | once
  · rw [unsent] at member
    cases member
  · rw [once] at member
    exact List.mem_singleton.mp member

omit [DecidableEq ρ] in
/-- The message of a request is read back. -/
theorem readRequest_sent
    {id : ρ}
    (sized : (requests.request id).Sized)
    (generated : (requests.random id).length = 10) :
    readRequest (requestMsg (requests.request id)
        (requests.channel id)).2.msgpackPack =
      some (.of (requests.request id) (requests.channel id)) := by
  apply readRequest_requestMsg sized
  have kind : (ascii "http.request!").length = 13 := by decide
  rw [Requests.channel, newChannel, List.length_append, kind, generated]
  decide

/-- From the bytes that a request sends an application reads the fields of the
request: every part of the URL in its units, the headers, and the whole body. -/
theorem request_forwarded
    {sent : Bytes × AsgiHttpRequestMsg}
    (run : EventMachine.Run (step unpack requests) EventMachine.always {} labels
      trace system)
    (id : ρ)
    (delivers : ∀ event ∈ requestEvents id trace, readDelivers event)
    (sized : (requests.request id).Sized)
    (generated : (requests.random id).length = 10)
    (member : sent ∈ sends (requestEvents id trace)) :
    sent.1 = ascii "http.request" ∧
      readRequest sent.2.msgpackPack =
        some (.of (requests.request id) (requests.channel id)) := by
  rw [eq_requestMsg_of_mem run id delivers member]
  exact ⟨rfl, readRequest_sent sized generated⟩

/-- A request with a path beyond ASCII, a header and a short body. -/
def accentedRequest : HttpRequest where
  httpMethod := ascii "POST"
  fullUrl := [0x68, 0x74, 0x74, 0x70, 0x3A]
  absPath := [0x2F, 0xE9, 0x20AC]
  knownHeaders header := if header = .host then ascii "h" else []
  entityBody := [1, 0, 2]

def accentedRequests : Requests Unit where
  request _ := accentedRequest
  random _ := ascii "AAAAAAAAAA"
  distinct := fun _ _ _ => rfl

theorem accentedRequest_sized : accentedRequest.Sized where
  httpVersion := by decide
  httpMethod := by decide
  fullUrl := by decide
  absPath := by decide
  queryString := by decide
  knownHeaders := by
    intro header
    cases header <;> decide
  unknownHeaders := by decide
  entityBody := by decide

theorem request_forwarded_sample :
    ∃ labels trace system sent,
      EventMachine.Run (step (unpackSamples [] []) accentedRequests)
        EventMachine.always {} labels trace system ∧
      sends (requestEvents () trace) = [sent] ∧
      sent.1 = ascii "http.request" ∧
      readRequest sent.2.msgpackPack =
        some (.of accentedRequest (accentedRequests.channel ())) := by
  have executes : EventMachine.checks
      (step (unpackSamples [] []) accentedRequests) EventMachine.always {}
      [.handler () .onExecuteRequestHandler,
        .handler () (.iisReturn (.completed 3)), .handler () .stateMachine,
        .handler () (.taskSend 0)]
      (fun _ trace => (sends (requestEvents () trace)).length = 1 ∧
        ∀ event ∈ requestEvents () trace, readDelivers event) = true := by
    decide +kernel
  obtain ⟨trace, system, run, once, delivers⟩ :=
    EventMachine.Run.of_checks executes
  obtain ⟨sent, isSent⟩ := List.length_eq_one_iff.mp once
  exact ⟨_, trace, system, sent, run, isSent,
    request_forwarded run () delivers accentedRequest_sized (by decide)
      (isSent ▸ List.mem_singleton_self sent)⟩

end HttpSystem

end IisAsgiHandler
