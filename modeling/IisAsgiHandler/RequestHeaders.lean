import IisAsgiHandler.Library.HeaderFields
import IisAsgiHandler.RequestHandler

/-!
# The headers of a request

Known headers are forwarded under the names of a table, the others under their
own.  One name of the table is not that of its header: `Content-Type` lacks its
hyphen.
-/

namespace IisAsgiHandler

open HeaderFields (nameKey)

/-- The names that HTTP gives to the known headers. -/
def standardName : HttpHeaderId → String
  | .cacheControl => "Cache-Control"
  | .connection => "Connection"
  | .date => "Date"
  | .keepAlive => "Keep-Alive"
  | .pragma => "Pragma"
  | .trailer => "Trailer"
  | .transferEncoding => "Transfer-Encoding"
  | .upgrade => "Upgrade"
  | .via => "Via"
  | .warning => "Warning"
  | .allow => "Allow"
  | .contentLength => "Content-Length"
  | .contentType => "Content-Type"
  | .contentEncoding => "Content-Encoding"
  | .contentLanguage => "Content-Language"
  | .contentLocation => "Content-Location"
  | .contentMd5 => "Content-MD5"
  | .contentRange => "Content-Range"
  | .expires => "Expires"
  | .lastModified => "Last-Modified"
  | .accept => "Accept"
  | .acceptCharset => "Accept-Charset"
  | .acceptEncoding => "Accept-Encoding"
  | .acceptLanguage => "Accept-Language"
  | .authorization => "Authorization"
  | .cookie => "Cookie"
  | .expect => "Expect"
  | .from => "From"
  | .host => "Host"
  | .ifMatch => "If-Match"
  | .ifModifiedSince => "If-Modified-Since"
  | .ifNoneMatch => "If-None-Match"
  | .ifRange => "If-Range"
  | .ifUnmodifiedSince => "If-Unmodified-Since"
  | .maxForwards => "Max-Forwards"
  | .proxyAuthorization => "Proxy-Authorization"
  | .referer => "Referer"
  | .range => "Range"
  | .te => "TE"
  | .translate => "Translate"
  | .userAgent => "User-Agent"

/-- The known headers that a request has, in slot order. -/
def HttpRequest.present (request : HttpRequest) : List HttpHeaderId :=
  httpHeaderIds.filter fun header => 0 < (request.knownHeaders header).length

/-- A field has the name of a header, up to the case of letters, and its
value. -/
def Forwards
    (request : HttpRequest) (header : HttpHeaderId) (field : Bytes × Bytes) :
    Prop :=
  nameKey field.1 = nameKey (ascii (standardName header)) ∧
    field.2 = request.knownHeaders header

/-- One field for each header that is present: the known ones in slot order,
then the unknown ones as they are. -/
def ForwardsHeaders (request : HttpRequest) : Prop :=
  ∃ known, List.Forall₂ (Forwards request) request.present known ∧
    getRequestHeaders request = known ++ request.unknownHeaders

/-- `http.sys` has a slot for every header with a known name. -/
def SlotsKnown (request : HttpRequest) : Prop :=
  ∀ field ∈ request.unknownHeaders, ∀ header,
    nameKey field.1 ≠ nameKey (ascii (standardName header))

/-- Two requests with the same list have the same headers. -/
def ToldApart (request other : HttpRequest) : Prop :=
  SlotsKnown request → SlotsKnown other →
    getRequestHeaders request = getRequestHeaders other →
      request.knownHeaders = other.knownHeaders ∧
        request.unknownHeaders = other.unknownHeaders

theorem mem_httpHeaderIds (header : HttpHeaderId) : header ∈ httpHeaderIds := by
  cases header <;> decide

/-- The table has the name of every header but one. -/
theorem knownHeaderName_eq_iff (header : HttpHeaderId) :
    nameKey (knownHeaderName header) = nameKey (ascii (standardName header)) ↔
      header ≠ .contentType := by
  cases header <;> decide

theorem nodup_knownHeaderNames :
    (httpHeaderIds.map fun header => nameKey (knownHeaderName header)).Nodup := by
  decide +kernel

/-- Different headers have different names in the table. -/
theorem knownHeaderName_inj
    {header other : HttpHeaderId}
    (same : knownHeaderName header = knownHeaderName other) :
    header = other :=
  List.inj_on_of_nodup_map nodup_knownHeaderNames (mem_httpHeaderIds header)
    (mem_httpHeaderIds other) (congrArg nameKey same)

namespace HttpRequest

variable {request other : HttpRequest}

/-- The fields of the known headers. -/
def knownFields (request : HttpRequest) : List (Bytes × Bytes) :=
  request.present.map fun header =>
    (knownHeaderName header, request.knownHeaders header)

theorem getRequestHeaders_eq (request : HttpRequest) :
    getRequestHeaders request =
      request.knownFields ++ request.unknownHeaders := rfl

theorem mem_present {header : HttpHeaderId} :
    header ∈ request.present ↔ request.knownHeaders header ≠ [] := by
  rw [present, List.mem_filter, decide_eq_true_eq, List.length_pos_iff]
  exact and_iff_right (mem_httpHeaderIds header)

/-- A value that is not empty is in the fields, under the name of its header. -/
theorem mem_knownFields {header : HttpHeaderId} {value : Bytes} :
    (knownHeaderName header, value) ∈ request.knownFields ↔
      request.knownHeaders header = value ∧ value ≠ [] := by
  rw [knownFields, List.mem_map]
  constructor
  · rintro ⟨found, member, equal⟩
    obtain ⟨sameName, rfl⟩ := Prod.mk.inj equal
    cases knownHeaderName_inj sameName
    exact ⟨rfl, mem_present.mp member⟩
  · rintro ⟨rfl, nonempty⟩
    exact ⟨header, mem_present.mpr nonempty, rfl⟩

/-- The fields of the known headers determine their values. -/
theorem knownHeaders_eq (same : request.knownFields = other.knownFields) :
    request.knownHeaders = other.knownHeaders := by
  have carried : ∀ {first second : HttpRequest} {header : HttpHeaderId},
      first.knownFields = second.knownFields →
      first.knownHeaders header ≠ [] →
      second.knownHeaders header = first.knownHeaders header := by
    intro first second header equal nonempty
    have member : (knownHeaderName header, first.knownHeaders header) ∈
        second.knownFields := by
      rw [← equal]
      exact mem_knownFields.mpr ⟨rfl, nonempty⟩
    exact (mem_knownFields.mp member).1
  funext header
  by_cases absent : request.knownHeaders header = []
  · by_cases otherAbsent : other.knownHeaders header = []
    · rw [absent, otherAbsent]
    · exact carried same.symm otherAbsent
  · exact (carried same absent).symm

/-- A name that the table should have. -/
def hasStandardName (field : Bytes × Bytes) : Bool :=
  httpHeaderIds.any fun header =>
    decide (nameKey field.1 = nameKey (ascii (standardName header)))

/-- Without `Content-Type`, known headers are told by their names. -/
theorem hasStandardName_of_mem
    {field : Bytes × Bytes}
    (plain : request.knownHeaders .contentType = [])
    (member : field ∈ request.knownFields) :
    hasStandardName field = true := by
  obtain ⟨header, isPresent, rfl⟩ := List.mem_map.mp member
  have named : header ≠ .contentType := by
    rintro rfl
    exact mem_present.mp isPresent plain
  exact List.any_eq_true.mpr ⟨header, mem_httpHeaderIds header,
    decide_eq_true ((knownHeaderName_eq_iff header).mpr named)⟩

theorem hasStandardName_of_unknown
    {field : Bytes × Bytes}
    (slots : SlotsKnown request)
    (member : field ∈ request.unknownHeaders) :
    hasStandardName field = false := by
  rw [hasStandardName, List.any_eq_false]
  intro header _
  rw [decide_eq_true_eq]
  exact slots field member header

theorem filter_getRequestHeaders
    (plain : request.knownHeaders .contentType = [])
    (slots : SlotsKnown request) :
    (getRequestHeaders request).filter hasStandardName = request.knownFields := by
  rw [getRequestHeaders_eq, List.filter_append, List.filter_eq_self.mpr,
    List.filter_eq_nil_iff.mpr, List.append_nil]
  · intro field member
    rw [hasStandardName_of_unknown slots member]
    exact Bool.false_ne_true
  · exact fun field member => hasStandardName_of_mem plain member

end HttpRequest

/-- Requests without `Content-Type` are told apart. -/
theorem toldApart_of_plain
    {request other : HttpRequest}
    (plain : request.knownHeaders .contentType = [])
    (otherPlain : other.knownHeaders .contentType = []) :
    ToldApart request other := by
  intro slots otherSlots same
  have known : request.knownFields = other.knownFields := by
    rw [← request.filter_getRequestHeaders plain slots, same,
      other.filter_getRequestHeaders otherPlain otherSlots]
  refine ⟨HttpRequest.knownHeaders_eq known, ?_⟩
  rw [HttpRequest.getRequestHeaders_eq, HttpRequest.getRequestHeaders_eq,
    known] at same
  exact List.append_cancel_left same

/-- The headers of a request are forwarded exactly when it has no
`Content-Type`. -/
theorem forwardsHeaders_iff (request : HttpRequest) :
    ForwardsHeaders request ↔ request.knownHeaders .contentType = [] := by
  have byName : List.Forall₂ (Forwards request) request.present
        request.knownFields ↔
      ∀ header ∈ request.present, header ≠ .contentType := by
    rw [HttpRequest.knownFields, List.forall₂_map_right_iff, List.forall₂_same]
    refine forall₂_congr fun header _ => ?_
    rw [Forwards, knownHeaderName_eq_iff]
    exact and_iff_left rfl
  constructor
  · rintro ⟨known, forwarded, equal⟩
    rw [HttpRequest.getRequestHeaders_eq] at equal
    rw [← List.append_cancel_right equal] at forwarded
    by_contra isPresent
    exact byName.mp forwarded .contentType
      (HttpRequest.mem_present.mpr isPresent) rfl
  · intro plain
    refine ⟨request.knownFields, byName.mpr ?_, rfl⟩
    rintro header isPresent rfl
    exact HttpRequest.mem_present.mp isPresent plain

/-- Two requests are forwarded as they are, and told apart, exactly when neither
has a `Content-Type`. -/
theorem request_headers_iff (request other : HttpRequest) :
    ForwardsHeaders request ∧ ForwardsHeaders other ∧ ToldApart request other ↔
      request.knownHeaders .contentType = [] ∧
        other.knownHeaders .contentType = [] := by
  rw [forwardsHeaders_iff, forwardsHeaders_iff]
  constructor
  · rintro ⟨plain, otherPlain, -⟩
    exact ⟨plain, otherPlain⟩
  · rintro ⟨plain, otherPlain⟩
    exact ⟨plain, otherPlain, toldApart_of_plain plain otherPlain⟩

/-- A request with a `Content-Type` and nothing else. -/
def contentTypeRequest : HttpRequest where
  knownHeaders header :=
    if header = .contentType then ascii "text/plain" else []

/-- It is forwarded like a request with an unknown header `ContentType`. -/
theorem content_type_is_misnamed :
    getRequestHeaders contentTypeRequest =
        [(ascii "ContentType", ascii "text/plain")] ∧
      ¬ ForwardsHeaders contentTypeRequest ∧
      ¬ ToldApart contentTypeRequest
        { unknownHeaders := [(ascii "ContentType", ascii "text/plain")] } := by
  refine ⟨by decide, ?_, ?_⟩
  · rw [forwardsHeaders_iff]
    decide
  · intro apart
    have slots : SlotsKnown contentTypeRequest := by
      intro field member
      cases member
    have otherSlots : SlotsKnown
        { unknownHeaders := [(ascii "ContentType", ascii "text/plain")] } := by
      intro field member header
      rw [List.mem_singleton.mp member]
      cases header <;> decide
    have same := apart slots otherSlots (by decide)
    exact absurd same.2 (by decide)

end IisAsgiHandler
