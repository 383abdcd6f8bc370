import IisAsgiHandler.Messages

/-!
# Request handlers

What the HTTP and the WebSocket handler share: the results of a step, the loop
that drives the steps, the outcomes of calls into IIS, and the functions that
read the request.
-/

namespace IisAsgiHandler

/-! ## Results and statuses -/

/-- A result code of Windows. -/
abbrev HResult := Int32

/-- The code of success. -/
def sOk : HResult := 0

/-- The macro `FAILED`. -/
def failed (hr : HResult) : Bool := decide (hr < 0)

@[simp] theorem failed_sOk : failed sOk = false := by decide

/-- What a step tells the loop that drives it. -/
inductive StepResult
  | asyncPending
  /-- Enter the same step again. -/
  | rerun
  /-- Ask the step for its successor. -/
  | gotoNext
  | finishRequest
  deriving DecidableEq

/-- What a handler call returns to IIS. -/
inductive RequestNotificationStatus
  | pending
  | finishRequest
  deriving DecidableEq

/-- How an IIS call that may complete later returns: with a failed result, with
`completion_expected` unset, or with it set. -/
inductive IisReturn
  | failed
  | completed (bytes : Nat)
  | pending
  deriving DecidableEq

/-- What one turn of the loop of `HandlerStateMachine` does. -/
inductive Turn
  | leave (status : RequestNotificationStatus)
  | enter
  | getNextStepAndEnter
  deriving DecidableEq

/-- The `switch` of `HandlerStateMachine`. -/
@[simp] def handlerStateMachine : StepResult → Turn
  | .asyncPending => .leave .pending
  | .finishRequest => .leave .finishRequest
  | .rerun => .enter
  | .gotoNext => .getNextStepAndEnter

/-- What goes wrong where the code has no defined way to go on. -/
inductive Fault
  /-- A message pointer that is not set, or has been moved away, is read. -/
  | nullPointer
  /-- A step or a handler that no longer exists is used. -/
  | useAfterFree
  /-- An exception leaves the handler. -/
  | runtimeError (what : Bytes)
  deriving DecidableEq

/-! ## The request -/

/-- The identifiers of the known request headers, in slot order. -/
inductive HttpHeaderId
  | cacheControl | connection | date | keepAlive | pragma | trailer
  | transferEncoding | upgrade | via | warning
  | allow | contentLength | contentType | contentEncoding | contentLanguage
  | contentLocation | contentMd5 | contentRange | expires | lastModified
  | accept | acceptCharset | acceptEncoding | acceptLanguage | authorization
  | cookie | expect | from | host | ifMatch
  | ifModifiedSince | ifNoneMatch | ifRange | ifUnmodifiedSince | maxForwards
  | proxyAuthorization | referer | range | te | translate
  | userAgent
  deriving DecidableEq

/-- The slots of `KnownHeaders`, in order. -/
def httpHeaderIds : List HttpHeaderId :=
  [.cacheControl, .connection, .date, .keepAlive, .pragma, .trailer,
    .transferEncoding, .upgrade, .via, .warning,
    .allow, .contentLength, .contentType, .contentEncoding, .contentLanguage,
    .contentLocation, .contentMd5, .contentRange, .expires, .lastModified,
    .accept, .acceptCharset, .acceptEncoding, .acceptLanguage, .authorization,
    .cookie, .expect, .from, .host, .ifMatch,
    .ifModifiedSince, .ifNoneMatch, .ifRange, .ifUnmodifiedSince, .maxForwards,
    .proxyAuthorization, .referer, .range, .te, .translate,
    .userAgent]

/-- The names under which known headers are forwarded. -/
def kKnownHeaderMap : List (HttpHeaderId × String) :=
  [(.cacheControl, "Cache-Control"),
    (.connection, "Connection"),
    (.date, "Date"),
    (.keepAlive, "Keep-Alive"),
    (.pragma, "Pragma"),
    (.trailer, "Trailer"),
    (.transferEncoding, "Transfer-Encoding"),
    (.upgrade, "Upgrade"),
    (.via, "Via"),
    (.warning, "Warning"),
    (.allow, "Allow"),
    (.contentLength, "Content-Length"),
    (.contentType, "ContentType"),
    (.contentEncoding, "Content-Encoding"),
    (.contentLanguage, "Content-Language"),
    (.contentLocation, "Content-Location"),
    (.contentMd5, "Content-Md5"),
    (.contentRange, "Content-Range"),
    (.expires, "Expires"),
    (.lastModified, "Last-Modified"),
    (.accept, "Accept"),
    (.acceptCharset, "Accept-Charset"),
    (.acceptEncoding, "Accept-Encoding"),
    (.acceptLanguage, "Accept-Language"),
    (.authorization, "Authorization"),
    (.cookie, "Cookie"),
    (.expect, "Expect"),
    (.from, "From"),
    (.host, "Host"),
    (.ifMatch, "If-Match"),
    (.ifModifiedSince, "If-Modified-Since"),
    (.ifNoneMatch, "If-None-Match"),
    (.ifRange, "If-Range"),
    (.ifUnmodifiedSince, "If-Unmodified-Since"),
    (.maxForwards, "Max-Forwards"),
    (.proxyAuthorization, "Proxy-Authorization"),
    (.referer, "Referer"),
    (.range, "Range"),
    (.te, "Te"),
    (.translate, "Translate"),
    (.userAgent, "User-Agent")]

/-- What a handler reads of a request.  The URL parts are UTF-16 units, a
known header that the client did not send has no bytes, and `entityBody` is
the whole body, however it is delivered. -/
structure HttpRequest where
  httpVersion : Nat × Nat := (1, 1)
  httpMethod : Bytes := []
  fullUrl : List UInt16 := []
  absPath : List UInt16 := []
  queryString : List UInt16 := []
  knownHeaders : HttpHeaderId → Bytes := fun _ => []
  unknownHeaders : List (Bytes × Bytes) := []
  entityBody : Bytes := []

/-- The encoding of one UTF-16 unit by `std::codecvt_utf8<wchar_t>`, which
takes every unit for a code point of its own. -/
def encodeUnit (unit : UInt16) : Bytes :=
  if unit < 0x80 then [unit.toUInt8]
  else if unit < 0x800 then
    [(0xC0 : UInt8) ||| (unit >>> 6).toUInt8,
      (0x80 : UInt8) ||| (unit &&& 0x3F).toUInt8]
  else
    [(0xE0 : UInt8) ||| (unit >>> 12).toUInt8,
      (0x80 : UInt8) ||| ((unit >>> 6) &&& 0x3F).toUInt8,
      (0x80 : UInt8) ||| (unit &&& 0x3F).toUInt8]

/-- `wstring_convert::to_bytes`. -/
def toBytes (text : List UInt16) : Bytes := text.flatMap encodeUnit

/-- The minor version is shown for HTTP/1 only. -/
def getRequestHttpVersion (request : HttpRequest) : Bytes :=
  let major := ascii (toString request.httpVersion.1)
  if request.httpVersion.1 = 1 then
    major ++ ascii "." ++ ascii (toString request.httpVersion.2)
  else major

/-- The URL up to its first colon; empty if it has none. -/
def getRequestScheme (request : HttpRequest) : Bytes :=
  if (0x3A : UInt16) ∈ request.fullUrl then
    toBytes (request.fullUrl.takeWhile (· ≠ 0x3A))
  else []

def getRequestPath (request : HttpRequest) : Bytes :=
  toBytes request.absPath

def getRequestQueryString (request : HttpRequest) : Bytes :=
  toBytes request.queryString

/-- The name that `kKnownHeaderMap[i]` gives, the empty string if there is
none. -/
def knownHeaderName (header : HttpHeaderId) : Bytes :=
  match kKnownHeaderMap.lookup header with
  | some name => ascii name
  | none => []

/-- The known headers that are present, in slot order, then the unknown
ones. -/
def getRequestHeaders (request : HttpRequest) : List (Bytes × Bytes) :=
  (httpHeaderIds.filter fun header =>
      0 < (request.knownHeaders header).length).map
      (fun header => (knownHeaderName header, request.knownHeaders header)) ++
    request.unknownHeaders

end IisAsgiHandler
