import IisAsgiHandler.Http.Handler
import IisAsgiHandler.Http.Lifecycle
import IisAsgiHandler.ResponsePump.Basic

/-!
# Concurrent requests

Any number of requests share one response pump and one channel layer.  Steps of
handlers, tasks, callbacks, the pump thread and the application interleave
freely.  Reply channels are pairwise distinct.
-/

namespace IisAsgiHandler

/-- What a registered callback captures. -/
structure CapturedStep (ρ : Type) where
  request : ρ
  serial : Nat
  deriving DecidableEq

/-- Requests with pairwise distinct reply channels. -/
structure Requests (ρ : Type) where
  request : ρ → HttpRequest
  /-- The random characters of the reply channel's name. -/
  random : ρ → Bytes
  distinct : Function.Injective random

namespace Requests

variable {ρ : Type}

/-- The reply channel of a request. -/
def channel (requests : Requests ρ) (id : ρ) : Bytes :=
  newChannel (ascii "http.request!") (requests.random id)

theorem channel_injective (requests : Requests ρ) :
    Function.Injective requests.channel := by
  intro first second equal
  exact requests.distinct (List.append_cancel_left equal)

theorem channel_ne_nil (requests : Requests ρ) (id : ρ) :
    requests.channel id ≠ [] := by
  have nonempty : ascii "http.request!" ≠ [] := by decide
  exact List.append_ne_nil_of_left_ne_nil nonempty _

end Requests

/-- The handlers with the pump and the channels that they share. -/
structure HttpSystem (ρ : Type) where
  pump : ResponsePump (CapturedStep ρ) := {}
  queues : ChannelQueues := fun _ => []
  handlers : ρ → HttpRequestHandler := fun _ => {}

/-- What happens next in the system. -/
inductive HttpSystemLabel (ρ : Type)
  | handler (id : ρ) (label : HandlerLabel)
  | pump (label : PumpLabel)
  /-- The application sends a message to a channel. -/
  | send (channel data : Bytes)
  /-- The pump is told to stop. -/
  | stopPump
  deriving DecidableEq

/-- What the system shows. -/
inductive HttpSystemEvent (ρ : Type)
  | request (id : ρ) (event : HttpEvent)
  | sent (channel data : Bytes)
  deriving DecidableEq

namespace HttpSystem

variable {ρ : Type} [DecidableEq ρ]
variable (unpack : Bytes → Option AsgiHttpResponseMsg)
variable (requests : Requests ρ)

/-- The effect of a handler's event on the pump. -/
def register (id : ρ) (pump : ResponsePump (CapturedStep ρ)) :
    HttpEvent → ResponsePump (CapturedStep ρ)
  | .addChannel channel serial => pump.addChannel channel ⟨id, serial⟩
  | _ => pump

/-- A task that the pump has created runs on behalf of its request. -/
def create (handlers : ρ → HttpRequestHandler) :
    Option (DispatchedTask (CapturedStep ρ)) → ρ → HttpRequestHandler
  | none => handlers
  | some task =>
      let handler := handlers task.callback.request
      Function.update handlers task.callback.request { handler with
        callbacks := handler.callbacks ++
          [{ serial := task.callback.serial, data := task.data }] }

/-- What a label does to the system. -/
def step : EventMachine (HttpSystem ρ) (HttpSystemLabel ρ) (HttpSystemEvent ρ)
  | system, .handler id label =>
      match HttpRequestHandler.step unpack (requests.request id)
          (requests.channel id) (system.handlers id) label with
      | none => none
      | some (handler, events) =>
          some ({ system with
              handlers := Function.update system.handlers id handler
              pump := events.foldl (register id) system.pump },
            events.map (.request id))
  | system, .pump label =>
      match system.pump.threadMain system.queues label with
      | none => none
      | some result =>
          some ({
              pump := result.pump
              queues := result.queues
              handlers := create system.handlers result.task }, [])
  | system, .send channel data =>
      some ({ system with queues := system.queues.send channel data },
        [.sent channel data])
  | system, .stopPump =>
      some ({ system with
        pump := { system.pump with threadStop := true } }, [])

/-- The events of one request. -/
def requestEvents (id : ρ) (trace : List (HttpSystemEvent ρ)) : List HttpEvent :=
  trace.filterMap fun
    | .request other event => if other = id then some event else none
    | .sent _ _ => none

/-- The messages sent to a channel. -/
def sentTo (channel : Bytes) (trace : List (HttpSystemEvent ρ)) : List Bytes :=
  trace.filterMap fun
    | .sent other data => if other = channel then some data else none
    | .request _ _ => none

/-- Whether a label is a step of one request. -/
def isOwn (id : ρ) : HttpSystemLabel ρ → Bool
  | .handler other _ => decide (other = id)
  | _ => false

/-- Number of labels that are steps of one request. -/
def ownSteps (id : ρ) (labels : List (HttpSystemLabel ρ)) : Nat :=
  labels.countP (isOwn id)

end HttpSystem

/-! ## Two requests and their responses

The encoding of a response belongs to the application and to the msgpack
library.  These are the bytes of a few responses, to run the system with.
-/

/-- Two requests with the same body. -/
def sampleRequests (body : Bytes) : Requests Bool where
  request _ := { entityBody := body }
  random id := if id then [0x41] else [0x42]
  distinct := by
    intro first second equal
    cases first <;> cases second <;> simp_all

/-- A response of status 200 with a short content. -/
def sampleResponse (content : Bytes) (moreContent : Bool) : AsgiHttpResponseMsg where
  status := 200
  content := content
  moreContent := moreContent

/-- The response as a msgpack map of four pairs; its content has less than 32
bytes. -/
def packSample (content : Bytes) (moreContent : Bool) : Bytes :=
  [0x84, 0xA6] ++ ascii "status" ++ [0xCC, 0xC8, 0xA7] ++ ascii "headers" ++
    [0x90, 0xA7] ++ ascii "content" ++
    [0xA0 + UInt8.ofNat content.length] ++ content ++
    [0xAC] ++ ascii "more_content" ++ [if moreContent then 0xC3 else 0xC2]

/-- Unpack the chunk and the final response with the given contents. -/
def unpackSamples (chunk final : Bytes) (data : Bytes) :
    Option AsgiHttpResponseMsg :=
  if data = packSample chunk true then some (sampleResponse chunk true)
  else if data = packSample final false then some (sampleResponse final false)
  else none

/-- A request without a body reaches IIS, is sent, and waits for a response. -/
def requestLabels {ρ : Type} (id : ρ) : List (HttpSystemLabel ρ) :=
  [.handler id .onExecuteRequestHandler, .handler id .stateMachine,
    .handler id .stateMachine, .handler id (.taskSend 0),
    .handler id (.taskPost 0), .handler id (.completePosted 0 0 0),
    .handler id .stateMachine, .handler id .stateMachine]

/-- A message is sent to a request and received by its callback, which posts
a completion. -/
def responseLabels
    {ρ : Type}
    (requests : Requests ρ)
    (id : ρ)
    (data : Bytes) : List (HttpSystemLabel ρ) :=
  [.send (requests.channel id) data, .pump .snapshot,
    .pump (.receiveMany (some (requests.channel id))), .pump .dispatch,
    .handler id (.callbackUnpack 0), .handler id (.callbackPost 0)]

end IisAsgiHandler
