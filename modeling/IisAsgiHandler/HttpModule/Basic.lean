import IisAsgiHandler.Http.System
import IisAsgiHandler.ResponsePump.Component
import IisAsgiHandler.WebSocket.Handler

/-!
# The HTTP module

IIS calls the module for every request.  The module makes a WebSocket handler
for a request with an `Upgrade` header and an HTTP handler for any other one,
stores it in the module context of the request, and passes the completions of
the request on to it.  All handlers of a worker process share one response
pump.
-/

namespace IisAsgiHandler

/-- A handler in a module context. -/
inductive RequestHandler
  | http (handler : HttpRequestHandler)
  | ws (handler : WsRequestHandler)
  deriving DecidableEq

/-- What a callback of the pump captures. -/
inductive CapturedHandler (ρ : Type)
  /-- A `WaitForResponseStep` of a request. -/
  | waitForResponse (id : ρ) (serial : Nat)
  /-- The writer of a connection. -/
  | writer (id : ρ)
  deriving DecidableEq

/-- What IIS calls `OnAsyncCompletion` for. -/
inductive Completion
  /-- An operation of the request, by its position among those of its handler;
  a connection has one at most. -/
  | operation (index : Nat) (hr : HResult) (bytes : Nat)
  /-- A posted completion. -/
  | posted (index : Nat) (hr : HResult) (bytes : Nat)
  deriving DecidableEq

/-- What happens next to the requests of a worker process. -/
inductive HttpModuleLabel (ρ : Type)
  | onExecuteRequestHandler (id : ρ)
  | onAsyncCompletion (id : ρ) (completion : Completion)
  /-- Anything else that happens to an HTTP handler. -/
  | http (id : ρ) (label : HandlerLabel)
  /-- Anything else that happens to a WebSocket handler. -/
  | ws (id : ρ) (label : WsLabel)
  deriving DecidableEq

/-- What the handlers show. -/
inductive HttpModuleEvent (ρ : Type)
  | http (id : ρ) (event : HttpEvent)
  | ws (id : ρ) (event : WsEvent)
  deriving DecidableEq

/-- Whether a step is a call of the module. -/
def HandlerLabel.entersModule : HandlerLabel → Bool
  | .onExecuteRequestHandler | .complete .. | .completePosted .. => true
  | _ => false

/-- Whether a step is a call of the module. -/
def WsLabel.entersModule : WsLabel → Bool
  | .onExecuteRequestHandler | .flushCompletes _ | .completePosted _ => true
  | _ => false

/-- The step of an HTTP handler for a completion. -/
def Completion.toHttp : Completion → HandlerLabel
  | .operation index hr bytes => .complete index hr bytes
  | .posted index hr bytes => .completePosted index hr bytes

/-- The step of a WebSocket handler for a completion. -/
def Completion.toWs : Completion → WsLabel
  | .operation _ hr _ => .flushCompletes hr
  | .posted _ hr _ => .completePosted hr

/-- The length that `GetHeader(HttpHeaderUpgrade, ..)` tells. -/
def upgradeHeaderLength (request : HttpRequest) : Nat :=
  (request.knownHeaders .upgrade).length

/-- The module contexts of the requests of a worker process. -/
abbrev ModuleContexts (ρ : Type) := ρ → Option RequestHandler

namespace ModuleContexts

variable {ρ : Type}

/-- The HTTP handler of a request, as it is made if there is none. -/
def httpHandler (contexts : ModuleContexts ρ) (id : ρ) : HttpRequestHandler :=
  match contexts id with
  | some (.http handler) => handler
  | _ => {}

/-- The WebSocket handler of a request, as it is made if there is none. -/
def wsHandler (contexts : ModuleContexts ρ) (id : ρ) : WsRequestHandler :=
  match contexts id with
  | some (.ws handler) => handler
  | _ => {}

variable [DecidableEq ρ]

@[simp] theorem httpHandler_update_http
    (contexts : ModuleContexts ρ)
    (id : ρ)
    (handler : HttpRequestHandler) :
    httpHandler (Function.update contexts id (some (.http handler))) =
      Function.update contexts.httpHandler id handler := by
  ext other
  by_cases same : other = id
  · subst same
    simp [httpHandler]
  · simp [httpHandler, same]

@[simp] theorem wsHandler_update_ws
    (contexts : ModuleContexts ρ)
    (id : ρ)
    (handler : WsRequestHandler) :
    wsHandler (Function.update contexts id (some (.ws handler))) =
      Function.update contexts.wsHandler id handler := by
  ext other
  by_cases same : other = id
  · subst same
    simp [wsHandler]
  · simp [wsHandler, same]

theorem httpHandler_update_ws
    {contexts : ModuleContexts ρ}
    {id : ρ}
    (handler : WsRequestHandler)
    (notHttp : ∀ other, contexts id ≠ some (.http other)) :
    httpHandler (Function.update contexts id (some (.ws handler))) =
      contexts.httpHandler := by
  ext other
  by_cases same : other = id
  · subst same
    cases found : contexts other with
    | none => simp [httpHandler, found]
    | some stored =>
        cases stored with
        | http stored => exact absurd found (notHttp stored)
        | ws stored => simp [httpHandler, found]
  · simp [httpHandler, same]

theorem wsHandler_update_http
    {contexts : ModuleContexts ρ}
    {id : ρ}
    (handler : HttpRequestHandler)
    (notWs : ∀ other, contexts id ≠ some (.ws other)) :
    wsHandler (Function.update contexts id (some (.http handler))) =
      contexts.wsHandler := by
  ext other
  by_cases same : other = id
  · subst same
    cases found : contexts other with
    | none => simp [wsHandler, found]
    | some stored =>
        cases stored with
        | http stored => simp [wsHandler, found]
        | ws stored => exact absurd found (notWs stored)
  · simp [wsHandler, same]

end ModuleContexts

namespace HttpModule

variable {ρ : Type} [DecidableEq ρ]
variable (unpackResponse : Bytes → Option AsgiHttpResponseMsg)
variable (unpackSend : Bytes → Option AsgiWsSendMsg)
variable (requests : Requests ρ)

/-- A step of the HTTP handler of a request. -/
def httpStep
    (contexts : ModuleContexts ρ) (id : ρ) (handler : HttpRequestHandler)
    (label : HandlerLabel) :
    Option (ModuleContexts ρ × List (HttpModuleEvent ρ)) :=
  match HttpRequestHandler.step unpackResponse (requests.request id)
      (requests.channel id) handler label with
  | none => none
  | some (next, events) =>
      some (Function.update contexts id (some (.http next)),
        events.map (.http id))

/-- A step of the WebSocket handler of a request. -/
def wsStep
    (contexts : ModuleContexts ρ) (id : ρ) (handler : WsRequestHandler)
    (label : WsLabel) :
    Option (ModuleContexts ρ × List (HttpModuleEvent ρ)) :=
  match WsRequestHandler.step unpackSend (requests.request id)
      (sendChannel (requests.random id)) handler label with
  | none => none
  | some (next, events) =>
      some (Function.update contexts id (some (.ws next)), events.map (.ws id))

/-- What a label does to the requests. -/
def step : EventMachine (ModuleContexts ρ) (HttpModuleLabel ρ) (HttpModuleEvent ρ)
  | contexts, .onExecuteRequestHandler id =>
      match contexts id with
      | some _ => none
      | none =>
          if 0 < upgradeHeaderLength (requests.request id) then
            wsStep unpackSend requests contexts id {} .onExecuteRequestHandler
          else
            httpStep unpackResponse requests contexts id {}
              .onExecuteRequestHandler
  | contexts, .onAsyncCompletion id completion =>
      match contexts id with
      | none => none
      | some (.http handler) =>
          httpStep unpackResponse requests contexts id handler completion.toHttp
      | some (.ws handler) =>
          wsStep unpackSend requests contexts id handler completion.toWs
  | contexts, .http id label =>
      match contexts id with
      | some (.http handler) =>
          if label.entersModule then none
          else httpStep unpackResponse requests contexts id handler label
      | _ => none
  | contexts, .ws id label =>
      match contexts id with
      | some (.ws handler) =>
          if label.entersModule then none
          else wsStep unpackSend requests contexts id handler label
      | _ => none

/-- What an event asks of the pump. -/
def request : HttpModuleEvent ρ → Option (PumpRequest (CapturedHandler ρ))
  | .http id (.addChannel channel serial) =>
      some (.addChannel channel (.waitForResponse id serial))
  | .ws id (.writer (.addChannel channel)) =>
      some (.addChannel channel (.writer id))
  | _ => none

/-- A task that the pump has created runs on behalf of a handler. -/
def receive
    (contexts : ModuleContexts ρ) (task : DispatchedTask (CapturedHandler ρ)) :
    ModuleContexts ρ :=
  match task.callback with
  | .waitForResponse id serial =>
      let handler := contexts.httpHandler id
      Function.update contexts id (some (.http { handler with
        callbacks := handler.callbacks ++
          [{ serial := serial, data := task.data }] }))
  | .writer id =>
      let handler := contexts.wsHandler id
      Function.update contexts id (some (.ws { handler with
        writer := { handler.writer with
          callbacks := handler.writer.callbacks ++ [{ data := task.data }] } }))

end HttpModule

/-- The module, as it uses the pump. -/
def httpModule
    {ρ : Type} [DecidableEq ρ]
    (unpackResponse : Bytes → Option AsgiHttpResponseMsg)
    (unpackSend : Bytes → Option AsgiWsSendMsg)
    (requests : Requests ρ) :
    EventMachine.Host (ModuleContexts ρ) (HttpModuleLabel ρ) (HttpModuleEvent ρ)
      (PumpRequest (CapturedHandler ρ)) (DispatchedTask (CapturedHandler ρ)) where
  step := HttpModule.step unpackResponse unpackSend requests
  request := HttpModule.request
  receive := HttpModule.receive

/-- The worker process before the first request. -/
def noContexts {ρ : Type} : ModuleContexts ρ := fun _ => none

namespace HttpModule

variable {ρ : Type} [DecidableEq ρ]
variable {unpackResponse : Bytes → Option AsgiHttpResponseMsg}
variable {unpackSend : Bytes → Option AsgiWsSendMsg}
variable {requests : Requests ρ}

/-- The cases of a step. -/
inductive Stepped
    (unpackResponse : Bytes → Option AsgiHttpResponseMsg)
    (unpackSend : Bytes → Option AsgiWsSendMsg)
    (requests : Requests ρ)
    (contexts : ModuleContexts ρ) :
    ModuleContexts ρ → List (HttpModuleEvent ρ) → Prop
  | http {id : ρ} {label : HandlerLabel} {next : HttpRequestHandler}
      {events : List HttpEvent}
      (notWs : ∀ other, contexts id ≠ some (.ws other))
      (steps : HttpRequestHandler.step unpackResponse (requests.request id)
        (requests.channel id) (contexts.httpHandler id) label =
          some (next, events)) :
      Stepped unpackResponse unpackSend requests contexts
        (Function.update contexts id (some (.http next))) (events.map (.http id))
  | ws {id : ρ} {label : WsLabel} {next : WsRequestHandler}
      {events : List WsEvent}
      (notHttp : ∀ other, contexts id ≠ some (.http other))
      (steps : WsRequestHandler.step unpackSend (requests.request id)
        (sendChannel (requests.random id)) (contexts.wsHandler id) label =
          some (next, events)) :
      Stepped unpackResponse unpackSend requests contexts
        (Function.update contexts id (some (.ws next))) (events.map (.ws id))

omit [DecidableEq ρ] in
theorem httpHandler_of_some
    {contexts : ModuleContexts ρ}
    {id : ρ}
    {handler : HttpRequestHandler}
    (found : contexts id = some (.http handler)) :
    contexts.httpHandler id = handler := by
  simp [ModuleContexts.httpHandler, found]

omit [DecidableEq ρ] in
theorem wsHandler_of_some
    {contexts : ModuleContexts ρ}
    {id : ρ}
    {handler : WsRequestHandler}
    (found : contexts id = some (.ws handler)) :
    contexts.wsHandler id = handler := by
  simp [ModuleContexts.wsHandler, found]

variable {contexts next : ModuleContexts ρ}
variable {events : List (HttpModuleEvent ρ)}

theorem stepped_of_httpStep
    {id : ρ}
    {handler : HttpRequestHandler}
    {label : HandlerLabel}
    (stored : contexts.httpHandler id = handler)
    (notWs : ∀ other, contexts id ≠ some (.ws other))
    (steps : httpStep unpackResponse requests contexts id handler label =
      some (next, events)) :
    Stepped unpackResponse unpackSend requests contexts next events := by
  simp only [httpStep] at steps
  split at steps
  next => cases steps
  next handlerNext shown found =>
    cases steps
    exact .http notWs (stored ▸ found)

theorem stepped_of_wsStep
    {id : ρ}
    {handler : WsRequestHandler}
    {label : WsLabel}
    (stored : contexts.wsHandler id = handler)
    (notHttp : ∀ other, contexts id ≠ some (.http other))
    (steps : wsStep unpackSend requests contexts id handler label =
      some (next, events)) :
    Stepped unpackResponse unpackSend requests contexts next events := by
  simp only [wsStep] at steps
  split at steps
  next => cases steps
  next handlerNext shown found =>
    cases steps
    exact .ws notHttp (stored ▸ found)

/-- Every step is one of a handler. -/
theorem stepped_of_step
    {label : HttpModuleLabel ρ}
    (steps : step unpackResponse unpackSend requests contexts label =
      some (next, events)) :
    Stepped unpackResponse unpackSend requests contexts next events := by
  cases label with
  | onExecuteRequestHandler id =>
      simp only [step] at steps
      split at steps
      next => cases steps
      next fresh =>
        split at steps
        · exact stepped_of_wsStep (by simp [ModuleContexts.wsHandler, fresh])
            (by simp [fresh]) steps
        · exact stepped_of_httpStep (by simp [ModuleContexts.httpHandler, fresh])
            (by simp [fresh]) steps
  | onAsyncCompletion id completion =>
      simp only [step] at steps
      split at steps
      next => cases steps
      next handler found =>
        exact stepped_of_httpStep (httpHandler_of_some found) (by simp [found])
          steps
      next handler found =>
        exact stepped_of_wsStep (wsHandler_of_some found) (by simp [found]) steps
  | http id label =>
      simp only [step] at steps
      split at steps
      next handler found =>
        split at steps
        · cases steps
        · exact stepped_of_httpStep (httpHandler_of_some found) (by simp [found])
            steps
      next => cases steps
  | ws id label =>
      simp only [step] at steps
      split at steps
      next handler found =>
        split at steps
        · cases steps
        · exact stepped_of_wsStep (wsHandler_of_some found) (by simp [found])
            steps
      next => cases steps

end HttpModule

end IisAsgiHandler
