import Boai.Lib.StepMachine
import Boai.Completion.Pipeline
import Boai.Completion.Response

/-!
# `FetchCompletion`

A call either returns false, or fails before any exchange, or hands an
`Acquire` to the transport.  From then on it only reacts to answers: the session
records what is outstanding, what was handed over and the states given to the
callback, and a step feeds it one answer.
-/

namespace Boai.Completion

open Boai.Json

/-- The progress of one call of `FetchCompletion`. -/
structure CompletionSession where
  /-- The value the call returned. -/
  accepted : Bool
  /-- What the handlers captured; absent when no `Acquire` was issued. -/
  captured : Option (FetchCapture × String) := none
  pending : List RequestKind := []
  issued : List TransportCall := []
  calls : List OaiCompletionState := []

inductive CompletionAnswer where
  | acquire (result : Except String StreamSlot)
  | done (result : HttpClientResult)

/-- `FetchCompletion` up to its return. -/
def fetchCompletion (lib : Libraries) (factory : OaiCompletionFactory)
    (heap : StateHeap) (args : FetchArgs) (cb : Bool) (now : Int) : CompletionSession :=
  match FetchCapture.check factory args, cb with
  | some capture, true =>
      match capture.payload lib.json heap false with
      | .error buildError =>
          { accepted := true
            calls := [capture.deliverFailure false now buildError] }
      | .ok requestBody =>
          { accepted := true
            captured := some (capture, requestBody)
            pending := [.acquire]
            issued := [.acquire capture.pipeline.builder
              (capture.assembled lib.http).connectionKey] }
  | _, _ => { accepted := false }

/-- The raw task created for a slot. -/
def completionTask (http : HttpLib) (capture : FetchCapture) : StreamSlot → RawTask
  | .ssl stream =>
      .https stream (capture.connHost http) (capture.connTarget http) .post fetchOptions
  | .tcp stream =>
      .http stream (capture.connHost http) (capture.connTarget http) .post fetchOptions

/-- The request the task is started with.  It is the request of the fresh task
with the fields below set; the assembled request is captured but not read. -/
def completionRequest (http : HttpLib) (capture : FetchCapture) (requestBody : String)
    (slot : StreamSlot) : HttpRequest :=
  let request := http.freshRequest (completionTask http capture slot)
  let request := { request with
    method := .post, target := capture.connTarget http, version := 11 }
  let request := request.set "Host" (capture.connHost http)
  let request := request.set "Content-Type" "application/json"
  let request := request.set "Accept" "application/json"
  let request := setCredentials capture.info.value request
  http.preparePayload { request with body := requestBody }

/-- The handler given to `OnDone`. -/
def completionState (json : JsonLib) (capture : FetchCapture) (now : Int)
    (result : HttpClientResult) : OaiCompletionState :=
  let log := { buildLogSkeleton capture.modelInfo.value false now with
    httpStatusCode := result.response.status
    requestId := (result.response.find "x-request-id").getD "" }
  match result.ec with
  | some message => capture.deliver blankAssistant { log with errorMessage := message }
  | none =>
      if result.cancelled then
        capture.deliver blankAssistant { log with errorMessage := "request cancelled" }
      else if !isHttpSuccessStatus log.httpStatusCode then
        let parseError := extractErrorMessageFromJsonBody json result.response.body
        capture.deliver blankAssistant { log with
          errorMessage :=
            if parseError = "" then "HTTP status " ++ toString log.httpStatusCode
            else parseError }
      else
        let parsed := parseCompletionResponseBody json result.response.body
          blankAssistant log ""
        if parsed.accepted then
          capture.deliver parsed.message { parsed.log with status := .kSuccess }
        else
          capture.deliver parsed.message { parsed.log with errorMessage := parsed.error }

namespace CompletionSession

/-- Take an answered request off the outstanding ones. -/
def settle (session : CompletionSession) (kind : RequestKind) : CompletionSession :=
  { session with pending := session.pending.erase kind }

/-- `cb(state)`. -/
def call (session : CompletionSession) (state : OaiCompletionState) :
    CompletionSession :=
  { session with calls := session.calls ++ [state] }

/-- `task->Start()`. -/
def start (session : CompletionSession) (request : HttpRequest) : CompletionSession :=
  { session with
    pending := session.pending ++ [.start]
    issued := session.issued ++ [.start request] }

/-- The handler given to `Acquire`. -/
def onAcquire (lib : Libraries) (capture : FetchCapture) (requestBody : String)
    (now : Int) (result : Except String StreamSlot) (session : CompletionSession) :
    CompletionSession :=
  match result with
  | .error message => session.call (capture.deliverFailure false now message)
  | .ok slot => session.start (completionRequest lib.http capture requestBody slot)

/-- The transport answers an outstanding request. -/
def answer (lib : Libraries) (session : CompletionSession)
    (input : Timed CompletionAnswer) : Option CompletionSession :=
  match session.captured with
  | none => none
  | some (capture, requestBody) =>
      match input.answer with
      | .acquire result =>
          if .acquire ∈ session.pending then
            some ((session.settle .acquire).onAcquire lib capture requestBody input.now result)
          else none
      | .done result =>
          if .start ∈ session.pending then
            some ((session.settle .start).call
              (completionState lib.json capture input.now result))
          else none

end CompletionSession

/-- `FetchCompletion` after its return. -/
def completionMachine (lib : Libraries) :
    StepMachine CompletionSession (Timed CompletionAnswer) where
  step := CompletionSession.answer lib

end Boai.Completion
