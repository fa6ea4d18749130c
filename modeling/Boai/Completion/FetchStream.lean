import Boai.Lib.StepMachine
import Boai.Completion.Pipeline
import Boai.Completion.Response

/-!
# `FetchStreamCompletion`

The stream counterpart of a fetch.  Its session carries the aggregate and the
event parser besides what is outstanding and what was handed over, and lists the
callback calls in order.  Each `Next` is answered by a handler that may issue
the following `Next`, which is the recursion of `PullNextStreamChunk`.
-/

namespace Boai.Completion

open Boai.Json

/-- What the handlers of an accepted stream call capture. -/
structure StreamCapture extends FetchCapture where
  requestBody : String
  callbacks : DeltaCallbacks

/-- The progress of one call of `FetchStreamCompletion`. -/
structure StreamSession (parser : SseParser) where
  /-- The value the call returned. -/
  accepted : Bool
  /-- What the handlers captured; absent when no `Acquire` was issued. -/
  captured : Option StreamCapture := none
  agg : StreamAggregate := {}
  parserState : parser.State := parser.init
  pending : List RequestKind := []
  issued : List TransportCall := []
  calls : List StreamCallback := []

inductive StreamAnswer where
  | acquire (result : Except String StreamSlot)
  | start (result : HttpSseClientResult)
  | next (result : HttpSseClientResult)

/-- `FetchStreamCompletion` up to its return. -/
def fetchStreamCompletion (lib : Libraries) (factory : OaiCompletionFactory)
    (heap : StateHeap) (args : FetchArgs) (onDone : Bool) (callbacks : DeltaCallbacks)
    (now : Int) : StreamSession lib.sse :=
  match FetchCapture.check factory args,
      onDone && (callbacks.onDelta || callbacks.onReasoningDelta) with
  | some capture, true =>
      match capture.payload lib.json heap true with
      | .error buildError =>
          { accepted := true
            calls := [.onDone (capture.deliverFailure true now buildError)] }
      | .ok requestBody =>
          { accepted := true
            captured := some { capture with requestBody, callbacks }
            pending := [.acquire]
            issued := [.acquire capture.pipeline.builder
              (capture.assembled lib.http).connectionKey] }
  | _, _ => { accepted := false }

/-- The request the client is started with: the assembled request, moved over
the one of the fresh task, with the fields below set. -/
def streamRequest (http : HttpLib) (capture : FetchCapture) (requestBody : String) :
    HttpRequest :=
  let request := { (capture.assembled http).request with method := .post }
  let request := request.set "Content-Type" "application/json"
  let request := request.set "Accept" "text/event-stream"
  let request := setCredentials capture.info.value request
  http.preparePayload { request with body := requestBody }

/-- The state built by `finish`. -/
def streamState (json : JsonLib) (capture : FetchCapture) (now : Int) (success : Bool)
    (agg : StreamAggregate) : OaiCompletionState :=
  capture.deliver
    { blankAssistant with
      message := agg.accumulatedMessage
      toolCalls := buildToolCallsFromAccumulation json agg.toolCalls
      reasoning := agg.accumulatedReasoning }
    { buildLogSkeleton capture.modelInfo.value true now with
      status := if success then .kSuccess else .kFail
      httpStatusCode := agg.httpStatusCode
      errorMessage := agg.errorMessage
      requestId := agg.requestId
      finishReason := agg.finishReason
      model := if agg.model = "" then capture.modelInfo.value.model else agg.model
      deltaCount := agg.deltaCount }

/-- The states given to `on_done`. -/
def delivered (calls : List StreamCallback) : List OaiCompletionState :=
  calls.filterMap fun
    | .onDone state => some state
    | _ => none

/-- The texts given to `on_delta`. -/
def deltas (calls : List StreamCallback) : List String :=
  calls.filterMap fun
    | .onDelta text => some text
    | _ => none

/-- The texts given to `on_reasoning_delta`. -/
def reasoningDeltas (calls : List StreamCallback) : List String :=
  calls.filterMap fun
    | .onReasoningDelta text => some text
    | _ => none

/-- What the event loop of a `Next` handler leaves: the aggregate, the callback
calls, and the arguments of `finish` if an event stopped the loop. -/
structure LoopResult where
  agg : StreamAggregate
  calls : List StreamCallback := []
  stop : Option (Bool × String) := none

/-- The event loop of the `Next` handler. -/
def processEvents (json : JsonLib) (callbacks : DeltaCallbacks) :
    (events : List SseEvent) → StreamAggregate → LoopResult
  | [], agg => { agg }
  | event :: rest, agg =>
      let result := processStreamEventData json callbacks event.data agg
      match result.action with
      | .kDone => { agg := result.agg, calls := result.calls, stop := some (true, "") }
      | .kFail =>
          { agg := result.agg, calls := result.calls, stop := some (false, result.error) }
      | .kContinue =>
          let later := processEvents json callbacks rest result.agg
          { later with calls := result.calls ++ later.calls }

namespace StreamSession

variable {parser : SseParser}

/-- Take an answered request off the outstanding ones. -/
def settle (session : StreamSession parser) (kind : RequestKind) : StreamSession parser :=
  { session with pending := session.pending.erase kind }

/-- Invoke callbacks. -/
def call (session : StreamSession parser) (calls : List StreamCallback) :
    StreamSession parser :=
  { session with calls := session.calls ++ calls }

/-- Hand a request over to the transport. -/
def issue (session : StreamSession parser) (kind : RequestKind)
    (request : TransportCall) : StreamSession parser :=
  { session with
    pending := session.pending ++ [kind], issued := session.issued ++ [request] }

/-- `finish`. -/
def finish (json : JsonLib) (capture : FetchCapture) (now : Int) (success : Bool)
    (errorMessage : String) (session : StreamSession parser) : StreamSession parser :=
  if session.agg.done then session
  else
    let agg := { session.agg with
      done := true
      errorMessage := if errorMessage = "" then session.agg.errorMessage else errorMessage }
    { session with agg }.call [.onDone (streamState json capture now success agg)]

/-- `PullNextStreamChunk`, up to the call of `Next`. -/
def pullNextStreamChunk (session : StreamSession parser) : StreamSession parser :=
  session.issue .next .next

/-- The handler given to `Acquire`.  A failure is reported without `finish`, so
it leaves `done` unset. -/
def onAcquire (http : HttpLib) (capture : StreamCapture) (now : Int)
    (result : Except String StreamSlot) (session : StreamSession parser) :
    StreamSession parser :=
  match result with
  | .error message => session.call [.onDone (capture.deliverFailure true now message)]
  | .ok _ =>
      session.issue .start
        (.start (streamRequest http capture.toFetchCapture capture.requestBody))

/-- The handler given to `Start`. -/
def onStart (json : JsonLib) (capture : FetchCapture) (now : Int)
    (result : HttpSseClientResult) (session : StreamSession parser) :
    StreamSession parser :=
  let session := { session with
    agg := { session.agg with httpStatusCode := result.status } }
  if result.cancelled then session.finish json capture now false "stream cancelled"
  else
    match result.ec with
    | some message => session.finish json capture now false message
    | none =>
        if !isHttpSuccessStatus result.status then
          session.finish json capture now false ("HTTP status " ++ toString result.status)
        else session.pullNextStreamChunk

/-- `parser->Feed(result.chunk)`, skipped for an empty chunk. -/
def feed (session : StreamSession parser) (chunk : String) : parser.State × List SseEvent :=
  if chunk = "" then (session.parserState, []) else parser.feed session.parserState chunk

/-- The event loop of the `Next` handler, on the session. -/
def processChunk (json : JsonLib) (callbacks : DeltaCallbacks)
    (session : StreamSession parser) (chunk : String) :
    StreamSession parser × Option (Bool × String) :=
  let fed := session.feed chunk
  let loop := processEvents json callbacks fed.2 session.agg
  ({ session with agg := loop.agg, parserState := fed.1 }.call loop.calls, loop.stop)

/-- The handler given to `Next`. -/
def onNext (json : JsonLib) (capture : StreamCapture) (now : Int)
    (result : HttpSseClientResult) (session : StreamSession parser) :
    StreamSession parser :=
  if session.agg.done then session
  else if result.cancelled then
    session.finish json capture.toFetchCapture now false "stream cancelled"
  else
    match result.ec, result.eof with
    | some message, false => session.finish json capture.toFetchCapture now false message
    | _, eof =>
        match session.processChunk json capture.callbacks result.chunk with
        | (session, some (success, error)) =>
            session.finish json capture.toFetchCapture now success error
        | (session, none) =>
            if eof then session.finish json capture.toFetchCapture now true ""
            else session.pullNextStreamChunk

/-- `on_done` has run. -/
def Completed (session : StreamSession parser) : Prop := delivered session.calls ≠ []

instance (session : StreamSession parser) : Decidable session.Completed :=
  inferInstanceAs (Decidable (_ ≠ _))

/-- The transport answers an outstanding request, or delivers one more `Next`
result after completion. -/
def answer (lib : Libraries) (session : StreamSession lib.sse)
    (input : Timed StreamAnswer) : Option (StreamSession lib.sse) :=
  match session.captured with
  | none => none
  | some capture =>
      match input.answer with
      | .acquire result =>
          if .acquire ∈ session.pending then
            some ((session.settle .acquire).onAcquire lib.http capture input.now result)
          else none
      | .start result =>
          if .start ∈ session.pending then
            some ((session.settle .start).onStart lib.json capture.toFetchCapture
              input.now result)
          else none
      | .next result =>
          if .next ∈ session.pending then
            some ((session.settle .next).onNext lib.json capture input.now result)
          else if session.Completed ∧ .next ∈ session.issued then
            some (session.onNext lib.json capture input.now result)
          else none

end StreamSession

/-- `FetchStreamCompletion` after its return. -/
def streamMachine (lib : Libraries) :
    StepMachine (StreamSession lib.sse) (Timed StreamAnswer) where
  step := StreamSession.answer lib

end Boai.Completion
