import Boai.Text
import Boai.Completion.Types
import Std.Data.ExtTreeMap

/-!
# Response parsing and stream helpers

The decoders of `oai_completion_response.cc`: the whole-object decoder of a
completion body and the per-event decoder of a stream, which folds fragments
into a `StreamAggregate`.  Out-parameters become results; a pointer that no
caller passes as null is a plain argument.
-/

namespace Boai.Completion

open Boai.Json

/-- `JsonStringFromObjectField`. -/
def jsonStringFromObjectField (object : Members) (key : String) : Option String :=
  match ifContains object key with
  | some (.string text) => some (cStr text)
  | _ => none

/-- `TryParseJsonValue`. -/
def tryParseJsonValue (json : JsonLib) (text : String) : Option JsonValue :=
  json.parse text

/-- `ParseToolCallArgumentsValue`. -/
def parseToolCallArgumentsValue (json : JsonLib) : JsonValue → JsonValue
  | .string text =>
      match tryParseJsonValue json (cStr text) with
      | some parsed => parsed
      | none => .string (cStr text)
  | arguments => arguments

/-- The body of the loop of `ParseToolCallsFromArray` for one object. -/
def parseToolCall (json : JsonLib) (callObject : Members) : OaiToolCall :=
  let id := (jsonStringFromObjectField callObject "id").getD ""
  match ifContains callObject "function" with
  | some (.object functionObject) =>
      { id
        name := (jsonStringFromObjectField functionObject "name").getD ""
        arguments :=
          match ifContains functionObject "arguments" with
          | some arguments => parseToolCallArgumentsValue json arguments
          | none => .null }
  | _ => { id }

/-- `ParseToolCallsFromArray`. -/
def parseToolCallsFromArray (json : JsonLib) (array : List JsonValue) :
    List OaiToolCall :=
  array.filterMap fun
    | .object callObject =>
        let call := parseToolCall json callObject
        if call.isBlank then none else some call
    | _ => none

/-- `ParseCompletionLogFromRootObject`. -/
def parseCompletionLogFromRootObject (root : Members) (log : OaiRequestLog) :
    OaiRequestLog :=
  { log with
    requestId := (jsonStringFromObjectField root "id").getD log.requestId
    model := (jsonStringFromObjectField root "model").getD log.model }

/-- `ParseCompletionLogFromChoiceObject`. -/
def parseCompletionLogFromChoiceObject (choice : Members) (log : OaiRequestLog) :
    OaiRequestLog :=
  { log with
    finishReason :=
      (jsonStringFromObjectField choice "finish_reason").getD log.finishReason }

/-- `ExtractResponseFirstChoiceObject`. -/
def extractResponseFirstChoiceObject (root : Members) : Except String Members :=
  match ifContains root "choices" with
  | some (.array (.object choice :: _)) => .ok choice
  | some (.array (_ :: _)) => .error "response choice[0] is not object"
  | _ => .error "response choices is missing or empty"

/-- `ExtractResponseChoiceMessageObject`. -/
def extractResponseChoiceMessageObject (choice : Members) : Except String Members :=
  match ifContains choice "message" with
  | some (.object message) => .ok message
  | _ => .error "response choice[0].message is missing"

/-- `ParseMessageTextFieldOrSerialize`. -/
def parseMessageTextFieldOrSerialize (json : JsonLib) (message : Members)
    (key : String) (text : String) : String :=
  match ifContains message key with
  | none => text
  | some (.string found) => cStr found
  | some .null => text
  | some value => json.serialize value

/-- `ParseAssistantMessageFromObject`. -/
def parseAssistantMessageFromObject (json : JsonLib) (message : Members) : OaiMessage :=
  { role := (jsonStringFromObjectField message "role").getD "assistant"
    message := parseMessageTextFieldOrSerialize json message "content" ""
    reasoning := parseMessageTextFieldOrSerialize json message "reasoning_content" ""
    toolCalls :=
      match ifContains message "tool_calls" with
      | some (.array array) => parseToolCallsFromArray json array
      | _ => [] }

/-- Results of `ParseCompletionResponseBody`: the returned flag and the three
out-parameters. -/
structure BodyResult where
  accepted : Bool
  message : OaiMessage
  log : OaiRequestLog
  error : String
  deriving DecidableEq

/-- `ParseCompletionResponseBody`. -/
def parseCompletionResponseBody (json : JsonLib) (body : String)
    (message : OaiMessage) (log : OaiRequestLog) (error : String) : BodyResult :=
  match json.parse body with
  | none => { accepted := false, message, log, error := "invalid JSON response body" }
  | some (.object root) =>
      let log := parseCompletionLogFromRootObject root log
      match extractResponseFirstChoiceObject root with
      | .error error => { accepted := false, message, log, error }
      | .ok choice =>
          let log := parseCompletionLogFromChoiceObject choice log
          match extractResponseChoiceMessageObject choice with
          | .error error => { accepted := false, message, log, error }
          | .ok messageObject =>
              { accepted := true
                message := parseAssistantMessageFromObject json messageObject
                log, error }
  | some _ =>
      { accepted := false, message, log, error := "response root is not JSON object" }

/-- `ExtractErrorMessageFromJsonBody`. -/
def extractErrorMessageFromJsonBody (json : JsonLib) (body : String) : String :=
  match json.parse body with
  | some (.object root) =>
      match ifContains root "error" with
      | some (.string text) => cStr text
      | some (.object error) => (jsonStringFromObjectField error "message").getD ""
      | _ => ""
  | _ => ""

/-! ## Stream events -/

structure ToolCallAccumulator where
  id : String := ""
  name : String := ""
  argumentsText : String := ""
  deriving DecidableEq, Repr

/-- `std::map<std::size_t, ToolCallAccumulator>`. -/
abbrev ToolCallMap := Std.ExtTreeMap Nat ToolCallAccumulator

structure StreamAggregate where
  done : Bool := false
  httpStatusCode : Int := 0
  deltaCount : Nat := 0
  accumulatedMessage : String := ""
  accumulatedReasoning : String := ""
  toolCalls : ToolCallMap := ∅
  requestId : String := ""
  finishReason : String := ""
  model : String := ""
  errorMessage : String := ""
  deriving DecidableEq

/-- `TryGetStreamFirstChoiceObject`. -/
def tryGetStreamFirstChoiceObject (root : Members) : Option Members :=
  match ifContains root "choices" with
  | some (.array (.object choice :: _)) => some choice
  | _ => none

/-- `TryGetStreamDeltaObject`. -/
def tryGetStreamDeltaObject (choice : Members) : Option Members :=
  match ifContains choice "delta" with
  | some (.object delta) => some delta
  | _ => none

/-- The slot an element of a delta `tool_calls` array is written to: its
`index` when that is a non-negative `int64`, else its position in the array. -/
def resolvedIndex (callObject : Members) (fallbackIndex : Nat) : Nat :=
  match ifContains callObject "index" with
  | some (.int64 index) => if 0 ≤ index then index.toNat else fallbackIndex
  | _ => fallbackIndex

/-- The text appended for an `arguments` value. -/
def argumentsFragment (json : JsonLib) : JsonValue → String
  | .string text => cStr text
  | value => json.serialize value

/-- What one element of a delta `tool_calls` array does to its accumulator. -/
def updateAccumulator (json : JsonLib) (acc : ToolCallAccumulator)
    (callObject : Members) : ToolCallAccumulator :=
  let acc := { acc with id := (jsonStringFromObjectField callObject "id").getD acc.id }
  match ifContains callObject "function" with
  | some (.object functionObject) =>
      { acc with
        name := (jsonStringFromObjectField functionObject "name").getD acc.name
        argumentsText :=
          match ifContains functionObject "arguments" with
          | some arguments => acc.argumentsText ++ argumentsFragment json arguments
          | none => acc.argumentsText }
  | _ => acc

/-- The loop of `AccumulateStreamToolCallsFromArray` from a position on. -/
def accumulateFrom (json : JsonLib) :
    (array : List JsonValue) → (fallbackIndex : Nat) → ToolCallMap → ToolCallMap
  | [], _, toolCalls => toolCalls
  | .object callObject :: rest, fallbackIndex, toolCalls =>
      accumulateFrom json rest (fallbackIndex + 1)
        (toolCalls.alter (resolvedIndex callObject fallbackIndex) fun acc =>
          some (updateAccumulator json (acc.getD {}) callObject))
  | _ :: rest, fallbackIndex, toolCalls =>
      accumulateFrom json rest (fallbackIndex + 1) toolCalls

/-- `AccumulateStreamToolCallsFromArray`. -/
def accumulateStreamToolCallsFromArray (json : JsonLib) (array : List JsonValue)
    (toolCalls : ToolCallMap) : ToolCallMap :=
  accumulateFrom json array 0 toolCalls

/-- `MaybeAccumulateStreamToolCalls`. -/
def maybeAccumulateStreamToolCalls (json : JsonLib) (delta : Members)
    (toolCalls : ToolCallMap) : ToolCallMap :=
  match ifContains delta "tool_calls" with
  | some (.array array) => accumulateStreamToolCallsFromArray json array toolCalls
  | _ => toolCalls

/-- Results of `ApplyStreamDeltaPayload` on an accepted payload. -/
structure DeltaResult where
  agg : StreamAggregate
  delta : String := ""
  reasoningDelta : String := ""

/-- `ApplyStreamDeltaPayload`, including `ParseStreamDeltaTextFields`. -/
def applyStreamDeltaPayload (json : JsonLib) (payload : String)
    (agg : StreamAggregate) : Except String DeltaResult :=
  match json.parse payload with
  | some (.object root) =>
      let agg := { agg with
        requestId :=
          if agg.requestId = "" then (jsonStringFromObjectField root "id").getD ""
          else agg.requestId
        model := (jsonStringFromObjectField root "model").getD agg.model }
      match tryGetStreamFirstChoiceObject root with
      | none => .ok { agg }
      | some choice =>
          let agg := { agg with
            finishReason :=
              (jsonStringFromObjectField choice "finish_reason").getD agg.finishReason }
          match tryGetStreamDeltaObject choice with
          | none => .ok { agg }
          | some delta =>
              .ok {
                agg := { agg with
                  toolCalls := maybeAccumulateStreamToolCalls json delta agg.toolCalls }
                delta := (jsonStringFromObjectField delta "content").getD ""
                reasoningDelta :=
                  (jsonStringFromObjectField delta "reasoning_content").getD "" }
  | _ => .error "invalid stream delta JSON payload"

inductive StreamEventAction where
  | kContinue
  | kDone
  | kFail
  deriving DecidableEq, Repr

/-- A call of one of the callbacks given to `FetchStreamCompletion`. -/
inductive StreamCallback where
  | onDelta (text : String)
  | onReasoningDelta (text : String)
  | onDone (state : OaiCompletionState)
  deriving DecidableEq

/-- Which delta callbacks are registered. -/
structure DeltaCallbacks where
  onDelta : Bool
  onReasoningDelta : Bool
  deriving DecidableEq, Repr

/-- Results of `ProcessStreamEventData`: the action, the updated aggregate, the
callbacks it made and the error text. -/
structure EventResult where
  action : StreamEventAction
  agg : StreamAggregate
  calls : List StreamCallback := []
  error : String := ""

/-- The guarded call of a delta callback: an empty text is not reported, nor is
any text when the callback is not registered. -/
def reportDelta (registered : Bool) (callback : String → StreamCallback)
    (text : String) : List StreamCallback :=
  if text ≠ "" ∧ registered = true then [callback text] else []

/-- `ProcessStreamEventData`. -/
def processStreamEventData (json : JsonLib) (callbacks : DeltaCallbacks)
    (data : String) (agg : StreamAggregate) : EventResult :=
  if data = "" then { action := .kContinue, agg }
  else if data = "[DONE]" then { action := .kDone, agg }
  else
    let agg := { agg with deltaCount := agg.deltaCount + 1 }
    match applyStreamDeltaPayload json data agg with
    | .error error => { action := .kFail, agg, error }
    | .ok { agg, delta, reasoningDelta } =>
        { action := .kContinue
          -- Appending an empty text changes nothing, so only the calls are guarded.
          agg := { agg with
            accumulatedReasoning := agg.accumulatedReasoning ++ reasoningDelta
            accumulatedMessage := agg.accumulatedMessage ++ delta }
          calls :=
            reportDelta callbacks.onReasoningDelta .onReasoningDelta reasoningDelta ++
              reportDelta callbacks.onDelta .onDelta delta }

/-- The loop body of `BuildToolCallsFromAccumulation`. -/
def toolCallOfAccumulator (json : JsonLib) (acc : ToolCallAccumulator) : OaiToolCall :=
  { id := acc.id
    name := acc.name
    arguments :=
      if acc.argumentsText = "" then .null
      else
        match tryParseJsonValue json acc.argumentsText with
        | some parsed => parsed
        | none => .string acc.argumentsText }

/-- `BuildToolCallsFromAccumulation`. -/
def buildToolCallsFromAccumulation (json : JsonLib) (toolCalls : ToolCallMap) :
    List OaiToolCall :=
  toolCalls.toList.filterMap fun entry =>
    let call := toolCallOfAccumulator json entry.2
    if call.isBlank then none else some call

end Boai.Completion
