import Boai.Lib.KeyedFold
import Boai.Completion.StreamEvents

/-!
# The aggregate as a function of the payloads read

The event loop reads the payload objects up to the event that stops it.  Text
fields concatenate, the finish reason is the last one given, and the tool calls
are a keyed fold over the elements of the `tool_calls` arrays, each tagged with
the index it resolves to.
-/

namespace Boai.Completion

open Boai.Json KeyedFold

/-! ## What a payload says -/

/-- The delta object of the first choice. -/
def payloadDelta (root : Members) : Option Members :=
  (tryGetStreamFirstChoiceObject root).bind tryGetStreamDeltaObject

/-- A string member of the delta, empty when it is missing. -/
def deltaText (root : Members) (key : String) : String :=
  match payloadDelta root with
  | some delta => (jsonStringFromObjectField delta key).getD ""
  | none => ""

def payloadContent (root : Members) : String := deltaText root "content"

def payloadReasoning (root : Members) : String := deltaText root "reasoning_content"

def payloadFinishReason (root : Members) : Option String :=
  (tryGetStreamFirstChoiceObject root).bind fun choice =>
    jsonStringFromObjectField choice "finish_reason"

/-- The objects of an array with the index each resolves to, from a position
on. -/
def resolvedElements : List JsonValue → Nat → List (Nat × Members)
  | [], _ => []
  | .object callObject :: rest, fallbackIndex =>
      (resolvedIndex callObject fallbackIndex, callObject) ::
        resolvedElements rest (fallbackIndex + 1)
  | _ :: rest, fallbackIndex => resolvedElements rest (fallbackIndex + 1)

/-- The elements of the `tool_calls` array of the delta. -/
def payloadToolCalls (root : Members) : List (Nat × Members) :=
  match payloadDelta root with
  | some delta =>
      match ifContains delta "tool_calls" with
      | some (.array array) => resolvedElements array 0
      | _ => []
  | none => []

/-- Merge one element into its accumulator, which is created on first use. -/
def mergeElement (json : JsonLib) (acc : Option ToolCallAccumulator)
    (callObject : Members) : ToolCallAccumulator :=
  updateAccumulator json (acc.getD {}) callObject

/-- `AccumulateStreamToolCallsFromArray` is a keyed fold. -/
theorem accumulateFrom_eq (json : JsonLib) (array : List JsonValue) (fallbackIndex : Nat)
    (toolCalls : ToolCallMap) :
    accumulateFrom json array fallbackIndex toolCalls =
      writeAll (mergeElement json) toolCalls (resolvedElements array fallbackIndex) := by
  induction array generalizing fallbackIndex toolCalls with
  | nil => rfl
  | cons item rest ih =>
      cases item with
      | object callObject =>
          simp only [accumulateFrom, resolvedElements, ih]
          rfl
      | _ => exact ih _ _

/-- What an accepted payload does to the aggregate. -/
theorem applyStreamDeltaPayload_of_root {json : JsonLib} {payload : String} {root : Members}
    {agg : StreamAggregate} {result : DeltaResult}
    (parsed : json.parse payload = some (.object root))
    (applied : applyStreamDeltaPayload json payload agg = .ok result) :
    result.delta = payloadContent root ∧ result.reasoningDelta = payloadReasoning root ∧
      result.agg.finishReason = (payloadFinishReason root).getD agg.finishReason ∧
      result.agg.toolCalls =
        writeAll (mergeElement json) agg.toolCalls (payloadToolCalls root) := by
  simp only [applyStreamDeltaPayload, parsed] at applied
  simp only [payloadContent, payloadReasoning, deltaText, payloadFinishReason,
    payloadToolCalls, payloadDelta]
  cases first : tryGetStreamFirstChoiceObject root with
  | none =>
      rw [first] at applied
      cases applied
      exact ⟨rfl, rfl, rfl, rfl⟩
  | some choice =>
      rw [first] at applied
      simp only [Option.bind_some]
      cases found : tryGetStreamDeltaObject choice with
      | none =>
          simp only [found] at applied
          cases applied
          exact ⟨rfl, rfl, rfl, rfl⟩
      | some delta =>
          simp only [found] at applied
          cases applied
          refine ⟨rfl, rfl, rfl, ?_⟩
          simp only [maybeAccumulateStreamToolCalls, accumulateStreamToolCallsFromArray]
          cases ifContains delta "tool_calls" with
          | none => rfl
          | some value =>
              cases value with
              | array array => exact accumulateFrom_eq json array 0 agg.toolCalls
              | _ => rfl

/-! ## What the loop reads -/

/-- The payload objects among the data of events, up to the event at which
processing stops. -/
def readPayloads (json : JsonLib) : List SseEvent → List Members
  | [] => []
  | event :: rest =>
      if event.data = "" then readPayloads json rest
      else if event.data = "[DONE]" then []
      else
        match json.parse event.data with
        | some (.object root) => root :: readPayloads json rest
        | _ => []

/-- The finish reason after a sequence of payloads. -/
def lastFinishReason (reason : String) (payloads : List Members) : String :=
  payloads.foldl (fun reason root => (payloadFinishReason root).getD reason) reason

theorem lastFinishReason_cons (reason : String) (root : Members) (rest : List Members) :
    lastFinishReason reason (root :: rest) =
      lastFinishReason ((payloadFinishReason root).getD reason) rest := rfl

/-- The fields of the aggregate that a sequence of payloads decides. -/
structure Reads (json : JsonLib) (agg : StreamAggregate) (payloads : List Members)
    (next : StreamAggregate) : Prop where
  message : next.accumulatedMessage =
    agg.accumulatedMessage ++ String.join (payloads.map payloadContent)
  reasoning : next.accumulatedReasoning =
    agg.accumulatedReasoning ++ String.join (payloads.map payloadReasoning)
  finishReason : next.finishReason = lastFinishReason agg.finishReason payloads
  toolCalls : next.toolCalls =
    writeAll (mergeElement json) agg.toolCalls (payloads.flatMap payloadToolCalls)

theorem reads_nil (json : JsonLib) {agg next : StreamAggregate}
    (message : next.accumulatedMessage = agg.accumulatedMessage)
    (reasoning : next.accumulatedReasoning = agg.accumulatedReasoning)
    (finishReason : next.finishReason = agg.finishReason)
    (toolCalls : next.toolCalls = agg.toolCalls) : Reads json agg [] next :=
  ⟨by simpa using message, by simpa using reasoning, finishReason, toolCalls⟩

theorem Reads.cons {json : JsonLib} {agg middle next : StreamAggregate} {root : Members}
    {payloads : List Members}
    (message : middle.accumulatedMessage = agg.accumulatedMessage ++ payloadContent root)
    (reasoning : middle.accumulatedReasoning =
      agg.accumulatedReasoning ++ payloadReasoning root)
    (finishReason : middle.finishReason = (payloadFinishReason root).getD agg.finishReason)
    (toolCalls : middle.toolCalls =
      writeAll (mergeElement json) agg.toolCalls (payloadToolCalls root))
    (later : Reads json middle payloads next) : Reads json agg (root :: payloads) next := by
  constructor
  · rw [later.message, message, List.map_cons, String.join_cons, String.append_assoc]
  · rw [later.reasoning, reasoning, List.map_cons, String.join_cons, String.append_assoc]
  · rw [later.finishReason, finishReason, lastFinishReason_cons]
  · rw [later.toolCalls, toolCalls, List.flatMap_cons, writeAll_append]

/-- The loop reads exactly `readPayloads`. -/
theorem processEvents_reads (json : JsonLib) (callbacks : DeltaCallbacks)
    (events : List SseEvent) (agg : StreamAggregate) :
    Reads json agg (readPayloads json events)
      (processEvents json callbacks events agg).agg := by
  induction events generalizing agg with
  | nil => exact reads_nil json rfl rfl rfl rfl
  | cons event rest ih =>
      have step := processStreamEventData_step json callbacks event.data agg
      simp only [processEvents, readPayloads]
      generalize processStreamEventData json callbacks event.data agg = result at step
      cases step with
      | empty isEmpty =>
          simp only [isEmpty, if_true]
          exact ih agg
      | done isDone =>
          simp only [isDone, if_true]
          exact reads_nil json rfl rfl rfl rfl
      | invalid payload invalid =>
          simp only [payload.nonempty, payload.not_done, if_false]
          exact reads_nil json rfl rfl rfl rfl
      | @delta payload root parsed result applied =>
          simp only [payload.nonempty, payload.not_done, if_false, parsed]
          have frame := applyStreamDeltaPayload_frame applied
          have fields := applyStreamDeltaPayload_of_root parsed applied
          have message : result.appended.accumulatedMessage =
              agg.accumulatedMessage ++ payloadContent root := by
            rw [← fields.1, DeltaResult.appended, frame]
            rfl
          have reasoning : result.appended.accumulatedReasoning =
              agg.accumulatedReasoning ++ payloadReasoning root := by
            rw [← fields.2.1, DeltaResult.appended, frame]
            rfl
          exact Reads.cons message reasoning fields.2.2.1 fields.2.2.2 (ih result.appended)

end Boai.Completion
