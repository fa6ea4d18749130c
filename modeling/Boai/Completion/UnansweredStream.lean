import Boai.Completion.CompletionResult
import Boai.Completion.InvalidPayload
import Boai.Completion.Outcome
import Boai.Completion.StreamResult

/-!
# A stream that holds no answer

The decoder of a body insists on a first choice.  The decoder of a stream
tolerates a payload without one and remembers nothing about it, so a stream of
such payloads only, or of none, is delivered as a successful empty message.
-/

namespace Boai.Completion

open Boai.Json StreamSession KeyedFold

/-- The stream brings `events` and then ends with `[DONE]` or a clean end of
file, without an invalid payload among them. -/
inductive EndsClean (lib : Libraries) (results : List (Timed HttpSseClientResult))
    (events : List SseEvent) : Prop where
  | marker {marker : SseEvent} (running : ∀ event ∈ events, ¬Stops lib.json event.data)
      (isDone : marker.data = "[DONE]")
      (brings : Brings lib.sse lib.sse.init results (events ++ [marker]))
  | eof {bytes : String} (running : ∀ event ∈ events, ¬Stops lib.json event.data)
      (carries : Carries .eof bytes results)
      (fed : fedEvents lib.sse lib.sse.init (chunks results) = events)

/-- No payload among the events has an object as its first choice. -/
def Unanswered (json : JsonLib) (events : List SseEvent) : Prop :=
  ∀ root ∈ readPayloads json events, tryGetStreamFirstChoiceObject root = none

/-- Payloads without a first choice leave the blank message. -/
theorem messageOfPayloads_of_unanswered (json : JsonLib) {payloads : List Members}
    (unanswered : ∀ root ∈ payloads, tryGetStreamFirstChoiceObject root = none) :
    messageOfPayloads json payloads = blankAssistant := by
  have noDelta : ∀ root ∈ payloads, payloadDelta root = none := by
    intro root member
    rw [payloadDelta, unanswered root member]
    rfl
  have content : String.join (payloads.map payloadContent) = "" := by
    apply join_map_eq_empty
    intro root member
    rw [payloadContent, deltaText, noDelta root member]
  have reasoning : String.join (payloads.map payloadReasoning) = "" := by
    apply join_map_eq_empty
    intro root member
    rw [payloadReasoning, deltaText, noDelta root member]
  have calls : payloads.flatMap payloadToolCalls = [] := by
    rw [List.flatMap_eq_nil_iff]
    intro root member
    rw [payloadToolCalls, noDelta root member]
  rw [messageOfPayloads, content, reasoning, calls]
  rfl

/-- A body is accepted only if it has an object as its first choice. -/
theorem tryGetStreamFirstChoiceObject_of_ok {root choice : Members}
    (first : extractResponseFirstChoiceObject root = .ok choice) :
    tryGetStreamFirstChoiceObject root = some choice := by
  simp only [extractResponseFirstChoiceObject, tryGetStreamFirstChoiceObject] at *
  split at first
  next found =>
      rw [found]
      cases first
      rfl
  next => cases first
  next => cases first

theorem EndsClean.running {lib : Libraries} {results : List (Timed HttpSseClientResult)}
    {events : List SseEvent} (ends : EndsClean lib results events) :
    ∀ event ∈ events, ¬Stops lib.json event.data := by
  cases ends with
  | marker running => exact running
  | eof running => exact running

/-- The state of a stream that ends well. -/
theorem EndsClean.eq_eventsState {lib : Libraries}
    {results : List (Timed HttpSseClientResult)} {events : List SseEvent}
    {state : OaiCompletionState} (ends : EndsClean lib results events)
    (streams : Streams lib results state) :
    ∃ capture header, state.untimed = eventsState lib.json capture header events (true, "") := by
  cases ends with
  | @marker marker running isDone brings =>
      have stops : ∀ (capture : StreamCapture) (agg : StreamAggregate),
          (processEvents lib.json capture.callbacks (events ++ [marker]) agg).stop =
            some (true, "") := by
        intro capture agg
        rw [processEvents_append]
        simp only [LoopResult.andThen, processEvents_running capture.callbacks running,
          processEvents_marker isDone]
      apply streams.eq_eventsState_of_run
      intro capture session captured pulling parserState
      rw [← parserState] at brings
      rcases run_brings brings captured pulling (stops capture session.agg) with
        ⟨final, ran, calls⟩
      apply Exists.intro final
      apply And.intro ran
      rw [calls, outcome_append_of_running (processEvents_running capture.callbacks running _)]
      simp only [outcome, processEvents_marker isDone, List.map_nil, List.nil_append,
        Option.getD_some, processEvents_running capture.callbacks running, Option.getD_none]
  | eof running carries fed =>
      rw [← fed]
      exact streams.eq_eventsState carries

/-- A 2xx body without a first choice is delivered as a failure. -/
theorem Completes.fails_of_no_choice {lib : Libraries} {result : HttpClientResult}
    {state : OaiCompletionState} (completes : Completes lib result state)
    (answered : Answered2xx result)
    (noChoice : ∀ root, lib.json.parse result.response.body = some (.object root) →
      tryGetStreamFirstChoiceObject root = none) : state.log.status = .kFail := by
  rcases completes.eq_deliver answered with ⟨capture, now, isState⟩
  have exit := parseCompletionResponseBody_exit lib.json result.response.body blankAssistant
    (responseLog capture now result.response) ""
  rw [isState, decodedResponse]
  generalize parseCompletionResponseBody lib.json result.response.body _ _ _ = parsed at exit ⊢
  cases exit with
  | rejected nonempty frame =>
      simp only [FetchCapture.deliver, BodyResult.settledLog, Bool.false_eq_true, if_false]
      rw [frame]
      rfl
  | accepted parsed first found =>
      have choice := tryGetStreamFirstChoiceObject_of_ok first
      rw [noChoice _ parsed] at choice
      cases choice

/-- A stream without an answer is a success: every stream that ends well and has
no first choice in its payloads is delivered as a successful blank message, where
a body without a first choice is a failure. -/
theorem unansweredStream_succeeds (lib : Libraries)
    (results : List (Timed HttpSseClientResult)) (events : List SseEvent)
    (state : OaiCompletionState) (streams : Streams lib results state)
    (ends : EndsClean lib results events) (unanswered : Unanswered lib.json events) :
    state.log.status = .kSuccess ∧ state.message = blankAssistant ∧
      ∀ result fetched, Completes lib result fetched → Answered2xx result →
        (∀ root, lib.json.parse result.response.body = some (.object root) →
          tryGetStreamFirstChoiceObject root = none) →
        fetched.log.status = .kFail := by
  rcases ends.eq_eventsState streams with ⟨capture, header, isState⟩
  constructor
  · change state.untimed.log.status = _
    rw [isState, eventsState, processEvents_running capture.callbacks ends.running]
    rfl
  constructor
  · change state.untimed.message = _
    rw [isState, message_eventsState, messageOfPayloads_of_unanswered lib.json unanswered]
  · intro result fetched completes answered noChoice
    exact completes.fails_of_no_choice answered noChoice

/-! ## An error reported as an event -/

/-- A provider that reports an error as an event of a 2xx stream, or as a body. -/
def errorEvent : Libraries :=
  Reference.libraries
    [("1", .object [("error", .object [("message", .string "overloaded")])])]

theorem endsClean_errorEvent : EndsClean errorEvent (inOneChunk ["1", "[DONE]"]) [⟨"1"⟩] := by
  have running : ∀ event ∈ [SseEvent.mk "1"], ¬Stops errorEvent.json event.data := by
    intro event member
    rw [List.mem_singleton] at member
    subst member
    exact not_stops_of_object (by decide) rfl
  have marked : Brings errorEvent.sse errorEvent.sse.init (inOneChunk ["1", "[DONE]"])
      ([⟨"1"⟩] ++ [⟨"[DONE]"⟩]) := .last rfl rfl []
  exact .marker running rfl marked

theorem unanswered_errorEvent : Unanswered errorEvent.json [⟨"1"⟩] := by
  intro root member
  cases member with
  | head => rfl
  | tail _ absent => cases absent

theorem unansweredStream_succeeds_errorEvent :
    ∃ state, Streams errorEvent (inOneChunk ["1", "[DONE]"]) state ∧
      state.log.status = .kSuccess ∧ state.message = blankAssistant := by
  rcases exists_streams (fun state => state.log.deltaCount)
    (by decide : (handedOver errorEvent (inOneChunk ["1", "[DONE]"])).map
      (List.map fun state => state.log.deltaCount) = some [1]) with ⟨state, streams, _⟩
  have succeeds := unansweredStream_succeeds errorEvent _ _ state streams endsClean_errorEvent
    unanswered_errorEvent
  exact ⟨state, streams, succeeds.1, succeeds.2.1⟩

/-- The error is a success when it comes as an event, and a failure when it comes
as a body. -/
theorem errorEvent_succeeds :
    EndsClean errorEvent (inOneChunk ["1", "[DONE]"]) [⟨"1"⟩] ∧
      Unanswered errorEvent.json [⟨"1"⟩] ∧
      (∃ state, Streams errorEvent (inOneChunk ["1", "[DONE]"]) state ∧
        state.log.status = .kSuccess) ∧
      ∃ fetched, Completes errorEvent (withBody "1") fetched ∧ fetched.log.status = .kFail := by
  constructor
  · exact endsClean_errorEvent
  constructor
  · exact unanswered_errorEvent
  constructor
  · apply exists_streams (fun state => state.log.status)
    decide
  · apply exists_completes (fun state => state.log.status)
    decide

end Boai.Completion
