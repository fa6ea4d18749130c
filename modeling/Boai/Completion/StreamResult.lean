import Boai.Completion.StreamPayloads
import Boai.Completion.Delivery
import Boai.Reference

/-!
# The delivered state as a function of the payloads read

A call whose connection succeeds and whose stream is delivered to its end hands
over one state.  Its message and finish reason depend only on the payload objects
among the events that the chunks are parsed into.
-/

namespace Boai.Completion

open Boai.Json StreamSession KeyedFold

/-- The message assembled from a sequence of payloads. -/
def messageOfPayloads (json : JsonLib) (payloads : List Members) : OaiMessage :=
  { blankAssistant with
    message := String.join (payloads.map payloadContent)
    toolCalls := buildToolCallsFromAccumulation json
      (writeAll (mergeElement json) ∅ (payloads.flatMap payloadToolCalls))
    reasoning := String.join (payloads.map payloadReasoning) }

/-- `Streams lib results state`: a call of `FetchStreamCompletion` that was
connected, was answered with a 2xx header and then got the `Next` results
`results` gave `state` to `on_done`. -/
inductive Streams (lib : Libraries) (results : List (Timed HttpSseClientResult))
    (state : OaiCompletionState) : Prop where
  | intro {factory : OaiCompletionFactory} {heap : StateHeap} {args : FetchArgs}
      {onDone : Bool} {callbacks : DeltaCallbacks} {now acquireTime startTime : Int}
      {slot : StreamSlot} {header : HttpSseClientResult} {final : StreamSession lib.sse}
      (opens : startVerdict header = none)
      (ran : (streamMachine lib).run
        (fetchStreamCompletion lib factory heap args onDone callbacks now)
        (⟨acquireTime, .acquire (.ok slot)⟩ :: ⟨startTime, .start header⟩ ::
          nextAnswers results) = some final)
      (delivers : state ∈ delivered final.calls)

/-- `StreamCalls lib callbacks results calls`: a call of `FetchStreamCompletion` with
the given delta callbacks that was connected, was answered with a 2xx header and
then got the `Next` results `results` has made the callback calls `calls`. -/
inductive StreamCalls (lib : Libraries) (callbacks : DeltaCallbacks)
    (results : List (Timed HttpSseClientResult)) (calls : List StreamCallback) : Prop where
  | intro {factory : OaiCompletionFactory} {heap : StateHeap} {args : FetchArgs}
      {onDone : Bool} {now acquireTime startTime : Int} {slot : StreamSlot}
      {header : HttpSseClientResult} {final : StreamSession lib.sse}
      (opens : startVerdict header = none)
      (ran : (streamMachine lib).run
        (fetchStreamCompletion lib factory heap args onDone callbacks now)
        (⟨acquireTime, .acquire (.ok slot)⟩ :: ⟨startTime, .start header⟩ ::
          nextAnswers results) = some final)
      (called : final.calls = calls)

/-- The payloads read from a list of `Next` results. -/
def streamPayloads (lib : Libraries) (results : List (Timed HttpSseClientResult)) :
    List Members :=
  readPayloads lib.json (fedEvents lib.sse lib.sse.init (chunks results))

@[simp] theorem delivered_untimed (calls : List StreamCallback) :
    delivered (calls.map StreamCallback.untimed) =
      (delivered calls).map OaiCompletionState.untimed := by
  simp only [delivered, List.filterMap_map, List.map_filterMap]
  apply List.filterMap_congr
  intro callback _
  cases callback <;> rfl

/-- The state delivered, its timestamp aside, when the loop has read `events` after a
response header with the given status and `verdict` is the end of the stream. -/
def eventsState (json : JsonLib) (capture : StreamCapture) (header : Int)
    (events : List SseEvent) (verdict : Bool × String) : OaiCompletionState :=
  let loop := processEvents json capture.callbacks events { httpStatusCode := header }
  let arguments := loop.stop.getD verdict
  streamState json capture.toFetchCapture 0 arguments.1 (loop.agg.closed arguments.2)

section Outcome

variable {json : JsonLib} {capture : StreamCapture}

/-- The one state of an outcome. -/
theorem delivered_outcome (header : Int) (events : List SseEvent) (verdict : Bool × String) :
    delivered (outcome json capture { httpStatusCode := header } events verdict) =
      [eventsState json capture header events verdict] := by
  simp only [outcome, delivered_append, delivered_untimed, delivered_processEvents,
    List.map_nil, List.nil_append, delivered_onDone, eventsState]

theorem message_eventsState (header : Int) (events : List SseEvent)
    (verdict : Bool × String) :
    (eventsState json capture header events verdict).message =
      messageOfPayloads json (readPayloads json events) := by
  have reads := processEvents_reads json capture.callbacks events { httpStatusCode := header }
  simp only [eventsState, streamState, FetchCapture.deliver, StreamAggregate.closed,
    messageOfPayloads, reads.message, reads.reasoning, reads.toolCalls, String.empty_append]

theorem finishReason_eventsState (header : Int) (events : List SseEvent)
    (verdict : Bool × String) :
    (eventsState json capture header events verdict).log.finishReason =
      lastFinishReason "" (readPayloads json events) := by
  have reads := processEvents_reads json capture.callbacks events { httpStatusCode := header }
  simp only [eventsState, streamState, FetchCapture.deliver, StreamAggregate.closed,
    reads.finishReason]

end Outcome

section Streams

variable {lib : Libraries} {results : List (Timed HttpSseClientResult)}
  {state : OaiCompletionState}

/-- The session that the results of a stream are fed to. -/
theorem StreamCalls.exists_session {callbacks : DeltaCallbacks} {calls : List StreamCallback}
    (stream : StreamCalls lib callbacks results calls) :
    ∃ (capture : StreamCapture) (header : Int) (session final : StreamSession lib.sse),
      capture.callbacks = callbacks ∧ session.captured = some capture ∧ Pulling session ∧
      session.calls = [] ∧ session.agg = { httpStatusCode := header } ∧
      session.parserState = lib.sse.init ∧
      (streamMachine lib).run session (nextAnswers results) = some final ∧
      final.calls = calls := by
  cases stream with
  | @intro factory heap args onDone now acquireTime startTime slot header final opens ran
      called =>
      rcases StepMachine.run_cons_eq_some.mp ran with ⟨next, stepped, _⟩
      simp only [streamMachine] at stepped
      rcases streamStep_of_answer stepped with ⟨capture, captured, _⟩
      rcases run_opening captured opens acquireTime startTime with
        ⟨session, opened, sessionCaptured, pulling, noCalls, agg, parserState, registered⟩
      have whole := StepMachine.run_append (streamMachine lib)
        (fetchStreamCompletion lib factory heap args onDone callbacks now)
        [⟨acquireTime, .acquire (.ok slot)⟩, ⟨startTime, .start header⟩] (nextAnswers results)
      rw [opened, Option.bind_some] at whole
      exact ⟨capture, header.status, session, final, registered, sessionCaptured, pulling,
        noCalls, agg, parserState, whole.symm.trans ran, called⟩

theorem Streams.exists_session (streams : Streams lib results state) :
    ∃ (capture : StreamCapture) (header : Int) (session final : StreamSession lib.sse),
      session.captured = some capture ∧ Pulling session ∧ session.calls = [] ∧
      session.agg = { httpStatusCode := header } ∧ session.parserState = lib.sse.init ∧
      (streamMachine lib).run session (nextAnswers results) = some final ∧
      state ∈ delivered final.calls := by
  cases streams with
  | intro opens ran delivers =>
      rcases (StreamCalls.intro opens ran rfl).exists_session with
        ⟨capture, header, session, final, _, captured, pulling, noCalls, agg, parserState,
          ranRest, called⟩
      exact ⟨capture, header, session, final, captured, pulling, noCalls, agg, parserState,
        ranRest, called ▸ delivers⟩

/-- Results whose outcome is known deliver the state of that outcome. -/
theorem Streams.eq_eventsState_of_run (streams : Streams lib results state)
    {events : List SseEvent} {verdict : Bool × String}
    (runs : ∀ (capture : StreamCapture) (session : StreamSession lib.sse),
      session.captured = some capture → Pulling session → session.parserState = lib.sse.init →
      ∃ final, (streamMachine lib).run session (nextAnswers results) = some final ∧
        final.calls.map StreamCallback.untimed = session.calls.map StreamCallback.untimed ++
          outcome lib.json capture session.agg events verdict) :
    ∃ capture header, state.untimed = eventsState lib.json capture header events verdict := by
  rcases streams.exists_session with
    ⟨capture, header, session, final, captured, pulling, noCalls, agg, parserState, ran, delivers⟩
  rcases runs capture session captured pulling parserState with ⟨other, ranRest, calls⟩
  rw [ran, Option.some.injEq] at ranRest
  subst ranRest
  rw [noCalls, agg, List.map_nil, List.nil_append] at calls
  have listed : state.untimed ∈ (delivered final.calls).map OaiCompletionState.untimed :=
    List.mem_map_of_mem delivers
  rw [← delivered_untimed, calls, delivered_outcome, List.mem_singleton] at listed
  exact ⟨capture, header, listed⟩

/-- The delta callbacks called for any list of results are those of the events that
arrived. -/
theorem StreamCalls.eq_processed {callbacks : DeltaCallbacks} {calls : List StreamCallback}
    (stream : StreamCalls lib callbacks results calls) :
    ∃ agg rest, calls.map StreamCallback.untimed = (processEvents lib.json callbacks
        (arrivals lib.sse lib.sse.init results).1 agg).calls.map StreamCallback.untimed ++ rest ∧
      deltas rest = [] ∧ reasoningDeltas rest = [] := by
  rcases stream.exists_session with
    ⟨capture, header, session, final, registered, captured, pulling, noCalls, agg, parserState,
      ran, called⟩
  rcases run_results captured pulling results with ⟨other, ranOther, finishes, waits⟩
  rw [ran, Option.some.injEq] at ranOther
  subst ranOther
  rw [noCalls, parserState, registered] at finishes waits
  apply Exists.intro session.agg
  cases decided : finishArguments lib.json callbacks session.agg
      (arrivals lib.sse lib.sse.init results) with
  | none =>
      apply Exists.intro []
      rw [← called, (waits decided).2, List.append_nil]
      exact ⟨rfl, rfl, rfl⟩
  | some arguments =>
      have ended := finishes arguments decided
      simp only [outcome, registered, List.map_nil, List.nil_append] at ended
      rw [called] at ended
      exact ⟨_, ended, rfl, rfl⟩

/-- The state delivered for any list of results is that of the events that
arrived. -/
theorem Streams.eq_eventsState_of_arrivals (streams : Streams lib results state) :
    ∃ capture header verdict, state.untimed = eventsState lib.json capture header
      (arrivals lib.sse lib.sse.init results).1 verdict := by
  rcases streams.exists_session with
    ⟨capture, header, session, final, captured, pulling, noCalls, agg, parserState, ran, delivers⟩
  rcases run_results captured pulling results with ⟨other, ranOther, finishes, waits⟩
  rw [ran, Option.some.injEq] at ranOther
  subst ranOther
  cases decided : finishArguments lib.json capture.callbacks session.agg
      (arrivals lib.sse session.parserState results) with
  | none =>
      rw [(waits decided).1.undelivered] at delivers
      cases delivers
  | some arguments =>
      have calls := finishes arguments decided
      rw [noCalls, agg, parserState, List.map_nil, List.nil_append] at calls
      have listed : state.untimed ∈ (delivered final.calls).map OaiCompletionState.untimed :=
        List.mem_map_of_mem delivers
      rw [← delivered_untimed, calls, delivered_outcome, List.mem_singleton] at listed
      exact ⟨capture, header, arguments, listed⟩

/-- The state of a stream that is delivered to its end. -/
theorem Streams.eq_eventsState (streams : Streams lib results state) {ending : Ending}
    {bytes : String} (carries : Carries ending bytes results) :
    ∃ capture header, state.untimed = eventsState lib.json capture header
      (fedEvents lib.sse lib.sse.init (chunks results)) ending.verdict := by
  apply streams.eq_eventsState_of_run
  intro capture session captured pulling parserState
  rw [← parserState]
  exact run_carries carries captured pulling

/-- What a delivered stream hands over. -/
theorem Streams.result (streams : Streams lib results state) {ending : Ending}
    {bytes : String} (carries : Carries ending bytes results) :
    state.message = messageOfPayloads lib.json (streamPayloads lib results) ∧
      state.log.finishReason = lastFinishReason "" (streamPayloads lib results) := by
  rcases streams.eq_eventsState carries with ⟨capture, header, isState⟩
  constructor
  · rw [streamPayloads, ← message_eventsState, ← isState]
    rfl
  · rw [streamPayloads, ← finishReason_eventsState, ← isState]
    rfl

end Streams

/-! ## Concrete streams -/

/-- A stream of some events in one chunk. -/
def inOneChunk (payloads : List String) : List (Timed HttpSseClientResult) :=
  [⟨3, { chunk := String.join (payloads.map Reference.event), eof := true }⟩]

theorem carries_inOneChunk (payloads : List String) :
    Carries .eof (String.join (payloads.map Reference.event)) (inOneChunk payloads) :=
  @Carries.eof ⟨3, { chunk := String.join (payloads.map Reference.event), eof := true }⟩ rfl rfl

/-- The states that a call to the local provider gives to `on_done`. -/
def handedOver (lib : Libraries) (results : List (Timed HttpSseClientResult)) :
    Option (List OaiCompletionState) :=
  ((streamMachine lib).run
    (fetchStreamCompletion lib Reference.factory Reference.heap Reference.args true
      Reference.bothCallbacks 0) (Reference.opened ++ nextAnswers results)).map
    fun session => delivered session.calls

theorem exists_streams {lib : Libraries} {results : List (Timed HttpSseClientResult)}
    {β : Type} (read : OaiCompletionState → β) {value : β}
    (computed : (handedOver lib results).map (List.map read) = some [value]) :
    ∃ state, Streams lib results state ∧ read state = value := by
  rcases Option.map_eq_some_iff.mp computed with ⟨states, handed, isValue⟩
  rcases Option.map_eq_some_iff.mp handed with ⟨final, ran, listed⟩
  rcases List.map_eq_singleton_iff.mp isValue with ⟨state, single, isRead⟩
  have delivers : state ∈ delivered final.calls := by
    rw [listed, single]
    exact List.mem_singleton_self state
  have opens : startVerdict { status := 200 } = none := by decide
  exact ⟨state, .intro opens ran delivers, isRead⟩

end Boai.Completion
