import Boai.Completion.Delivery
import Boai.Reference

/-!
# An invalid payload decides the outcome and nothing else

The event loop stops at a payload that is not a JSON object as it stops at
`[DONE]`.  The state delivered there differs from the one that `[DONE]` would
have delivered in the status, the error text and the count of payloads; all that
was collected before is handed over.  Every other event lets the call go on
pulling, whatever its payload looks like inside.
-/

namespace Boai.Completion

open Boai.Json StreamSession

/-- `Brings parser state results events`: the results feed the parser, which is
in `state`, with chunks that contain `events`.  More events may follow in the
last chunk needed, and any results after it. -/
inductive Brings (parser : SseParser) :
    parser.State → List (Timed HttpSseClientResult) → List SseEvent → Prop where
  | last {state : parser.State} {last : Timed HttpSseClientResult}
      {events later : List SseEvent} (goesOn : abortVerdict last.answer = none)
      (fed : (feedChunk parser state last.answer.chunk).2 = events ++ later)
      (rest : List (Timed HttpSseClientResult)) :
      Brings parser state (last :: rest) events
  | piece {state : parser.State} {result : Timed HttpSseClientResult}
      {rest : List (Timed HttpSseClientResult)} {events : List SseEvent}
      (goesOn : abortVerdict result.answer = none) (notLast : result.answer.eof = false)
      (later : Brings parser (feedChunk parser state result.answer.chunk).1 rest events) :
      Brings parser state (result :: rest)
        ((feedChunk parser state result.answer.chunk).2 ++ events)

/-- The state of a stream that failed with a message at the payload after the
last one counted. -/
def OaiCompletionState.failedWith (error : String) (state : OaiCompletionState) :
    OaiCompletionState :=
  { state with
    log := { state.log with
      status := .kFail
      errorMessage := error
      deltaCount := state.log.deltaCount + 1 } }

section Loop

variable {json : JsonLib} {callbacks : DeltaCallbacks}

theorem processEvents_running (callbacks : DeltaCallbacks) {events : List SseEvent}
    (running : ∀ event ∈ events, ¬Stops json event.data) (agg : StreamAggregate) :
    (processEvents json callbacks events agg).stop = none := by
  rw [← Option.not_isSome_iff_eq_none, processEvents_stop_isSome_iff]
  intro stops
  rcases stops with ⟨event, member, stop⟩
  exact running event member stop

theorem processEvents_marker {marker : SseEvent} (isDone : marker.data = "[DONE]")
    (agg : StreamAggregate) :
    processEvents json callbacks [marker] agg = { agg, stop := some (true, "") } := by
  simp only [processEvents, processStreamEventData, isDone, if_true]
  rfl

theorem processEvents_broken {broken : SseEvent} (payload : IsPayload broken.data)
    (invalid : ∀ root, json.parse broken.data ≠ some (.object root)) (agg : StreamAggregate) :
    processEvents json callbacks [broken] agg =
      { agg := agg.counted, stop := some (false, invalidPayload) } := by
  have failed := applyStreamDeltaPayload_of_invalid agg.counted invalid
  simp only [StreamAggregate.counted] at failed
  simp only [processEvents, processStreamEventData, payload.nonempty, payload.not_done, if_false,
    failed, StreamAggregate.counted]

theorem not_stops_of_object {data : String} {root : Members} (notDone : data ≠ "[DONE]")
    (parsed : json.parse data = some (.object root)) : ¬Stops json data := by
  intro stops
  cases stops with
  | inl isDone => exact notDone isDone
  | inr invalid => exact invalid.2 root parsed

/-- Data that is empty or parses to an object stops nothing. -/
theorem not_stops_of_tolerated {data : String}
    (markerInvalid : ∀ root, json.parse "[DONE]" ≠ some (.object root))
    (tolerated : data = "" ∨ ∃ root, json.parse data = some (.object root)) :
    ¬Stops json data := by
  cases tolerated with
  | inl isEmpty =>
      subst isEmpty
      intro stops
      cases stops with
      | inl isDone => exact absurd isDone (by decide)
      | inr invalid => exact invalid.1 rfl
  | inr object =>
      cases object with
      | intro root parsed =>
          apply not_stops_of_object (fun isDone => ?_) parsed
          exact markerInvalid root (isDone ▸ parsed)

end Loop

section Runs

variable {lib : Libraries} {capture : StreamCapture} {session : StreamSession lib.sse}

theorem arrivals_of_brings {parser : SseParser} {state : parser.State}
    {results : List (Timed HttpSseClientResult)} {events : List SseEvent}
    (brings : Brings parser state results events) :
    ∃ later, (arrivals parser state results).1 = events ++ later := by
  induction brings with
  | @last state last events later goesOn fed rest =>
      have handed : (handedEvents parser state last.answer).1 = events ++ later := by
        simp only [handedEvents, goesOn, fed]
      simp only [arrivals]
      split
      · exact ⟨later, handed⟩
      · rw [handed, List.append_assoc]
        exact ⟨_, rfl⟩
  | @piece state result rest events goesOn notLast later ih =>
      have isOpen : (handedEvents parser state result.answer).2 = none := by
        simp [handedEvents, goesOn, eofVerdict, notLast]
      have handed : (handedEvents parser state result.answer).1 =
          (feedChunk parser state result.answer.chunk).2 := by
        simp only [handedEvents, goesOn]
      rcases ih with ⟨others, isLater⟩
      apply Exists.intro others
      rw [arrivals_cons_of_open isOpen, handed, isLater, List.append_assoc]

/-- Results that bring events at which the loop stops deliver their outcome,
whatever follows. -/
theorem run_brings {results : List (Timed HttpSseClientResult)} {events : List SseEvent}
    (brings : Brings lib.sse session.parserState results events)
    (captured : session.captured = some capture) (pulling : Pulling session)
    {arguments : Bool × String}
    (stopped : (processEvents lib.json capture.callbacks events session.agg).stop =
      some arguments) :
    ∃ final, (streamMachine lib).run session (nextAnswers results) = some final ∧
      final.calls.map StreamCallback.untimed = session.calls.map StreamCallback.untimed ++
        outcome lib.json capture session.agg events arguments := by
  rcases arrivals_of_brings brings with ⟨later, arrived⟩
  rcases run_results captured pulling results with ⟨final, ran, finishes, _⟩
  have decided : finishArguments lib.json capture.callbacks session.agg
      (arrivals lib.sse session.parserState results) = some arguments := by
    rw [finishArguments, arrived, processEvents_append]
    simp only [LoopResult.andThen, stopped, Option.some_or]
  apply Exists.intro final
  apply And.intro ran
  rw [finishes arguments decided, arrived,
    outcome_append_of_stopped (Option.isSome_of_eq_some stopped)]

theorem arrivals_of_pieces {parser : SseParser} {results : List (Timed HttpSseClientResult)}
    (pieces : ∀ result ∈ results,
      abortVerdict result.answer = none ∧ result.answer.eof = false) (state : parser.State) :
    arrivals parser state results = (fedEvents parser state (chunks results), none) := by
  induction results generalizing state with
  | nil => rfl
  | cons result rest ih =>
      rw [List.forall_mem_cons] at pieces
      have handed : handedEvents parser state result.answer =
          ((feedChunk parser state result.answer.chunk).2, none) := by
        simp [handedEvents, pieces.1, eofVerdict]
      rw [arrivals_cons_of_open (congrArg Prod.snd handed), handed, ih pieces.2]
      rfl

/-- Results without a stopping event keep the call pulling. -/
theorem run_running {results : List (Timed HttpSseClientResult)}
    (pieces : ∀ result ∈ results,
      abortVerdict result.answer = none ∧ result.answer.eof = false)
    (captured : session.captured = some capture) (pulling : Pulling session)
    (running : ∀ event ∈ fedEvents lib.sse session.parserState (chunks results),
      ¬Stops lib.json event.data) :
    ∃ next, (streamMachine lib).run session (nextAnswers results) = some next ∧
      Pulling next := by
  rcases run_results captured pulling results with ⟨final, ran, _, waits⟩
  apply Exists.intro final
  apply And.intro ran
  have waiting : finishArguments lib.json capture.callbacks session.agg
      (arrivals lib.sse session.parserState results) = none := by
    rw [arrivals_of_pieces pieces]
    simp only [finishArguments, processEvents_running capture.callbacks running, Option.or_none]
  exact (waits waiting).1

end Runs

/-- The outcome of a payload that is not an object is that of `[DONE]` in its
place, failed. -/
theorem outcome_broken (json : JsonLib) (capture : StreamCapture) (agg : StreamAggregate)
    {marker broken : SseEvent} (isDone : marker.data = "[DONE]")
    (payload : IsPayload broken.data)
    (invalid : ∀ root, json.parse broken.data ≠ some (.object root)) :
    ∃ state : OaiCompletionState, state.log.status = .kSuccess ∧
      ∀ verdict, outcome json capture agg [marker] verdict = [.onDone state] ∧
        outcome json capture agg [broken] verdict =
          [.onDone (state.failedWith invalidPayload)] := by
  exists streamState json capture.toFetchCapture 0 true (agg.closed "")
  constructor
  · rfl
  · intro verdict
    rw [outcome, processEvents_marker isDone, outcome, processEvents_broken payload invalid]
    exact ⟨rfl, rfl⟩

/-- Whenever a call of `FetchStreamCompletion` waits for a `Next` result: results
that bring events without a stopping one and then a payload that is not a JSON
object deliver, with the same callbacks before it, the state that results with
`[DONE]` in place of that payload deliver, except that it failed with a message
and counts one payload more.  And events whose data is empty or parses to an
object keep the call pulling. -/
theorem invalidPayload_outcomeOnly (lib : Libraries)
    (markerInvalid : ∀ root, lib.json.parse "[DONE]" ≠ some (.object root))
    (factory : OaiCompletionFactory) (heap : StateHeap) (args : FetchArgs) (onDone : Bool)
    (callbacks : DeltaCallbacks) (now : Int) (inputs : List (Timed StreamAnswer))
    (session : StreamSession lib.sse)
    (ran : (streamMachine lib).run
      (fetchStreamCompletion lib factory heap args onDone callbacks now) inputs =
        some session)
    (outstanding : session.pending = [.next]) :
    (∃ capture, session.captured = some capture ∧
      ∀ events broken marker results others,
      (∀ event ∈ events, ¬Stops lib.json event.data) →
      IsPayload broken.data → (∀ root, lib.json.parse broken.data ≠ some (.object root)) →
      marker.data = "[DONE]" →
      Brings lib.sse session.parserState results (events ++ [broken]) →
      Brings lib.sse session.parserState others (events ++ [marker]) →
      ∃ final other state error,
        (streamMachine lib).run session (nextAnswers results) = some final ∧
        (streamMachine lib).run session (nextAnswers others) = some other ∧
        other.calls.map StreamCallback.untimed =
          (session.calls ++ (processEvents lib.json capture.callbacks events
            session.agg).calls).map StreamCallback.untimed ++ [.onDone state] ∧
        final.calls.map StreamCallback.untimed =
          (session.calls ++ (processEvents lib.json capture.callbacks events
            session.agg).calls).map StreamCallback.untimed ++
            [.onDone (state.failedWith error)] ∧
        state.log.status = .kSuccess ∧ error ≠ "") ∧
    (∀ results,
      (∀ result ∈ results,
        abortVerdict result.answer = none ∧ result.answer.eof = false) →
      (∀ event ∈ fedEvents lib.sse session.parserState (chunks results),
        event.data = "" ∨ ∃ root, lib.json.parse event.data = some (.object root)) →
      ∃ next, (streamMachine lib).run session (nextAnswers results) = some next ∧
        next.pending = [.next] ∧ delivered next.calls = []) := by
  have isNext : .next ∈ session.pending := by simp [outstanding]
  have waiting := (streamPhase_of_run ran).waiting_of_outstanding isNext
  have pulling := waiting.pulling outstanding
  rcases live_of_run ran waiting with ⟨capture, captured⟩
  constructor
  · apply Exists.intro capture
    apply And.intro captured
    intro events broken marker results others running payload invalid isDone brings bringsDone
    have loopStop := processEvents_running capture.callbacks running session.agg
    have stops : (processEvents lib.json capture.callbacks (events ++ [broken])
        session.agg).stop = some (false, invalidPayload) := by
      rw [processEvents_append]
      simp only [LoopResult.andThen, loopStop, processEvents_broken payload invalid]
    have stopsDone : (processEvents lib.json capture.callbacks (events ++ [marker])
        session.agg).stop = some (true, "") := by
      rw [processEvents_append]
      simp only [LoopResult.andThen, loopStop, processEvents_marker isDone]
    rcases run_brings brings captured pulling stops with ⟨final, ranFinal, calls⟩
    rcases run_brings bringsDone captured pulling stopsDone with ⟨other, ranOther, callsDone⟩
    rcases outcome_broken lib.json capture
      (processEvents lib.json capture.callbacks events session.agg).agg isDone payload invalid
      with ⟨state, success, outcomes⟩
    refine ⟨final, other, state, invalidPayload, ranFinal, ranOther, ?_, ?_, success, by decide⟩
    · rw [callsDone, outcome_append_of_running loopStop, (outcomes _).1, List.map_append,
        List.append_assoc]
    · rw [calls, outcome_append_of_running loopStop, (outcomes _).2, List.map_append,
        List.append_assoc]
  · intro results pieces tolerated
    rcases run_running pieces captured pulling (fun event member =>
      not_stops_of_tolerated markerInvalid (tolerated event member)) with
      ⟨next, ranNext, pullingNext⟩
    exact ⟨next, ranNext, pullingNext.outstanding, pullingNext.undelivered⟩

/-- A payload followed by an event that is not JSON. -/
def brokenStream : List (Timed HttpSseClientResult) :=
  [⟨3, { chunk := Reference.event "1" ++ Reference.event "oops" }⟩]

/-- The same with the end marker in its place. -/
def markedStream : List (Timed HttpSseClientResult) :=
  [⟨3, { chunk := Reference.event "1" ++ Reference.event "[DONE]" }⟩]

theorem invalidPayload_outcomeOnly_oops :
    ∃ (session final other : StreamSession Reference.twoPieces.sse)
      (state : OaiCompletionState) (error : String),
      session.pending = [.next] ∧
      (streamMachine Reference.twoPieces).run session (nextAnswers brokenStream) = some final ∧
      (streamMachine Reference.twoPieces).run session (nextAnswers markedStream) = some other ∧
      .onDone state ∈ other.calls.map StreamCallback.untimed ∧
      .onDone (state.failedWith error) ∈ final.calls.map StreamCallback.untimed ∧
      error ≠ "" := by
  let initial := fetchStreamCompletion Reference.twoPieces Reference.factory Reference.heap
    Reference.args true Reference.bothCallbacks 0
  have computed : ((streamMachine Reference.twoPieces).run initial Reference.opened).map
      (fun session => (session.pending,
        (feedChunk Reference.sse session.parserState
          (Reference.event "1" ++ Reference.event "oops")).2,
        (feedChunk Reference.sse session.parserState
          (Reference.event "1" ++ Reference.event "[DONE]")).2)) =
      some ([.next], [⟨"1"⟩, ⟨"oops"⟩], [⟨"1"⟩, ⟨"[DONE]"⟩]) := by decide
  rcases Option.map_eq_some_iff.mp computed with ⟨session, ran, values⟩
  simp only [Prod.mk.injEq] at values
  rcases values with ⟨outstanding, fedBroken, fedMarked⟩
  have running : ∀ event ∈ [SseEvent.mk "1"], ¬Stops Reference.twoPieces.json event.data := by
    intro event member
    rw [List.mem_singleton] at member
    subst member
    exact not_stops_of_object (by decide) rfl
  have invalid : ∀ root, Reference.twoPieces.json.parse "oops" ≠ some (.object root) := by
    intro root parsed
    cases parsed
  have markerInvalid : ∀ root,
      Reference.twoPieces.json.parse "[DONE]" ≠ some (.object root) := by
    intro root parsed
    cases parsed
  rcases (invalidPayload_outcomeOnly Reference.twoPieces markerInvalid Reference.factory
    Reference.heap Reference.args true Reference.bothCallbacks 0 Reference.opened session ran
    outstanding).1 with ⟨capture, captured, compared⟩
  rcases compared [⟨"1"⟩] ⟨"oops"⟩ ⟨"[DONE]"⟩ brokenStream markedStream running
    ⟨by decide, by decide⟩ invalid rfl (.last rfl (fedBroken.trans rfl) [])
    (.last rfl (fedMarked.trans rfl) []) with
    ⟨final, other, state, error, ranFinal, ranOther, callsOther, callsFinal, _, nonempty⟩
  refine ⟨session, final, other, state, error, outstanding, ranFinal, ranOther, ?_, ?_, nonempty⟩
  · rw [callsOther]
    simp
  · rw [callsFinal]
    simp

end Boai.Completion
