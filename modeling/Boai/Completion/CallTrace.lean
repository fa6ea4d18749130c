import Boai.Completion.CallPhases
import Boai.Completion.StreamTrace

/-!
# The callbacks of a finished stream call

What a stream call has told its callbacks by the time it delivers its state: the
content and, if someone listens, the reasoning that the state holds, and nothing
else.
-/

namespace Boai.Completion

open Boai.Json StreamSession

variable {lib : Libraries} {callbacks : DeltaCallbacks}

/-- A stream call as a call of either entry point. -/
theorem FetchSession.run_stream {session : StreamSession lib.sse} {inputs : List FetchAnswer}
    {final : FetchSession lib.sse}
    (ran : (FetchSession.machine lib).run (.stream session) inputs = some final) :
    ∃ streamInputs streamFinal, final = .stream streamFinal ∧
      (streamMachine lib).run session streamInputs = some streamFinal := by
  induction inputs generalizing session with
  | nil =>
      cases ran
      exact ⟨[], session, rfl, rfl⟩
  | cons input inputs ih =>
      rcases StepMachine.run_cons_eq_some.mp ran with ⟨next, stepped, rest⟩
      cases input with
      | completion input => cases stepped
      | stream input =>
          rcases Option.map_eq_some_iff.mp stepped with ⟨after, accepted, rfl⟩
          rcases ih rest with ⟨streamInputs, streamFinal, isFinal, ranOn⟩
          exact ⟨input :: streamInputs, streamFinal, isFinal,
            StepMachine.run_cons_eq_some.mpr ⟨after, accepted, ranOn⟩⟩

section Unregistered

variable {parser : SseParser}

theorem reasoningDeltas_conclude (session : StreamSession parser) (json : JsonLib)
    (capture : FetchCapture) (now : Int) (verdict : Option (Bool × String)) :
    reasoningDeltas (session.conclude json capture now verdict).calls =
      reasoningDeltas session.calls := by
  cases verdict with
  | none => rfl
  | some arguments =>
      simp only [conclude, finish]
      split
      · rfl
      · simp only [StreamSession.call, reasoningDeltas_append, reasoningDeltas_onDone,
          List.append_nil]

theorem reasoningDeltas_processEvents_unregistered (json : JsonLib)
    (unregistered : callbacks.onReasoningDelta = false) (events : List SseEvent)
    (agg : StreamAggregate) :
    reasoningDeltas (processEvents json callbacks events agg).calls = [] := by
  refine processEvents_invariant (fun _ calls => reasoningDeltas calls = []) ?_ [] events rfl
  intro _ _ calls result silent step
  rw [reasoningDeltas_append, silent, List.nil_append]
  cases step with
  | empty | done | invalid => rfl
  | delta =>
      rw [reasoningDeltas_calls, unregistered]
      simp

theorem reasoningDeltas_onNext {session : StreamSession parser}
    (unregistered : callbacks.onReasoningDelta = false) (json : JsonLib) {capture : StreamCapture}
    (same : capture.callbacks = callbacks) (now : Int) (result : HttpSseClientResult) :
    reasoningDeltas (session.onNext json capture now result).calls =
      reasoningDeltas session.calls := by
  cases done : session.agg.done with
  | true => rw [onNext_of_done done]
  | false =>
      rw [onNext_of_open done]
      split
      · exact reasoningDeltas_conclude _ _ _ _ _
      · rw [reasoningDeltas_conclude, processChunk, StreamSession.call, reasoningDeltas_append,
          same, reasoningDeltas_processEvents_unregistered json unregistered, List.append_nil]

end Unregistered

/-- No reasoning is reported to a callback that is not registered. -/
theorem reasoningDeltas_of_run {factory : OaiCompletionFactory} {heap : StateHeap}
    {args : FetchArgs} {onDone : Bool} {now : Int} {inputs : List (Timed StreamAnswer)}
    {session : StreamSession lib.sse} (unregistered : callbacks.onReasoningDelta = false)
    (ran : (streamMachine lib).run
      (fetchStreamCompletion lib factory heap args onDone callbacks now) inputs =
        some session) : reasoningDeltas session.calls = [] := by
  have kept := StepMachine.run_invariant
    (fun session : StreamSession lib.sse => reasoningDeltas session.calls = [] ∧
      ∀ capture, session.captured = some capture → capture.callbacks = callbacks) ?_ ?_ ran
  · exact kept.1
  · intro session input next holds stepped
    have frame := answer_frame stepped
    rcases streamStep_of_answer stepped with ⟨capture, captured, step⟩
    have same := holds.2 capture captured
    refine ⟨?_, frame.2 ▸ holds.2⟩
    rw [← holds.1]
    generalize input.answer = answer at step
    cases step with
    | acquireFailed =>
        simp only [StreamSession.call, reasoningDeltas_append, reasoningDeltas_onDone,
          List.append_nil]
        rfl
    | acquired => rfl
    | started => exact reasoningDeltas_conclude _ _ _ _ _
    | next => exact reasoningDeltas_onNext unregistered _ same _ _
    | late => exact reasoningDeltas_onNext unregistered _ same _ _
  · have faithful : Faithful callbacks
        (fetchStreamCompletion lib factory heap args onDone callbacks now) :=
      .initial factory heap args onDone now
    refine ⟨?_, faithful.registered⟩
    have launch := streamLaunch lib factory heap args onDone callbacks now
    generalize fetchStreamCompletion lib factory heap args onDone callbacks now = session at launch
    cases launch with
    | rejected | buildFailed | acquiring => rfl

/-- The texts reported by a call that delivers a state. -/
structure Told (callbacks : DeltaCallbacks) (calls : List StreamCallback)
    (state : OaiCompletionState) : Prop where
  stored : Stored callbacks calls state
  nonempty : ∀ text ∈ deltas calls ++ reasoningDeltas calls, text ≠ ""
  silent : callbacks.onReasoningDelta = false → reasoningDeltas calls = []

theorem FetchSession.told_of_run {factory : OaiCompletionFactory} {heap : StateHeap}
    {args : FetchArgs} {onDone : Bool} {now : Int} {inputs : List FetchAnswer}
    {final : FetchSession lib.sse}
    (ran : (machine lib).run
      (start lib factory heap args now (.fetchStreamCompletion onDone callbacks)) inputs =
        some final)
    {state : OaiCompletionState} (delivers : state ∈ final.states) :
    Told callbacks final.callbacks state := by
  rcases run_stream ran with ⟨streamInputs, session, rfl, ranStream⟩
  have faithful := faithful_of_run ranStream
  exact ⟨faithful.accounted.stored state delivers, faithful.accounted.streamed.nonempty,
    fun unregistered => reasoningDeltas_of_run unregistered ranStream⟩

end Boai.Completion
