import Boai.Completion.StreamSteps
import Boai.Reference

/-!
# What was streamed is what is stored

The trace of callback calls and the aggregate grow together: the texts reported
to a registered callback concatenate to the text accumulated for it.  The
relation survives every event, so it holds in the middle of a chunk too, and
`finish` copies the accumulated texts into the delivered state.  Which callbacks
are registered decides what is reported and nothing else.
-/

namespace Boai.Completion

open Boai.Json StreamSession

/-! ## The trace and the aggregate -/

/-- The trace of calls accounts for the accumulated texts. -/
structure Streamed (callbacks : DeltaCallbacks) (agg : StreamAggregate)
    (calls : List StreamCallback) : Prop where
  message : callbacks.onDelta = true →
    agg.accumulatedMessage = String.join (deltas calls)
  reasoning : callbacks.onReasoningDelta = true →
    agg.accumulatedReasoning = String.join (reasoningDeltas calls)
  nonempty : ∀ text ∈ deltas calls ++ reasoningDeltas calls, text ≠ ""
  deltaCount : (deltas calls).length ≤ agg.deltaCount
  reasoningCount : (reasoningDeltas calls).length ≤ agg.deltaCount

/-- A delivered state holds what was reported before. -/
structure Stored (callbacks : DeltaCallbacks) (calls : List StreamCallback)
    (state : OaiCompletionState) : Prop where
  message : callbacks.onDelta = true →
    state.message.message = String.join (deltas calls)
  reasoning : callbacks.onReasoningDelta = true →
    state.message.reasoning = String.join (reasoningDeltas calls)
  deltaCount : (deltas calls).length ≤ state.log.deltaCount
  reasoningCount : (reasoningDeltas calls).length ≤ state.log.deltaCount

section Reports

variable {json : JsonLib} {callbacks : DeltaCallbacks}

theorem deltas_calls (result : DeltaResult) :
    deltas (result.calls callbacks) =
      if result.delta ≠ "" ∧ callbacks.onDelta = true then [result.delta] else [] := by
  simp only [DeltaResult.calls, reportDelta, deltas_append]
  have silent : deltas (if result.reasoningDelta ≠ "" ∧ callbacks.onReasoningDelta = true
      then [StreamCallback.onReasoningDelta result.reasoningDelta] else []) = [] := by
    split <;> rfl
  rw [silent, List.nil_append]
  split <;> rfl

theorem reasoningDeltas_calls (result : DeltaResult) :
    reasoningDeltas (result.calls callbacks) =
      if result.reasoningDelta ≠ "" ∧ callbacks.onReasoningDelta = true
      then [result.reasoningDelta] else [] := by
  simp only [DeltaResult.calls, reportDelta, reasoningDeltas_append]
  have silent : reasoningDeltas (if result.delta ≠ "" ∧ callbacks.onDelta = true
      then [StreamCallback.onDelta result.delta] else []) = [] := by
    split <;> rfl
  rw [silent, List.append_nil]
  split <;> rfl

/-- The concatenation of an optional report is the text itself. -/
theorem join_report {text : String} {registered : Bool} (isRegistered : registered = true) :
    String.join (if text ≠ "" ∧ registered = true then [text] else []) = text := by
  by_cases empty : text = ""
  · simp [empty]
  · simp [empty, isRegistered]

/-- Reporting texts of a payload keeps the trace in step with an aggregate to
which the same texts are appended. -/
theorem Streamed.report {agg next : StreamAggregate} {calls made : List StreamCallback}
    (delta reasoningDelta : String) (streamed : Streamed callbacks agg calls)
    (message : next.accumulatedMessage = agg.accumulatedMessage ++ delta)
    (reasoning : next.accumulatedReasoning = agg.accumulatedReasoning ++ reasoningDelta)
    (count : next.deltaCount = agg.deltaCount + 1)
    (madeDeltas : deltas made =
      if delta ≠ "" ∧ callbacks.onDelta = true then [delta] else [])
    (madeReasoning : reasoningDeltas made =
      if reasoningDelta ≠ "" ∧ callbacks.onReasoningDelta = true
      then [reasoningDelta] else []) :
    Streamed callbacks next (calls ++ made) where
  message := by
    intro registered
    rw [message, deltas_append, madeDeltas, String.join_append, join_report registered,
      streamed.message registered]
  reasoning := by
    intro registered
    rw [reasoning, reasoningDeltas_append, madeReasoning, String.join_append,
      join_report registered, streamed.reasoning registered]
  nonempty := by
    intro text member
    rw [deltas_append, reasoningDeltas_append, madeDeltas, madeReasoning] at member
    have before := streamed.nonempty text
    simp only [List.mem_append] at member before
    rcases member with (old | new) | (old | new)
    · exact before (.inl old)
    · split at new
      next reported =>
        rw [List.mem_singleton.mp new]
        exact reported.1
      next => cases new
    · exact before (.inr old)
    · split at new
      next reported =>
        rw [List.mem_singleton.mp new]
        exact reported.1
      next => cases new
  deltaCount := by
    have before := streamed.deltaCount
    rw [count, deltas_append, madeDeltas, List.length_append]
    split
    · exact Nat.add_le_add_right before 1
    · exact Nat.le_succ_of_le before
  reasoningCount := by
    have before := streamed.reasoningCount
    rw [count, reasoningDeltas_append, madeReasoning, List.length_append]
    split
    · exact Nat.add_le_add_right before 1
    · exact Nat.le_succ_of_le before

/-- The relation reads three fields of the aggregate. -/
theorem Streamed.congr {agg next : StreamAggregate} {calls : List StreamCallback}
    (streamed : Streamed callbacks agg calls)
    (message : next.accumulatedMessage = agg.accumulatedMessage)
    (reasoning : next.accumulatedReasoning = agg.accumulatedReasoning)
    (count : agg.deltaCount ≤ next.deltaCount) : Streamed callbacks next calls where
  message := fun registered => message.trans (streamed.message registered)
  reasoning := fun registered => reasoning.trans (streamed.reasoning registered)
  nonempty := streamed.nonempty
  deltaCount := streamed.deltaCount.trans count
  reasoningCount := streamed.reasoningCount.trans count

theorem Streamed.onDone {agg : StreamAggregate} {calls : List StreamCallback}
    (streamed : Streamed callbacks agg calls) (state : OaiCompletionState) :
    Streamed callbacks agg (calls ++ [.onDone state]) := by
  constructor
  all_goals
    simp only [deltas_append, reasoningDeltas_append, deltas_onDone, reasoningDeltas_onDone,
      List.append_nil]
  · exact streamed.message
  · exact streamed.reasoning
  · exact streamed.nonempty
  · exact streamed.deltaCount
  · exact streamed.reasoningCount

theorem Streamed.event {data : String} {agg : StreamAggregate}
    {calls : List StreamCallback} {result : EventResult}
    (streamed : Streamed callbacks agg calls)
    (step : EventStep json callbacks data agg result) :
    Streamed callbacks result.agg (calls ++ result.calls) := by
  cases step with
  | empty | done => simpa using streamed
  | invalid =>
      rw [List.append_nil]
      exact streamed.congr rfl rfl (Nat.le_succ agg.deltaCount)
  | @delta _ _ _ result applied =>
      have frame := applyStreamDeltaPayload_frame applied
      refine Streamed.report result.delta result.reasoningDelta streamed ?_ ?_ ?_
        (deltas_calls result) (reasoningDeltas_calls result)
      · simp only [DeltaResult.appended]
        rw [frame]
        rfl
      · simp only [DeltaResult.appended]
        rw [frame]
        rfl
      · simp only [DeltaResult.appended]
        rw [frame]
        rfl

theorem Streamed.events {agg : StreamAggregate} {calls : List StreamCallback}
    (streamed : Streamed callbacks agg calls) (events : List SseEvent) :
    Streamed callbacks (processEvents json callbacks events agg).agg
      (calls ++ (processEvents json callbacks events agg).calls) :=
  processEvents_invariant (Streamed callbacks)
    (fun _ _ _ _ kept step => kept.event step) calls events streamed

/-- Between the two reports of one payload: the reasoning was appended and
reported, the content not yet. -/
theorem Streamed.midway {data : String} {agg : StreamAggregate}
    {calls : List StreamCallback} {result : DeltaResult}
    (streamed : Streamed callbacks agg calls)
    (applied : applyStreamDeltaPayload json data agg.counted = .ok result) :
    Streamed callbacks
      { result.agg with
        accumulatedReasoning := result.agg.accumulatedReasoning ++ result.reasoningDelta }
      (calls ++ reportDelta callbacks.onReasoningDelta .onReasoningDelta
        result.reasoningDelta) := by
  have frame := applyStreamDeltaPayload_frame applied
  refine Streamed.report "" result.reasoningDelta streamed ?_ ?_ ?_ ?_ ?_
  · rw [frame]
    simp [StreamAggregate.counted]
  · rw [frame]
    rfl
  · rw [frame]
    rfl
  · simp only [reportDelta]
    split <;> rfl
  · simp only [reportDelta]
    split <;> rfl

/-- `finish` copies the accumulated texts. -/
theorem Streamed.stored {agg : StreamAggregate} {calls : List StreamCallback}
    (streamed : Streamed callbacks agg calls) (capture : FetchCapture) (now : Int)
    (success : Bool) (error : String) :
    Stored callbacks calls (streamState json capture now success (agg.closed error)) :=
  ⟨streamed.message, streamed.reasoning, streamed.deltaCount, streamed.reasoningCount⟩

/-- Handing over the state reports no text. -/
theorem Stored.onDone {calls : List StreamCallback} {state : OaiCompletionState}
    (stored : Stored callbacks calls state) (last : OaiCompletionState) :
    Stored callbacks (calls ++ [.onDone last]) state := by
  constructor
  all_goals
    simp only [deltas_append, reasoningDeltas_append, deltas_onDone, reasoningDeltas_onDone,
      List.append_nil]
  · exact stored.message
  · exact stored.reasoning
  · exact stored.deltaCount
  · exact stored.reasoningCount

end Reports

/-! ## Runs -/

section Runs

variable {parser : SseParser} {callbacks : DeltaCallbacks}

/-- The trace of a session accounts for its aggregate and for every state it
delivered. -/
structure Accounted (callbacks : DeltaCallbacks) (session : StreamSession parser) : Prop where
  streamed : Streamed callbacks session.agg session.calls
  stored : ∀ state ∈ delivered session.calls, Stored callbacks session.calls state

theorem Accounted.conclude {session : StreamSession parser} (answered : session.Answered)
    (accounted : Accounted callbacks session) (json : JsonLib) (capture : FetchCapture)
    (now : Int) (verdict : Option (Bool × String)) :
    Accounted callbacks (session.conclude json capture now verdict) := by
  cases verdict with
  | none => exact ⟨accounted.streamed, accounted.stored⟩
  | some arguments =>
      simp only [StreamSession.conclude]
      rw [finish_of_open answered.isOpen]
      have closed : Streamed callbacks (session.agg.closed arguments.2) session.calls :=
        accounted.streamed.congr rfl rfl (Nat.le_refl _)
      refine ⟨closed.onDone _, ?_⟩
      intro state member
      simp only [StreamSession.call, delivered_append, answered.undelivered, List.nil_append,
        delivered_onDone, List.mem_singleton] at member
      subst member
      exact (accounted.streamed.stored capture now _ _).onDone _

theorem Accounted.processChunk {session : StreamSession parser}
    (answered : session.Answered) (accounted : Accounted callbacks session)
    (json : JsonLib) (chunk : String) :
    Accounted callbacks (session.processChunk json callbacks chunk).1 := by
  refine ⟨accounted.streamed.events _, ?_⟩
  intro state member
  rw [(answered.processChunk json callbacks chunk).undelivered] at member
  cases member

theorem Accounted.onNext {session : StreamSession parser} (answered : session.Answered)
    (accounted : Accounted callbacks session) (json : JsonLib) {capture : StreamCapture}
    (same : capture.callbacks = callbacks) (now : Int) (result : HttpSseClientResult) :
    Accounted callbacks (session.onNext json capture now result) := by
  rw [onNext_of_open answered.isOpen, same]
  cases abortVerdict result with
  | some verdict => exact accounted.conclude answered json _ now _
  | none =>
      exact (accounted.processChunk answered json result.chunk).conclude
        (answered.processChunk json callbacks result.chunk) json _ now _

/-- Only the call itself leaves an `Acquire` outstanding. -/
theorem StreamSession.Answered.acquire_not_outstanding {session : StreamSession parser}
    (answered : session.Answered) (json : JsonLib) (capture : FetchCapture) (now : Int)
    (verdict : Option (Bool × String)) :
    .acquire ∉ (session.conclude json capture now verdict).pending := by
  cases verdict with
  | none => simp [StreamSession.conclude, pullNextStreamChunk, issue, answered.idle]
  | some arguments =>
      simp [StreamSession.conclude, finish_of_open answered.isOpen, StreamSession.call,
        answered.idle]

/-- What holds of a session in every run. -/
structure Faithful (callbacks : DeltaCallbacks) (session : StreamSession parser) : Prop where
  phase : StreamPhase session
  accounted : Accounted callbacks session
  silent : .acquire ∈ session.pending → session.calls = []
  registered : ∀ capture, session.captured = some capture → capture.callbacks = callbacks

/-- A failure delivered before any report holds no text. -/
theorem stored_failure (capture : FetchCapture) (now : Int) (error : String) :
    Stored callbacks [] (capture.deliverFailure true now error) :=
  ⟨fun _ => rfl, fun _ => rfl, Nat.le_refl 0, Nat.le_refl 0⟩

/-- Delivering a failure as the first call. -/
theorem Streamed.accounted_failure {session : StreamSession parser}
    (streamed : Streamed callbacks session.agg []) (capture : FetchCapture) (now : Int)
    (error : String)
    (calls : session.calls = [.onDone (capture.deliverFailure true now error)]) :
    Accounted callbacks session := by
  constructor
  · rw [calls]
    exact streamed.onDone _
  · intro state member
    rw [calls] at member ⊢
    rw [List.mem_singleton.mp member]
    exact (stored_failure capture now error).onDone _

end Runs

section Reachable

variable {lib : Libraries} {callbacks : DeltaCallbacks}

theorem Faithful.initial (factory : OaiCompletionFactory) (heap : StateHeap)
    (args : FetchArgs) (onDone : Bool) (now : Int) :
    Faithful callbacks
      (fetchStreamCompletion lib factory heap args onDone callbacks now) := by
  have phase := streamPhase_initial lib factory heap args onDone callbacks now
  have launch := streamLaunch lib factory heap args onDone callbacks now
  generalize fetchStreamCompletion lib factory heap args onDone callbacks now = session
    at phase launch
  have untouched : Streamed callbacks {} [] :=
    ⟨fun _ => rfl, fun _ => rfl, by simp [deltas, reasoningDeltas], Nat.le_refl 0,
      Nat.le_refl 0⟩
  cases launch with
  | rejected => exact ⟨phase, ⟨untouched, by simp⟩, by simp, by simp⟩
  | buildFailed =>
      exact ⟨phase, untouched.accounted_failure _ _ _ rfl, by simp, by simp⟩
  | acquiring => exact ⟨phase, ⟨untouched, by simp⟩, by simp, by rintro _ ⟨⟩; rfl⟩

theorem Faithful.step {session next : StreamSession lib.sse}
    {input : Timed StreamAnswer} (faithful : Faithful callbacks session)
    (stepped : session.answer lib input = some next) : Faithful callbacks next := by
  have phase := faithful.phase.step stepped
  have frame := answer_frame stepped
  rcases streamStep_of_answer stepped with ⟨capture, captured, step⟩
  have same := faithful.registered capture captured
  have kept : Accounted callbacks next ∧ (.acquire ∈ next.pending → next.calls = []) := by
    cases faithful.phase with
    | rejected _ _ inert =>
        rw [inert] at captured
        cases captured
    | finished _ finished =>
        rw [finished.step step]
        exact ⟨faithful.accounted, faithful.silent⟩
    | waiting _ waiting =>
        have accounted := faithful.accounted
        generalize input.answer = answer at step
        cases step with
        | acquireFailed message outstanding =>
            have answered := waiting.answered outstanding
            have silent := faithful.silent outstanding
            constructor
            · have streamed := accounted.streamed
              rw [silent] at streamed
              exact Streamed.accounted_failure streamed capture.toFetchCapture input.now message
                (by simp [StreamSession.call, settle, silent])
            · intro again
              rw [StreamSession.call, answered.idle] at again
              cases again
        | acquired slot outstanding =>
            have answered := waiting.answered outstanding
            refine ⟨⟨accounted.streamed, accounted.stored⟩, ?_⟩
            intro again
            simp [issue, answered.idle] at again
        | started result outstanding =>
            have answered := (waiting.answered outstanding).withStatus result.status
            refine ⟨Accounted.conclude answered ?_ _ _ _ _, ?_⟩
            · exact ⟨accounted.streamed.congr rfl rfl (Nat.le_refl _), accounted.stored⟩
            · intro again
              exact absurd again (answered.acquire_not_outstanding _ _ _ _)
        | next result outstanding =>
            have answered := waiting.answered outstanding
            refine ⟨Accounted.onNext answered ⟨accounted.streamed, accounted.stored⟩ _ same _ _,
              ?_⟩
            intro again
            rw [onNext_of_open answered.isOpen] at again
            split at again
            · exact absurd again (answered.acquire_not_outstanding _ _ _ _)
            · exact absurd again
                ((answered.processChunk _ _ _).acquire_not_outstanding _ _ _ _)
        | late result absent completed => exact absurd completed waiting.not_completed
  exact ⟨phase, kept.1, kept.2, by rw [frame.2]; exact faithful.registered⟩

theorem faithful_of_run {factory : OaiCompletionFactory} {heap : StateHeap}
    {args : FetchArgs} {onDone : Bool} {now : Int} {inputs : List (Timed StreamAnswer)}
    {session : StreamSession lib.sse}
    (ran : (streamMachine lib).run
      (fetchStreamCompletion lib factory heap args onDone callbacks now) inputs =
        some session) : Faithful callbacks session :=
  StepMachine.run_invariant (Faithful callbacks)
    (fun _ _ _ faithful stepped => faithful.step stepped)
    (Faithful.initial factory heap args onDone now) ran

/-- A call that was started and waits for nothing has delivered one state. -/
theorem Faithful.ended {session : StreamSession lib.sse} (faithful : Faithful callbacks session)
    (accepted : session.accepted = true) (idle : session.pending = []) :
    ∃ state, delivered session.calls = [state] ∧ Stored callbacks session.calls state := by
  cases faithful.phase with
  | rejected returned =>
      rw [returned] at accepted
      cases accepted
  | waiting _ waiting =>
      rcases waiting.outstanding with ⟨kind, pending, _⟩
      rw [pending] at idle
      cases idle
  | finished _ finished =>
      rcases finished.lastCall with ⟨before, state, calls, undelivered⟩
      have single : delivered session.calls = [state] := by
        rw [calls, delivered_append, undelivered, delivered_onDone, List.nil_append]
      refine ⟨state, single, faithful.accounted.stored state ?_⟩
      rw [single]
      exact List.mem_singleton_self state

end Reachable

/-! ## Moments of a run -/

/-- The sessions a run passes through: between two answers, and in the handler of
a `Next` result after some of the events of its chunk, also between the two
reports of one event. -/
inductive Moment (lib : Libraries) (initial : StreamSession lib.sse) :
    StreamSession lib.sse → Prop where
  | between {inputs : List (Timed StreamAnswer)} {session : StreamSession lib.sse}
      (ran : (streamMachine lib).run initial inputs = some session) :
      Moment lib initial session
  | within {inputs : List (Timed StreamAnswer)} {session : StreamSession lib.sse}
      {capture : StreamCapture} {result : HttpSseClientResult} {seen rest : List SseEvent}
      (ran : (streamMachine lib).run initial inputs = some session)
      (captured : session.captured = some capture)
      (outstanding : .next ∈ session.pending) (goesOn : abortVerdict result = none)
      (fed : (session.feed result.chunk).2 = seen ++ rest) :
      Moment lib initial
        ({ session.settle .next with
            agg := (processEvents lib.json capture.callbacks seen session.agg).agg
            parserState := (session.feed result.chunk).1 }.call
          (processEvents lib.json capture.callbacks seen session.agg).calls)
  | midway {inputs : List (Timed StreamAnswer)} {session : StreamSession lib.sse}
      {capture : StreamCapture} {result : HttpSseClientResult} {seen rest : List SseEvent}
      {event : SseEvent} {reported : DeltaResult}
      (ran : (streamMachine lib).run initial inputs = some session)
      (captured : session.captured = some capture)
      (outstanding : .next ∈ session.pending) (goesOn : abortVerdict result = none)
      (fed : (session.feed result.chunk).2 = seen ++ event :: rest)
      (applied : applyStreamDeltaPayload lib.json event.data
        (processEvents lib.json capture.callbacks seen session.agg).agg.counted =
          .ok reported) :
      Moment lib initial
        ({ session.settle .next with
            agg := { reported.agg with
              accumulatedReasoning :=
                reported.agg.accumulatedReasoning ++ reported.reasoningDelta }
            parserState := (session.feed result.chunk).1 }.call
          ((processEvents lib.json capture.callbacks seen session.agg).calls ++
            reportDelta capture.callbacks.onReasoningDelta .onReasoningDelta
              reported.reasoningDelta))

theorem accounted_of_moment {lib : Libraries} {factory : OaiCompletionFactory}
    {heap : StateHeap} {args : FetchArgs} {onDone : Bool} {callbacks : DeltaCallbacks}
    {now : Int} {session : StreamSession lib.sse}
    (moment : Moment lib
      (fetchStreamCompletion lib factory heap args onDone callbacks now) session) :
    Accounted callbacks session := by
  cases moment with
  | between ran => exact (faithful_of_run ran).accounted
  | @within _ earlier capture result seen _ ran captured outstanding =>
      have faithful := faithful_of_run ran
      have same := faithful.registered capture captured
      subst same
      refine ⟨faithful.accounted.streamed.events seen, ?_⟩
      intro state member
      have none := (faithful.phase.waiting_of_outstanding outstanding).undelivered
      simp [StreamSession.call, settle, none, delivered_processEvents] at member
  | @midway _ earlier capture result seen _ event reported ran captured outstanding _ _ applied =>
      have faithful := faithful_of_run ran
      have same := faithful.registered capture captured
      subst same
      have streamed := (faithful.accounted.streamed.events seen).midway applied
      rw [List.append_assoc] at streamed
      refine ⟨streamed, ?_⟩
      intro state member
      have none := (faithful.phase.waiting_of_outstanding outstanding).undelivered
      have silent : delivered (reportDelta capture.callbacks.onReasoningDelta
          .onReasoningDelta reported.reasoningDelta) = [] := by
        simp only [reportDelta]
        split <;> rfl
      simp [StreamSession.call, settle, none, delivered_processEvents, silent] at member

/-! ## Two sets of callbacks -/

section Callbacks

variable {parser : SseParser}

/-- An event is processed the same way whatever is registered, calls apart. -/
theorem processStreamEventData_callbacks (json : JsonLib) (left right : DeltaCallbacks)
    (data : String) (agg : StreamAggregate) :
    { processStreamEventData json left data agg with calls := [] } =
      { processStreamEventData json right data agg with calls := [] } := by
  unfold processStreamEventData
  split
  · rfl
  · split
    · rfl
    · simp only
      split <;> rfl

theorem processEvents_callbacks (json : JsonLib) (left right : DeltaCallbacks)
    (events : List SseEvent) (agg : StreamAggregate) :
    { processEvents json left events agg with calls := [] } =
      { processEvents json right events agg with calls := [] } := by
  induction events generalizing agg with
  | nil => rfl
  | cons event rest ih =>
      have same := processStreamEventData_callbacks json left right event.data agg
      simp only [processEvents]
      generalize processStreamEventData json left event.data agg = first at same
      generalize processStreamEventData json right event.data agg = second at same
      rcases first with ⟨action, next, calls, error⟩
      rcases second with ⟨otherAction, otherNext, otherCalls, otherError⟩
      simp only [EventResult.mk.injEq, true_and] at same
      rcases same with ⟨rfl, rfl, rfl⟩
      cases action with
      | kDone | kFail => rfl
      | kContinue => exact ih next

/-- Two sessions that differ in their registered callbacks, in the texts reported
and in clock readings only. -/
structure Twin (left right : StreamSession parser) : Prop where
  agg : left.agg = right.agg
  parserState : left.parserState = right.parserState
  pending : left.pending = right.pending
  issued : left.issued = right.issued
  delivered : (delivered left.calls).map OaiCompletionState.untimed =
    (Completion.delivered right.calls).map OaiCompletionState.untimed
  captured : ∀ capture, left.captured = some capture →
    ∃ callbacks, right.captured = some { capture with callbacks }

variable {left right : StreamSession parser}

theorem Twin.completed (twin : Twin left right) : left.Completed ↔ right.Completed := by
  have same := twin.delivered
  simp only [Completed]
  constructor
  · intro nonempty empty
    rw [empty] at same
    exact nonempty (List.map_eq_nil_iff.mp same)
  · intro nonempty empty
    rw [empty] at same
    exact nonempty (List.map_eq_nil_iff.mp same.symm)

theorem Twin.settle (twin : Twin left right) (kind : RequestKind) :
    Twin (left.settle kind) (right.settle kind) :=
  { twin with pending := by rw [StreamSession.settle, StreamSession.settle, twin.pending] }

theorem Twin.issue (twin : Twin left right) (kind : RequestKind) (request : TransportCall) :
    Twin (left.issue kind request) (right.issue kind request) :=
  { twin with
    pending := by rw [StreamSession.issue, StreamSession.issue, twin.pending]
    issued := by rw [StreamSession.issue, StreamSession.issue, twin.issued] }

/-- Delivering states that differ in their timestamps. -/
theorem Twin.deliver (twin : Twin left right) {state other : OaiCompletionState}
    (same : state.untimed = other.untimed) :
    Twin (left.call [.onDone state]) (right.call [.onDone other]) :=
  { twin with
    delivered := by simp [StreamSession.call, twin.delivered, same] }

theorem Twin.withAgg (twin : Twin left right) (agg : StreamAggregate) :
    Twin { left with agg } { right with agg } :=
  { twin with agg := rfl }

theorem Twin.conclude (twin : Twin left right) (json : JsonLib) (capture : FetchCapture)
    (now otherNow : Int) (verdict : Option (Bool × String)) :
    Twin (left.conclude json capture now verdict)
      (right.conclude json capture otherNow verdict) := by
  cases verdict with
  | none => exact twin.issue .next .next
  | some arguments =>
      simp only [StreamSession.conclude, finish]
      rw [twin.agg]
      split
      · exact twin
      · exact (twin.withAgg _).deliver rfl

theorem Twin.processChunk (twin : Twin left right) (json : JsonLib)
    (callbacks others : DeltaCallbacks) (chunk : String) :
    Twin (left.processChunk json callbacks chunk).1 (right.processChunk json others chunk).1 ∧
      (left.processChunk json callbacks chunk).2 =
        (right.processChunk json others chunk).2 := by
  have fed : left.feed chunk = right.feed chunk := by
    simp only [feed, twin.parserState]
  have same := processEvents_callbacks json callbacks others (right.feed chunk).2 right.agg
  simp only [LoopResult.mk.injEq, true_and] at same
  simp only [StreamSession.processChunk, fed, twin.agg]
  refine ⟨{ twin with agg := same.1, parserState := rfl, delivered := ?_ }, same.2⟩
  simp [StreamSession.call, delivered_processEvents, twin.delivered]

theorem Twin.onNext (twin : Twin left right) (json : JsonLib) (capture : StreamCapture)
    (callbacks : DeltaCallbacks) (now otherNow : Int) (result : HttpSseClientResult) :
    Twin (left.onNext json capture now result)
      (right.onNext json { capture with callbacks } otherNow result) := by
  cases done : right.agg.done with
  | true =>
      rw [onNext_of_done (twin.agg ▸ done), onNext_of_done done]
      exact twin
  | false =>
      rw [onNext_of_open (twin.agg ▸ done), onNext_of_open done]
      cases abortVerdict result with
      | some verdict => exact twin.conclude _ _ _ _ _
      | none =>
          have processed := twin.processChunk json capture.callbacks callbacks result.chunk
          simp only [processed.2]
          exact processed.1.conclude _ _ _ _ _

/-- Twins accept the same answers and stay twins. -/
theorem Twin.step {lib : Libraries} {left right next : StreamSession lib.sse}
    {input other : Timed StreamAnswer} (twin : Twin left right)
    (sameAnswer : input.answer = other.answer)
    (stepped : left.answer lib input = some next) :
    ∃ nextOther, right.answer lib other = some nextOther ∧ Twin next nextOther := by
  rcases streamStep_of_answer stepped with ⟨capture, captured, step⟩
  rcases twin.captured capture captured with ⟨callbacks, capturedOther⟩
  simp only [answer]
  rw [capturedOther, ← sameAnswer]
  generalize input.answer = answer at step
  cases step with
  | acquireFailed message outstanding =>
      rw [twin.pending] at outstanding
      simp only [outstanding, if_true]
      exact ⟨_, rfl, (twin.settle .acquire).deliver rfl⟩
  | acquired slot outstanding =>
      rw [twin.pending] at outstanding
      simp only [outstanding, if_true]
      exact ⟨_, rfl, (twin.settle .acquire).issue _ _⟩
  | started result outstanding =>
      rw [twin.pending] at outstanding
      simp only [outstanding, if_true, onStart_eq]
      refine ⟨_, rfl, ?_⟩
      apply Twin.conclude
      simp only [withStatus]
      have settled := twin.settle .start
      rw [settled.agg]
      exact settled.withAgg _
  | next result outstanding =>
      rw [twin.pending] at outstanding
      simp only [outstanding, if_true]
      exact ⟨_, rfl, (twin.settle .next).onNext _ _ _ _ _ _⟩
  | late result absent completed issued =>
      rw [twin.pending] at absent
      rw [twin.completed] at completed
      rw [twin.issued] at issued
      simp only [absent, if_false, completed, issued, and_self, if_true]
      exact ⟨_, rfl, twin.onNext _ _ _ _ _ _⟩

end Callbacks

/-- The same call with another set of registered callbacks. -/
theorem twin_initial (lib : Libraries) (factory : OaiCompletionFactory)
    (heap : StateHeap) (args : FetchArgs) (onDone : Bool) {left right : DeltaCallbacks}
    (leftRegistered : left.onDelta = true ∨ left.onReasoningDelta = true)
    (rightRegistered : right.onDelta = true ∨ right.onReasoningDelta = true)
    (now otherNow : Int) :
    Twin (fetchStreamCompletion lib factory heap args onDone left now)
      (fetchStreamCompletion lib factory heap args onDone right otherNow) := by
  have leftAny : (left.onDelta || left.onReasoningDelta) = true := by
    simpa using leftRegistered
  have rightAny : (right.onDelta || right.onReasoningDelta) = true := by
    simpa using rightRegistered
  simp only [fetchStreamCompletion]
  rw [leftAny, rightAny]
  split
  · split
    · exact ⟨rfl, rfl, rfl, rfl, rfl, by simp⟩
    · refine ⟨rfl, rfl, rfl, rfl, rfl, ?_⟩
      rintro _ ⟨⟩
      exact ⟨right, rfl⟩
  · exact ⟨rfl, rfl, rfl, rfl, rfl, by simp⟩

/-- At every moment of every run of `FetchStreamCompletion` the accumulated texts
are the concatenations of what the registered callbacks received, which was
never empty and came in at most `delta_count` calls, and every delivered state
holds exactly these texts.  A started run that waits for nothing any more, however
it ended, has delivered one such state.  The same answers deliver the same state,
timestamp aside, whichever callbacks are registered. -/
theorem fetchStreamCompletion_streamed (lib : Libraries) (factory : OaiCompletionFactory)
    (heap : StateHeap) (args : FetchArgs) (onDone : Bool) (callbacks : DeltaCallbacks)
    (now : Int) :
    (∀ session,
      Moment lib (fetchStreamCompletion lib factory heap args onDone callbacks now) session →
        Streamed callbacks session.agg session.calls ∧
          ∀ state ∈ delivered session.calls, Stored callbacks session.calls state) ∧
    (∀ inputs session,
      (streamMachine lib).run
          (fetchStreamCompletion lib factory heap args onDone callbacks now) inputs =
        some session →
        session.accepted = true → session.pending = [] →
          ∃ state, delivered session.calls = [state] ∧ Stored callbacks session.calls state) ∧
    (callbacks.onDelta = true ∨ callbacks.onReasoningDelta = true →
      ∀ (others : DeltaCallbacks) (otherNow : Int),
        others.onDelta = true ∨ others.onReasoningDelta = true →
        ∀ (inputs otherInputs : List (Timed StreamAnswer)) (session : StreamSession lib.sse),
          List.Forall₂ (fun input other => input.answer = other.answer) inputs otherInputs →
          (streamMachine lib).run
            (fetchStreamCompletion lib factory heap args onDone callbacks now) inputs =
              some session →
          ∃ other, (streamMachine lib).run
              (fetchStreamCompletion lib factory heap args onDone others otherNow) otherInputs =
                some other ∧
            (delivered session.calls).map OaiCompletionState.untimed =
              (delivered other.calls).map OaiCompletionState.untimed) := by
  refine ⟨?_, fun _ _ ran => (faithful_of_run ran).ended, ?_⟩
  · intro session moment
    have accounted := accounted_of_moment moment
    exact ⟨accounted.streamed, accounted.stored⟩
  · intro registered others otherNow othersRegistered inputs otherInputs session same ran
    have start := twin_initial lib factory heap args onDone registered othersRegistered
      now otherNow
    rcases StepMachine.run_related (streamMachine lib) (streamMachine lib)
      (fun _ _ _ _ _ twin sameAnswer stepped => twin.step sameAnswer stepped) start same ran with
      ⟨other, ranOther, twin⟩
    exact ⟨other, ranOther, twin.delivered⟩

open Reference in
/-- Both payloads arrive, cut across an event, then `[DONE]`. -/
def twoPiecesAnswers : List (Timed StreamAnswer) :=
  opened ++ [chunk 3 (event "1" ++ "data: "), chunk 4 ("2\n\n" ++ event "[DONE]")]

theorem fetchStreamCompletion_streamed_twoPieces :
    ∃ session, (streamMachine Reference.twoPieces).run
        (fetchStreamCompletion Reference.twoPieces Reference.factory Reference.heap
          Reference.args true Reference.bothCallbacks 0) twoPiecesAnswers = some session ∧
      deltas session.calls = ["Hel", "lo"] ∧
      session.agg.accumulatedMessage = "Hello" ∧
      (∃ state, delivered session.calls = [state] ∧ state.message.message = "Hello") ∧
      ∃ other, (streamMachine Reference.twoPieces).run
          (fetchStreamCompletion Reference.twoPieces Reference.factory Reference.heap
            Reference.args true { onDelta := false, onReasoningDelta := true } 5)
          twoPiecesAnswers = some other ∧
        (delivered session.calls).map OaiCompletionState.untimed =
          (delivered other.calls).map OaiCompletionState.untimed := by
  let initial := fetchStreamCompletion Reference.twoPieces Reference.factory Reference.heap
    Reference.args true Reference.bothCallbacks 0
  have computed : ((streamMachine Reference.twoPieces).run initial twoPiecesAnswers).map
      (fun session => (deltas session.calls, session.accepted, session.pending)) =
        some (["Hel", "lo"], true, []) := by decide
  rcases Option.map_eq_some_iff.mp computed with ⟨session, ran, isEnded⟩
  simp only [Prod.mk.injEq] at isEnded
  rcases isEnded with ⟨reported, accepted, idle⟩
  have whole := fetchStreamCompletion_streamed Reference.twoPieces Reference.factory
    Reference.heap Reference.args true Reference.bothCallbacks 0
  have streamed := (whole.1 session (.between ran)).1.message rfl
  rcases whole.2.1 twoPiecesAnswers session ran accepted idle with ⟨state, single, stored⟩
  have holds := stored.message rfl
  rw [reported] at streamed holds
  have twin := whole.2.2 (.inl rfl) { onDelta := false, onReasoningDelta := true } 5 (.inr rfl)
    twoPiecesAnswers twoPiecesAnswers session
    (List.forall₂_same.mpr fun _ _ => rfl) ran
  exact ⟨session, ran, reported, streamed, ⟨state, single, holds⟩, twin⟩

end Boai.Completion
