import Boai.Completion.StreamEvents

/-!
# What one answer does to a stream session

Every handler ends in one of two ways: it finishes the call or issues the next
`Next`.  `StreamStep` lists the handlers with the verdict that decides between
the two, and the two phases of a session, waiting for one answer and finished,
are shown to be all that a run goes through.
-/

namespace Boai.Completion

open Boai.Json

/-- The aggregate after `finish`. -/
def StreamAggregate.closed (agg : StreamAggregate) (error : String) : StreamAggregate :=
  { agg with
    done := true
    errorMessage := if error = "" then agg.errorMessage else error }

/-- The arguments of `finish` in the `Start` handler, if it finishes. -/
def startVerdict (result : HttpSseClientResult) : Option (Bool × String) :=
  if result.cancelled then some (false, "stream cancelled")
  else
    match result.ec with
    | some message => some (false, message)
    | none =>
        if !isHttpSuccessStatus result.status then
          some (false, "HTTP status " ++ toString result.status)
        else none

/-- The arguments of `finish` in the `Next` handler, if it finishes before it
looks at the chunk. -/
def abortVerdict (result : HttpSseClientResult) : Option (Bool × String) :=
  if result.cancelled then some (false, "stream cancelled")
  else
    match result.ec, result.eof with
    | some message, false => some (false, message)
    | _, _ => none

/-- The arguments of `finish` after a chunk that did not stop the loop. -/
def eofVerdict (result : HttpSseClientResult) : Option (Bool × String) :=
  if result.eof then some (true, "") else none

namespace StreamSession

variable {parser : SseParser} {session : StreamSession parser}

/-- Finish with the arguments of a verdict, or go on pulling. -/
def conclude (json : JsonLib) (capture : FetchCapture) (now : Int)
    (verdict : Option (Bool × String)) (session : StreamSession parser) :
    StreamSession parser :=
  match verdict with
  | some (success, error) => session.finish json capture now success error
  | none => session.pullNextStreamChunk

/-- The status of the response is recorded. -/
def withStatus (session : StreamSession parser) (status : Int) : StreamSession parser :=
  { session with agg := { session.agg with httpStatusCode := status } }

theorem finish_of_open {json : JsonLib} {capture : FetchCapture} {now : Int}
    {success : Bool} {error : String} (isOpen : session.agg.done = false) :
    session.finish json capture now success error =
      { session with agg := session.agg.closed error }.call
        [.onDone (streamState json capture now success (session.agg.closed error))] := by
  simp only [finish, isOpen, Bool.false_eq_true, if_false, StreamAggregate.closed]

theorem onStart_eq (json : JsonLib) (capture : FetchCapture) (now : Int)
    (result : HttpSseClientResult) (session : StreamSession parser) :
    session.onStart json capture now result =
      (session.withStatus result.status).conclude json capture now (startVerdict result) := by
  simp only [onStart, startVerdict]
  cases result.cancelled with
  | true => rfl
  | false =>
      cases result.ec with
      | some message => rfl
      | none => cases isHttpSuccessStatus result.status <;> rfl

theorem onNext_of_done {json : JsonLib} {capture : StreamCapture} {now : Int}
    {result : HttpSseClientResult} (done : session.agg.done = true) :
    session.onNext json capture now result = session := by
  simp [onNext, done]

/-- A `Next` handler that is reached before completion. -/
theorem onNext_of_open {json : JsonLib} {capture : StreamCapture} {now : Int}
    {result : HttpSseClientResult} (isOpen : session.agg.done = false) :
    session.onNext json capture now result =
      match abortVerdict result with
      | some verdict => session.conclude json capture.toFetchCapture now (some verdict)
      | none =>
          let processed := session.processChunk json capture.callbacks result.chunk
          processed.1.conclude json capture.toFetchCapture now
            (processed.2.or (eofVerdict result)) := by
  simp only [onNext, abortVerdict]
  simp only [isOpen, Bool.false_eq_true, if_false]
  split
  · rfl
  · rcases session.processChunk json capture.callbacks result.chunk with ⟨processed, stop⟩
    simp only [eofVerdict]
    cases result.ec <;> cases result.eof <;> cases stop <;> rfl

/-- One accepted answer: the handler that runs and how it ends. -/
inductive StreamStep (lib : Libraries) (capture : StreamCapture) (now : Int)
    (session : StreamSession lib.sse) : StreamAnswer → StreamSession lib.sse → Prop where
  | acquireFailed (message : String) (outstanding : .acquire ∈ session.pending) :
      StreamStep lib capture now session (.acquire (.error message))
        ((session.settle .acquire).call
          [.onDone (capture.deliverFailure true now message)])
  | acquired (slot : StreamSlot) (outstanding : .acquire ∈ session.pending) :
      StreamStep lib capture now session (.acquire (.ok slot))
        ((session.settle .acquire).issue .start
          (.start (streamRequest lib.http capture.toFetchCapture capture.requestBody)))
  | started (result : HttpSseClientResult) (outstanding : .start ∈ session.pending) :
      StreamStep lib capture now session (.start result)
        (((session.settle .start).withStatus result.status).conclude lib.json
          capture.toFetchCapture now (startVerdict result))
  | next (result : HttpSseClientResult) (outstanding : .next ∈ session.pending) :
      StreamStep lib capture now session (.next result)
        ((session.settle .next).onNext lib.json capture now result)
  | late (result : HttpSseClientResult) (absent : .next ∉ session.pending)
      (completed : session.Completed) (issued : .next ∈ session.issued) :
      StreamStep lib capture now session (.next result)
        (session.onNext lib.json capture now result)

/-- Inversion of a step of the stream machine. -/
theorem streamStep_of_answer {lib : Libraries} {session next : StreamSession lib.sse}
    {input : Timed StreamAnswer} (stepped : session.answer lib input = some next) :
    ∃ capture, session.captured = some capture ∧
      StreamStep lib capture input.now session input.answer next := by
  simp only [answer] at stepped
  split at stepped
  next => cases stepped
  next capture captured =>
    refine ⟨capture, captured, ?_⟩
    split at stepped
    next result isAcquire =>
      rw [isAcquire]
      split at stepped
      next outstanding =>
        cases stepped
        cases result with
        | error message => exact .acquireFailed message outstanding
        | ok slot => exact .acquired slot outstanding
      next => cases stepped
    next result isStart =>
      rw [isStart]
      split at stepped
      next outstanding =>
        cases stepped
        rw [onStart_eq]
        exact .started result outstanding
      next => cases stepped
    next result isNext =>
      rw [isNext]
      split at stepped
      next outstanding =>
        cases stepped
        exact .next result outstanding
      next absent =>
        split at stepped
        next lateNext =>
          cases stepped
          exact .late result absent lateNext.1 lateNext.2
        next => cases stepped

/-- `on_done` has not run and one request is outstanding. -/
structure Waiting (session : StreamSession parser) : Prop where
  undelivered : delivered session.calls = []
  isOpen : session.agg.done = false
  outstanding : ∃ kind, session.pending = [kind] ∧
    (.next ∈ session.issued ↔ kind = .next)

/-- `on_done` was the last call and nothing is outstanding. -/
structure Finished (session : StreamSession parser) : Prop where
  lastCall : ∃ before state, session.calls = before ++ [.onDone state] ∧
    delivered before = []
  idle : session.pending = []
  settled : .next ∈ session.issued → session.agg.done = true

theorem Waiting.not_completed (waiting : session.Waiting) : ¬session.Completed := by
  intro completed
  exact completed waiting.undelivered

theorem Finished.completed (finished : session.Finished) : session.Completed := by
  rcases finished.lastCall with ⟨before, state, calls, _⟩
  simp [Completed, calls]

/-- A session whose only outstanding request has just been answered. -/
structure Answered (session : StreamSession parser) : Prop where
  undelivered : delivered session.calls = []
  isOpen : session.agg.done = false
  idle : session.pending = []

theorem Waiting.answered {kind : RequestKind} (waiting : session.Waiting)
    (outstanding : kind ∈ session.pending) : (session.settle kind).Answered where
  undelivered := waiting.undelivered
  isOpen := waiting.isOpen
  idle := by
    rcases waiting.outstanding with ⟨only, pending, _⟩
    rw [pending, List.mem_singleton] at outstanding
    subst outstanding
    simp [settle, pending]

/-- The only outstanding request is the one whose answer was accepted. -/
theorem Waiting.next_issued_iff {kind : RequestKind} (waiting : session.Waiting)
    (outstanding : kind ∈ session.pending) :
    .next ∈ session.issued ↔ kind = .next := by
  rcases waiting.outstanding with ⟨only, pending, issued⟩
  rw [pending, List.mem_singleton] at outstanding
  subst outstanding
  exact issued

/-- Going on pulling waits for one `Next`. -/
theorem Answered.waiting_pull (answered : session.Answered) :
    session.pullNextStreamChunk.Waiting where
  undelivered := answered.undelivered
  isOpen := answered.isOpen
  outstanding := ⟨.next, by simp [pullNextStreamChunk, issue, answered.idle],
    by simp [pullNextStreamChunk, issue]⟩

/-- `finish` delivers one state and leaves nothing outstanding. -/
theorem Answered.finished_finish (answered : session.Answered) (json : JsonLib)
    (capture : FetchCapture) (now : Int) (success : Bool) (error : String) :
    (session.finish json capture now success error).Finished := by
  rw [finish_of_open answered.isOpen]
  exact ⟨⟨session.calls, _, rfl, answered.undelivered⟩, answered.idle, fun _ => rfl⟩

theorem Answered.conclude (answered : session.Answered) (json : JsonLib)
    (capture : FetchCapture) (now : Int) (verdict : Option (Bool × String)) :
    (session.conclude json capture now verdict).Waiting ∨
      (session.conclude json capture now verdict).Finished := by
  cases verdict with
  | none => exact .inl answered.waiting_pull
  | some arguments =>
      exact .inr (answered.finished_finish json capture now arguments.1 arguments.2)

theorem Answered.withStatus (answered : session.Answered) (status : Int) :
    (session.withStatus status).Answered :=
  ⟨answered.undelivered, answered.isOpen, answered.idle⟩

/-- The event loop makes delta calls only and leaves the session open. -/
theorem Answered.processChunk (answered : session.Answered) (json : JsonLib)
    (callbacks : DeltaCallbacks) (chunk : String) :
    (session.processChunk json callbacks chunk).1.Answered where
  undelivered := by
    simp only [StreamSession.processChunk, call, delivered_append, answered.undelivered,
      delivered_processEvents, List.append_nil]
  isOpen := by
    simp only [StreamSession.processChunk, call, (processEvents_frame _ _ _ _).1,
      answered.isOpen]
  idle := answered.idle

theorem Answered.onNext (answered : session.Answered) (json : JsonLib)
    (capture : StreamCapture) (now : Int) (result : HttpSseClientResult) :
    (session.onNext json capture now result).Waiting ∨
      (session.onNext json capture now result).Finished := by
  rw [onNext_of_open answered.isOpen]
  cases abortVerdict result with
  | some verdict => exact answered.conclude json _ now _
  | none => exact (answered.processChunk json capture.callbacks result.chunk).conclude json _ now _

/-- An answer to a waiting session leaves it waiting again or finished. -/
theorem Waiting.step {lib : Libraries} {capture : StreamCapture} {now : Int}
    {session next : StreamSession lib.sse} {answer : StreamAnswer}
    (waiting : session.Waiting)
    (step : StreamStep lib capture now session answer next) :
    next.Waiting ∨ next.Finished := by
  cases step with
  | acquireFailed message outstanding =>
      have answered := waiting.answered outstanding
      refine .inr ⟨⟨_, _, rfl, waiting.undelivered⟩, answered.idle, ?_⟩
      intro issued
      have isNext := (waiting.next_issued_iff outstanding).mp issued
      cases isNext
  | acquired slot outstanding =>
      have answered := waiting.answered outstanding
      refine .inl ⟨waiting.undelivered, waiting.isOpen, .start, ?_, ?_⟩
      · simp [issue, answered.idle]
      · simp [issue, settle, waiting.next_issued_iff outstanding]
  | started result outstanding =>
      exact ((waiting.answered outstanding).withStatus _).conclude _ _ _ _
  | next result outstanding => exact (waiting.answered outstanding).onNext _ _ _ _
  | late result absent completed issued => exact absurd completed waiting.not_completed

/-- A finished session never changes again. -/
theorem Finished.step {lib : Libraries} {capture : StreamCapture} {now : Int}
    {session next : StreamSession lib.sse} {answer : StreamAnswer}
    (finished : session.Finished)
    (step : StreamStep lib capture now session answer next) : next = session := by
  cases step with
  | acquireFailed _ outstanding | acquired _ outstanding | started _ outstanding
  | next _ outstanding =>
      rw [finished.idle] at outstanding
      cases outstanding
  | late result absent completed issued => exact onNext_of_done (finished.settled issued)

/-- The handlers that follow the `Acquire` hand over `Next` requests only. -/
theorem start_mem_conclude {json : JsonLib} {capture : FetchCapture} {now : Int}
    {verdict : Option (Bool × String)}
    {request : HttpRequest}
    (started : .start request ∈ (session.conclude json capture now verdict).issued) :
    .start request ∈ session.issued := by
  cases verdict with
  | none => simpa [conclude, pullNextStreamChunk, issue] using started
  | some arguments =>
      simp only [conclude, finish] at started
      split at started
      · exact started
      · exact started

theorem start_mem_onNext {json : JsonLib} {capture : StreamCapture} {now : Int}
    {result : HttpSseClientResult}
    {request : HttpRequest}
    (started : .start request ∈ (session.onNext json capture now result).issued) :
    .start request ∈ session.issued := by
  cases done : session.agg.done with
  | true =>
      rw [onNext_of_done done] at started
      exact started
  | false =>
      rw [onNext_of_open done] at started
      split at started
      · exact start_mem_conclude started
      · have earlier := start_mem_conclude started
        exact earlier

end StreamSession

open StreamSession

/-! ## The call itself -/

/-- The exits of `FetchStreamCompletion` before any answer. -/
inductive StreamLaunch (lib : Libraries) (factory : OaiCompletionFactory)
    (heap : StateHeap) (args : FetchArgs) (callbacks : DeltaCallbacks) (now : Int) :
    StreamSession lib.sse → Prop where
  | rejected : StreamLaunch lib factory heap args callbacks now { accepted := false }
  | buildFailed {capture : FetchCapture} {error : String}
      (checked : FetchCapture.check factory args = some capture)
      (failed : capture.payload lib.json heap true = .error error) :
      StreamLaunch lib factory heap args callbacks now
        { accepted := true
          calls := [.onDone (capture.deliverFailure true now error)] }
  | acquiring {capture : FetchCapture} {requestBody : String}
      (checked : FetchCapture.check factory args = some capture)
      (built : capture.payload lib.json heap true = .ok requestBody)
      (registered : callbacks.onDelta = true ∨ callbacks.onReasoningDelta = true) :
      StreamLaunch lib factory heap args callbacks now
        { accepted := true
          captured := some { capture with requestBody, callbacks }
          pending := [.acquire]
          issued := [.acquire capture.pipeline.builder
            (capture.assembled lib.http).connectionKey] }

theorem streamLaunch (lib : Libraries) (factory : OaiCompletionFactory)
    (heap : StateHeap) (args : FetchArgs) (onDone : Bool) (callbacks : DeltaCallbacks)
    (now : Int) :
    StreamLaunch lib factory heap args callbacks now
      (fetchStreamCompletion lib factory heap args onDone callbacks now) := by
  simp only [fetchStreamCompletion]
  split
  next capture checked registered =>
    simp only [Bool.and_eq_true, Bool.or_eq_true] at registered
    split
    next error failed => exact .buildFailed checked failed
    next requestBody built => exact .acquiring checked built registered.2
  next => exact .rejected

/-- The phases of a stream call. -/
inductive StreamPhase {parser : SseParser} (session : StreamSession parser) : Prop where
  | rejected (returned : session.accepted = false) (untouched : session.calls = [])
      (inert : session.captured = none) (idle : session.pending = [])
  | waiting (returned : session.accepted = true) (waiting : session.Waiting)
  | finished (returned : session.accepted = true) (finished : session.Finished)

theorem streamPhase_initial (lib : Libraries) (factory : OaiCompletionFactory)
    (heap : StateHeap) (args : FetchArgs) (onDone : Bool) (callbacks : DeltaCallbacks)
    (now : Int) :
    StreamPhase (fetchStreamCompletion lib factory heap args onDone callbacks now) := by
  have launch := streamLaunch lib factory heap args onDone callbacks now
  generalize fetchStreamCompletion lib factory heap args onDone callbacks now = session
    at launch
  cases launch with
  | rejected => exact .rejected rfl rfl rfl rfl
  | buildFailed => exact .finished rfl ⟨⟨[], _, rfl, rfl⟩, rfl, by simp⟩
  | acquiring => exact .waiting rfl ⟨rfl, rfl, .acquire, rfl, by simp⟩

/-- No answer changes what the call returned or what its handlers captured. -/
theorem StreamSession.answer_frame {lib : Libraries} {session next : StreamSession lib.sse}
    {input : Timed StreamAnswer} (stepped : session.answer lib input = some next) :
    next.accepted = session.accepted ∧ next.captured = session.captured := by
  have finishFrame : ∀ (json : JsonLib) (capture : FetchCapture) (now : Int)
      (verdict : Option (Bool × String)) (session : StreamSession lib.sse),
      (session.conclude json capture now verdict).accepted = session.accepted ∧
        (session.conclude json capture now verdict).captured = session.captured := by
    intro json capture now verdict session
    simp only [conclude]
    split
    · simp only [finish]
      split
      · exact ⟨rfl, rfl⟩
      · exact ⟨rfl, rfl⟩
    · exact ⟨rfl, rfl⟩
  have nextFrame : ∀ (capture : StreamCapture) (now : Int) (result : HttpSseClientResult)
      (session : StreamSession lib.sse),
      (session.onNext lib.json capture now result).accepted = session.accepted ∧
        (session.onNext lib.json capture now result).captured = session.captured := by
    intro capture now result session
    cases isDone : session.agg.done with
    | true => rw [onNext_of_done isDone]; exact ⟨rfl, rfl⟩
    | false =>
        rw [onNext_of_open isDone]
        split
        · exact finishFrame _ _ _ _ _
        · exact finishFrame _ _ _ _ _
  rcases streamStep_of_answer stepped with ⟨capture, captured, step⟩
  generalize input.answer = answer at step
  cases step with
  | acquireFailed | acquired => exact ⟨rfl, rfl⟩
  | started result _ => exact finishFrame _ _ _ _ _
  | next result _ => exact nextFrame _ _ _ _
  | late result => exact nextFrame _ _ _ _

theorem StreamPhase.step {lib : Libraries} {session next : StreamSession lib.sse}
    {input : Timed StreamAnswer} (phase : StreamPhase session)
    (stepped : session.answer lib input = some next) : StreamPhase next := by
  have returned := (answer_frame stepped).1
  rcases streamStep_of_answer stepped with ⟨capture, captured, step⟩
  cases phase with
  | rejected _ _ inert =>
      rw [inert] at captured
      cases captured
  | waiting accepted waiting =>
      rcases waiting.step step with waiting | finished
      · exact .waiting (returned.trans accepted) waiting
      · exact .finished (returned.trans accepted) finished
  | finished accepted finished =>
      rw [finished.step step]
      exact .finished accepted finished

/-- Every state of every run is in one of the phases. -/
theorem streamPhase_of_run {lib : Libraries} {factory : OaiCompletionFactory}
    {heap : StateHeap} {args : FetchArgs} {onDone : Bool} {callbacks : DeltaCallbacks}
    {now : Int} {inputs : List (Timed StreamAnswer)} {session : StreamSession lib.sse}
    (ran : (streamMachine lib).run
      (fetchStreamCompletion lib factory heap args onDone callbacks now) inputs =
        some session) : StreamPhase session :=
  StepMachine.run_invariant StreamPhase
    (fun _ _ _ phase stepped => phase.step stepped)
    (streamPhase_initial lib factory heap args onDone callbacks now) ran

/-- A call with an outstanding request is waiting. -/
theorem StreamPhase.waiting_of_outstanding {parser : SseParser}
    {session : StreamSession parser} (phase : StreamPhase session) {kind : RequestKind}
    (outstanding : kind ∈ session.pending) : session.Waiting := by
  cases phase with
  | rejected _ _ _ idle =>
      rw [idle] at outstanding
      cases outstanding
  | waiting _ waiting => exact waiting
  | finished _ finished =>
      rw [finished.idle] at outstanding
      cases outstanding

/-- A waiting session belongs to a call whose handlers captured something. -/
def Live {lib : Libraries} (session : StreamSession lib.sse) : Prop :=
  session.Waiting → ∃ capture, session.captured = some capture

theorem live_of_run {lib : Libraries} {factory : OaiCompletionFactory} {heap : StateHeap}
    {args : FetchArgs}
    {onDone : Bool} {callbacks : DeltaCallbacks} {now : Int}
    {inputs : List (Timed StreamAnswer)} {session : StreamSession lib.sse}
    (ran : (streamMachine lib).run
      (fetchStreamCompletion lib factory heap args onDone callbacks now) inputs =
        some session) : Live session := by
  refine StepMachine.run_invariant Live ?_ ?_ ran
  · intro session input next _ stepped _
    rcases streamStep_of_answer stepped with ⟨capture, captured, _⟩
    exact ⟨capture, (answer_frame stepped).2.trans captured⟩
  · have launch := streamLaunch lib factory heap args onDone callbacks now
    generalize fetchStreamCompletion lib factory heap args onDone callbacks now = initial
      at launch
    intro waiting
    cases launch with
    | rejected =>
        rcases waiting.outstanding with ⟨kind, pending, _⟩
        cases pending
    | buildFailed =>
        rcases waiting.outstanding with ⟨kind, pending, _⟩
        cases pending
    | acquiring => exact ⟨_, rfl⟩

end Boai.Completion
