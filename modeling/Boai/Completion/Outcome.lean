import Boai.Completion.CompletionSteps
import Boai.Completion.StreamSteps
import Boai.Reference

/-!
# Every delivered state is consistent

Status, error text and HTTP code of a delivered state agree with each other, and
the state belongs to the call it answers.  Every exit of both entry points is
checked; the texts that helpers report through out-parameters are shown to be
non-empty exactly when a failure is reported.
-/

namespace Boai.Completion

open Boai.Json StreamSession

/-- Status, error text, HTTP code and links of a state delivered by a fetch. -/
structure Consistent (args : FetchArgs) (isStream : Bool) (state : OaiCompletionState) :
    Prop where
  settled : state.log.status = .kSuccess ∨ state.log.status = .kFail
  success : state.log.status = .kSuccess →
    200 ≤ state.log.httpStatusCode ∧ state.log.httpStatusCode < 300 ∧
      state.log.errorMessage = ""
  failure : state.log.status = .kFail → state.log.errorMessage ≠ ""
  previous : state.previous = args.state
  modelInfo : state.modelInfo = args.modelInfo
  isStream : state.log.isStream = isStream

/-- A set error code has a message. -/
def Described (ec : Option String) : Prop := ∀ message ∈ ec, message ≠ ""

theorem append_ne_empty {left : String} (nonempty : left ≠ "") (right : String) :
    left ++ right ≠ "" := by
  intro empty
  exact nonempty (String.append_eq_empty_iff.mp empty).1

theorem isHttpSuccessStatus_iff (status : Int) :
    isHttpSuccessStatus status = true ↔ 200 ≤ status ∧ status < 300 := by
  simp [isHttpSuccessStatus]

theorem buildRequestPayload_error {json : JsonLib} {messages : List OaiMessage}
    {tools : List OaiToolDefinition} {modelInfo : OaiModelInfo} {stream : Bool}
    {error : String}
    (failed : buildRequestPayload json messages tools modelInfo stream = .error error) :
    error ≠ "" := by
  simp only [buildRequestPayload] at failed
  split at failed
  · cases failed
    decide
  · cases failed

section Exits

variable {factory : OaiCompletionFactory} {args : FetchArgs} {capture : FetchCapture}

/-- A failing exit that leaves the response out. -/
theorem consistent_deliverFailure (checked : FetchCapture.check factory args = some capture)
    {error : String} (nonempty : error ≠ "") (isStream : Bool) (now : Int) :
    Consistent args isStream (capture.deliverFailure isStream now error) := by
  rcases FetchCapture.check_eq_some checked with ⟨state, modelInfo, _⟩
  exact ⟨.inr rfl, by rintro ⟨⟩, fun _ => nonempty, state.symm, modelInfo.symm, rfl⟩

/-- The exits of `ParseCompletionResponseBody`: a body is rejected with a text and
leaves the message alone, or its message is read. -/
inductive BodyExit (json : JsonLib) (body : String) (message : OaiMessage)
    (log : OaiRequestLog) (error : String) : BodyResult → Prop where
  | rejected {text : String} {read : OaiRequestLog} (nonempty : text ≠ "")
      (frame : read = { log with
        requestId := read.requestId
        model := read.model
        finishReason := read.finishReason }) :
      BodyExit json body message log error
        { accepted := false, message, log := read, error := text }
  | accepted {root choice messageObject : Members}
      (parsed : json.parse body = some (.object root))
      (first : extractResponseFirstChoiceObject root = .ok choice)
      (found : extractResponseChoiceMessageObject choice = .ok messageObject) :
      BodyExit json body message log error
        { accepted := true
          message := parseAssistantMessageFromObject json messageObject
          log := parseCompletionLogFromChoiceObject choice
            (parseCompletionLogFromRootObject root log)
          error }

theorem extractResponseFirstChoiceObject_error {root : Members} {error : String}
    (missing : extractResponseFirstChoiceObject root = .error error) : error ≠ "" := by
  simp only [extractResponseFirstChoiceObject] at missing
  split at missing
  · cases missing
  · cases missing
    decide
  · cases missing
    decide

theorem extractResponseChoiceMessageObject_error {choice : Members} {error : String}
    (missing : extractResponseChoiceMessageObject choice = .error error) : error ≠ "" := by
  simp only [extractResponseChoiceMessageObject] at missing
  split at missing
  · cases missing
  · cases missing
    decide

theorem parseCompletionResponseBody_exit (json : JsonLib) (body : String)
    (message : OaiMessage) (log : OaiRequestLog) (error : String) :
    BodyExit json body message log error
      (parseCompletionResponseBody json body message log error) := by
  unfold parseCompletionResponseBody
  split
  · exact .rejected (by decide) rfl
  next root parsed =>
    simp only
    split
    next missing => exact .rejected (extractResponseFirstChoiceObject_error missing) rfl
    next choice first =>
      split
      next missing => exact .rejected (extractResponseChoiceMessageObject_error missing) rfl
      next messageObject found => exact .accepted parsed first found
  · exact .rejected (by decide) rfl

theorem consistent_completionState (json : JsonLib)
    (checked : FetchCapture.check factory args = some capture) (now : Int)
    (result : HttpClientResult) (described : Described result.ec) :
    Consistent args false (completionState json capture now result) ∧
      ((completionState json capture now result).log.status = .kFail →
        (completionState json capture now result).message = blankAssistant) := by
  rcases FetchCapture.check_eq_some checked with ⟨state, modelInfo, _⟩
  unfold completionState
  simp only
  split
  next message failed =>
    have nonempty := described message failed
    exact ⟨⟨.inr rfl, by rintro ⟨⟩, fun _ => nonempty, state.symm, modelInfo.symm, rfl⟩,
      fun _ => rfl⟩
  next =>
    split
    next =>
      have nonempty : "request cancelled" ≠ "" := by decide
      exact ⟨⟨.inr rfl, by rintro ⟨⟩, fun _ => nonempty, state.symm, modelInfo.symm, rfl⟩,
        fun _ => rfl⟩
    next =>
      split
      next =>
        refine ⟨⟨.inr rfl, by rintro ⟨⟩, fun _ => ?_, state.symm, modelInfo.symm, rfl⟩,
          fun _ => rfl⟩
        simp only [FetchCapture.deliver]
        split
        next => exact append_ne_empty (by decide) _
        next nonempty => exact nonempty
      next success =>
        have exit := parseCompletionResponseBody_exit json result.response.body
          blankAssistant
          { buildLogSkeleton capture.modelInfo.value false now with
            httpStatusCode := result.response.status
            requestId := (result.response.find "x-request-id").getD "" } ""
        generalize parseCompletionResponseBody json result.response.body _ _ _ = parsed at exit ⊢
        cases exit with
        | rejected nonempty frame =>
            simp only [Bool.false_eq_true, if_false, FetchCapture.deliver]
            rw [frame]
            exact ⟨⟨.inr rfl, by rintro ⟨⟩, fun _ => nonempty, state.symm, modelInfo.symm, rfl⟩,
              fun _ => trivial⟩
        | accepted =>
            have status := (isHttpSuccessStatus_iff _).mp (by simpa using success)
            simp only [if_true, FetchCapture.deliver]
            exact ⟨⟨.inl rfl, fun _ => ⟨status.1, status.2, rfl⟩, by rintro ⟨⟩, state.symm,
              modelInfo.symm, rfl⟩, by rintro ⟨⟩⟩

/-- The arguments of `finish` are success without a text or failure with one. -/
def SoundVerdict (verdict : Bool × String) : Prop :=
  (verdict.1 = true ∧ verdict.2 = "") ∨ (verdict.1 = false ∧ verdict.2 ≠ "")

theorem consistent_streamState (json : JsonLib)
    (checked : FetchCapture.check factory args = some capture) (now : Int)
    {verdict : Bool × String} (sound : SoundVerdict verdict) {agg : StreamAggregate}
    (noError : agg.errorMessage = "")
    (status : verdict.1 = true → 200 ≤ agg.httpStatusCode ∧ agg.httpStatusCode < 300) :
    Consistent args true
      (streamState json capture now verdict.1 (agg.closed verdict.2)) := by
  rcases FetchCapture.check_eq_some checked with ⟨state, modelInfo, _⟩
  rcases verdict with ⟨success, error⟩
  rcases sound with ⟨succeeded, empty⟩ | ⟨failed, nonempty⟩
  · simp only at succeeded empty status
    subst succeeded empty
    have inRange := status rfl
    exact ⟨.inl rfl, fun _ => ⟨inRange.1, inRange.2, noError⟩, by rintro ⟨⟩, state.symm,
      modelInfo.symm, rfl⟩
  · simp only at failed nonempty
    subst failed
    refine ⟨.inr rfl, by rintro ⟨⟩, fun _ => ?_, state.symm, modelInfo.symm, rfl⟩
    simp [streamState, FetchCapture.deliver, StreamAggregate.closed, nonempty]

end Exits

/-! ## Verdicts -/

theorem startVerdict_failed {result : HttpSseClientResult} (described : Described result.ec)
    {verdict : Bool × String} (finishes : startVerdict result = some verdict) :
    verdict.1 = false ∧ verdict.2 ≠ "" := by
  simp only [startVerdict] at finishes
  split at finishes
  · cases finishes
    exact ⟨rfl, by decide⟩
  · split at finishes
    next message failed =>
      cases finishes
      exact ⟨rfl, described message failed⟩
    next =>
      split at finishes
      · cases finishes
        exact ⟨rfl, append_ne_empty (by decide) _⟩
      · cases finishes

theorem startVerdict_none {result : HttpSseClientResult} (goesOn : startVerdict result = none) :
    200 ≤ result.status ∧ result.status < 300 := by
  simp only [startVerdict] at goesOn
  split at goesOn
  · cases goesOn
  · split at goesOn
    · cases goesOn
    · split at goesOn
      · cases goesOn
      next success => exact (isHttpSuccessStatus_iff _).mp (by simpa using success)

theorem abortVerdict_failed {result : HttpSseClientResult} (described : Described result.ec)
    {verdict : Bool × String} (finishes : abortVerdict result = some verdict) :
    verdict.1 = false ∧ verdict.2 ≠ "" := by
  simp only [abortVerdict] at finishes
  split at finishes
  · cases finishes
    exact ⟨rfl, by decide⟩
  · split at finishes
    next message failed _ =>
      cases finishes
      exact ⟨rfl, described message failed⟩
    next => cases finishes

/-- A verdict reached after a chunk is the loop's or that of end of file. -/
theorem chunkVerdict_sound {json : JsonLib} {callbacks : DeltaCallbacks}
    {events : List SseEvent} {agg : StreamAggregate} {result : HttpSseClientResult}
    {verdict : Bool × String}
    (finishes : ((processEvents json callbacks events agg).stop.or (eofVerdict result)) =
      some verdict) : SoundVerdict verdict := by
  cases stopped : (processEvents json callbacks events agg).stop with
  | some arguments =>
      rw [stopped, Option.some_or, Option.some.injEq] at finishes
      subst finishes
      rcases processEvents_stop stopped with ⟨success, empty⟩ | ⟨failed, text⟩
      · exact .inl ⟨success, empty⟩
      · exact .inr ⟨failed, by rw [text]; decide⟩
  | none =>
      rw [stopped, Option.none_or] at finishes
      simp only [eofVerdict] at finishes
      split at finishes
      · cases finishes
        exact .inl ⟨rfl, rfl⟩
      · cases finishes

/-! ## Runs of `FetchCompletion` -/

/-- The error codes in an answer have messages. -/
def CompletionAnswer.Described : CompletionAnswer → Prop
  | .acquire (.error message) => message ≠ ""
  | .acquire (.ok _) => True
  | .done result => Completion.Described result.ec

/-- What holds of a completion session in every run. -/
structure CompletionSane (factory : OaiCompletionFactory) (args : FetchArgs)
    (session : CompletionSession) : Prop where
  checked : ∀ capture requestBody, session.captured = some (capture, requestBody) →
    FetchCapture.check factory args = some capture
  consistent : ∀ state ∈ session.calls, Consistent args false state ∧
    (state.log.status = .kFail → state.message = blankAssistant)

section Completion

variable {lib : Libraries} {factory : OaiCompletionFactory} {args : FetchArgs}

theorem CompletionSane.initial (heap : StateHeap) (cb : Bool) (now : Int) :
    CompletionSane factory args (fetchCompletion lib factory heap args cb now) := by
  have launch := completionLaunch lib factory heap args cb now
  generalize fetchCompletion lib factory heap args cb now = session at launch
  cases launch with
  | rejected => exact ⟨by simp, by simp⟩
  | buildFailed checked failed =>
      refine ⟨by simp, ?_⟩
      intro state member
      rw [List.mem_singleton.mp member]
      exact ⟨consistent_deliverFailure checked (buildRequestPayload_error failed) false now,
        fun _ => rfl⟩
  | acquiring checked =>
      refine ⟨?_, by simp⟩
      rintro _ _ ⟨⟩
      exact checked

/-- Delivering one more consistent state. -/
theorem CompletionSane.call {session : CompletionSession}
    (sane : CompletionSane factory args session) {state : OaiCompletionState}
    (consistent : Consistent args false state)
    (blank : state.log.status = .kFail → state.message = blankAssistant) :
    CompletionSane factory args (session.call state) := by
  refine ⟨sane.checked, ?_⟩
  intro other member
  rcases List.mem_append.mp member with old | new
  · exact sane.consistent other old
  · rw [List.mem_singleton.mp new]
    exact ⟨consistent, blank⟩

theorem CompletionSane.step {session next : CompletionSession}
    {input : Timed CompletionAnswer} (described : input.answer.Described)
    (sane : CompletionSane factory args session)
    (stepped : session.answer lib input = some next) :
    CompletionSane factory args next := by
  rcases completionStep_of_answer stepped with ⟨capture, requestBody, captured, step⟩
  have checked := sane.checked capture requestBody captured
  generalize input.answer = answer at step described
  cases step with
  | acquireFailed message =>
      have settled : CompletionSane factory args (session.settle .acquire) :=
        ⟨sane.checked, sane.consistent⟩
      exact settled.call (consistent_deliverFailure checked described false input.now)
        fun _ => rfl
  | acquired slot => exact ⟨sane.checked, sane.consistent⟩
  | done result =>
      have settled : CompletionSane factory args (session.settle .start) :=
        ⟨sane.checked, sane.consistent⟩
      have exit := consistent_completionState lib.json checked input.now result described
      exact settled.call exit.1 exit.2

end Completion

/-! ## Runs of `FetchStreamCompletion` -/

/-- The error codes in an answer have messages. -/
def StreamAnswer.Described : StreamAnswer → Prop
  | .acquire (.error message) => message ≠ ""
  | .acquire (.ok _) => True
  | .start result | .next result => Completion.Described result.ec

/-- What holds of a stream session in every run: until it finishes no error text is
recorded, and chunks are only pulled under a 2xx status. -/
structure StreamSane {parser : SseParser} (factory : OaiCompletionFactory) (args : FetchArgs)
    (session : StreamSession parser) : Prop where
  checked : ∀ capture, session.captured = some capture →
    FetchCapture.check factory args = some capture.toFetchCapture
  noError : session.agg.done = false → session.agg.errorMessage = ""
  status : .next ∈ session.pending →
    200 ≤ session.agg.httpStatusCode ∧ session.agg.httpStatusCode < 300
  consistent : ∀ state ∈ delivered session.calls, Consistent args true state

section Stream

variable {factory : OaiCompletionFactory} {args : FetchArgs}

/-- Ending a handler with a verdict that suits the status. -/
theorem StreamSane.conclude {parser : SseParser} {session : StreamSession parser}
    (answered : session.Answered) (sane : StreamSane factory args session)
    (json : JsonLib) {capture : FetchCapture}
    (checked : FetchCapture.check factory args = some capture) (now : Int)
    {verdict : Option (Bool × String)}
    (sound : ∀ arguments ∈ verdict, SoundVerdict arguments ∧
      (arguments.1 = true →
        200 ≤ session.agg.httpStatusCode ∧ session.agg.httpStatusCode < 300))
    (goesOn : verdict = none →
      200 ≤ session.agg.httpStatusCode ∧ session.agg.httpStatusCode < 300) :
    StreamSane factory args (session.conclude json capture now verdict) := by
  cases verdict with
  | none => exact ⟨sane.checked, sane.noError, fun _ => goesOn rfl, sane.consistent⟩
  | some arguments =>
      rcases sound arguments rfl with ⟨suits, status⟩
      simp only [StreamSession.conclude]
      rw [finish_of_open answered.isOpen]
      refine ⟨sane.checked, ?_, ?_, ?_⟩
      · intro isOpen
        cases isOpen
      · intro outstanding
        simp [StreamSession.call, answered.idle] at outstanding
      · intro state member
        simp only [StreamSession.call, delivered_append, answered.undelivered,
          List.nil_append, delivered_onDone, List.mem_singleton] at member
        subst member
        exact consistent_streamState json checked now suits (sane.noError answered.isOpen) status

theorem StreamSane.settle {parser : SseParser} {session : StreamSession parser}
    (sane : StreamSane factory args session) (kind : RequestKind) :
    StreamSane factory args (session.settle kind) :=
  ⟨sane.checked, sane.noError, fun outstanding => sane.status (List.mem_of_mem_erase outstanding),
    sane.consistent⟩

theorem processChunk_frame {parser : SseParser} (json : JsonLib) (callbacks : DeltaCallbacks)
    (session : StreamSession parser) (chunk : String) :
    (session.processChunk json callbacks chunk).1.agg.httpStatusCode =
      session.agg.httpStatusCode :=
  (processEvents_frame _ _ _ _).2.1

theorem StreamSane.processChunk {parser : SseParser} {session : StreamSession parser}
    (sane : StreamSane factory args session) (json : JsonLib) (callbacks : DeltaCallbacks)
    (chunk : String) :
    StreamSane factory args (session.processChunk json callbacks chunk).1 := by
  have frame := processEvents_frame json callbacks
    (session.feed chunk).2 session.agg
  refine ⟨sane.checked, ?_, ?_, ?_⟩
  · intro isOpen
    exact frame.2.2.trans (sane.noError (frame.1.symm.trans isOpen))
  · intro outstanding
    rw [processChunk_frame]
    exact sane.status outstanding
  · intro state member
    simp only [StreamSession.processChunk, StreamSession.call, delivered_append,
      delivered_processEvents, List.append_nil] at member
    exact sane.consistent state member

/-- The handler given to `Next`, under a 2xx status. -/
theorem StreamSane.onNext {parser : SseParser} {session : StreamSession parser}
    (answered : session.Answered) (sane : StreamSane factory args session)
    (json : JsonLib) {capture : StreamCapture}
    (checked : FetchCapture.check factory args = some capture.toFetchCapture) (now : Int)
    {result : HttpSseClientResult} (described : Completion.Described result.ec)
    (status : 200 ≤ session.agg.httpStatusCode ∧ session.agg.httpStatusCode < 300) :
    StreamSane factory args (session.onNext json capture now result) := by
  rw [onNext_of_open answered.isOpen]
  cases aborted : abortVerdict result with
  | some verdict =>
      apply sane.conclude answered json checked now
      · intro arguments isVerdict
        cases isVerdict
        exact ⟨.inr (abortVerdict_failed described aborted), fun _ => status⟩
      · simp
  | none =>
      have processed := sane.processChunk json capture.callbacks result.chunk
      have frame := processChunk_frame json capture.callbacks session result.chunk
      apply processed.conclude (answered.processChunk _ _ _) json checked now
      · intro arguments finishes
        rw [frame]
        exact ⟨chunkVerdict_sound finishes, fun _ => status⟩
      · intro _
        rw [frame]
        exact status

theorem StreamSane.step {lib : Libraries} {session next : StreamSession lib.sse}
    {input : Timed StreamAnswer} (described : input.answer.Described)
    (phase : StreamPhase session) (sane : StreamSane factory args session)
    (stepped : session.answer lib input = some next) : StreamSane factory args next := by
  rcases streamStep_of_answer stepped with ⟨capture, captured, step⟩
  have checked := sane.checked capture captured
  generalize input.answer = answer at step described
  cases step with
  | acquireFailed message outstanding =>
      have answered := (phase.waiting_of_outstanding outstanding).answered outstanding
      refine ⟨sane.checked, sane.noError, ?_, ?_⟩
      · intro pulled
        simp [StreamSession.call, answered.idle] at pulled
      · intro state member
        simp only [StreamSession.call, delivered_append, answered.undelivered,
          List.nil_append, delivered_onDone, List.mem_singleton] at member
        subst member
        exact consistent_deliverFailure checked described true input.now
  | acquired slot outstanding =>
      have answered := (phase.waiting_of_outstanding outstanding).answered outstanding
      refine ⟨sane.checked, sane.noError, ?_, sane.consistent⟩
      intro pulled
      simp [issue, answered.idle] at pulled
  | started result outstanding =>
      have answered := (phase.waiting_of_outstanding outstanding).answered outstanding
      have recorded : StreamSane factory args
          ((session.settle .start).withStatus result.status) := by
        refine ⟨sane.checked, sane.noError, ?_, sane.consistent⟩
        intro pulled
        simp [withStatus, answered.idle] at pulled
      refine recorded.conclude (answered.withStatus result.status) lib.json checked input.now
        ?_ startVerdict_none
      intro arguments finishes
      have failed := startVerdict_failed described finishes
      refine ⟨.inr failed, ?_⟩
      intro success
      rw [failed.1] at success
      cases success
  | next result outstanding =>
      have answered := (phase.waiting_of_outstanding outstanding).answered outstanding
      exact (sane.settle .next).onNext answered lib.json checked input.now described
        (sane.status outstanding)
  | late result absent completed issued =>
      cases phase with
      | rejected _ _ inert =>
          rw [inert] at captured
          cases captured
      | waiting _ waiting => exact absurd completed waiting.not_completed
      | finished _ finished =>
          rw [onNext_of_done (finished.settled issued)]
          exact sane

theorem StreamSane.initial {lib : Libraries} (heap : StateHeap) (onDone : Bool)
    (callbacks : DeltaCallbacks) (now : Int) :
    StreamSane factory args
      (fetchStreamCompletion lib factory heap args onDone callbacks now) := by
  have launch := streamLaunch lib factory heap args onDone callbacks now
  generalize fetchStreamCompletion lib factory heap args onDone callbacks now = session
    at launch
  cases launch with
  | rejected => exact ⟨by simp, fun _ => rfl, by simp, by simp⟩
  | buildFailed checked failed =>
      refine ⟨by simp, fun _ => rfl, by simp, ?_⟩
      intro state member
      rw [delivered_onDone, List.mem_singleton] at member
      rw [member]
      exact consistent_deliverFailure checked (buildRequestPayload_error failed) true now
  | acquiring checked =>
      refine ⟨?_, fun _ => rfl, by simp, by simp⟩
      rintro _ ⟨⟩
      exact checked

end Stream

/-- Whatever the transport answers, as long as a set error code has a message,
every state that `FetchCompletion` or `FetchStreamCompletion` delivers is
consistent, and a failure of `FetchCompletion` carries the blank assistant
message. -/
theorem fetch_consistent (lib : Libraries) (factory : OaiCompletionFactory)
    (heap : StateHeap) (args : FetchArgs) (now : Int) :
    (∀ (cb : Bool) (inputs : List (Timed CompletionAnswer)) (session : CompletionSession),
      (∀ input ∈ inputs, input.answer.Described) →
      (completionMachine lib).run (fetchCompletion lib factory heap args cb now) inputs =
        some session →
      ∀ state ∈ session.calls, Consistent args false state ∧
        (state.log.status = .kFail → state.message = blankAssistant)) ∧
    (∀ (onDone : Bool) (callbacks : DeltaCallbacks) (inputs : List (Timed StreamAnswer))
      (session : StreamSession lib.sse),
      (∀ input ∈ inputs, input.answer.Described) →
      (streamMachine lib).run
        (fetchStreamCompletion lib factory heap args onDone callbacks now) inputs =
          some session →
      ∀ state ∈ delivered session.calls, Consistent args true state) := by
  constructor
  · intro cb inputs session described ran
    have sane := StepMachine.run_invariant_of _ (CompletionSane factory args)
      (fun _ _ _ good sane stepped => sane.step good stepped) described
      (CompletionSane.initial heap cb now) ran
    exact sane.consistent
  · intro onDone callbacks inputs session described ran
    have sane := StepMachine.run_invariant_of _
      (fun session => StreamPhase session ∧ StreamSane factory args session)
      (fun _ _ _ good both stepped =>
        ⟨both.1.step stepped, StreamSane.step good both.1 both.2 stepped⟩) described
      ⟨streamPhase_initial lib factory heap args onDone callbacks now,
        StreamSane.initial heap onDone callbacks now⟩ ran
    exact sane.2.consistent

/-- The server answers with a status other than 2xx and without a readable body. -/
def notFound : List (Timed CompletionAnswer) :=
  [⟨1, .acquire (.ok (.tcp 3))⟩, ⟨2, .done { response := { status := 404 } }⟩]

/-- The connection of a stream is refused. -/
def refused : List (Timed StreamAnswer) := [⟨1, .acquire (.error "refused")⟩]

theorem fetch_consistent_notFound_refused :
    (∃ session, (completionMachine Reference.twoPieces).run
        (fetchCompletion Reference.twoPieces Reference.factory Reference.heap Reference.args true
          0) notFound = some session ∧
      session.calls.length = 1 ∧
      ∀ state ∈ session.calls, Consistent Reference.args false state ∧
        (state.log.status = .kFail → state.message = blankAssistant)) ∧
    (∃ session, (streamMachine Reference.twoPieces).run
        (fetchStreamCompletion Reference.twoPieces Reference.factory Reference.heap Reference.args
          true Reference.bothCallbacks 0) refused = some session ∧
      (delivered session.calls).length = 1 ∧
      ∀ state ∈ delivered session.calls, Consistent Reference.args true state) := by
  have both := fetch_consistent Reference.twoPieces Reference.factory Reference.heap
    Reference.args 0
  constructor
  · have computed : ((completionMachine Reference.twoPieces).run
        (fetchCompletion Reference.twoPieces Reference.factory Reference.heap Reference.args true
          0) notFound).map (fun session => session.calls.length) = some 1 := by decide
    rcases Option.map_eq_some_iff.mp computed with ⟨session, ran, called⟩
    have described : ∀ input ∈ notFound, input.answer.Described := by
      simp [notFound, CompletionAnswer.Described, Described]
    exact ⟨session, ran, called, both.1 true notFound session described ran⟩
  · have computed : ((streamMachine Reference.twoPieces).run
        (fetchStreamCompletion Reference.twoPieces Reference.factory Reference.heap
          Reference.args true Reference.bothCallbacks 0) refused).map
        (fun session => (delivered session.calls).length) = some 1 := by decide
    rcases Option.map_eq_some_iff.mp computed with ⟨session, ran, called⟩
    have described : ∀ input ∈ refused, input.answer.Described := by
      simp [refused, StreamAnswer.Described]
    exact ⟨session, ran, called,
      both.2 true Reference.bothCallbacks refused session described ran⟩

end Boai.Completion
