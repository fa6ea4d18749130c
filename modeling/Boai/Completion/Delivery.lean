import Boai.Completion.StreamSteps

/-!
# Delivering a stream in `Next` results

From a session that waits for a `Next` result, the callback calls that follow
are a function of the events that the chunks of the results are parsed into and
of how the stream ends.
-/

namespace Boai.Completion

open Boai.Json StreamSession

/-- A callback call with the timestamp of a delivered state forgotten. -/
def StreamCallback.untimed : StreamCallback → StreamCallback
  | .onDone state => .onDone state.untimed
  | callback => callback

/-! ## Streams cut into results -/

/-- How a stream of bytes ends: with end of file, or with a cancelled or failed
result. -/
inductive Ending where
  | eof
  | aborted (result : HttpSseClientResult)

/-- The arguments of `finish` at the end of the stream. -/
def Ending.verdict : Ending → Bool × String
  | .eof => (true, "")
  | .aborted result => (abortVerdict result).getD (true, "")

/-- `Carries ending bytes results`: the results bring `bytes` in order, in pieces
of any size, and end the stream.  End of file may be flagged on a result that
brings the last bytes or on a later one without bytes. -/
inductive Carries : Ending → String → List (Timed HttpSseClientResult) → Prop where
  | eof {last : Timed HttpSseClientResult} (running : last.answer.cancelled = false)
      (atEof : last.answer.eof = true) :
      Carries .eof last.answer.chunk [last]
  | aborted {last : Timed HttpSseClientResult}
      (aborts : last.answer.cancelled = true ∨
        (last.answer.ec.isSome = true ∧ last.answer.eof = false))
      (noBytes : last.answer.chunk = "") :
      Carries (.aborted last.answer) "" [last]
  | piece {ending : Ending} {bytes : String} {rest : List (Timed HttpSseClientResult)}
      (now : Int) (status : Int) (chunk : String) (later : Carries ending bytes rest) :
      Carries ending (chunk ++ bytes) (⟨now, { status, chunk }⟩ :: rest)

/-- The answers that deliver a list of `Next` results. -/
def nextAnswers (results : List (Timed HttpSseClientResult)) : List (Timed StreamAnswer) :=
  results.map fun result => ⟨result.now, .next result.answer⟩

theorem isSome_abortVerdict {result : HttpSseClientResult}
    (aborts : result.cancelled = true ∨ (result.ec.isSome = true ∧ result.eof = false)) :
    ∃ verdict, abortVerdict result = some verdict := by
  rcases aborts with cancelled | ⟨failed, notEof⟩
  · exact ⟨(false, "stream cancelled"), by simp only [abortVerdict, cancelled, if_true]⟩
  · rcases Option.isSome_iff_exists.mp failed with ⟨message, ec⟩
    simp only [abortVerdict]
    split
    · exact ⟨_, rfl⟩
    · exact ⟨(false, message), by simp only [ec, notEof]⟩

theorem abortVerdict_of_eof {result : HttpSseClientResult}
    (running : result.cancelled = false) (atEof : result.eof = true) :
    abortVerdict result = none := by
  simp only [abortVerdict]
  rw [running, atEof]
  cases result.ec <;> rfl

section Pulling

variable {parser : SseParser}

/-- `parser->Feed(chunk)`, skipped for an empty chunk. -/
def feedChunk (parser : SseParser) (state : parser.State) (chunk : String) :
    parser.State × List SseEvent :=
  if chunk = "" then (state, []) else parser.feed state chunk

/-- The events of a sequence of chunks. -/
def fedEvents (parser : SseParser) : parser.State → List String → List SseEvent
  | _, [] => []
  | state, chunk :: rest =>
      (feedChunk parser state chunk).2 ++
        fedEvents parser (feedChunk parser state chunk).1 rest

/-- The chunks of a list of results. -/
def chunks (results : List (Timed HttpSseClientResult)) : List String :=
  results.map fun result => result.answer.chunk

/-- The events that one result hands to the loop, and the arguments of `finish` if
the result ends the stream. -/
def handedEvents (parser : SseParser) (state : parser.State) (result : HttpSseClientResult) :
    List SseEvent × Option (Bool × String) :=
  match abortVerdict result with
  | some verdict => ([], some verdict)
  | none => ((feedChunk parser state result.chunk).2, eofVerdict result)

/-- The same for a list of results, up to the one that ends the stream. -/
def arrivals (parser : SseParser) :
    parser.State → List (Timed HttpSseClientResult) → List SseEvent × Option (Bool × String)
  | _, [] => ([], none)
  | state, result :: rest =>
      let handed := handedEvents parser state result.answer
      match handed.2 with
      | some verdict => (handed.1, some verdict)
      | none =>
          let later := arrivals parser (feedChunk parser state result.answer.chunk).1 rest
          (handed.1 ++ later.1, later.2)

/-- Waiting for the result of a `Next`. -/
structure Pulling (session : StreamSession parser) : Prop where
  undelivered : delivered session.calls = []
  isOpen : session.agg.done = false
  outstanding : session.pending = [.next]
  issued : .next ∈ session.issued

theorem Pulling.answered {session : StreamSession parser} (pulling : Pulling session) :
    (session.settle .next).Answered :=
  ⟨pulling.undelivered, pulling.isOpen, by simp [settle, pulling.outstanding]⟩

/-- Going on pulling leads back to waiting. -/
theorem StreamSession.Answered.pulling {session : StreamSession parser}
    (answered : session.Answered) : Pulling session.pullNextStreamChunk :=
  ⟨answered.undelivered, answered.isOpen, by simp [pullNextStreamChunk, issue, answered.idle],
    by simp [pullNextStreamChunk, issue]⟩

theorem StreamSession.Waiting.pulling {session : StreamSession parser}
    (waiting : session.Waiting) (outstanding : session.pending = [.next]) :
    Pulling session := by
  have isNext : .next ∈ session.pending := by simp [outstanding]
  exact ⟨waiting.undelivered, waiting.isOpen, outstanding,
    (waiting.next_issued_iff isNext).mpr rfl⟩

/-- The arguments of `finish` after the loop has read what arrived, if it
finishes. -/
def finishArguments (json : JsonLib) (callbacks : DeltaCallbacks) (agg : StreamAggregate)
    (arrived : List SseEvent × Option (Bool × String)) : Option (Bool × String) :=
  (processEvents json callbacks arrived.1 agg).stop.or arrived.2

/-- The callback calls that processing `events` and then ending with `verdict`
adds, the delivered state without its timestamp. -/
def outcome (json : JsonLib) (capture : StreamCapture) (agg : StreamAggregate)
    (events : List SseEvent) (verdict : Bool × String) : List StreamCallback :=
  let loop := processEvents json capture.callbacks events agg
  let arguments := loop.stop.getD verdict
  loop.calls.map StreamCallback.untimed ++
    [.onDone (streamState json capture.toFetchCapture 0 arguments.1
      (loop.agg.closed arguments.2))]

section Outcome

variable {json : JsonLib} {capture : StreamCapture} {agg : StreamAggregate}
  {left : List SseEvent}

/-- After an event that stops the loop neither the events that follow nor the
ending matter. -/
theorem outcome_append_of_stopped
    (stopped : (processEvents json capture.callbacks left agg).stop.isSome)
    (right : List SseEvent) (verdict other : Bool × String) :
    outcome json capture agg (left ++ right) verdict = outcome json capture agg left other := by
  rcases Option.isSome_iff_exists.mp stopped with ⟨arguments, stop⟩
  simp only [outcome, processEvents_append, LoopResult.andThen, stop, Option.getD_some]

/-- Without one, the events that follow are processed from the aggregate
reached. -/
theorem outcome_append_of_running
    (running : (processEvents json capture.callbacks left agg).stop = none)
    (right : List SseEvent) (verdict : Bool × String) :
    outcome json capture agg (left ++ right) verdict =
      (processEvents json capture.callbacks left agg).calls.map StreamCallback.untimed ++
        outcome json capture (processEvents json capture.callbacks left agg).agg right
          verdict := by
  simp only [outcome, processEvents_append, LoopResult.andThen, running, List.map_append,
    List.append_assoc]

/-- Events followed by the end of the stream finish with the outcome of both. -/
theorem outcome_of_ended {events : List SseEvent} {verdict arguments : Bool × String}
    (finishes : finishArguments json capture.callbacks agg (events, some verdict) =
      some arguments) :
    outcome json capture agg events arguments = outcome json capture agg events verdict := by
  simp only [finishArguments] at finishes
  simp only [outcome]
  cases stop : (processEvents json capture.callbacks events agg).stop with
  | some stopped => rfl
  | none =>
      rw [stop, Option.none_or, Option.some.injEq] at finishes
      rw [Option.getD_none, Option.getD_none, finishes]

theorem finishArguments_append_of_running
    (running : (processEvents json capture.callbacks left agg).stop = none)
    (right : List SseEvent) (verdict : Option (Bool × String)) :
    finishArguments json capture.callbacks agg (left ++ right, verdict) =
      finishArguments json capture.callbacks
        (processEvents json capture.callbacks left agg).agg (right, verdict) := by
  simp only [finishArguments, processEvents_append, LoopResult.andThen, running]

end Outcome

section Arrivals

variable {json : JsonLib} {capture : StreamCapture} {agg : StreamAggregate}
  {state : parser.State} {result : Timed HttpSseClientResult}

theorem arrivals_cons_of_open
    (isOpen : (handedEvents parser state result.answer).2 = none)
    (rest : List (Timed HttpSseClientResult)) :
    arrivals parser state (result :: rest) =
      ((handedEvents parser state result.answer).1 ++
          (arrivals parser (feedChunk parser state result.answer.chunk).1 rest).1,
        (arrivals parser (feedChunk parser state result.answer.chunk).1 rest).2) := by
  simp only [arrivals, isOpen]

/-- Results after the one with which the call finishes do not matter. -/
theorem arrivals_cons_of_finished {arguments : Bool × String}
    (finishes : finishArguments json capture.callbacks agg
      (handedEvents parser state result.answer) = some arguments)
    (rest : List (Timed HttpSseClientResult)) :
    finishArguments json capture.callbacks agg (arrivals parser state (result :: rest)) =
        some arguments ∧
      outcome json capture agg (arrivals parser state (result :: rest)).1 arguments =
        outcome json capture agg (handedEvents parser state result.answer).1 arguments := by
  cases ends : (handedEvents parser state result.answer).2 with
  | some verdict =>
      have arrived : arrivals parser state (result :: rest) =
          handedEvents parser state result.answer := by
        simp only [arrivals, ends]
        rw [← ends]
      rw [arrived]
      exact ⟨finishes, rfl⟩
  | none =>
      have stop : (processEvents json capture.callbacks
          (handedEvents parser state result.answer).1 agg).stop = some arguments := by
        rw [finishArguments, ends, Option.or_none] at finishes
        exact finishes
      rw [arrivals_cons_of_open ends]
      constructor
      · simp only [finishArguments, processEvents_append, LoopResult.andThen, stop,
          Option.some_or]
      · exact outcome_append_of_stopped (Option.isSome_of_eq_some stop) _ _ _

end Arrivals

end Pulling

section Results

variable {lib : Libraries} {capture : StreamCapture} {session : StreamSession lib.sse}

/-- Late results change nothing. -/
theorem run_late (captured : session.captured = some capture) (finished : session.Finished)
    (issued : .next ∈ session.issued) (results : List (Timed HttpSseClientResult)) :
    (streamMachine lib).run session (nextAnswers results) = some session := by
  induction results with
  | nil => rfl
  | cons result rest ih =>
      refine StepMachine.run_cons_eq_some.mpr ⟨session, ?_, ih⟩
      have absent : .next ∉ session.pending := by simp [finished.idle]
      simp only [streamMachine, answer, captured, absent, if_false, finished.completed, issued,
        and_self, if_true, onNext_of_done (finished.settled issued)]

/-- A `Next` result is accepted while pulling. -/
theorem answer_of_pulling (captured : session.captured = some capture)
    (pulling : Pulling session) (now : Int) (result : HttpSseClientResult) :
    session.answer lib ⟨now, .next result⟩ =
      some ((session.settle .next).onNext lib.json capture now result) := by
  have outstanding : .next ∈ session.pending := by simp [pulling.outstanding]
  simp only [answer, captured, outstanding, if_true]

/-- Finishing an answered session appends one call. -/
theorem calls_conclude (answered : session.Answered) (json : JsonLib)
    (capture : FetchCapture) (now : Int) (arguments : Bool × String) :
    (session.conclude json capture now (some arguments)).calls.map StreamCallback.untimed =
      session.calls.map StreamCallback.untimed ++
        [.onDone (streamState json capture 0 arguments.1 (session.agg.closed arguments.2))] := by
  simp only [conclude, finish_of_open answered.isOpen, call, List.map_append]
  rfl

/-- A result that ends the stream, or brings an event at which the loop stops,
finishes the call. -/
theorem answer_of_stopping (captured : session.captured = some capture)
    (pulling : Pulling session) (now : Int) {result : HttpSseClientResult}
    {arguments : Bool × String}
    (stopped : finishArguments lib.json capture.callbacks session.agg
      (handedEvents lib.sse session.parserState result) = some arguments) :
    ∃ next, session.answer lib ⟨now, .next result⟩ = some next ∧
      next.captured = some capture ∧ next.Finished ∧ .next ∈ next.issued ∧
      next.calls.map StreamCallback.untimed = session.calls.map StreamCallback.untimed ++
        outcome lib.json capture session.agg
          (handedEvents lib.sse session.parserState result).1 arguments := by
  have answered := pulling.answered
  have step := answer_of_pulling captured pulling now result
  rw [onNext_of_open answered.isOpen] at step
  cases aborted : abortVerdict result with
  | some verdict =>
      have handed : handedEvents lib.sse session.parserState result = ([], some verdict) := by
        simp only [handedEvents, aborted]
      rw [handed] at stopped ⊢
      cases stopped
      rw [aborted] at step
      refine ⟨_, step, (answer_frame step).2.trans captured,
        answered.finished_finish lib.json capture.toFetchCapture now _ _, ?_, ?_⟩
      · simp only [conclude, finish_of_open answered.isOpen]
        exact pulling.issued
      · rw [calls_conclude answered]
        rfl
  | none =>
      have handed : handedEvents lib.sse session.parserState result =
          ((session.feed result.chunk).2, eofVerdict result) := by
        simp only [handedEvents, aborted]
        rfl
      rw [handed] at stopped ⊢
      have processed := answered.processChunk lib.json capture.callbacks result.chunk
      have loopStop : (((session.settle .next).processChunk lib.json capture.callbacks
          result.chunk).2.or (eofVerdict result)) = some arguments := stopped
      rw [aborted] at step
      simp only [loopStop] at step
      refine ⟨_, step, (answer_frame step).2.trans captured,
        processed.finished_finish lib.json capture.toFetchCapture now _ _, ?_, ?_⟩
      · simp only [conclude, finish_of_open processed.isOpen]
        exact pulling.issued
      · rw [calls_conclude processed]
        have isVerdict : (processEvents lib.json capture.callbacks (session.feed result.chunk).2
            session.agg).stop.getD arguments = arguments := by
          cases stop : (processEvents lib.json capture.callbacks (session.feed result.chunk).2
              session.agg).stop with
          | none => rfl
          | some _ =>
              rw [finishArguments, stop, Option.some_or] at stopped
              exact Option.some.inj stopped
        simp only [outcome, isVerdict, processChunk, call, List.map_append, List.append_assoc]
        rfl

/-- Any other result leads back to waiting. -/
theorem answer_of_running (captured : session.captured = some capture)
    (pulling : Pulling session) (now : Int) {result : HttpSseClientResult}
    (running : finishArguments lib.json capture.callbacks session.agg
      (handedEvents lib.sse session.parserState result) = none) :
    ∃ next, session.answer lib ⟨now, .next result⟩ = some next ∧
      next.captured = some capture ∧ Pulling next ∧
      next.agg = (processEvents lib.json capture.callbacks
        (handedEvents lib.sse session.parserState result).1 session.agg).agg ∧
      next.parserState = (feedChunk lib.sse session.parserState result.chunk).1 ∧
      next.calls = session.calls ++ (processEvents lib.json capture.callbacks
        (handedEvents lib.sse session.parserState result).1 session.agg).calls := by
  have answered := pulling.answered
  have step := answer_of_pulling captured pulling now result
  rw [onNext_of_open answered.isOpen] at step
  cases aborted : abortVerdict result with
  | some verdict =>
      simp [finishArguments, handedEvents, aborted] at running
  | none =>
      have handed : handedEvents lib.sse session.parserState result =
          ((session.feed result.chunk).2, eofVerdict result) := by
        simp only [handedEvents, aborted]
        rfl
      rw [handed] at running ⊢
      have processed := answered.processChunk lib.json capture.callbacks result.chunk
      have loopStop : (((session.settle .next).processChunk lib.json capture.callbacks
          result.chunk).2.or (eofVerdict result)) = none := running
      rw [aborted] at step
      simp only [loopStop] at step
      exact ⟨_, step, (answer_frame step).2.trans captured, processed.pulling, rfl, rfl, rfl⟩

/-- What any list of results leads to: the outcome of the events that arrive, or
more waiting after what they bring. -/
theorem run_results (captured : session.captured = some capture) (pulling : Pulling session)
    (results : List (Timed HttpSseClientResult)) :
    ∃ final, (streamMachine lib).run session (nextAnswers results) = some final ∧
      (∀ arguments, finishArguments lib.json capture.callbacks session.agg
          (arrivals lib.sse session.parserState results) = some arguments →
        final.calls.map StreamCallback.untimed = session.calls.map StreamCallback.untimed ++
          outcome lib.json capture session.agg
            (arrivals lib.sse session.parserState results).1 arguments) ∧
      (finishArguments lib.json capture.callbacks session.agg
          (arrivals lib.sse session.parserState results) = none →
        Pulling final ∧ final.calls = session.calls ++
          (processEvents lib.json capture.callbacks
            (arrivals lib.sse session.parserState results).1 session.agg).calls) := by
  induction results generalizing session with
  | nil =>
      apply Exists.intro session
      exact ⟨rfl, by rintro _ ⟨⟩, fun _ => ⟨pulling, (List.append_nil session.calls).symm⟩⟩
  | cons result rest ih =>
      cases here : finishArguments lib.json capture.callbacks session.agg
          (handedEvents lib.sse session.parserState result.answer) with
      | some arguments =>
          -- The remaining results find the session finished.
          rcases answer_of_stopping captured pulling result.now here with
            ⟨final, step, capturedNext, finished, issued, calls⟩
          have late := run_late capturedNext finished issued rest
          have whole := arrivals_cons_of_finished here rest
          refine ⟨final, StepMachine.run_cons_eq_some.mpr ⟨final, step, late⟩, ?_⟩
          rw [whole.1]
          constructor
          · intro others isArguments
            cases isArguments
            rw [calls, whole.2]
          · intro absent
            cases absent
      | none =>
          rcases answer_of_running captured pulling result.now here with
            ⟨next, step, capturedNext, pullingNext, agg, parserState, calls⟩
          rw [finishArguments, Option.or_eq_none_iff] at here
          rcases ih capturedNext pullingNext with ⟨final, ran, finishes, waits⟩
          rw [parserState, agg] at finishes waits
          refine ⟨final, StepMachine.run_cons_eq_some.mpr ⟨next, step, ran⟩, ?_⟩
          rw [arrivals_cons_of_open here.2, finishArguments_append_of_running here.1]
          constructor
          · intro arguments isArguments
            rw [finishes arguments isArguments, outcome_append_of_running here.1, calls,
              List.map_append, List.append_assoc]
          · intro running
            have waiting := waits running
            apply And.intro waiting.1
            rw [waiting.2, calls, List.append_assoc]
            simp only [processEvents_append, LoopResult.andThen, here.1]

/-- A delivered stream brings the events of its chunks and ends. -/
theorem arrivals_of_carries {parser : SseParser} {ending : Ending} {bytes : String}
    {results : List (Timed HttpSseClientResult)} (carries : Carries ending bytes results)
    (state : parser.State) :
    arrivals parser state results =
      (fedEvents parser state (chunks results), some ending.verdict) := by
  induction carries generalizing state with
  | @eof last running atEof =>
      simp only [arrivals, handedEvents, abortVerdict_of_eof running atEof, eofVerdict, atEof,
        if_true, chunks, List.map_singleton, fedEvents, List.append_nil, Ending.verdict]
  | @aborted last aborts noBytes =>
      rcases isSome_abortVerdict aborts with ⟨verdict, aborted⟩
      simp only [arrivals, handedEvents, aborted, chunks, List.map_singleton, noBytes, fedEvents,
        feedChunk, if_true, List.append_nil, Ending.verdict, Option.getD_some]
  | @piece ending bytes rest now status chunk later ih =>
      have isOpen : (handedEvents parser state { status, chunk }).2 = none := rfl
      rw [arrivals_cons_of_open isOpen, ih]
      rfl

/-- The callback calls depend on the events of the chunks and on the ending
only. -/
theorem run_carries {ending : Ending} {bytes : String}
    {results : List (Timed HttpSseClientResult)} (carries : Carries ending bytes results)
    (captured : session.captured = some capture) (pulling : Pulling session) :
    ∃ final, (streamMachine lib).run session (nextAnswers results) = some final ∧
      final.calls.map StreamCallback.untimed =
        session.calls.map StreamCallback.untimed ++
          outcome lib.json capture session.agg
            (fedEvents lib.sse session.parserState (chunks results)) ending.verdict := by
  rcases run_results captured pulling results with ⟨final, ran, finishes, _⟩
  rw [arrivals_of_carries carries] at finishes
  have ends : ∃ arguments, finishArguments lib.json capture.callbacks session.agg
      (fedEvents lib.sse session.parserState (chunks results), some ending.verdict) =
        some arguments := by
    rw [← Option.isSome_iff_exists, finishArguments, Option.isSome_or, Option.isSome_some,
      Bool.or_true]
  rcases ends with ⟨arguments, isArguments⟩
  apply Exists.intro final
  apply And.intro ran
  rw [finishes arguments isArguments, outcome_of_ended isArguments]

/-- A call whose connection and whose response header arrive, the latter with a
2xx status, waits for its first chunk with nothing read so far. -/
theorem run_opening {factory : OaiCompletionFactory} {heap : StateHeap} {args : FetchArgs}
    {onDone : Bool} {callbacks : DeltaCallbacks} {now : Int}
    (captured : (fetchStreamCompletion lib factory heap args onDone callbacks now).captured =
      some capture) {slot : StreamSlot} {header : HttpSseClientResult}
    (opens : startVerdict header = none) (acquireTime startTime : Int) :
    ∃ session, (streamMachine lib).run
        (fetchStreamCompletion lib factory heap args onDone callbacks now)
        [⟨acquireTime, .acquire (.ok slot)⟩, ⟨startTime, .start header⟩] = some session ∧
      session.captured = some capture ∧ Pulling session ∧ session.calls = [] ∧
      session.agg = { httpStatusCode := header.status } ∧
      session.parserState = lib.sse.init ∧ capture.callbacks = callbacks := by
  have launch := streamLaunch lib factory heap args onDone callbacks now
  generalize fetchStreamCompletion lib factory heap args onDone callbacks now = initial
    at launch captured
  cases launch with
  | rejected | buildFailed => cases captured
  | acquiring checked built registered =>
      cases captured
      refine ⟨_, StepMachine.run_cons_eq_some.mpr ⟨_, rfl,
        StepMachine.run_cons_eq_some.mpr ⟨_, rfl, rfl⟩⟩, ?_⟩
      rw [onStart_eq, opens]
      exact ⟨rfl, ⟨rfl, rfl, rfl, by simp [conclude, pullNextStreamChunk, issue]⟩, rfl, rfl, rfl,
        rfl⟩

end Results

end Boai.Completion
