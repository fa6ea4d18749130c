import Boai.Completion.Delivery
import Boai.Reference

/-!
# The result does not depend on how the network cuts the stream

Two ways of cutting the same bytes feed the parser the same events, and events
after the one that stops the loop are never looked at.
-/

namespace Boai.Completion

open Boai.Json StreamSession

section Feeding

variable {parser : SseParser}

/-- The events of a text are those of its parts, where an empty part is not fed
at all. -/
theorem feedChunk_append (incremental : parser.Incremental) (state : parser.State)
    (left right : String) :
    (feedChunk parser state (left ++ right)).2 = (feedChunk parser state left).2 ++
      (feedChunk parser (feedChunk parser state left).1 right).2 := by
  by_cases leftEmpty : left = ""
  · simp [feedChunk, leftEmpty]
  · by_cases rightEmpty : right = ""
    · simp [feedChunk, leftEmpty, rightEmpty]
    · simp [feedChunk, leftEmpty, rightEmpty, incremental state left right]

/-- Chunks that carry the same bytes are parsed into the same events. -/
theorem fedEvents_of_carries (incremental : parser.Incremental) {ending : Ending}
    {bytes : String} {results : List (Timed HttpSseClientResult)}
    (carries : Carries ending bytes results) (state : parser.State) :
    fedEvents parser state (chunks results) = (feedChunk parser state bytes).2 := by
  induction carries generalizing state with
  | eof => exact List.append_nil _
  | aborted aborts noBytes =>
      rw [chunks, List.map_singleton, noBytes]
      exact List.append_nil _
  | piece now status chunk later ih =>
      rw [feedChunk_append incremental, ← ih]
      rfl

end Feeding

/-- `left` and `right` are accepted by a session and lead to the same callback
calls, the timestamp of the delivered state aside. -/
def SameCalls {lib : Libraries} (session : StreamSession lib.sse)
    (left right : List (Timed HttpSseClientResult)) : Prop :=
  ∃ finalLeft finalRight,
    (streamMachine lib).run session (nextAnswers left) = some finalLeft ∧
    (streamMachine lib).run session (nextAnswers right) = some finalRight ∧
    finalLeft.calls.map StreamCallback.untimed = finalRight.calls.map StreamCallback.untimed

/-- Whenever a call of `FetchStreamCompletion` waits for a `Next` result: any two
sequences of results that carry the same bytes to the same ending lead to the
same callback calls and the same delivered state, and once the bytes contain an
event at which processing stops, the bytes that follow and the ending do not
matter. -/
theorem fetchStreamCompletion_chunking (lib : Libraries)
    (incremental : lib.sse.Incremental) (factory : OaiCompletionFactory) (heap : StateHeap)
    (args : FetchArgs) (onDone : Bool) (callbacks : DeltaCallbacks) (now : Int)
    (inputs : List (Timed StreamAnswer)) (session : StreamSession lib.sse)
    (ran : (streamMachine lib).run
      (fetchStreamCompletion lib factory heap args onDone callbacks now) inputs =
        some session)
    (outstanding : session.pending = [.next]) :
    (∀ ending bytes left right, Carries ending bytes left → Carries ending bytes right →
      SameCalls session left right) ∧
    (∀ before afterLeft afterRight endingLeft endingRight left right,
      (∃ event ∈ (session.feed before).2, Stops lib.json event.data) →
      Carries endingLeft (before ++ afterLeft) left →
      Carries endingRight (before ++ afterRight) right → SameCalls session left right) := by
  have isNext : .next ∈ session.pending := by simp [outstanding]
  have waiting := (streamPhase_of_run ran).waiting_of_outstanding isNext
  have pulling := waiting.pulling outstanding
  rcases live_of_run ran waiting with ⟨capture, captured⟩
  constructor
  · intro ending bytes left right carriesLeft carriesRight
    rcases run_carries carriesLeft captured pulling with ⟨finalLeft, ranLeft, callsLeft⟩
    rcases run_carries carriesRight captured pulling with ⟨finalRight, ranRight, callsRight⟩
    rw [fedEvents_of_carries incremental carriesLeft] at callsLeft
    rw [fedEvents_of_carries incremental carriesRight] at callsRight
    exact ⟨finalLeft, finalRight, ranLeft, ranRight, callsLeft.trans callsRight.symm⟩
  · intro before afterLeft afterRight endingLeft endingRight left right stops carriesLeft
      carriesRight
    rcases run_carries carriesLeft captured pulling with ⟨finalLeft, ranLeft, callsLeft⟩
    rcases run_carries carriesRight captured pulling with ⟨finalRight, ranRight, callsRight⟩
    refine ⟨finalLeft, finalRight, ranLeft, ranRight, ?_⟩
    have stopped : (processEvents lib.json capture.callbacks
        (feedChunk lib.sse session.parserState before).2 session.agg).stop.isSome :=
      (processEvents_stop_isSome_iff lib.json capture.callbacks _ session.agg).mpr stops
    rw [callsLeft, callsRight, fedEvents_of_carries incremental carriesLeft,
      fedEvents_of_carries incremental carriesRight, feedChunk_append incremental,
      feedChunk_append incremental,
      outcome_append_of_stopped stopped _ _ (true, ""),
      outcome_append_of_stopped stopped _ _ (true, "")]

/-- A stream of two events in one chunk that is flagged as the last one. -/
def atOnce : List (Timed HttpSseClientResult) :=
  [⟨3, { chunk := Reference.event "1" ++ Reference.event "2", eof := true }⟩]

/-- The same stream, cut within its first line, with empty chunks. -/
def inPieces : List (Timed HttpSseClientResult) :=
  [⟨3, { chunk := "da" }⟩, ⟨4, { chunk := "" }⟩,
    ⟨5, { chunk := "ta: 1\n\n" ++ Reference.event "2" }⟩, ⟨6, { eof := true }⟩]

theorem fetchStreamCompletion_chunking_twoPieces :
    ∃ session : StreamSession Reference.twoPieces.sse,
      session.pending = [.next] ∧ SameCalls session atOnce inPieces := by
  let initial := fetchStreamCompletion Reference.twoPieces Reference.factory Reference.heap
    Reference.args true Reference.bothCallbacks 0
  have computed : ((streamMachine Reference.twoPieces).run initial Reference.opened).map
      (fun session => session.pending) = some [.next] := by decide
  rcases Option.map_eq_some_iff.mp computed with ⟨session, ran, outstanding⟩
  have carriesRight : Carries .eof
      ("da" ++ ("" ++ ("ta: 1\n\n" ++ Reference.event "2" ++ ""))) inPieces :=
    .piece 3 0 "da" (.piece 4 0 "" (.piece 5 0 _ (@Carries.eof ⟨6, { eof := true }⟩ rfl rfl)))
  have sameBytes : "da" ++ ("" ++ ("ta: 1\n\n" ++ Reference.event "2" ++ "")) =
      Reference.event "1" ++ Reference.event "2" := by decide
  rw [sameBytes] at carriesRight
  exact ⟨session, outstanding,
    (fetchStreamCompletion_chunking Reference.twoPieces Reference.sse_incremental
      Reference.factory Reference.heap Reference.args true Reference.bothCallbacks 0
      Reference.opened session ran outstanding).1 .eof _ atOnce inPieces (.eof rfl rfl)
      carriesRight⟩

end Boai.Completion
