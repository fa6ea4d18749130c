import Boai.Completion.StreamSteps
import Boai.Reference

/-!
# A stream call completes exactly once

The phases of a session decide what has been called and what is outstanding.
Whatever the transport answers, a call that has not completed waits for exactly
one answer and accepts it, and a completed call stays as it is.
-/

namespace Boai.Completion

open Boai.Json StreamSession

/-- The request an answer belongs to. -/
def StreamAnswer.kind : StreamAnswer → RequestKind
  | .acquire _ => .acquire
  | .start _ => .start
  | .next _ => .next

variable {lib : Libraries}

/-- An answer to an outstanding request is accepted. -/
theorem StreamSession.answer_isSome {session : StreamSession lib.sse}
    {capture : StreamCapture} (captured : session.captured = some capture)
    {input : Timed StreamAnswer} (outstanding : input.answer.kind ∈ session.pending) :
    (session.answer lib input).isSome := by
  rcases input with ⟨now, answer⟩
  cases answer <;> simp_all [StreamSession.answer, StreamAnswer.kind]

/-- A finished session is left alone by any further answers. -/
theorem StreamSession.Finished.run {session final : StreamSession lib.sse}
    (finished : session.Finished) {inputs : List (Timed StreamAnswer)}
    (ran : (streamMachine lib).run session inputs = some final) : final = session := by
  refine StepMachine.run_invariant (fun other => other = session) ?_ rfl ran
  intro other input next same stepped
  rcases streamStep_of_answer stepped with ⟨capture, _, step⟩
  rw [same] at step
  exact finished.step step

/-- Nothing is called before completion that delivers a state. -/
theorem StreamSession.Waiting.not_onDone {session : StreamSession lib.sse}
    (waiting : session.Waiting) {before after : List StreamCallback}
    {state : OaiCompletionState} : session.calls ≠ before ++ .onDone state :: after := by
  intro split
  have member : state ∈ delivered session.calls := by
    rw [mem_delivered, split]
    simp
  rw [waiting.undelivered] at member
  cases member

/-- `on_done` is the last call. -/
theorem StreamSession.Finished.onDone_last {session : StreamSession lib.sse}
    (finished : session.Finished) {before after : List StreamCallback}
    {state : OaiCompletionState} (split : session.calls = before ++ .onDone state :: after) :
    after = [] := by
  rcases finished.lastCall with ⟨calls, last, callsEq, undelivered⟩
  rcases List.eq_nil_or_concat after with empty | ⟨front, final, concat⟩
  · exact empty
  · -- Then the delivered state would lie before the last call.
    rw [callsEq, concat] at split
    have assoc : calls ++ [.onDone last] = (before ++ .onDone state :: front) ++ [final] := by
      simpa using split
    have member : state ∈ delivered calls := by
      rw [mem_delivered, (List.append_inj' assoc rfl).1]
      simp
    rw [undelivered] at member
    cases member

/-- In every state of every run of `FetchStreamCompletion`: `on_done` has been
called at most once and is the last call; an accepted call either has not
completed, waits for exactly one of `Acquire`, `Start` and `Next` and takes
whatever it is answered, or has completed, waits for nothing and neither calls
nor issues anything any more; a call that returned false has called nothing. -/
theorem fetchStreamCompletion_exactlyOnce (lib : Libraries)
    (factory : OaiCompletionFactory) (heap : StateHeap) (args : FetchArgs) (onDone : Bool)
    (callbacks : DeltaCallbacks) (now : Int) (inputs : List (Timed StreamAnswer))
    (session : StreamSession lib.sse)
    (ran : (streamMachine lib).run
      (fetchStreamCompletion lib factory heap args onDone callbacks now) inputs =
        some session) :
    (delivered session.calls).length ≤ 1 ∧
      (∀ before state after, session.calls = before ++ .onDone state :: after → after = []) ∧
      ((fetchStreamCompletion lib factory heap args onDone callbacks now).accepted = true →
        (¬session.Completed ∧
          ∃ kind, session.pending = [kind] ∧
            ∀ input : Timed StreamAnswer, input.answer.kind = kind →
              (session.answer lib input).isSome) ∨
        (session.Completed ∧ session.pending = [] ∧
          ∀ more final, (streamMachine lib).run session more = some final →
            final.issued = session.issued ∧ final.calls = session.calls)) ∧
      ((fetchStreamCompletion lib factory heap args onDone callbacks now).accepted = false →
        session.calls = []) := by
  have returned : session.accepted =
      (fetchStreamCompletion lib factory heap args onDone callbacks now).accepted :=
    StepMachine.run_invariant
      (fun other => other.accepted =
        (fetchStreamCompletion lib factory heap args onDone callbacks now).accepted)
      (fun _ _ _ same stepped => (answer_frame stepped).1.trans same) rfl ran
  rw [← returned]
  cases streamPhase_of_run ran with
  | rejected rejected untouched inert =>
      refine ⟨by simp [untouched], ?_, ?_, fun _ => untouched⟩
      · intro before state after split
        simp [untouched] at split
      · intro accepted
        rw [rejected] at accepted
        cases accepted
  | waiting accepted waiting =>
      refine ⟨by simp [waiting.undelivered], ?_, ?_, ?_⟩
      · intro before state after split
        exact absurd split waiting.not_onDone
      · intro _
        rcases waiting.outstanding with ⟨kind, pending, _⟩
        rcases live_of_run ran waiting with ⟨capture, captured⟩
        refine .inl ⟨waiting.not_completed, kind, pending, ?_⟩
        intro input same
        exact answer_isSome captured (by rw [same, pending]; exact List.mem_singleton_self _)
      · intro rejected
        rw [accepted] at rejected
        cases rejected
  | finished accepted finished =>
      rcases finished.lastCall with ⟨calls, last, callsEq, undelivered⟩
      refine ⟨by simp [callsEq, undelivered], ?_, ?_, ?_⟩
      · intro before state after split
        exact finished.onDone_last split
      · intro _
        refine .inr ⟨finished.completed, finished.idle, ?_⟩
        intro more final ranOn
        rw [finished.run ranOn]
        exact ⟨rfl, rfl⟩
      · intro rejected
        rw [accepted] at rejected
        cases rejected

/-- A stream that is cancelled while its first chunk is awaited, with the
cancellation delivered twice. -/
def cancelledTwice : List (Timed StreamAnswer) :=
  [⟨1, .acquire (.ok (.tcp 3))⟩, ⟨2, .start { status := 200 }⟩,
    ⟨3, .next { cancelled := true }⟩, ⟨4, .next { cancelled := true }⟩]

theorem fetchStreamCompletion_exactlyOnce_cancelled :
    ∃ session, (streamMachine (Reference.libraries [])).run
        (fetchStreamCompletion (Reference.libraries []) Reference.factory Reference.heap
          Reference.args true Reference.bothCallbacks 0) cancelledTwice = some session ∧
      (delivered session.calls).length ≤ 1 := by
  obtain ⟨session, ran⟩ := Option.isSome_iff_exists.mp
    (show ((streamMachine (Reference.libraries [])).run
      (fetchStreamCompletion (Reference.libraries []) Reference.factory Reference.heap
        Reference.args true Reference.bothCallbacks 0) cancelledTwice).isSome by decide)
  exact ⟨session, ran, (fetchStreamCompletion_exactlyOnce _ _ _ _ _ _ _ _ _ ran).1⟩

end Boai.Completion
