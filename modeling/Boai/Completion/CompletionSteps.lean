import Boai.Completion.Fetch

/-!
# What one answer does to a completion session

The counterpart of the stream steps for `FetchCompletion`, whose handlers either
deliver a state or start the task.
-/

namespace Boai.Completion

open Boai.Json

/-- What the argument check of both entry points lets through. -/
theorem FetchCapture.check_eq_some {factory : OaiCompletionFactory} {args : FetchArgs}
    {capture : FetchCapture} (checked : FetchCapture.check factory args = some capture) :
    args.state = some capture.state ∧ args.modelInfo = some capture.modelInfo ∧
      factory.info = some capture.info ∧ args.tools = capture.tools ∧
      capture.info.value.baseUrl ≠ "" ∧ capture.modelInfo.value.model ≠ "" := by
  simp only [FetchCapture.check] at checked
  split at checked
  next state modelInfo info hasState hasModelInfo hasInfo =>
    split at checked
    next => cases checked
    next complete =>
      rw [not_or] at complete
      cases checked
      exact ⟨hasState, hasModelInfo, hasInfo, rfl, complete.1, complete.2⟩
  next => cases checked

/-- The exits of `FetchCompletion` before any answer. -/
inductive CompletionLaunch (lib : Libraries) (factory : OaiCompletionFactory)
    (heap : StateHeap) (args : FetchArgs) (now : Int) : CompletionSession → Prop where
  | rejected : CompletionLaunch lib factory heap args now { accepted := false }
  | buildFailed {capture : FetchCapture} {error : String}
      (checked : FetchCapture.check factory args = some capture)
      (failed : capture.payload lib.json heap false = .error error) :
      CompletionLaunch lib factory heap args now
        { accepted := true
          calls := [capture.deliverFailure false now error] }
  | acquiring {capture : FetchCapture} {requestBody : String}
      (checked : FetchCapture.check factory args = some capture)
      (built : capture.payload lib.json heap false = .ok requestBody) :
      CompletionLaunch lib factory heap args now
        { accepted := true
          captured := some (capture, requestBody)
          pending := [.acquire]
          issued := [.acquire capture.pipeline.builder
            (capture.assembled lib.http).connectionKey] }

theorem completionLaunch (lib : Libraries) (factory : OaiCompletionFactory)
    (heap : StateHeap) (args : FetchArgs) (cb : Bool) (now : Int) :
    CompletionLaunch lib factory heap args now
      (fetchCompletion lib factory heap args cb now) := by
  simp only [fetchCompletion]
  split
  next capture checked =>
    split
    next error failed => exact .buildFailed checked failed
    next requestBody built => exact .acquiring checked built
  next => exact .rejected

/-- One accepted answer: the handler that runs. -/
inductive CompletionStep (lib : Libraries) (capture : FetchCapture) (requestBody : String)
    (now : Int) (session : CompletionSession) : CompletionAnswer → CompletionSession → Prop where
  | acquireFailed (message : String) (outstanding : .acquire ∈ session.pending) :
      CompletionStep lib capture requestBody now session (.acquire (.error message))
        ((session.settle .acquire).call (capture.deliverFailure false now message))
  | acquired (slot : StreamSlot) (outstanding : .acquire ∈ session.pending) :
      CompletionStep lib capture requestBody now session (.acquire (.ok slot))
        ((session.settle .acquire).start
          (completionRequest lib.http capture requestBody slot))
  | done (result : HttpClientResult) (outstanding : .start ∈ session.pending) :
      CompletionStep lib capture requestBody now session (.done result)
        ((session.settle .start).call (completionState lib.json capture now result))

/-- Inversion of a step of the completion machine. -/
theorem completionStep_of_answer {lib : Libraries} {session next : CompletionSession}
    {input : Timed CompletionAnswer} (stepped : session.answer lib input = some next) :
    ∃ capture requestBody, session.captured = some (capture, requestBody) ∧
      CompletionStep lib capture requestBody input.now session input.answer next := by
  simp only [CompletionSession.answer] at stepped
  split at stepped
  next => cases stepped
  next capture requestBody captured =>
    refine ⟨capture, requestBody, captured, ?_⟩
    split at stepped
    next result isAcquire =>
      rw [isAcquire]
      split at stepped
      next outstanding =>
        cases stepped
        cases result with
        | error message => exact .acquireFailed message outstanding
        | ok slot => exact .acquired slot outstanding
      next => cases stepped
    next result isDone =>
      rw [isDone]
      split at stepped
      next outstanding =>
        cases stepped
        exact .done result outstanding
      next => cases stepped

/-- No answer changes what the call returned or what its handlers captured. -/
theorem CompletionSession.answer_frame {lib : Libraries} {session next : CompletionSession}
    {input : Timed CompletionAnswer} (stepped : session.answer lib input = some next) :
    next.accepted = session.accepted ∧ next.captured = session.captured := by
  rcases completionStep_of_answer stepped with ⟨capture, requestBody, captured, step⟩
  generalize input.answer = answer at step
  cases step with
  | acquireFailed | acquired | done => exact ⟨rfl, rfl⟩

end Boai.Completion
