import Boai.Completion.CompletionSteps
import Boai.Reference

/-!
# The state delivered for a body

The counterpart of the delivered stream for `FetchCompletion`: a call whose
connection succeeds and whose task is answered hands over one state, which for a
2xx response is the decoded body.
-/

namespace Boai.Completion

open Boai.Json

/-- `Completes lib result state`: a call of `FetchCompletion` that was connected
and whose task ended with `result` gave `state` to its callback. -/
inductive Completes (lib : Libraries) (result : HttpClientResult) (state : OaiCompletionState) :
    Prop where
  | intro {factory : OaiCompletionFactory} {heap : StateHeap} {args : FetchArgs} {cb : Bool}
      {now acquireTime doneTime : Int} {slot : StreamSlot} {final : CompletionSession}
      (ran : (completionMachine lib).run (fetchCompletion lib factory heap args cb now)
        [⟨acquireTime, .acquire (.ok slot)⟩, ⟨doneTime, .done result⟩] = some final)
      (delivers : state ∈ final.calls)

/-- The server answered, with a 2xx status. -/
structure Answered2xx (result : HttpClientResult) : Prop where
  noError : result.ec = none
  running : result.cancelled = false
  status : isHttpSuccessStatus result.response.status = true

/-- The log that the decoder of a body starts from. -/
def responseLog (capture : FetchCapture) (now : Int) (response : HttpResponse) :
    OaiRequestLog :=
  { buildLogSkeleton capture.modelInfo.value false now with
    httpStatusCode := response.status
    requestId := (response.find "x-request-id").getD "" }

/-- What `ParseCompletionResponseBody` makes of a response. -/
def decodedResponse (json : JsonLib) (capture : FetchCapture) (now : Int)
    (response : HttpResponse) : BodyResult :=
  parseCompletionResponseBody json response.body blankAssistant
    (responseLog capture now response) ""

/-- The log after the verdict on a body. -/
def BodyResult.settledLog (parsed : BodyResult) : OaiRequestLog :=
  if parsed.accepted then { parsed.log with status := .kSuccess }
  else { parsed.log with errorMessage := parsed.error }

theorem completionState_of_answered2xx (json : JsonLib) (capture : FetchCapture) (now : Int)
    {result : HttpClientResult} (answered : Answered2xx result) :
    completionState json capture now result =
      capture.deliver (decodedResponse json capture now result.response).message
        (decodedResponse json capture now result.response).settledLog := by
  let parsed := decodedResponse json capture now result.response
  have decided : completionState json capture now result =
      if parsed.accepted then
        capture.deliver parsed.message { parsed.log with status := .kSuccess }
      else capture.deliver parsed.message { parsed.log with errorMessage := parsed.error } := by
    simp only [completionState, answered.noError, answered.running, answered.status,
      Bool.false_eq_true, Bool.not_true, if_false]
    rfl
  rw [decided, BodyResult.settledLog]
  cases parsed.accepted with
  | true => rfl
  | false => rfl

/-- What an answered call hands over. -/
theorem Completes.eq_completionState {lib : Libraries} {result : HttpClientResult}
    {state : OaiCompletionState} (completes : Completes lib result state) :
    ∃ capture now, state = completionState lib.json capture now result := by
  cases completes with
  | @intro factory heap args cb now acquireTime doneTime slot final ran delivers =>
      have launch := completionLaunch lib factory heap args cb now
      generalize fetchCompletion lib factory heap args cb now = initial at launch ran
      cases launch with
      | rejected | buildFailed => cases ran
      | @acquiring capture requestBody checked built =>
          cases ran
          exact ⟨capture, doneTime, List.mem_singleton.mp delivers⟩

/-- The state delivered for a 2xx response. -/
theorem Completes.eq_deliver {lib : Libraries} {result : HttpClientResult}
    {state : OaiCompletionState} (completes : Completes lib result state)
    (answered : Answered2xx result) :
    ∃ (capture : FetchCapture) (now : Int), state =
      capture.deliver (decodedResponse lib.json capture now result.response).message
        (decodedResponse lib.json capture now result.response).settledLog := by
  rcases completes.eq_completionState with ⟨capture, now, isState⟩
  rw [completionState_of_answered2xx lib.json capture now answered] at isState
  exact ⟨capture, now, isState⟩

/-! ## Concrete responses -/

/-- A response with a body. -/
def withBody (body : String) : HttpClientResult := { response := { status := 200, body } }

/-- The states that a call to the local provider gives to its callback. -/
def calledBack (lib : Libraries) (result : HttpClientResult) :
    Option (List OaiCompletionState) :=
  ((completionMachine lib).run
    (fetchCompletion lib Reference.factory Reference.heap Reference.args true 0)
    [⟨1, .acquire (.ok (.tcp 3))⟩, ⟨2, .done result⟩]).map CompletionSession.calls

theorem exists_completes {lib : Libraries} {result : HttpClientResult} {β : Type}
    (read : OaiCompletionState → β) {value : β}
    (computed : (calledBack lib result).map (List.map read) = some [value]) :
    ∃ state, Completes lib result state ∧ read state = value := by
  rcases Option.map_eq_some_iff.mp computed with ⟨states, called, isValue⟩
  rcases Option.map_eq_some_iff.mp called with ⟨final, ran, listed⟩
  rcases List.map_eq_singleton_iff.mp isValue with ⟨state, single, isRead⟩
  have delivers : state ∈ final.calls := by
    rw [listed, single]
    exact List.mem_singleton_self state
  exact ⟨state, .intro ran delivers, isRead⟩

end Boai.Completion
