import Boai.Lib.Interleaving
import Boai.Completion.History
import Boai.Completion.StreamResult

/-!
# A fetch sees nothing of its caller but the message chain

A call reads the caller's state once, when it collects the messages of the
request, and otherwise only hands the pointer on to the state it delivers.
Leading that link elsewhere is a map of sessions that every answer respects, so
calls from two histories with the same messages, in whatever stores, send the
same requests and deliver the same states up to the link.
-/

namespace Boai.Completion

open Boai.Json

/-! ## Leading the link elsewhere -/

/-- The node with another predecessor. -/
def OaiCompletionState.relink (state : StateRef) (node : OaiCompletionState) :
    OaiCompletionState :=
  { node with previous := some state }

def StreamCallback.relink (state : StateRef) : StreamCallback → StreamCallback
  | .onDone node => .onDone (node.relink state)
  | callback => callback

/-- The capture of a call from another state. -/
def FetchCapture.relink (state : StateRef) (capture : FetchCapture) : FetchCapture :=
  { capture with state }

def StreamCapture.relink (state : StateRef) (capture : StreamCapture) : StreamCapture :=
  { capture with toFetchCapture := capture.toFetchCapture.relink state }

def CompletionSession.relink (state : StateRef) (session : CompletionSession) :
    CompletionSession :=
  { session with
    captured := session.captured.map fun captured => (captured.1.relink state, captured.2)
    calls := session.calls.map (OaiCompletionState.relink state) }

def StreamSession.relink {parser : SseParser} (state : StateRef)
    (session : StreamSession parser) : StreamSession parser :=
  { session with
    captured := session.captured.map (StreamCapture.relink state)
    calls := session.calls.map (StreamCallback.relink state) }

def FetchSession.relink {parser : SseParser} (state : StateRef) :
    FetchSession parser → FetchSession parser
  | .completion session => .completion (session.relink state)
  | .stream session => .stream (session.relink state)

/-! ## Sessions of `FetchCompletion` -/

theorem completionState_relink (json : JsonLib) (capture : FetchCapture) (state : StateRef)
    (now : Int) (result : HttpClientResult) :
    completionState json (capture.relink state) now result =
      (completionState json capture now result).relink state := by
  simp only [completionState, FetchCapture.relink]
  cases result.ec with
  | some message => rfl
  | none =>
      simp only [apply_ite (OaiCompletionState.relink state)]
      rfl

theorem CompletionSession.relink_call (state : StateRef) (session : CompletionSession)
    (node : OaiCompletionState) :
    (session.call node).relink state = (session.relink state).call (node.relink state) := by
  simp only [relink, call, List.map_append, List.map_cons, List.map_nil]

theorem CompletionSession.answer_relink (lib : Libraries) (state : StateRef)
    (session : CompletionSession) (input : Timed CompletionAnswer) :
    (session.relink state).answer lib input =
      (session.answer lib input).map (CompletionSession.relink state) := by
  have pending : (session.relink state).pending = session.pending := rfl
  have settled : ∀ kind, (session.relink state).settle kind = (session.settle kind).relink state :=
    fun _ => rfl
  cases captured : session.captured with
  | none =>
      have unset : (session.relink state).captured = none := by simp [relink, captured]
      simp only [answer, captured, unset, Option.map_none]
  | some capture =>
      have moved : (session.relink state).captured = some (capture.1.relink state, capture.2) := by
        simp [relink, captured]
      simp only [answer, captured, moved, pending, settled]
      cases input.answer with
      | acquire result =>
          simp only
          split
          · rw [Option.map_some]
            congr 1
            cases result with
            | error message =>
                simp only [onAcquire, relink_call]
                rfl
            | ok slot => rfl
          · rfl
      | done result =>
          simp only
          split
          · rw [Option.map_some, relink_call, completionState_relink]
          · rfl

/-! ## Sessions of `FetchStreamCompletion` -/

theorem delivered_relink (state : StateRef) (calls : List StreamCallback) :
    delivered (calls.map (StreamCallback.relink state)) =
      (delivered calls).map (OaiCompletionState.relink state) := by
  simp only [delivered, List.filterMap_map, List.map_filterMap]
  apply List.filterMap_congr
  intro callback _
  cases callback <;> rfl

/-- Calls that deliver no state stay as they are. -/
theorem relink_of_undelivered {calls : List StreamCallback} (undelivered : delivered calls = [])
    (state : StateRef) : calls.map (StreamCallback.relink state) = calls := by
  have unchanged : ∀ callback ∈ calls, callback.relink state = id callback := by
    intro callback member
    cases callback with
    | onDone node =>
        rw [delivered, List.filterMap_eq_nil_iff] at undelivered
        exact absurd (undelivered _ member) (by simp)
    | onDelta text => rfl
    | onReasoningDelta text => rfl
  rw [List.map_congr_left unchanged, List.map_id]

namespace StreamSession

variable {parser : SseParser}

theorem relink_call (state : StateRef) (session : StreamSession parser)
    (calls : List StreamCallback) :
    (session.call calls).relink state =
      (session.relink state).call (calls.map (StreamCallback.relink state)) := by
  simp only [relink, call, List.map_append]

theorem conclude_relink (json : JsonLib) (capture : FetchCapture) (state : StateRef) (now : Int)
    (verdict : Option (Bool × String)) (session : StreamSession parser) :
    (session.relink state).conclude json (capture.relink state) now verdict =
      (session.conclude json capture now verdict).relink state := by
  cases verdict with
  | none => rfl
  | some arguments =>
      have agg : (session.relink state).agg = session.agg := rfl
      cases isDone : session.agg.done with
      | true => simp only [conclude, finish, agg, isDone, if_true]
      | false =>
          simp only [conclude]
          rw [finish_of_open isDone, finish_of_open (agg ▸ isDone), relink_call]
          rfl

theorem processChunk_relink (json : JsonLib) (callbacks : DeltaCallbacks) (state : StateRef)
    (session : StreamSession parser) (chunk : String) :
    (session.relink state).processChunk json callbacks chunk =
      ((session.processChunk json callbacks chunk).1.relink state,
        (session.processChunk json callbacks chunk).2) := by
  have fed : (session.relink state).feed chunk = session.feed chunk := rfl
  simp only [processChunk, fed, relink_call]
  rw [relink_of_undelivered (delivered_processEvents _ _)]
  rfl

theorem onNext_relink (json : JsonLib) (capture : StreamCapture) (state : StateRef) (now : Int)
    (result : HttpSseClientResult) (session : StreamSession parser) :
    (session.relink state).onNext json (capture.relink state) now result =
      (session.onNext json capture now result).relink state := by
  have agg : (session.relink state).agg = session.agg := rfl
  cases isDone : session.agg.done with
  | true => rw [onNext_of_done isDone, onNext_of_done (agg ▸ isDone)]
  | false =>
      rw [onNext_of_open isDone, onNext_of_open (agg ▸ isDone)]
      split
      · exact conclude_relink json capture.toFetchCapture state now _ session
      · have callbacks : (capture.relink state).callbacks = capture.callbacks := rfl
        simp only [callbacks, processChunk_relink]
        exact conclude_relink json capture.toFetchCapture state now _ _

theorem completed_relink (state : StateRef) (session : StreamSession parser) :
    (session.relink state).Completed ↔ session.Completed := by
  simp only [Completed, relink, delivered_relink, ne_eq, List.map_eq_nil_iff]

theorem answer_relink (lib : Libraries) (state : StateRef) (session : StreamSession lib.sse)
    (input : Timed StreamAnswer) :
    (session.relink state).answer lib input =
      (session.answer lib input).map (StreamSession.relink state) := by
  have pending : (session.relink state).pending = session.pending := rfl
  have issued : (session.relink state).issued = session.issued := rfl
  have settled : ∀ kind, (session.relink state).settle kind = (session.settle kind).relink state :=
    fun _ => rfl
  cases captured : session.captured with
  | none =>
      have unset : (session.relink state).captured = none := by simp [relink, captured]
      simp only [answer, captured, unset, Option.map_none]
  | some capture =>
      have moved : (session.relink state).captured = some (capture.relink state) := by
        simp [relink, captured]
      simp only [answer, captured, moved, pending, issued, settled, completed_relink]
      cases input.answer with
      | acquire result =>
          simp only
          split
          · rw [Option.map_some]
            congr 1
            cases result with
            | error message =>
                simp only [onAcquire, relink_call]
                rfl
            | ok slot => rfl
          · rfl
      | start result =>
          simp only
          split
          · rw [Option.map_some, onStart_eq, onStart_eq]
            congr 1
            exact conclude_relink lib.json capture.toFetchCapture state input.now _
              ((session.settle .start).withStatus result.status)
          · rfl
      | next result =>
          simp only
          split
          · rw [Option.map_some, onNext_relink]
          · split
            · rw [Option.map_some, onNext_relink]
            · rfl

end StreamSession

/-! ## Calls of both entry points -/

namespace FetchSession

/-- A call as a machine. -/
def machine (lib : Libraries) : StepMachine (FetchSession lib.sse) FetchAnswer where
  step := answer lib

theorem answer_relink (lib : Libraries) (state : StateRef) (session : FetchSession lib.sse)
    (input : FetchAnswer) :
    (session.relink state).answer lib input = (session.answer lib input).map (relink state) := by
  cases session with
  | completion session =>
      cases input with
      | completion input =>
          simp only [relink, answer, CompletionSession.answer_relink, Option.map_map]
          rfl
      | stream input => rfl
  | stream session =>
      cases input with
      | completion input => rfl
      | stream input =>
          simp only [relink, answer, StreamSession.answer_relink, Option.map_map]
          rfl

/-- A run of answers does not depend on the linked state. -/
theorem run_relink (lib : Libraries) (state : StateRef) (session : FetchSession lib.sse)
    (inputs : List FetchAnswer) :
    (machine lib).run (session.relink state) inputs =
      ((machine lib).run session inputs).map (relink state) :=
  StepMachine.run_map (answer_relink lib state) session inputs

/-- The same call made from another state with the same message chain, over any
store. -/
theorem start_relink (lib : Libraries) (factory : OaiCompletionFactory)
    {heap other : StateHeap} {state target : StateRef}
    (same : collectMessageChain other (some target) = collectMessageChain heap (some state))
    (args : FetchArgs) (now : Int) (entry : EntryPoint) :
    start lib factory other { args with state := some target } now entry =
      (start lib factory heap { args with state := some state } now entry).relink target := by
  have checked : FetchCapture.check factory { args with state := some target } =
      (FetchCapture.check factory { args with state := some state }).map
        (FetchCapture.relink target) := by
    simp only [FetchCapture.check]
    cases args.modelInfo with
    | none => rfl
    | some modelInfo =>
        cases factory.info with
        | none => rfl
        | some info =>
            simp only
            split <;> rfl
  have payload : ∀ capture stream,
      FetchCapture.check factory { args with state := some state } = some capture →
      (capture.relink target).payload lib.json other stream =
        capture.payload lib.json heap stream := by
    intro capture stream accepted
    have fields := FetchCapture.check_eq_some accepted
    have isState : capture.state = state := (Option.some.inj fields.1).symm
    simp only [FetchCapture.payload, FetchCapture.relink, isState, same]
  cases accepted : FetchCapture.check factory { args with state := some state } with
  | none =>
      rw [accepted, Option.map_none] at checked
      cases entry with
      | fetchCompletion cb => simp only [start, fetchCompletion, checked, accepted]; rfl
      | fetchStreamCompletion onDone callbacks =>
          simp only [start, fetchStreamCompletion, checked, accepted]; rfl
  | some capture =>
      rw [accepted, Option.map_some] at checked
      have built := payload capture entry.isStream accepted
      cases entry with
      | fetchCompletion cb =>
          simp only [EntryPoint.isStream] at built
          cases cb with
          | false => simp only [start, fetchCompletion, checked, accepted]; rfl
          | true =>
              simp only [start, fetchCompletion, checked, accepted, built]
              cases capture.payload lib.json heap false <;> rfl
      | fetchStreamCompletion onDone callbacks =>
          simp only [EntryPoint.isStream] at built
          simp only [start, fetchStreamCompletion, checked, accepted]
          cases onDone && (callbacks.onDelta || callbacks.onReasoningDelta) with
          | false => rfl
          | true =>
              simp only [built]
              cases capture.payload lib.json heap true <;> rfl

end FetchSession

end Boai.Completion
