import Boai.DeepseekDemo.SessionRules

/-!
# The dialogue of a session

A chat with tools alternates between the user and the assistant, and whenever the
assistant calls tools, the next messages report on each of these calls, in order
and under its id.  Every request of a session continues such a dialogue, however
the turns went, what the replies asked for and where the user started over.
-/

namespace Boai.DeepseekDemo

open Boai.Json Boai.Completion Outcome

/-! ## Dialogues -/

/-- Who speaks next. -/
inductive Speaker where
  | user
  | assistant
  deriving DecidableEq, Repr

/-- The messages in front of the first question. -/
def opening (system : String) : List OaiMessage :=
  if system = "" then [] else [{ role := "system", message := system }]

/-- The message that reports on a tool call: what the registry makes of the call
on some machine, under the id of the call. -/
def Reports (json : JsonLib) (registry : ToolRegistry) (call : OaiToolCall)
    (message : OaiMessage) : Prop :=
  ∃ host result, registry.execute host call = some result ∧
    message = { role := "tool", message := json.serialize (toValue result), toolCallId := call.id }

/-- A message of the assistant.  Where it is not streamed, the server chooses the
name of its role. -/
structure IsReply (streamed : Bool) (message : OaiMessage) : Prop where
  noReport : message.toolCallId = ""
  role : streamed = true → message.role = "assistant"

/-- The dialogues of a session, by who speaks next. -/
inductive Dialogue (json : JsonLib) (setup : Setup) : Speaker → List OaiMessage → Prop where
  | opened : Dialogue json setup .user (opening setup.options.system)
  | asked {messages : List OaiMessage} (dialogue : Dialogue json setup .user messages)
      (text : String) :
      Dialogue json setup .assistant (messages ++ [{ role := "user", message := text }])
  | called {messages reports : List OaiMessage} {reply : OaiMessage}
      (dialogue : Dialogue json setup .assistant messages)
      (isReply : IsReply setup.options.stream reply) (calls : reply.toolCalls ≠ [])
      (reported : List.Forall₂ (Reports json setup.toolRegistry) reply.toolCalls reports) :
      Dialogue json setup .assistant (messages ++ reply :: reports)
  | answered {messages : List OaiMessage} {reply : OaiMessage}
      (dialogue : Dialogue json setup .assistant messages)
      (isReply : IsReply setup.options.stream reply) (noCalls : reply.toolCalls = []) :
      Dialogue json setup .user (messages ++ [reply])

/-! ## Delivered messages -/

section Replies

variable {parser : SseParser}

theorem isReply_blank (streamed : Bool) : IsReply streamed blankAssistant := ⟨rfl, fun _ => rfl⟩

theorem isReply_completionState (json : JsonLib) (capture : FetchCapture) (now : Int)
    (result : HttpClientResult) :
    IsReply false (completionState json capture now result).message := by
  have parsed : ∀ (body : String) (log : OaiRequestLog),
      (parseCompletionResponseBody json body blankAssistant log "").message.toolCallId = "" := by
    intro body log
    simp only [parseCompletionResponseBody]
    split
    · rfl
    · split
      · rfl
      · split <;> rfl
    · rfl
  refine ⟨?_, nofun⟩
  simp only [completionState]
  cases result.ec with
  | some message => rfl
  | none =>
      simp only
      split
      · rfl
      · split
        · rfl
        · split <;> exact parsed _ _

/-- What a handler of a stream call delivers is a message of the assistant. -/
theorem isReply_delivered_conclude {session : StreamSession parser}
    (replies : ∀ state ∈ delivered session.calls, IsReply true state.message) (json : JsonLib)
    (capture : FetchCapture) (now : Int) (verdict : Option (Bool × String)) :
    ∀ state ∈ delivered (session.conclude json capture now verdict).calls,
      IsReply true state.message := by
  cases verdict with
  | none => exact replies
  | some arguments =>
      simp only [StreamSession.conclude, StreamSession.finish]
      split
      · exact replies
      · simp only [StreamSession.call, delivered_append, delivered_onDone, List.forall_mem_append,
          List.forall_mem_singleton]
        exact ⟨replies, rfl, fun _ => rfl⟩

theorem isReply_delivered_onNext {session : StreamSession parser}
    (replies : ∀ state ∈ delivered session.calls, IsReply true state.message) (json : JsonLib)
    (capture : StreamCapture) (now : Int) (result : HttpSseClientResult) :
    ∀ state ∈ delivered (session.onNext json capture now result).calls,
      IsReply true state.message := by
  cases done : session.agg.done with
  | true =>
      rw [StreamSession.onNext_of_done done]
      exact replies
  | false =>
      rw [StreamSession.onNext_of_open done]
      split
      · exact isReply_delivered_conclude replies _ _ _ _
      · apply isReply_delivered_conclude
        simp only [StreamSession.processChunk, StreamSession.call, delivered_append,
          delivered_processEvents, List.append_nil]
        exact replies

/-- Every state that a call in the given mode delivers carries a message of the
assistant. -/
def Replies (streamed : Bool) : FetchSession parser → Prop
  | .completion session => streamed = false ∧ ∀ state ∈ session.calls, IsReply false state.message
  | .stream session =>
      streamed = true ∧ ∀ state ∈ delivered session.calls, IsReply true state.message

theorem Replies.isReply {streamed : Bool} {session : FetchSession parser}
    (replies : Replies streamed session) {state : OaiCompletionState}
    (delivers : state ∈ session.states) : IsReply streamed state.message := by
  cases session with
  | completion session =>
      rw [replies.1]
      exact replies.2 state delivers
  | stream session =>
      rw [replies.1]
      exact replies.2 state delivers

theorem replies_start (lib : Libraries) (factory : OaiCompletionFactory) (heap : StateHeap)
    (args : FetchArgs) (now : Int) (entry : EntryPoint) :
    Replies entry.isStream (FetchSession.start lib factory heap args now entry) := by
  cases entry with
  | fetchCompletion cb =>
      have launch := completionLaunch lib factory heap args cb now
      simp only [FetchSession.start]
      generalize fetchCompletion lib factory heap args cb now = session at launch
      refine ⟨rfl, ?_⟩
      cases launch with
      | rejected | acquiring => exact fun _ member => absurd member List.not_mem_nil
      | buildFailed => exact List.forall_mem_singleton.mpr (isReply_blank false)
  | fetchStreamCompletion onDone callbacks =>
      have launch := streamLaunch lib factory heap args onDone callbacks now
      simp only [FetchSession.start]
      generalize fetchStreamCompletion lib factory heap args onDone callbacks now = session
        at launch
      refine ⟨rfl, ?_⟩
      cases launch with
      | rejected | acquiring => exact fun _ member => absurd member List.not_mem_nil
      | buildFailed => exact List.forall_mem_singleton.mpr (isReply_blank true)

theorem Replies.step {lib : Libraries} {streamed : Bool} {session next : FetchSession lib.sse}
    {input : FetchAnswer} (replies : Replies streamed session)
    (stepped : session.answer lib input = some next) : Replies streamed next := by
  cases session with
  | completion session =>
      cases input with
      | stream input => cases stepped
      | completion input =>
          rcases Option.map_eq_some_iff.mp stepped with ⟨after, accepted, rfl⟩
          rcases completionStep_of_answer accepted with ⟨capture, requestBody, captured, step⟩
          generalize input.answer = answer at step
          refine ⟨replies.1, ?_⟩
          cases step with
          | acquireFailed =>
              exact List.forall_mem_append.mpr
                ⟨replies.2, List.forall_mem_singleton.mpr (isReply_blank false)⟩
          | acquired => exact replies.2
          | done =>
              exact List.forall_mem_append.mpr
                ⟨replies.2, List.forall_mem_singleton.mpr (isReply_completionState _ _ _ _)⟩
  | stream session =>
      cases input with
      | completion input => cases stepped
      | stream input =>
          rcases Option.map_eq_some_iff.mp stepped with ⟨after, accepted, rfl⟩
          rcases StreamSession.streamStep_of_answer accepted with ⟨capture, captured, step⟩
          generalize input.answer = answer at step
          refine ⟨replies.1, ?_⟩
          cases step with
          | acquireFailed =>
              simp only [StreamSession.call, delivered_append, delivered_onDone,
                List.forall_mem_append, List.forall_mem_singleton]
              exact ⟨replies.2, isReply_blank true⟩
          | acquired => exact replies.2
          | started result =>
              have before : ∀ state ∈ delivered
                  ((session.settle .start).withStatus result.status).calls,
                  IsReply true state.message := replies.2
              exact isReply_delivered_conclude before _ _ _ _
          | next =>
              have before : ∀ state ∈ delivered (session.settle .next).calls,
                  IsReply true state.message := replies.2
              exact isReply_delivered_onNext before _ _ _ _
          | late => exact isReply_delivered_onNext replies.2 _ _ _ _

theorem replies_of_run {lib : Libraries} {factory : OaiCompletionFactory} {heap : StateHeap}
    {args : FetchArgs} {now : Int} {entry : EntryPoint} {inputs : List FetchAnswer}
    {final : FetchSession lib.sse}
    (ran : (FetchSession.machine lib).run (FetchSession.start lib factory heap args now entry)
      inputs = some final) : Replies entry.isStream final :=
  StepMachine.run_invariant (Replies entry.isStream)
    (fun _ _ _ replies stepped => replies.step stepped)
    (replies_start lib factory heap args now entry) ran

end Replies

end Boai.DeepseekDemo
