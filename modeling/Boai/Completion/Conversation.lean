import Boai.Completion.CompletionSteps
import Boai.Completion.StreamSteps

/-!
# Conversations

A conversation is everything a program does with the facade: messages are
appended, fetches are started from any state obtained so far, and the calls in
flight are answered in any order.  The states that an operation yields are
allocated in the store, where they stay, so histories branch into a tree.
-/

namespace Boai.Completion

open Boai.Json

/-! ## Calls of both entry points -/

/-- Which entry point is called, with which callbacks. -/
inductive EntryPoint where
  | fetchCompletion (cb : Bool)
  | fetchStreamCompletion (onDone : Bool) (callbacks : DeltaCallbacks)

/-- The value of the `stream` flag of the request. -/
def EntryPoint.isStream : EntryPoint → Bool
  | .fetchCompletion _ => false
  | .fetchStreamCompletion _ _ => true

/-- The session of a call of either entry point. -/
inductive FetchSession (parser : SseParser) where
  | completion (session : CompletionSession)
  | stream (session : StreamSession parser)

/-- An answer to a call of either entry point. -/
inductive FetchAnswer where
  | completion (answer : Timed CompletionAnswer)
  | stream (answer : Timed StreamAnswer)

namespace FetchSession

/-- Call an entry point. -/
def start (lib : Libraries) (factory : OaiCompletionFactory) (heap : StateHeap)
    (args : FetchArgs) (now : Int) : EntryPoint → FetchSession lib.sse
  | .fetchCompletion cb => .completion (fetchCompletion lib factory heap args cb now)
  | .fetchStreamCompletion onDone callbacks =>
      .stream (fetchStreamCompletion lib factory heap args onDone callbacks now)

/-- Answer a call. -/
def answer (lib : Libraries) : FetchSession lib.sse → FetchAnswer → Option (FetchSession lib.sse)
  | .completion session, .completion input => (session.answer lib input).map .completion
  | .stream session, .stream input => (session.answer lib input).map .stream
  | _, _ => none

variable {parser : SseParser}

/-- The states delivered so far. -/
def states : FetchSession parser → List OaiCompletionState
  | .completion session => session.calls
  | .stream session => delivered session.calls

def issued : FetchSession parser → List TransportCall
  | .completion session => session.issued
  | .stream session => session.issued

/-- What the handlers captured, and the body to be sent. -/
def captured : FetchSession parser → Option (FetchCapture × String)
  | .completion session => session.captured
  | .stream session => session.captured.map fun capture =>
      (capture.toFetchCapture, capture.requestBody)

end FetchSession

/-! ## Conversations -/

/-- A call with the arguments it was given. -/
structure Call (parser : SseParser) where
  args : FetchArgs
  entry : EntryPoint
  session : FetchSession parser

structure Conversation (parser : SseParser) where
  heap : StateHeap := .empty
  calls : List (Call parser) := []

/-- What a program does next. -/
inductive Operation where
  | append (factory : OaiCompletionFactory) (message : OaiMessage)
      (previous : Option StateRef) (now : Int)
  | fetch (factory : OaiCompletionFactory) (args : FetchArgs) (entry : EntryPoint)
      (now : Int)
  | answer (call : Nat) (input : FetchAnswer)

/-- Allocate nodes in order.  A node whose predecessor is not stored has no
pointer to be built from. -/
def StateHeap.allocateAll : StateHeap → List OaiCompletionState → Option StateHeap
  | heap, [] => some heap
  | heap, node :: rest =>
      if held : heap.Holds node.previous then (heap.allocate node held).allocateAll rest
      else none

namespace Conversation

/-- The state an operation starts from. -/
def origin {parser : SseParser} (conversation : Conversation parser) :
    Operation → Option StateRef
  | .append _ _ previous _ => previous
  | .fetch _ args _ _ => args.state
  | .answer call _ => (conversation.calls[call]?).bind fun call => call.args.state

/-- Perform an operation.  It may start from any stored state, and an answer must
be one that its call accepts. -/
def perform (lib : Libraries) (conversation : Conversation lib.sse) :
    Operation → Option (Conversation lib.sse)
  | .append factory message previous now =>
      if held : conversation.heap.Holds previous then
        some { conversation with
          heap := conversation.heap.allocate (appendMessage factory message previous now) held }
      else none
  | .fetch factory args entry now =>
      if conversation.heap.Holds args.state then
        let session := FetchSession.start lib factory conversation.heap args now entry
        (conversation.heap.allocateAll session.states).map fun heap =>
          { heap, calls := conversation.calls ++ [{ args, entry, session }] }
      else none
  | .answer index input =>
      match conversation.calls[index]? with
      | none => none
      | some call =>
          match call.session.answer lib input with
          | none => none
          | some session =>
              (conversation.heap.allocateAll
                (session.states.drop call.session.states.length)).map fun heap =>
                { heap, calls := conversation.calls.set index { call with session } }

/-- Conversations as a machine. -/
def machine (lib : Libraries) : StepMachine (Conversation lib.sse) Operation where
  step := perform lib

end Conversation

/-! ## What one answer does to a call -/

namespace FetchSession

/-- A call just made: what it captured comes from its arguments, nothing is sent
yet, and a state it delivered already links to the caller's state. -/
structure Launched (lib : Libraries) (heap : StateHeap) (args : FetchArgs)
    (entry : EntryPoint) (session : FetchSession lib.sse) : Prop where
  captured : ∀ capture requestBody, session.captured = some (capture, requestBody) →
    args.state = some capture.state ∧ args.modelInfo = some capture.modelInfo ∧
      args.tools = capture.tools ∧
      capture.payload lib.json heap entry.isStream = .ok requestBody
  unsent : ∀ request, .start request ∉ session.issued
  linked : ∀ state ∈ session.states, state.previous = args.state

theorem launched_start (lib : Libraries) (factory : OaiCompletionFactory) (heap : StateHeap)
    (args : FetchArgs) (now : Int) (entry : EntryPoint) :
    Launched lib heap args entry (start lib factory heap args now entry) := by
  cases entry with
  | fetchCompletion cb =>
      have launch := completionLaunch lib factory heap args cb now
      simp only [start]
      generalize fetchCompletion lib factory heap args cb now = session at launch
      cases launch with
      | rejected => constructor <;> simp [captured, issued, states]
      | buildFailed checked =>
          have fields := FetchCapture.check_eq_some checked
          constructor
          · simp [captured]
          · simp [issued]
          · intro state member
            cases List.mem_singleton.mp member
            exact fields.1.symm
      | acquiring checked built =>
          have fields := FetchCapture.check_eq_some checked
          constructor
          · intro capture requestBody same
            cases same
            exact ⟨fields.1, fields.2.1, fields.2.2.2.1, built⟩
          · simp [issued]
          · simp [states]
  | fetchStreamCompletion onDone callbacks =>
      have launch := streamLaunch lib factory heap args onDone callbacks now
      simp only [start]
      generalize fetchStreamCompletion lib factory heap args onDone callbacks now = session
        at launch
      cases launch with
      | rejected => constructor <;> simp [captured, issued, states]
      | buildFailed checked =>
          have fields := FetchCapture.check_eq_some checked
          constructor
          · simp [captured]
          · simp [issued]
          · intro state member
            cases List.mem_singleton.mp member
            exact fields.1.symm
      | acquiring checked built =>
          have fields := FetchCapture.check_eq_some checked
          constructor
          · intro capture requestBody same
            cases same
            exact ⟨fields.1, fields.2.1, fields.2.2.2.1, built⟩
          · simp [issued]
          · simp [states]

/-- An answered call: what was captured stays, the states delivered on the answer
link to the caller's state, and what is sent has the captured body. -/
structure Progress {parser : SseParser} (http : HttpLib) (capture : FetchCapture)
    (requestBody : String) (session next : FetchSession parser) : Prop where
  captured : next.captured = session.captured
  states : ∃ made, next.states = session.states ++ made ∧
    ∀ state ∈ made, state.previous = some capture.state
  sent : ∀ request, .start request ∈ next.issued →
    .start request ∈ session.issued ∨
      (∃ slot, request = completionRequest http capture requestBody slot) ∨
      request = streamRequest http capture requestBody

theorem completionState_previous (json : JsonLib) (capture : FetchCapture) (now : Int)
    (result : HttpClientResult) :
    (completionState json capture now result).previous = some capture.state := by
  simp only [completionState]
  cases result.ec with
  | some message => rfl
  | none =>
      simp only
      split
      · rfl
      · split
        · rfl
        · split <;> rfl

theorem progress_completion {lib : Libraries} {session next : CompletionSession}
    {input : Timed CompletionAnswer} (stepped : session.answer lib input = some next) :
    ∃ capture requestBody, session.captured = some (capture, requestBody) ∧
      Progress lib.http capture requestBody (.completion session : FetchSession lib.sse)
        (.completion next) := by
  have frame := CompletionSession.answer_frame stepped
  rcases completionStep_of_answer stepped with ⟨capture, requestBody, captured, step⟩
  generalize input.answer = answer at step
  refine ⟨capture, requestBody, captured, frame.2, ?_, ?_⟩
  · cases step with
    | acquireFailed message =>
        refine ⟨[capture.deliverFailure false input.now message], rfl, ?_⟩
        intro state member
        cases List.mem_singleton.mp member
        rfl
    | acquired => exact ⟨[], (List.append_nil _).symm, by simp⟩
    | done result =>
        refine ⟨[completionState lib.json capture input.now result], rfl, ?_⟩
        intro state member
        cases List.mem_singleton.mp member
        exact completionState_previous lib.json capture input.now result
  · intro request started
    cases step with
    | acquireFailed | done => exact .inl started
    | acquired slot =>
        rcases List.mem_append.mp started with old | new
        · exact .inl old
        · cases List.mem_singleton.mp new
          exact .inr (.inl ⟨slot, rfl⟩)

/-- The states of a stream call after a handler: those before it, and at most one
that links to the caller's state. -/
def Linked {parser : SseParser} (capture : FetchCapture)
    (session next : StreamSession parser) : Prop :=
  ∃ made, delivered next.calls = delivered session.calls ++ made ∧
    ∀ state ∈ made, state.previous = some capture.state

theorem linked_conclude {parser : SseParser} (session : StreamSession parser)
    (json : JsonLib) (capture : FetchCapture) (now : Int)
    (verdict : Option (Bool × String)) :
    Linked capture session (session.conclude json capture now verdict) := by
  have unchanged : Linked capture session session :=
    ⟨[], (List.append_nil _).symm, by simp⟩
  cases verdict with
  | none => exact unchanged
  | some arguments =>
      simp only [StreamSession.conclude, StreamSession.finish]
      split
      · exact unchanged
      · refine ⟨_, delivered_append session.calls _, ?_⟩
        intro state member
        cases List.mem_singleton.mp member
        rfl

theorem linked_onNext {parser : SseParser} (session : StreamSession parser)
    (json : JsonLib) (capture : StreamCapture) (now : Int) (result : HttpSseClientResult) :
    Linked capture.toFetchCapture session (session.onNext json capture now result) := by
  cases done : session.agg.done with
  | true =>
      rw [StreamSession.onNext_of_done done]
      exact ⟨[], (List.append_nil _).symm, by simp⟩
  | false =>
      rw [StreamSession.onNext_of_open done]
      split
      · exact linked_conclude _ _ _ _ _
      · rcases linked_conclude (session.processChunk json capture.callbacks result.chunk).1
          json capture.toFetchCapture now
          ((session.processChunk json capture.callbacks result.chunk).2.or (eofVerdict result))
          with ⟨made, calls, links⟩
        refine ⟨made, calls.trans ?_, links⟩
        simp [StreamSession.processChunk, StreamSession.call, delivered_processEvents]

theorem progress_stream {lib : Libraries} {session next : StreamSession lib.sse}
    {input : Timed StreamAnswer} (stepped : session.answer lib input = some next) :
    ∃ capture requestBody,
      (FetchSession.stream session).captured = some (capture, requestBody) ∧
        Progress lib.http capture requestBody (.stream session) (.stream next) := by
  have frame := StreamSession.answer_frame stepped
  rcases StreamSession.streamStep_of_answer stepped with ⟨capture, captured, step⟩
  generalize input.answer = answer at step
  refine ⟨capture.toFetchCapture, capture.requestBody, ?_, ?_, ?_, ?_⟩
  · simp only [FetchSession.captured, captured, Option.map_some]
  · simp only [FetchSession.captured, frame.2]
  · cases step with
    | acquireFailed message =>
        refine ⟨_, delivered_append session.calls _, ?_⟩
        intro state member
        cases List.mem_singleton.mp member
        rfl
    | acquired => exact ⟨[], (List.append_nil _).symm, by simp⟩
    | started result => exact linked_conclude _ _ _ _ _
    | next result => exact linked_onNext (session.settle .next) _ _ _ _
    | late result => exact linked_onNext session _ _ _ _
  · intro request started
    cases step with
    | acquireFailed => exact .inl started
    | acquired slot =>
        rcases List.mem_append.mp started with old | new
        · exact .inl old
        · cases List.mem_singleton.mp new
          exact .inr (.inr rfl)
    | started result =>
        have earlier := StreamSession.start_mem_conclude started
        exact .inl earlier
    | next result =>
        have earlier := StreamSession.start_mem_onNext started
        exact .inl earlier
    | late result => exact .inl (StreamSession.start_mem_onNext started)

/-- An accepted answer to a call of either entry point. -/
theorem progress_of_answer {lib : Libraries} {session next : FetchSession lib.sse}
    {input : FetchAnswer} (stepped : session.answer lib input = some next) :
    ∃ capture requestBody, session.captured = some (capture, requestBody) ∧
      Progress lib.http capture requestBody session next := by
  cases session with
  | completion session =>
      cases input with
      | completion input =>
          rcases Option.map_eq_some_iff.mp stepped with ⟨after, accepted, rfl⟩
          exact progress_completion accepted
      | stream input => cases stepped
  | stream session =>
      cases input with
      | completion input => cases stepped
      | stream input =>
          rcases Option.map_eq_some_iff.mp stepped with ⟨after, accepted, rfl⟩
          exact progress_stream accepted

end FetchSession

end Boai.Completion
