import Boai.Completion.ExactlyOnce
import Boai.Completion.Isolation

/-!
# When a call of either entry point is over

A call of `FetchCompletion` goes through the phases of a stream call.  So whoever
waits until the transport owes a call nothing more finds it either refused,
without a callback, or with the one state it delivers.
-/

namespace Boai.Completion

open Boai.Json StepMachine

/-- The phases of a call of `FetchCompletion`. -/
inductive CompletionPhase (session : CompletionSession) : Prop where
  | rejected (returned : session.accepted = false) (untouched : session.calls = [])
      (inert : session.captured = none) (idle : session.pending = [])
  | waiting (returned : session.accepted = true) (silent : session.calls = [])
      (outstanding : ∃ kind, session.pending = [kind])
  | finished (returned : session.accepted = true) (delivers : ∃ state, session.calls = [state])
      (idle : session.pending = [])

theorem completionPhase_initial (lib : Libraries) (factory : OaiCompletionFactory)
    (heap : StateHeap) (args : FetchArgs) (cb : Bool) (now : Int) :
    CompletionPhase (fetchCompletion lib factory heap args cb now) := by
  have launch := completionLaunch lib factory heap args cb now
  generalize fetchCompletion lib factory heap args cb now = session at launch
  cases launch with
  | rejected => exact .rejected rfl rfl rfl rfl
  | buildFailed => exact .finished rfl ⟨_, rfl⟩ rfl
  | acquiring => exact .waiting rfl rfl ⟨.acquire, rfl⟩

theorem CompletionPhase.step {lib : Libraries} {session next : CompletionSession}
    {input : Timed CompletionAnswer} (phase : CompletionPhase session)
    (stepped : session.answer lib input = some next) : CompletionPhase next := by
  have returned := (CompletionSession.answer_frame stepped).1
  rcases completionStep_of_answer stepped with ⟨capture, requestBody, captured, step⟩
  generalize input.answer = answer at step
  cases phase with
  | rejected _ _ inert =>
      rw [inert] at captured
      cases captured
  | waiting accepted silent outstanding =>
      rcases outstanding with ⟨kind, pending⟩
      have answered : ∀ {asked : RequestKind}, asked ∈ session.pending →
          (session.settle asked).pending = [] := by
        intro asked member
        rw [pending] at member
        rw [CompletionSession.settle, pending, List.mem_singleton.mp member, List.erase_cons_head]
      have silentNow : ∀ asked, (session.settle asked).calls = [] := fun _ => silent
      cases step with
      | acquireFailed message asked =>
          exact .finished (returned.trans accepted)
            ⟨_, by rw [CompletionSession.call, silentNow, List.nil_append]⟩ (answered asked)
      | acquired slot asked =>
          exact .waiting (returned.trans accepted) (silentNow .acquire)
            ⟨.start, by rw [CompletionSession.start, answered asked, List.nil_append]⟩
      | done result asked =>
          exact .finished (returned.trans accepted)
            ⟨_, by rw [CompletionSession.call, silentNow, List.nil_append]⟩ (answered asked)
  | finished accepted delivers idle =>
      cases step with
      | acquireFailed _ asked | acquired _ asked | done _ asked =>
          rw [idle] at asked
          cases asked

/-- The callbacks that an entry point insists on are set. -/
def EntryPoint.callsBack : EntryPoint → Bool
  | .fetchCompletion cb => cb
  | .fetchStreamCompletion onDone callbacks =>
      onDone && (callbacks.onDelta || callbacks.onReasoningDelta)

namespace FetchSession

variable {parser : SseParser}

/-- The value the entry point returned. -/
def accepted : FetchSession parser → Bool
  | .completion session => session.accepted
  | .stream session => session.accepted

/-- The requests that the transport has not answered yet. -/
def pending : FetchSession parser → List RequestKind
  | .completion session => session.pending
  | .stream session => session.pending

/-- The callback calls so far. -/
def callbacks : FetchSession parser → List StreamCallback
  | .completion session => session.calls.map .onDone
  | .stream session => session.calls

@[simp] theorem accepted_relink (state : StateRef) (session : FetchSession parser) :
    (session.relink state).accepted = session.accepted := by
  cases session <;> rfl

@[simp] theorem pending_relink (state : StateRef) (session : FetchSession parser) :
    (session.relink state).pending = session.pending := by
  cases session <;> rfl

@[simp] theorem states_relink (state : StateRef) (session : FetchSession parser) :
    (session.relink state).states = session.states.map (OaiCompletionState.relink state) := by
  cases session with
  | completion session => rfl
  | stream session => exact delivered_relink state session.calls

@[simp] theorem callbacks_relink (state : StateRef) (session : FetchSession parser) :
    (session.relink state).callbacks = session.callbacks.map (StreamCallback.relink state) := by
  cases session with
  | stream session => rfl
  | completion session =>
      simp only [relink, CompletionSession.relink, callbacks, List.map_map]
      rfl

/-- The phases of a call of either entry point. -/
def Phased : FetchSession parser → Prop
  | .completion session => CompletionPhase session
  | .stream session => StreamPhase session

theorem phased_start (lib : Libraries) (factory : OaiCompletionFactory) (heap : StateHeap)
    (args : FetchArgs) (now : Int) (entry : EntryPoint) :
    (start lib factory heap args now entry).Phased := by
  cases entry with
  | fetchCompletion cb => exact completionPhase_initial lib factory heap args cb now
  | fetchStreamCompletion onDone callbacks =>
      exact streamPhase_initial lib factory heap args onDone callbacks now

theorem Phased.step {lib : Libraries} {session next : FetchSession lib.sse} {input : FetchAnswer}
    (phased : session.Phased) (stepped : session.answer lib input = some next) : next.Phased := by
  cases session with
  | completion session =>
      cases input with
      | completion input =>
          rcases Option.map_eq_some_iff.mp stepped with ⟨after, accepted, rfl⟩
          exact CompletionPhase.step phased accepted
      | stream input => cases stepped
  | stream session =>
      cases input with
      | completion input => cases stepped
      | stream input =>
          rcases Option.map_eq_some_iff.mp stepped with ⟨after, accepted, rfl⟩
          exact StreamPhase.step phased accepted

/-- A refused call made no callback and delivers nothing. -/
theorem Phased.refused {session : FetchSession parser} (phased : session.Phased)
    (refused : session.accepted = false) : session.callbacks = [] ∧ session.states = [] := by
  cases session with
  | completion session =>
      cases phased with
      | rejected returned untouched => exact ⟨by rw [callbacks, untouched]; rfl, untouched⟩
      | waiting returned | finished returned => exact absurd (refused.symm.trans returned) nofun
  | stream session =>
      cases phased with
      | rejected returned untouched => exact ⟨untouched, by rw [states, untouched]; rfl⟩
      | waiting returned | finished returned => exact absurd (refused.symm.trans returned) nofun

/-- An accepted call that waits for nothing has delivered one state. -/
theorem Phased.delivered {session : FetchSession parser} (phased : session.Phased)
    (accepted : session.accepted = true) (idle : session.pending = []) :
    ∃ state, session.states = [state] := by
  cases session with
  | completion session =>
      cases phased with
      | rejected returned => exact absurd (returned.symm.trans accepted) nofun
      | waiting _ _ outstanding =>
          rcases outstanding with ⟨kind, pending⟩
          exact absurd (pending.symm.trans idle) nofun
      | finished _ delivers => exact delivers
  | stream session =>
      cases phased with
      | rejected returned => exact absurd (returned.symm.trans accepted) nofun
      | waiting _ waiting =>
          rcases waiting.outstanding with ⟨kind, pending, _⟩
          exact absurd (pending.symm.trans idle) nofun
      | finished _ finished =>
          rcases finished.lastCall with ⟨calls, last, isCalls, undelivered⟩
          exact ⟨last, by simp [states, isCalls, undelivered]⟩

/-- Answers do not change what the call returned. -/
theorem accepted_answer {lib : Libraries} {session next : FetchSession lib.sse}
    {input : FetchAnswer} (stepped : session.answer lib input = some next) :
    next.accepted = session.accepted := by
  cases session with
  | completion session =>
      cases input with
      | completion input =>
          rcases Option.map_eq_some_iff.mp stepped with ⟨after, accepted, rfl⟩
          exact (CompletionSession.answer_frame accepted).1
      | stream input => cases stepped
  | stream session =>
      cases input with
      | completion input => cases stepped
      | stream input =>
          rcases Option.map_eq_some_iff.mp stepped with ⟨after, accepted, rfl⟩
          exact (StreamSession.answer_frame accepted).1

theorem accepted_of_run {lib : Libraries} {session final : FetchSession lib.sse}
    {inputs : List FetchAnswer} (ran : (machine lib).run session inputs = some final) :
    final.accepted = session.accepted :=
  run_invariant (fun other : FetchSession lib.sse => other.accepted = session.accepted)
    (fun _ _ _ same stepped => (accepted_answer stepped).trans same) rfl ran

/-- Arguments that pass the check are accepted. -/
theorem accepted_start {lib : Libraries} {factory : OaiCompletionFactory} {heap : StateHeap}
    {args : FetchArgs} {now : Int} {entry : EntryPoint} {capture : FetchCapture}
    (checked : FetchCapture.check factory args = some capture)
    (callsBack : entry.callsBack = true) :
    (start lib factory heap args now entry).accepted = true := by
  cases entry with
  | fetchCompletion cb =>
      simp only [EntryPoint.callsBack] at callsBack
      simp only [start, fetchCompletion, checked, callsBack]
      cases capture.payload lib.json heap false <;> rfl
  | fetchStreamCompletion onDone callbacks =>
      simp only [EntryPoint.callsBack] at callsBack
      simp only [start, fetchStreamCompletion, checked, callsBack]
      cases capture.payload lib.json heap true <;> rfl

/-- Whatever the transport answers, a delivered state links to the caller's. -/
theorem linked_of_run {lib : Libraries} {factory : OaiCompletionFactory} {heap : StateHeap}
    {args : FetchArgs} {now : Int} {entry : EntryPoint} {inputs : List FetchAnswer}
    {final : FetchSession lib.sse}
    (ran : (machine lib).run (start lib factory heap args now entry) inputs = some final) :
    ∀ state ∈ final.states, state.previous = args.state := by
  have launched := launched_start lib factory heap args now entry
  have kept := run_invariant
    (fun session : FetchSession lib.sse =>
      (∀ capture requestBody, session.captured = some (capture, requestBody) →
        args.state = some capture.state) ∧
      ∀ state ∈ session.states, state.previous = args.state) ?_
    ⟨fun capture requestBody captured => (launched.captured capture requestBody captured).1,
      launched.linked⟩ ran
  · exact kept.2
  · intro session input next holds stepped
    rcases progress_of_answer stepped with ⟨capture, requestBody, captured, progress⟩
    rcases progress.states with ⟨made, states, linked⟩
    refine ⟨progress.captured ▸ holds.1, ?_⟩
    rw [states, List.forall_mem_append]
    refine ⟨holds.2, ?_⟩
    intro state member
    rw [linked state member, holds.1 capture requestBody captured]

end FetchSession

/-! ## The last call of a conversation -/

section LastCall

variable {lib : Libraries}

/-- The conversation after its last call went on to another session. -/
structure LastAnswered (conversation : Conversation lib.sse) (front : List (Call lib.sse))
    (call : Call lib.sse) (session : FetchSession lib.sse) (next : Conversation lib.sse) :
    Prop where
  sound : ConversationSound lib next
  calls : next.calls = front ++ [{ call with session }]
  nodes : ∃ made, next.heap.nodes = conversation.heap.nodes ++ made ∧
    session.states = call.session.states ++ made

variable {conversation : Conversation lib.sse} {front : List (Call lib.sse)} {call : Call lib.sse}

/-- A conversation takes an answer to its last call if the call does. -/
theorem rel_answer_last {session : FetchSession lib.sse} {current : Conversation lib.sse}
    (answered : LastAnswered conversation front call session current) (input : FetchAnswer) :
    Option.Rel (LastAnswered conversation front call) (session.answer lib input)
      (current.perform lib (.answer front.length input)) := by
  rcases answered.nodes with ⟨made, nodes, states⟩
  have found : current.calls[front.length]? = some { call with session } := by
    rw [answered.calls, List.getElem?_concat_length]
  cases accepted : session.answer lib input with
  | none =>
      have refused : current.perform lib (.answer front.length input) = none := by
        simp only [Conversation.perform, found, accepted]
      rw [refused]
      exact .none
  | some after =>
      have offered : current.Offers (.answer front.length input) :=
        ⟨_, found, by simp only [accepted, Option.isSome_some]⟩
      rcases Option.isSome_iff_exists.mp (isSome_perform answered.sound offered) with
        ⟨next, stepped⟩
      have kept := (performed_of_perform answered.sound stepped).sound
      rw [stepped]
      apply Option.Rel.some
      cases effect_of_perform stepped with
      | @answer _ _ _ _ _ more foundNow acceptedNow moreStates moreNodes =>
          rw [found] at foundNow
          cases foundNow
          simp only [callMachine, accepted, Option.map_some, Option.some.injEq] at acceptedNow
          subst acceptedNow
          refine ⟨kept, ?_, made ++ more, ?_, ?_⟩
          · rw [answered.calls, List.set_append_right _ _ (Nat.le_refl _), Nat.sub_self,
              List.set_cons_zero]
          · rw [moreNodes, nodes, List.append_assoc]
          · rw [moreStates, states, List.append_assoc]

/-- Answering the last call of a conversation is answering the call. -/
theorem rel_run_last (sound : ConversationSound lib conversation)
    (calls : conversation.calls = front ++ [call]) (inputs : List FetchAnswer) :
    Option.Rel (LastAnswered conversation front call)
      ((FetchSession.machine lib).run call.session inputs)
      ((Conversation.machine lib).run conversation (inputs.map (.answer front.length))) := by
  have matched : List.Forall₂ (fun input operation => operation = .answer front.length input)
      inputs (inputs.map (Operation.answer front.length)) := by
    rw [List.forall₂_map_right_iff]
    exact List.forall₂_same.mpr fun _ _ => rfl
  refine run_rel (FetchSession.machine lib) (Conversation.machine lib) ?_ ?_ matched
  · intro session current input operation answered isAnswer
    rw [isAnswer]
    exact rel_answer_last answered input
  · exact ⟨sound, calls, [], (List.append_nil _).symm, (List.append_nil _).symm⟩

/-- A fetch from a stored state adds its call to the conversation. -/
theorem exists_perform_fetch (sound : ConversationSound lib conversation)
    (factory : OaiCompletionFactory) {args : FetchArgs} (held : conversation.heap.Holds args.state)
    (entry : EntryPoint) (now : Int) :
    let session := FetchSession.start lib factory conversation.heap args now entry
    ∃ next, conversation.perform lib (.fetch factory args entry now) = some next ∧
      ConversationSound lib next ∧ next.calls = conversation.calls ++ [⟨args, entry, session⟩] ∧
      next.heap.nodes = conversation.heap.nodes ++ session.states := by
  have offered : conversation.Offers (.fetch factory args entry now) := held
  rcases Option.isSome_iff_exists.mp (isSome_perform sound offered) with ⟨next, stepped⟩
  have kept := (performed_of_perform sound stepped).sound
  cases effect_of_perform stepped with
  | fetch _ nodes => exact ⟨_, stepped, kept, rfl, nodes⟩

end LastCall

end Boai.Completion
