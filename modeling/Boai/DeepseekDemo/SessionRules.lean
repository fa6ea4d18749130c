import Boai.DeepseekDemo.Session

/-!
# Rules for the parts of a session

A fetch of the demo does what its call does on its own, and adds the call and the
delivered state to the conversation.  The event loop ends with the promise
fulfilled, so the wait for it never blocks.
-/

namespace Boai.DeepseekDemo

open Boai.Json Boai.Completion Outcome

variable {lib : Libraries}

/-! ## A call on its own -/

/-- A fetch and the wait for its callback, without the conversation around it. -/
def fetchAlone (lib : Libraries) (session : FetchSession lib.sse) (answers : List FetchAnswer) :
    Except Stop (Option OaiCompletionState × FetchSession lib.sse) := do
  if session.accepted then
    let idle ← expect .unscripted ((FetchSession.machine lib).run session answers)
    if idle.pending = [] then
      let done ← expect .blocked idle.states.head?
      return (some done, idle)
    else throw .unscripted
  else return (none, session)

/-- How a call on its own ends. -/
inductive Settled (lib : Libraries) (session : FetchSession lib.sse)
    (answers : List FetchAnswer) : Option OaiCompletionState × FetchSession lib.sse → Prop where
  | refused (refused : session.accepted = false) (silent : session.callbacks = [])
      (empty : session.states = []) : Settled lib session answers (none, session)
  | delivered {done : OaiCompletionState} {idle : FetchSession lib.sse}
      (accepted : session.accepted = true)
      (ran : (FetchSession.machine lib).run session answers = some idle)
      (idles : idle.pending = []) (states : idle.states = [done]) :
      Settled lib session answers (some done, idle)

/-- Every call fulfils its promise before the event loop ends. -/
theorem fetchAlone_ensures (factory : OaiCompletionFactory) (heap : StateHeap) (args : FetchArgs)
    (now : Int) (entry : EntryPoint) (answers : List FetchAnswer) :
    Ensures (· = .unscripted)
      (Settled lib (FetchSession.start lib factory heap args now entry) answers)
      (fetchAlone lib (FetchSession.start lib factory heap args now entry) answers) := by
  have phased := FetchSession.phased_start lib factory heap args now entry
  generalize FetchSession.start lib factory heap args now entry = session at phased
  rw [fetchAlone]
  cases accepted : session.accepted with
  | false => exact .refused accepted (phased.refused accepted).1 (phased.refused accepted).2
  | true =>
      have runs : Ensures (· = .unscripted)
          (fun idle => (FetchSession.machine lib).run session answers = some idle)
          (expect Stop.unscripted ((FetchSession.machine lib).run session answers)) :=
        ensures_expect (fun _ ran => ran) fun _ => rfl
      simp only [↓reduceIte]
      apply runs.bind
      intro idle ran
      have kept := StepMachine.run_invariant
        (fun other : FetchSession lib.sse => other.Phased ∧ other.accepted = true)
        (fun _ _ _ holds stepped => ⟨holds.1.step stepped,
          (FetchSession.accepted_answer stepped).trans holds.2⟩) ⟨phased, accepted⟩ ran
      split
      next isIdle =>
        rcases kept.1.delivered kept.2 isIdle with ⟨done, states⟩
        rw [states]
        exact .delivered accepted ran isIdle states
      next => exact rfl

/-! ## A call of a conversation -/

/-- A fetch of a conversation that does what a call does on its own. -/
structure Extended (conversation : Conversation lib.sse) (args : FetchArgs) (entry : EntryPoint)
    (alone : Option OaiCompletionState × FetchSession lib.sse)
    (waited : StatePtr × List StreamCallback × Conversation lib.sse) : Prop where
  sound : ConversationSound lib waited.2.2
  done : waited.1 = alone.1.map fun value =>
    { address := conversation.heap.nodes.length, value }
  callbacks : waited.2.1 = alone.2.callbacks
  calls : waited.2.2.calls = conversation.calls ++ [{ args, entry, session := alone.2 }]
  nodes : waited.2.2.heap.nodes = conversation.heap.nodes ++ alone.2.states

theorem fetchAndWait_agrees {conversation : Conversation lib.sse}
    (sound : ConversationSound lib conversation) (setup : Setup) (entry : EntryPoint)
    {state : StatePtr} (held : conversation.heap.Holds (state.map SharedPtr.address))
    (round : Round) :
    Agree (Extended conversation (fetchArgs setup state) entry)
      (fetchAlone lib (FetchSession.start lib setup.factory conversation.heap
        (fetchArgs setup state) round.now entry) round.answers)
      (fetchAndWait lib setup entry state round conversation) := by
  have heldArgs : conversation.heap.Holds (fetchArgs setup state).state := held
  have phased := FetchSession.phased_start lib setup.factory conversation.heap
    (fetchArgs setup state) round.now entry
  rcases exists_perform_fetch sound setup.factory heldArgs entry round.now with
    ⟨launched, performed, kept, calls, nodes⟩
  simp only [fetchAlone, fetchAndWait, performed, expect_some, bind_ok, calls,
    List.getElem?_concat_length]
  generalize FetchSession.start lib setup.factory conversation.heap (fetchArgs setup state)
    round.now entry = session at phased calls nodes
  cases accepted : session.accepted with
  | false => exact ⟨kept, rfl, (phased.refused accepted).1.symm, calls, nodes⟩
  | true =>
      simp only [↓reduceIte]
      apply Agree.bind (agree_expect (rel_run_last kept calls round.answers))
      intro idle ended answered
      simp only [answered.calls, List.getElem?_concat_length, expect_some, bind_ok]
      split
      next isIdle =>
        cases idle.states.head? with
        | none => exact rfl
        | some done =>
            rcases answered.nodes with ⟨made, moreNodes, moreStates⟩
            refine ⟨answered.sound, rfl, rfl, answered.calls, ?_⟩
            rw [moreNodes, nodes, moreStates, List.append_assoc]
      next => exact rfl

theorem fetchAndWait_ensures {conversation : Conversation lib.sse}
    (sound : ConversationSound lib conversation) (setup : Setup) (entry : EntryPoint)
    {state : StatePtr} (held : conversation.heap.Holds (state.map SharedPtr.address))
    (round : Round) :
    Ensures (· = .unscripted)
      (fun waited => ∃ alone,
        Settled lib (FetchSession.start lib setup.factory conversation.heap
          (fetchArgs setup state) round.now entry) round.answers alone ∧
        Extended conversation (fetchArgs setup state) entry alone waited)
      (fetchAndWait lib setup entry state round conversation) :=
  (fetchAndWait_agrees sound setup entry held round).ensures
    (fetchAlone_ensures setup.factory conversation.heap _ round.now entry round.answers)

/-! ## The world -/

/-- The entry point that a session calls. -/
def sessionEntry (options : Options) : EntryPoint :=
  if options.stream then .fetchStreamCompletion true (streamCallbacks options)
  else .fetchCompletion true

theorem isStream_sessionEntry (options : Options) :
    (sessionEntry options).isStream = options.stream := by
  rw [sessionEntry]
  cases options.stream <;> rfl

/-- The setups that the argument check of the entry points lets through. -/
def Setup.Startable (setup : Setup) : Prop :=
  ∃ info modelInfo, setup.factory.info = some info ∧ setup.modelInfo = some modelInfo ∧
    info.value.baseUrl ≠ "" ∧ modelInfo.value.model ≠ ""

theorem Setup.Startable.accepted (lib : Libraries) {setup : Setup} (startable : setup.Startable)
    (heap : StateHeap) (node : SharedPtr OaiCompletionState) (now : Int) :
    (FetchSession.start lib setup.factory heap (fetchArgs setup (some node)) now
      (sessionEntry setup.options)).accepted = true := by
  rcases startable with ⟨info, modelInfo, hasInfo, hasModelInfo, baseUrl, model⟩
  have checked : FetchCapture.check setup.factory (fetchArgs setup (some node)) =
      some ⟨info, modelInfo, node.address, setup.toolRegistry.definitions⟩ := by
    simp only [FetchCapture.check, fetchArgs, hasInfo, hasModelInfo, Option.map_some, baseUrl,
      model, or_self, ↓reduceIte]
  apply FetchSession.accepted_start checked
  rw [sessionEntry]
  split <;> rfl

/-- What the wait for a fetch writes. -/
def shown (options : Options) (done : StatePtr) (calls : List StreamCallback) : List Write :=
  if options.stream then
    match done with
    | none => printDeltas false calls
    | some node => printDeltas false calls ++ closeStream options calls node.value.message
  else []

/-- Both ways to wait for a fetch. -/
def waitFor (lib : Libraries) (setup : Setup) (state : StatePtr) (round : Round)
    (world : World lib) : Except Stop (StatePtr × World lib) := do
  let (done, calls, conversation) ←
    fetchAndWait lib setup (sessionEntry setup.options) state round world.conversation
  return (done, { world with conversation }.write (shown setup.options done calls))

theorem waitForReply_eq (setup : Setup) (state : StatePtr) (round : Round) (world : World lib) :
    waitForReply lib setup state round world = waitFor lib setup state round world := by
  simp only [waitForReply, waitFor, waitForStreamCompletion, waitForCompletion, sessionEntry, shown]
  cases setup.options.stream with
  | false =>
      simp only [Bool.false_eq_true, ↓reduceIte]
      generalize fetchAndWait lib setup _ state round world.conversation = waited
      cases waited with
      | error stop => rfl
      | ok result =>
          simp only [bind_ok, World.write, List.append_nil]
  | true =>
      simp only [↓reduceIte]
      generalize fetchAndWait lib setup _ state round world.conversation = waited
      cases waited with
      | error stop => rfl
      | ok result =>
          rcases result with ⟨done, calls, conversation⟩
          cases done with
          | none => rfl
          | some node =>
              simp only [bind_ok, World.write, List.append_assoc]

/-- The state asks for tools: the turn goes on. -/
def CallsTools (state : OaiCompletionState) : Prop :=
  state.log.status = .kSuccess ∧ state.message.toolCalls ≠ []

instance (state : OaiCompletionState) : Decidable (CallsTools state) :=
  inferInstanceAs (Decidable (_ ∧ _))

/-- What a round writes after the wait. -/
def logged (options : Options) (number : Nat) (state : OaiCompletionState) : List Write :=
  printLog number state.log ++
    if !options.stream && options.printReasoning then printReasoning state.message.reasoning else []

/-- What the last round of a turn writes after that. -/
def answerShown (options : Options) (state : OaiCompletionState) : List Write :=
  if options.stream ∨ state.log.status ≠ .kSuccess then []
  else [.out (state.message.message ++ "\n")]

/-- A round without the branch for results that cannot be appended. -/
theorem runRound_eq (setup : Setup) (number : Nat) (round : Round) (state : StatePtr)
    (world : World lib) :
    runRound lib setup number round state world = (do
      let (done, world) ← waitFor lib setup state round world
      match done with
      | none => return (.returns none, world.write [.err "failed to start completion request\n"])
      | some node =>
          let world := world.write (logged setup.options number node.value)
          if CallsTools node.value then
            let (state, world) ←
              appendResultsFrom lib setup round 0 node.value.message.toolCalls done world
            return (.goesOn state, world)
          else return (.returns done, world.write (answerShown setup.options node.value))) := by
  rw [runRound, waitForReply_eq]
  congr 1
  funext (done, world)
  cases done with
  | none => rfl
  | some node =>
      have writes : (world.write (printLog number node.value.log)).write
          (if (!setup.options.stream && setup.options.printReasoning) = true then
            printReasoning node.value.message.reasoning
          else []) = world.write (logged setup.options number node.value) := by
        simp only [World.write, logged, List.append_assoc]
      simp only [writes, CallsTools, answerShown]
      by_cases success : node.value.log.status = .kSuccess
      · by_cases noCalls : node.value.message.toolCalls = []
        · simp only [success, noCalls, ne_eq, not_true_eq_false, ↓reduceIte, and_false, or_false]
        · simp only [success, noCalls, ne_eq, not_true_eq_false, not_false_eq_true, ↓reduceIte,
            and_self, appendToolResults]
          generalize appendResultsFrom lib setup round 0 _ _ _ = appended
          cases appended <;> rfl
      · simp only [success, ne_eq, not_false_eq_true, ↓reduceIte, false_and, or_true, World.write,
          List.append_nil]

/-- A message appended to a stored state. -/
structure Appended (world : World lib) (message : OaiMessage) (previous : StatePtr)
    (result : StatePtr × World lib) : Prop where
  sound : ConversationSound lib result.2.conversation
  calls : result.2.conversation.calls = world.conversation.calls
  console : result.2.console = world.console
  grows : world.conversation.heap.Grows result.2.conversation.heap
  held : result.2.conversation.heap.Holds (result.1.map SharedPtr.address)
  chain : collectMessageChain result.2.conversation.heap (result.1.map SharedPtr.address) =
    collectMessageChain world.conversation.heap (previous.map SharedPtr.address) ++ [message]

/-- A node just allocated. -/
theorem last_allocated {heap later : StateHeap} {node : OaiCompletionState}
    (nodes : later.nodes = heap.nodes ++ [node]) (held : heap.Holds node.previous) :
    later.Holds (some heap.nodes.length) ∧
      collectMessageChain later (some heap.nodes.length) =
        collectMessageChain heap node.previous ++ [node.message] := by
  have grows : heap.Grows later := ⟨[node], nodes⟩
  have found : later.nodes[heap.nodes.length]? = some node := by
    rw [nodes, List.getElem?_concat_length]
  constructor
  · intro address isAddress
    cases isAddress
    exact (List.getElem?_eq_some_iff.mp found).1
  · rw [collectMessageChain_node found, grows.collectMessageChain_eq held]

theorem appendMessage_ensures {world : World lib}
    (sound : ConversationSound lib world.conversation) (factory : OaiCompletionFactory)
    (message : OaiMessage) {previous : StatePtr}
    (held : world.conversation.heap.Holds (previous.map SharedPtr.address)) (now : Int) :
    Ensures (fun _ => False) (Appended world message previous)
      (world.appendMessage factory message previous now) := by
  have offered : world.conversation.Offers
      (.append factory message (previous.map SharedPtr.address) now) := held
  rcases Option.isSome_iff_exists.mp (isSome_perform sound offered) with ⟨next, stepped⟩
  have kept := (performed_of_perform sound stepped).sound
  simp only [World.appendMessage, stepped, expect_some, bind_ok]
  cases effect_of_perform stepped with
  | append nodes =>
      have allocated := last_allocated nodes held
      exact ⟨kept, rfl, rfl, ⟨_, nodes⟩, allocated.1, allocated.2⟩

end Boai.DeepseekDemo
