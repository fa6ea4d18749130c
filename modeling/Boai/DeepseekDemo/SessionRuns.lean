import Boai.DeepseekDemo.Dialogue
import Boai.DeepseekDemo.ToolResults

/-!
# Runs of sessions

Every part of a session keeps its store coherent: each request continues a dialogue
and is over, and a pointer that the session goes on with ends the dialogue where
its next step expects it.  Over whole sessions this gives the requests they make,
and that they end.
-/

namespace Boai.DeepseekDemo

open Boai.Json Boai.Completion Outcome

/-! ## What a session keeps -/

section Sessions

variable {lib : Libraries} {setup : Setup}

/-- A pointer of the session to a dialogue in the store. -/
structure Continues (lib : Libraries) (setup : Setup) (speaker : Speaker) (heap : StateHeap)
    (state : StatePtr) : Prop where
  held : heap.Holds (state.map SharedPtr.address)
  dialogue : Dialogue lib.json setup speaker
    (collectMessageChain heap (state.map SharedPtr.address))

theorem Continues.grows {speaker : Speaker} {heap later : StateHeap} {state : StatePtr}
    (continues : Continues lib setup speaker heap state) (grows : heap.Grows later) :
    Continues lib setup speaker later state where
  held := continues.held.grows grows
  dialogue := by
    rw [grows.collectMessageChain_eq continues.held]
    exact continues.dialogue

/-- A pointer to the messages in front of the first question. -/
structure Opens (setup : Setup) (heap : StateHeap) (state : StatePtr) : Prop where
  held : heap.Holds (state.map SharedPtr.address)
  chain : collectMessageChain heap (state.map SharedPtr.address) = opening setup.options.system

theorem Opens.continues {heap : StateHeap} {state : StatePtr} (opens : Opens setup heap state) :
    Continues lib setup .user heap state where
  held := opens.held
  dialogue := by
    rw [opens.chain]
    exact .opened

theorem Opens.grows {heap later : StateHeap} {state : StatePtr} (opens : Opens setup heap state)
    (grows : heap.Grows later) : Opens setup later state where
  held := opens.held.grows grows
  chain := by
    rw [grows.collectMessageChain_eq opens.held]
    exact opens.chain

/-- A pointer behind which there is a message. -/
theorem exists_node_of_chain {heap : StateHeap} {state : StatePtr}
    (nonempty : collectMessageChain heap (state.map SharedPtr.address) ≠ []) :
    ∃ node, state = some node := by
  cases state with
  | some node => exact ⟨node, rfl⟩
  | none =>
      have empty : collectMessageChain heap none = [] := by
        simp only [collectMessageChain, ParentChain.chain]
        cases heap.nodes.length <;> rfl
      exact absurd empty nonempty

/-- Nothing is asked of the assistant before the first message. -/
theorem Dialogue.nonempty {json : JsonLib} {messages : List OaiMessage}
    (dialogue : Dialogue json setup .assistant messages) : messages ≠ [] := by
  cases dialogue with
  | asked | called => exact List.append_ne_nil_of_right_ne_nil _ (List.cons_ne_nil _ _)

/-- A request of the session: it continues a dialogue in which the assistant is to
speak, in the mode and with the tools and the model of the setup, and is over.  If
the setup permits, it was accepted, and then it has delivered one state. -/
structure Requested (lib : Libraries) (setup : Setup) (heap : StateHeap) (call : Call lib.sse) :
    Prop where
  held : heap.Holds call.args.state
  dialogue : Dialogue lib.json setup .assistant (collectMessageChain heap call.args.state)
  tools : call.args.tools = setup.toolRegistry.definitions
  modelInfo : call.args.modelInfo = setup.modelInfo
  streamed : call.entry.isStream = setup.options.stream
  accepted : setup.Startable → call.session.accepted = true
  settled : call.session.accepted = true →
    call.session.pending = [] ∧ ∃ state, call.session.states = [state]

theorem Requested.grows {heap later : StateHeap} {call : Call lib.sse}
    (requested : Requested lib setup heap call) (grows : heap.Grows later) :
    Requested lib setup later call :=
  { requested with
    held := requested.held.grows grows
    dialogue := by
      rw [grows.collectMessageChain_eq requested.held]
      exact requested.dialogue }

/-- What every world of a session keeps. -/
structure Coherent (setup : Setup) (world : World lib) : Prop where
  sound : ConversationSound lib world.conversation
  requested : ∀ call ∈ world.conversation.calls,
    Requested lib setup world.conversation.heap call

theorem Coherent.write {world : World lib} (coherent : Coherent setup world)
    (writes : List Write) : Coherent setup (world.write writes) :=
  ⟨coherent.sound, coherent.requested⟩

/-- Calls stay what they are when the store grows. -/
theorem Coherent.grows {world later : World lib} (coherent : Coherent setup world)
    (sound : ConversationSound lib later.conversation)
    (calls : later.conversation.calls = world.conversation.calls)
    (grows : world.conversation.heap.Grows later.conversation.heap) : Coherent setup later where
  sound := sound
  requested := by
    intro call member
    rw [calls] at member
    exact (coherent.requested call member).grows grows

/-- The wait for a fetch: the call is added, and a delivered state continues the
dialogue with a message of the assistant. -/
structure Waited (setup : Setup) (world : World lib) (state : StatePtr)
    (result : StatePtr × World lib) : Prop where
  coherent : Coherent setup result.2
  counted : result.2.conversation.calls.length = world.conversation.calls.length + 1
  grows : world.conversation.heap.Grows result.2.conversation.heap
  reply : ∀ node, result.1 = some node →
    IsReply setup.options.stream node.value.message ∧
      result.2.conversation.heap.Holds (some node.address) ∧
      collectMessageChain result.2.conversation.heap (some node.address) =
        collectMessageChain world.conversation.heap (state.map SharedPtr.address) ++
          [node.value.message]

theorem waitFor_ensures {world : World lib} (coherent : Coherent setup world) {state : StatePtr}
    (continues : Continues lib setup .assistant world.conversation.heap state) (round : Round) :
    Ensures (· = .unscripted) (Waited setup world state)
      (waitFor lib setup state round world) := by
  apply (fetchAndWait_ensures coherent.sound setup _ continues.held round).bind
  rintro ⟨done, callbacks, conversation⟩ ⟨alone, settled, extended⟩
  have calls : conversation.calls = world.conversation.calls ++
      [⟨fetchArgs setup state, sessionEntry setup.options, alone.2⟩] := extended.calls
  have nodes : conversation.heap.nodes = world.conversation.heap.nodes ++ alone.2.states :=
    extended.nodes
  have grows : world.conversation.heap.Grows conversation.heap := ⟨_, nodes⟩
  have accepted : setup.Startable → alone.2.accepted = true := by
    intro startable
    obtain ⟨node, isNode⟩ := exists_node_of_chain continues.dialogue.nonempty
    subst isNode
    have started := startable.accepted lib world.conversation.heap node round.now
    cases settled with
    | refused => exact started
    | delivered _ ran => exact (FetchSession.accepted_of_run ran).trans started
  have ended : alone.2.accepted = true →
      alone.2.pending = [] ∧ ∃ state, alone.2.states = [state] := by
    intro taken
    cases settled with
    | refused refused => exact absurd (refused.symm.trans taken) nofun
    | delivered _ _ idles states => exact ⟨idles, _, states⟩
  have requested : ∀ call ∈ conversation.calls,
      Requested lib setup conversation.heap call := by
    intro call member
    rw [calls] at member
    cases List.mem_append.mp member with
    | inl old => exact (coherent.requested call old).grows grows
    | inr new =>
        rw [List.mem_singleton.mp new]
        exact {
          held := (continues.grows grows).held
          dialogue := (continues.grows grows).dialogue
          tools := rfl
          modelInfo := rfl
          streamed := isStream_sessionEntry setup.options
          accepted := accepted
          settled := ended }
  have counted : conversation.calls.length = world.conversation.calls.length + 1 := by
    rw [calls, List.length_append, List.length_singleton]
  refine ⟨⟨extended.sound, requested⟩, counted, grows, ?_⟩
  intro node isNode
  have isDone := extended.done.symm.trans isNode
  cases settled with
  | refused => cases isDone
  | @delivered value idle _ ran _ states =>
      cases isDone
      have linked : value.previous = state.map SharedPtr.address :=
        FetchSession.linked_of_run ran value (by rw [states]; exact List.mem_singleton_self value)
      have held := continues.held
      rw [← linked] at held ⊢
      have replies := replies_of_run ran
      rw [isStream_sessionEntry] at replies
      rw [states] at nodes
      exact ⟨replies.isReply (by rw [states]; exact List.mem_singleton_self value),
        last_allocated nodes held⟩

/-- The loop over the tool calls of a reply: each of them is reported on. -/
structure Reported (setup : Setup) (world : World lib) (calls : List OaiToolCall)
    (state : StatePtr) (result : StatePtr × World lib) : Prop where
  coherent : Coherent setup result.2
  counted : result.2.conversation.calls.length = world.conversation.calls.length
  grows : world.conversation.heap.Grows result.2.conversation.heap
  held : result.2.conversation.heap.Holds (result.1.map SharedPtr.address)
  chain : ∃ reports, List.Forall₂ (Reports lib.json setup.toolRegistry) calls reports ∧
    collectMessageChain result.2.conversation.heap (result.1.map SharedPtr.address) =
      collectMessageChain world.conversation.heap (state.map SharedPtr.address) ++ reports

theorem appendResultsFrom_ensures (round : Round) (calls : List OaiToolCall) (position : Nat)
    {state : StatePtr} {world : World lib} (coherent : Coherent setup world)
    (held : world.conversation.heap.Holds (state.map SharedPtr.address)) :
    Ensures (· ≠ .blocked) (Reported setup world calls state)
      (appendResultsFrom lib setup round position calls state world) := by
  induction calls generalizing position state world with
  | nil => exact ⟨coherent, rfl, .refl _, held, [], .nil, (List.append_nil _).symm⟩
  | cons call calls ih =>
      rw [appendResultsFrom]
      have executes : Ensures (· ≠ .blocked)
          (fun result => setup.toolRegistry.execute (round.hosts position) call = some result)
          (expect Stop.undefined (setup.toolRegistry.execute (round.hosts position) call)) :=
        ensures_expect (fun _ executed => executed) (by simp)
      apply executes.bind
      intro result executed
      have written := (coherent.write (printToolCall lib.json position call)).write
        (printToolResult position (lib.json.serialize (toValue result)))
      have appends := appendMessage_ensures written.sound setup.factory
        { role := "tool", message := lib.json.serialize (toValue result), toolCallId := call.id }
        held (round.times position)
      apply (appends.allow fun _ never => never.elim).bind
      rintro ⟨next, later⟩ appended
      have continues := ih (position + 1)
        (coherent.grows appended.sound appended.calls appended.grows) appended.held
      apply continues.weaken
      rintro ⟨last, final⟩ reported
      rcases reported.chain with ⟨reports, matched, chain⟩
      have counted := reported.counted
      rw [appended.calls] at counted
      refine ⟨reported.coherent, counted, appended.grows.trans reported.grows, reported.held, _,
        .cons ⟨round.hosts position, result, executed, rfl⟩ matched, ?_⟩
      rw [chain, appended.chain, List.append_assoc]
      rfl

/-- A round: it returns with a state that, if it is a success, leaves the user to
speak, or goes on with one after which the assistant is to speak again. -/
structure RoundDone (setup : Setup) (world : World lib) (result : RoundEnd × World lib) :
    Prop where
  coherent : Coherent setup result.2
  counted : result.2.conversation.calls.length = world.conversation.calls.length + 1
  grows : world.conversation.heap.Grows result.2.conversation.heap
  returns : ∀ done, result.1 = .returns done → succeededWith done = true →
    Continues lib setup .user result.2.conversation.heap done
  goesOn : ∀ state, result.1 = .goesOn state →
    Continues lib setup .assistant result.2.conversation.heap state

theorem runRound_ensures (number : Nat) (round : Round) {state : StatePtr} {world : World lib}
    (coherent : Coherent setup world)
    (continues : Continues lib setup .assistant world.conversation.heap state) :
    Ensures (· ≠ .blocked) (RoundDone setup world)
      (runRound lib setup number round state world) := by
  rw [runRound_eq]
  have waits := waitFor_ensures coherent continues round
  apply (waits.allow fun stop unscripted => by rw [unscripted]; exact nofun).bind
  rintro ⟨done, waited⟩ after
  have kept : Coherent setup waited := after.coherent
  cases done with
  | none =>
      refine ⟨kept.write _, after.counted, after.grows, ?_, ?_⟩
      · intro done isDone success
        cases isDone
        cases success
      · intro next isNext
        cases isNext
  | some node =>
      obtain ⟨isReply, held, chain⟩ := after.reply node rfl
      have told : Dialogue lib.json setup .assistant
          (collectMessageChain world.conversation.heap (state.map SharedPtr.address)) :=
        continues.dialogue
      by_cases asks : CallsTools node.value
      · have written := kept.write (logged setup.options number node.value)
        have heldNode : waited.conversation.heap.Holds
            ((some node : StatePtr).map SharedPtr.address) := held
        have reports := appendResultsFrom_ensures round node.value.message.toolCalls 0 written
          heldNode
        simp only [asks, ↓reduceIte]
        apply reports.bind
        rintro ⟨next, final⟩ reported
        refine ⟨reported.coherent, reported.counted.trans after.counted,
          after.grows.trans reported.grows, ?_, ?_⟩
        · intro last isLast
          cases isLast
        · intro last isLast
          cases isLast
          rcases reported.chain with ⟨messages, matched, appended⟩
          refine ⟨reported.held, ?_⟩
          rw [appended]
          simp only [World.write, Option.map_some]
          rw [chain, List.append_assoc, List.singleton_append]
          exact .called told isReply asks.2 matched
      · simp only [asks, ↓reduceIte]
        refine ⟨(kept.write _).write _, after.counted, after.grows, ?_, ?_⟩
        · intro last isLast success
          cases isLast
          refine ⟨held, ?_⟩
          simp only [World.write, Option.map_some]
          rw [chain]
          have noCalls : node.value.message.toolCalls = [] := by
            by_contra calls
            exact asks ⟨of_decide_eq_true success, calls⟩
          exact .answered told isReply noCalls
        · intro next isNext
          cases isNext

/-- A turn: a successful last state leaves the user to speak. -/
structure Turned (setup : Setup) (world : World lib) (left : Nat)
    (result : StatePtr × World lib) : Prop where
  coherent : Coherent setup result.2
  bounded : result.2.conversation.calls.length ≤ world.conversation.calls.length + left
  grows : world.conversation.heap.Grows result.2.conversation.heap
  answered : succeededWith result.1 = true →
    Continues lib setup .user result.2.conversation.heap result.1

theorem runRounds_ensures (rounds : Nat → Round) (left number : Nat) {state : StatePtr}
    {world : World lib} (coherent : Coherent setup world)
    (continues : Continues lib setup .assistant world.conversation.heap state) :
    Ensures (· ≠ .blocked) (Turned setup world left)
      (runRounds lib setup rounds left number state world) := by
  induction left generalizing number state world with
  | zero =>
      refine ⟨coherent.write _, Nat.le_refl _, .refl _, ?_⟩
      intro success
      cases success
  | succ left ih =>
      rw [runRounds]
      apply (runRound_ensures number (rounds number) coherent continues).bind
      rintro ⟨ending, next⟩ done
      have counted : next.conversation.calls.length = world.conversation.calls.length + 1 :=
        done.counted
      cases ending with
      | returns state =>
          refine ⟨done.coherent, ?_, done.grows, done.returns state rfl⟩
          simp only [counted]
          omega
      | goesOn state =>
          apply (ih (number + 1) done.coherent (done.goesOn state rfl)).weaken
          rintro ⟨last, final⟩ turned
          have bounded : final.conversation.calls.length ≤ next.conversation.calls.length + left :=
            turned.bounded
          refine ⟨turned.coherent, ?_, done.grows.trans turned.grows, turned.answered⟩
          simp only
          omega

/-! ## Both modes -/

/-- The begin of a session, where the user is to speak. -/
structure Begun (setup : Setup) (result : StatePtr × World lib) : Prop where
  coherent : Coherent setup result.2
  counted : result.2.conversation.calls = []
  opens : Opens setup result.2.conversation.heap result.1

theorem Begun.continues {result : StatePtr × World lib} (begun : Begun setup result) :
    Continues lib setup .user result.2.conversation.heap result.1 := begun.opens.continues

theorem buildInitialState_ensures (now : Int) :
    Ensures (fun _ => False) (Begun setup) (buildInitialState setup now ({} : World lib)) := by
  have fresh : Coherent setup ({} : World lib) :=
    ⟨fun call member => absurd member List.not_mem_nil,
      fun call member => absurd member List.not_mem_nil⟩
  have nowhere : StateHeap.empty.Holds ((none : StatePtr).map SharedPtr.address) := by
    intro address pointed
    cases pointed
  rw [buildInitialState]
  split
  next noPrompt => exact ⟨fresh, rfl, nowhere, by rw [opening, if_pos noPrompt]; rfl⟩
  next prompt =>
    apply (appendMessage_ensures fresh.sound setup.factory _ nowhere now).weaken
    rintro ⟨state, world⟩ appended
    refine ⟨fresh.grows appended.sound appended.calls appended.grows, appended.calls,
      appended.held, ?_⟩
    rw [appended.chain, opening, if_neg prompt]
    rfl

/-- A question in front of a turn. -/
structure Asked (setup : Setup) (world : World lib) (result : StatePtr × World lib) : Prop where
  coherent : Coherent setup result.2
  calls : result.2.conversation.calls = world.conversation.calls
  grows : world.conversation.heap.Grows result.2.conversation.heap
  continues : Continues lib setup .assistant result.2.conversation.heap result.1

theorem ask_ensures {world : World lib} (coherent : Coherent setup world) {state : StatePtr}
    (continues : Continues lib setup .user world.conversation.heap state) (text : String)
    (now : Int) :
    Ensures (fun _ => False) (Asked setup world)
      (world.appendMessage setup.factory { role := "user", message := text } state now) := by
  apply (appendMessage_ensures coherent.sound setup.factory _ continues.held now).weaken
  rintro ⟨next, later⟩ appended
  refine ⟨coherent.grows appended.sound appended.calls appended.grows, appended.calls,
    appended.grows, appended.held, ?_⟩
  rw [appended.chain]
  exact .asked continues.dialogue text

theorem runOneShot_ensures (started asked : Int) (rounds : Nat → Round) :
    Ensures (· ≠ .blocked)
      (fun result => Coherent setup result.2 ∧
        result.2.conversation.calls.length ≤ setup.options.maxRoundTrips.toNat)
      (runOneShot lib setup started asked rounds {}) := by
  rw [runOneShot]
  apply ((buildInitialState_ensures started).allow fun _ never => never.elim).bind
  rintro ⟨initial, begun⟩ start
  apply ((ask_ensures start.coherent start.continues _ asked).allow
    fun _ never => never.elim).bind
  rintro ⟨state, world⟩ ask
  apply (runRounds_ensures rounds setup.options.maxRoundTrips.toNat 1 ask.coherent
    ask.continues).bind
  rintro ⟨done, final⟩ turned
  have none : world.conversation.calls = [] := ask.calls.trans start.counted
  have bounded := turned.bounded
  rw [none, List.length_nil, Nat.zero_add] at bounded
  exact ⟨turned.coherent, bounded⟩

theorem startInteractive_ensures (now : Int) :
    Ensures (fun _ => False) (Begun setup) (startInteractive setup now ({} : World lib)) := by
  rw [startInteractive]
  apply (buildInitialState_ensures now).bind
  rintro ⟨initial, begun⟩ start
  exact ⟨start.coherent.write _, start.counted, start.opens⟩

/-- A line that starts a turn. -/
def Input.isQuestion : Input → Bool
  | .line text _ _ => !decide (text ∈ [":quit", ":exit", ":tools", ":reset", ""])
  | .eof => false

/-- What every state of the interactive loop keeps after a number of questions: it
has not blocked, and whoever is at the prompt continues a dialogue, as does whoever
starts over. -/
def InteractiveSound (lib : Libraries) (setup : Setup) (initial : StatePtr) (questions : Nat) :
    Interactive lib → Prop
  | .reading state world =>
      Coherent setup world ∧ Continues lib setup .user world.conversation.heap state ∧
        Opens setup world.conversation.heap initial ∧
        world.conversation.calls.length ≤ questions * setup.options.maxRoundTrips.toNat
  | .returned _ world =>
      Coherent setup world ∧
        world.conversation.calls.length ≤ questions * setup.options.maxRoundTrips.toNat
  | .stopped stop => stop ≠ .blocked

theorem readLine_ensures {initial state : StatePtr} {world : World lib} {questions : Nat}
    (sound : InteractiveSound lib setup initial questions (.reading state world)) (input : Input) :
    Ensures (· ≠ .blocked)
      (InteractiveSound lib setup initial (questions + if input.isQuestion then 1 else 0))
      (readLine lib setup initial state world input) := by
  obtain ⟨coherent, continues, again, bounded⟩ := sound
  have kept : world.conversation.calls.length ≤
      (questions + if input.isQuestion then 1 else 0) * setup.options.maxRoundTrips.toNat :=
    bounded.trans (Nat.mul_le_mul_right _ (Nat.le_add_right _ _))
  generalize isLater : questions + (if input.isQuestion then 1 else 0) = later at kept ⊢
  cases input with
  | eof => exact ⟨(coherent.write _).write _, kept⟩
  | line text now rounds =>
      rw [readLine]
      split
      next => exact ⟨coherent.write _, kept⟩
      next notQuit =>
      split
      next => exact ⟨(coherent.write _).write _, continues, again, kept⟩
      next notTools =>
      split
      next => exact ⟨(coherent.write _).write _, again.continues, again, kept⟩
      next notReset =>
      split
      next => exact ⟨coherent.write _, continues, again, kept⟩
      next notEmpty =>
      have isQuestion : (Input.line text now rounds).isQuestion = true := by
        simp only [not_or] at notQuit
        simp [Input.isQuestion, notQuit, notTools, notReset, notEmpty]
      rw [isQuestion, if_pos rfl] at isLater
      rw [answerUser, ← isLater]
      apply ((ask_ensures (coherent.write _) continues text now).allow
        fun _ never => never.elim).bind
      rintro ⟨asking, asked⟩ ask
      apply (runRounds_ensures rounds setup.options.maxRoundTrips.toNat 1
        (ask.coherent.write _) ask.continues).bind
      rintro ⟨done, final⟩ turned
      have spent : final.conversation.calls.length ≤
          (questions + 1) * setup.options.maxRoundTrips.toNat := by
        have same : asked.conversation.calls = world.conversation.calls := ask.calls
        have turn : final.conversation.calls.length ≤
            asked.conversation.calls.length + setup.options.maxRoundTrips.toNat := turned.bounded
        rw [same] at turn
        rw [Nat.succ_mul]
        exact turn.trans (Nat.add_le_add_right bounded _)
      simp only
      split
      next success =>
        exact ⟨turned.coherent, turned.answered success,
          again.grows (ask.grows.trans turned.grows), spent⟩
      next => exact ⟨turned.coherent, spent⟩

theorem interactiveSound_of_run {started : Int} {initial : StatePtr} {begun : World lib}
    (begins : startInteractive setup started ({} : World lib) = .ok (initial, begun))
    {inputs : List Input} {final : Interactive lib}
    (ran : (interactiveMachine lib setup initial).run (.reading initial begun) inputs =
      some final) :
    InteractiveSound lib setup initial (inputs.countP Input.isQuestion) final := by
  have start := (startInteractive_ensures started).of_ok begins
  refine StepMachine.run_history
    (fun past => InteractiveSound lib setup initial (past.countP Input.isQuestion)) ?_ ?_ ran
  · refine ⟨start.coherent, start.continues, start.opens, ?_⟩
    have none : begun.conversation.calls = [] := start.counted
    rw [none]
    exact Nat.zero_le _
  · intro past phase input next _ sound stepped
    rw [List.countP_append, List.countP_singleton]
    cases phase with
    | returned | stopped => cases stepped
    | reading state world =>
        have reads := readLine_ensures sound input
        simp only [interactiveMachine] at stepped
        split at stepped
        next after read =>
          cases stepped
          exact reads.of_ok read
        next => cases stepped
        next stop _ read =>
          cases stepped
          exact reads.allowed_of_error read

/-! ## Sessions -/

/-- The world of an interactive session that has not stopped. -/
def Interactive.world : Interactive lib → Option (World lib)
  | .reading _ world | .returned _ world => some world
  | .stopped _ => none

/-- The exit code of an interactive session that has returned. -/
def Interactive.code : Interactive lib → Option Int
  | .returned code _ => some code
  | .reading _ _ | .stopped _ => none

/-- The worlds of the sessions of a setup: where the one-shot mode ends, and where
the interactive mode is after any inputs. -/
inductive Reached (lib : Libraries) (setup : Setup) : World lib → Prop where
  | oneShot {started asked : Int} {rounds : Nat → Round} {code : Int} {world : World lib}
      (ran : runOneShot lib setup started asked rounds {} = .ok (code, world)) :
      Reached lib setup world
  | interactive {started : Int} {initial : StatePtr} {begun world : World lib}
      {inputs : List Input} {final : Interactive lib}
      (begins : startInteractive setup started {} = .ok (initial, begun))
      (ran : (interactiveMachine lib setup initial).run (.reading initial begun) inputs =
        some final)
      (isAt : final.world = some world) : Reached lib setup world

theorem Reached.coherent {world : World lib} (reached : Reached lib setup world) :
    Coherent setup world := by
  cases reached with
  | oneShot ran => exact ((runOneShot_ensures _ _ _).of_ok ran).1
  | @interactive _ _ _ _ _ final begins ran isAt =>
      have sound := interactiveSound_of_run begins ran
      cases final with
      | reading | returned =>
          cases isAt
          exact sound.1
      | stopped => cases isAt

end Sessions

/-! ## A session over the reference libraries -/

/-- A server whose first reply calls a tool and whose second one is a text. -/
def toolServer : Libraries :=
  Reference.libraries
    [("1", .object [("choices", .array [.object [("message", .object
        [("tool_calls", .array [.object [("id", .string "a"), ("function", .object
          [("name", .string "system_info"), ("arguments", .object [])])]])])]])]),
      ("2", .object [("choices", .array [.object [("message", .object
        [("content", .string "linux")])]])])]

def oneQuestion : Setup where
  factory := Reference.factory
  toolRegistry := demoRegistry
  modelInfo := some Reference.modelInfo
  options := { user := "which system?" }

/-- A round in which the server answers with a body. -/
def answeredWith (body : String) : Round where
  now := 0
  answers := [.completion ⟨0, .acquire (.ok (.tcp 3))⟩,
    .completion ⟨0, .done { response := { status := 200, body } }⟩]
  hosts := fun _ => plainHost
  times := fun _ => 0

def toolThenAnswer (number : Nat) : Round := answeredWith (toString number)

theorem toolThenAnswer_returns :
    ∃ world, runOneShot toolServer oneQuestion 0 0 toolThenAnswer {} = .ok (0, world) ∧
      world.conversation.calls.length = 2 := by
  have computed : (runOneShot toolServer oneQuestion 0 0 toolThenAnswer {}).toOption.map
      (fun result => (result.1, result.2.conversation.calls.length)) = some (0, 2) := by
    decide +kernel
  rcases Option.map_eq_some_iff.mp computed with ⟨⟨code, world⟩, returned, read⟩
  simp only [Prod.mk.injEq] at read
  have ran := ok_of_toOption returned
  rw [read.1] at ran
  exact ⟨world, ran, read.2⟩

/-! ## The requests of a session -/

/-- Whatever the user types, the server answers and the tools find, every request of
a session encodes a dialogue in which the assistant is to speak: behind the system
prompt questions and answers alternate, and each message that calls tools is
followed by one report on each call, in order and under its id.  The request offers
the tools of the registry and asks for the mode of the session. -/
theorem session_requests_dialogues (lib : Libraries) (frames : lib.http.Frames) (setup : Setup)
    (world : World lib) (reached : Reached lib setup world) :
    ∀ call ∈ world.conversation.calls,
      let messages := collectMessageChain world.conversation.heap call.args.state
      Dialogue lib.json setup .assistant messages ∧
      ∀ request, .start request ∈ call.session.issued →
        ∃ modelInfo, setup.modelInfo = some modelInfo ∧
          request.body = lib.json.serialize (toValue (requestRoot lib.json messages
            setup.toolRegistry.definitions modelInfo.value setup.options.stream)) := by
  intro call member
  have coherent := reached.coherent
  have requested := coherent.requested call member
  refine ⟨requested.dialogue, ?_⟩
  intro request started
  rcases sent_body frames (coherent.sound call member) started with ⟨modelInfo, isInfo, body⟩
  rw [requested.tools, requested.streamed] at body
  exact ⟨modelInfo, requested.modelInfo ▸ isInfo, body⟩

theorem session_requests_dialogues_toolThenAnswer :
    ∃ world, Reached toolServer oneQuestion world ∧ world.conversation.calls.length = 2 ∧
      ∀ call ∈ world.conversation.calls, Dialogue toolServer.json oneQuestion .assistant
        (collectMessageChain world.conversation.heap call.args.state) := by
  rcases toolThenAnswer_returns with ⟨world, ran, counted⟩
  have reached : Reached toolServer oneQuestion world := .oneShot ran
  refine ⟨world, reached, counted, ?_⟩
  intro call member
  exact (session_requests_dialogues toolServer Reference.http_frames oneQuestion world reached call
    member).1

/-- No session waits for a promise that nobody fulfils, and none calls the provider
without end: a turn makes at most `max_round_trips` requests.  If the setup names a
provider and a model, every request was accepted, has delivered one state and
leaves nothing outstanding behind. -/
theorem session_settles (lib : Libraries) (setup : Setup) :
    (∀ started asked rounds, runOneShot lib setup started asked rounds {} ≠ .error .blocked ∧
      ∀ code world, runOneShot lib setup started asked rounds {} = .ok (code, world) →
        world.conversation.calls.length ≤ setup.options.maxRoundTrips.toNat) ∧
    (∀ started initial begun, startInteractive setup started {} = .ok (initial, begun) →
      ∀ inputs final, (interactiveMachine lib setup initial).run (.reading initial begun) inputs =
        some final →
        final ≠ .stopped .blocked ∧ ∀ world, final.world = some world →
          world.conversation.calls.length ≤
            inputs.countP Input.isQuestion * setup.options.maxRoundTrips.toNat) ∧
    (setup.Startable → ∀ world, Reached lib setup world → ∀ call ∈ world.conversation.calls,
      call.session.accepted = true ∧ call.session.pending = [] ∧
        ∃ state, call.session.states = [state]) := by
  refine ⟨?_, ?_, ?_⟩
  · intro started asked rounds
    have ensures : Ensures (· ≠ .blocked) _ (runOneShot lib setup started asked rounds {}) :=
      runOneShot_ensures started asked rounds
    refine ⟨?_, fun code world ran => (ensures.of_ok ran).2⟩
    intro blocked
    exact ensures.allowed_of_error blocked rfl
  · intro started initial begun begins inputs final ran
    have sound := interactiveSound_of_run begins ran
    cases final with
    | reading =>
        refine ⟨nofun, ?_⟩
        intro world isWorld
        cases isWorld
        exact sound.2.2.2
    | returned =>
        refine ⟨nofun, ?_⟩
        intro world isWorld
        cases isWorld
        exact sound.2
    | stopped stop => exact ⟨fun same => sound (Interactive.stopped.inj same), nofun⟩
  · intro startable world reached call member
    have requested := reached.coherent.requested call member
    have accepted := requested.accepted startable
    exact ⟨accepted, requested.settled accepted⟩

theorem session_settles_toolThenAnswer :
    ∃ world, Reached toolServer oneQuestion world ∧ world.conversation.calls.length = 2 ∧
      ∀ call ∈ world.conversation.calls, ∃ state, call.session.states = [state] := by
  rcases toolThenAnswer_returns with ⟨world, ran, counted⟩
  have reached : Reached toolServer oneQuestion world := .oneShot ran
  have startable : oneQuestion.Startable :=
    ⟨Reference.info, Reference.modelInfo, rfl, rfl, by decide, by decide⟩
  refine ⟨world, reached, counted, ?_⟩
  intro call member
  exact ((session_settles toolServer oneQuestion).2.2 startable world reached call member).2.2

end Boai.DeepseekDemo
