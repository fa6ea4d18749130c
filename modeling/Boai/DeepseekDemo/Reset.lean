import Boai.DeepseekDemo.SessionRuns

/-!
# Starting over

After `:reset` a chat goes on as a chat that has just been started does: on the same
inputs both write the same, send the same requests and end alike.  Nothing that was
said before is left but the nodes in the store and the calls, and neither has an
effect.  The two chats are run alongside each other, and each step keeps their
pointers at equal dialogues.
-/

namespace Boai.DeepseekDemo

open Boai.Json Boai.Completion Outcome

/-! ## Two sessions alongside each other -/

section Alongside

variable {lib : Libraries} {setup : Setup}

/-- Calls that differ in the link to the caller's state at most. -/
structure SameCall (call other : Call lib.sse) : Prop where
  entry : other.entry = call.entry
  session : ∃ target, other.session = call.session.relink target

/-- What two sessions have done since two points: they have written the same and
made the same calls. -/
structure Alongside (base baseOther world other : World lib) : Prop where
  sound : ConversationSound lib world.conversation
  soundOther : ConversationSound lib other.conversation
  grows : base.conversation.heap.Grows world.conversation.heap
  growsOther : baseOther.conversation.heap.Grows other.conversation.heap
  console : ∃ written, world.console = base.console ++ written ∧
    other.console = baseOther.console ++ written
  calls : ∃ made others, world.conversation.calls = base.conversation.calls ++ made ∧
    other.conversation.calls = baseOther.conversation.calls ++ others ∧
    List.Forall₂ SameCall made others

/-- Pointers to the same dialogue. -/
structure SamePlace (heap other : StateHeap) (state target : StatePtr) : Prop where
  held : heap.Holds (state.map SharedPtr.address)
  heldOther : other.Holds (target.map SharedPtr.address)
  chain : collectMessageChain other (target.map SharedPtr.address) =
    collectMessageChain heap (state.map SharedPtr.address)

/-- Pointers to the same dialogue with a message in it. -/
structure Asking (heap other : StateHeap) (state target : StatePtr) : Prop
    extends SamePlace heap other state target where
  nonempty : collectMessageChain heap (state.map SharedPtr.address) ≠ []

/-- What two calls have delivered. -/
inductive SameDone (heap other : StateHeap) : StatePtr → StatePtr → Prop where
  | none : SameDone heap other none none
  | some {node target : SharedPtr OaiCompletionState}
      (place : Asking heap other (some node) (some target))
      (message : target.value.message = node.value.message)
      (log : target.value.log = node.value.log) : SameDone heap other (some node) (some target)

theorem Alongside.write {base baseOther world other : World lib}
    (alongside : Alongside base baseOther world other) (writes : List Write) :
    Alongside base baseOther (world.write writes) (other.write writes) where
  sound := alongside.sound
  soundOther := alongside.soundOther
  grows := alongside.grows
  growsOther := alongside.growsOther
  calls := alongside.calls
  console := by
    rcases alongside.console with ⟨written, console, consoleOther⟩
    refine ⟨written ++ writes, ?_, ?_⟩
    · rw [World.write, console, List.append_assoc]
    · rw [World.write, consoleOther, List.append_assoc]

theorem SamePlace.grows {heap other later laterOther : StateHeap} {state target : StatePtr}
    (place : SamePlace heap other state target) (grows : heap.Grows later)
    (growsOther : other.Grows laterOther) : SamePlace later laterOther state target where
  held := place.held.grows grows
  heldOther := place.heldOther.grows growsOther
  chain := by
    rw [grows.collectMessageChain_eq place.held, growsOther.collectMessageChain_eq place.heldOther]
    exact place.chain

/-! ## Steps -/

/-- The same message appended in both sessions. -/
theorem appendMessage_agrees {base baseOther world other : World lib}
    (alongside : Alongside base baseOther world other) {state target : StatePtr}
    (place : SamePlace world.conversation.heap other.conversation.heap state target)
    (factory : OaiCompletionFactory) (message : OaiMessage) (now : Int) :
    Agree (fun result resultOther =>
        Alongside base baseOther result.2 resultOther.2 ∧
          Asking result.2.conversation.heap resultOther.2.conversation.heap result.1
            resultOther.1)
      (world.appendMessage factory message state now)
      (other.appendMessage factory message target now) := by
  have appends := agree_of_ensures
    (appendMessage_ensures alongside.sound factory message place.held now)
    (appendMessage_ensures alongside.soundOther factory message place.heldOther now)
  apply appends.weaken
  rintro ⟨next, later⟩ ⟨nextOther, laterOther⟩ ⟨appended, appendedOther⟩
  have chain : collectMessageChain laterOther.conversation.heap
      (nextOther.map SharedPtr.address) =
        collectMessageChain later.conversation.heap (next.map SharedPtr.address) := by
    have left : collectMessageChain later.conversation.heap (next.map SharedPtr.address) = _ :=
      appended.chain
    rw [left, appendedOther.chain, place.chain]
  have nonempty :
      collectMessageChain later.conversation.heap (next.map SharedPtr.address) ≠ [] := by
    have left : collectMessageChain later.conversation.heap (next.map SharedPtr.address) = _ :=
      appended.chain
    rw [left]
    exact List.append_ne_nil_of_right_ne_nil _ (List.cons_ne_nil _ _)
  have console : later.console = world.console := appended.console
  have consoleOther : laterOther.console = other.console := appendedOther.console
  have calls : later.conversation.calls = world.conversation.calls := appended.calls
  have callsOther : laterOther.conversation.calls = other.conversation.calls :=
    appendedOther.calls
  refine ⟨⟨appended.sound, appendedOther.sound, alongside.grows.trans appended.grows,
    alongside.growsOther.trans appendedOther.grows, ?_, ?_⟩,
    ⟨appended.held, appendedOther.held, chain⟩, nonempty⟩
  · simp only [console, consoleOther]
    exact alongside.console
  · simp only [calls, callsOther]
    exact alongside.calls

/-- A call on its own does not depend on the linked state. -/
theorem fetchAlone_relink (session : FetchSession lib.sse) (target : StateRef)
    (answers : List FetchAnswer) :
    Agree (fun alone aloneOther =>
        aloneOther = (alone.1.map (OaiCompletionState.relink target), alone.2.relink target))
      (fetchAlone lib session answers) (fetchAlone lib (session.relink target) answers) := by
  simp only [fetchAlone, FetchSession.accepted_relink, FetchSession.run_relink]
  split
  next =>
    cases (FetchSession.machine lib).run session answers with
    | none => exact rfl
    | some idle =>
        simp only [Option.map_some, expect_some, bind_ok, FetchSession.pending_relink,
          FetchSession.states_relink, List.head?_map]
        split
        next =>
          cases idle.states.head? with
          | none => exact rfl
          | some done => exact rfl
        next => exact rfl
  next => exact rfl

theorem printDeltas_relink (target : StateRef) (sawReasoning : Bool)
    (calls : List StreamCallback) :
    printDeltas sawReasoning (calls.map (StreamCallback.relink target)) =
      printDeltas sawReasoning calls := by
  induction calls generalizing sawReasoning with
  | nil => rfl
  | cons callback calls ih =>
      cases callback with
      | onDelta text =>
          simp only [List.map_cons, StreamCallback.relink, printDeltas, ih]
      | onReasoningDelta text =>
          simp only [List.map_cons, StreamCallback.relink, printDeltas, ih]
      | onDone node =>
          simp only [List.map_cons, StreamCallback.relink, printDeltas, ih]

theorem deltas_relink (target : StateRef) (calls : List StreamCallback) :
    deltas (calls.map (StreamCallback.relink target)) = deltas calls := by
  simp only [deltas, List.filterMap_map]
  apply List.filterMap_congr
  intro callback _
  cases callback <;> rfl

theorem reasoningDeltas_relink (target : StateRef) (calls : List StreamCallback) :
    reasoningDeltas (calls.map (StreamCallback.relink target)) = reasoningDeltas calls := by
  simp only [reasoningDeltas, List.filterMap_map]
  apply List.filterMap_congr
  intro callback _
  cases callback <;> rfl

theorem shown_relink (options : Options) {heap other : StateHeap} {done doneOther : StatePtr}
    (same : SameDone heap other done doneOther) (target : StateRef)
    (calls : List StreamCallback) :
    shown options doneOther (calls.map (StreamCallback.relink target)) =
      shown options done calls := by
  cases same with
  | none => simp only [shown, printDeltas_relink]
  | some place message log =>
      simp only [shown, printDeltas_relink, closeStream, deltas_relink, reasoningDeltas_relink,
        message]

/-- The same fetch in both sessions, and what it does on its own. -/
theorem fetches_agree {conversation other : Conversation lib.sse}
    (sound : ConversationSound lib conversation) (soundOther : ConversationSound lib other)
    {node target : SharedPtr OaiCompletionState}
    (place : SamePlace conversation.heap other.heap (some node) (some target))
    (entry : EntryPoint) (round : Round) :
    Agree (fun waited waitedOther => ∃ alone,
        Settled lib (FetchSession.start lib setup.factory conversation.heap
          (fetchArgs setup (some node)) round.now entry) round.answers alone ∧
        Extended conversation (fetchArgs setup (some node)) entry alone waited ∧
        Extended other (fetchArgs setup (some target)) entry
          (alone.1.map (OaiCompletionState.relink target.address),
            alone.2.relink target.address) waitedOther)
      (fetchAndWait lib setup entry (some node) round conversation)
      (fetchAndWait lib setup entry (some target) round other) := by
  have launch : FetchSession.start lib setup.factory other.heap (fetchArgs setup (some target))
      round.now entry =
        (FetchSession.start lib setup.factory conversation.heap (fetchArgs setup (some node))
          round.now entry).relink target.address :=
    FetchSession.start_relink lib setup.factory place.chain (fetchArgs setup none) round.now entry
  have left := fetchAndWait_agrees sound setup entry place.held round
  have right := fetchAndWait_agrees soundOther setup entry place.heldOther round
  rw [launch] at right
  have middle := (fetchAlone_relink (FetchSession.start lib setup.factory conversation.heap
    (fetchArgs setup (some node)) round.now entry) target.address round.answers).keep
      (fetchAlone_ensures setup.factory conversation.heap _ round.now entry round.answers)
  have both := (left.symm.trans middle).trans right
  apply both.weaken
  rintro waited waitedOther ⟨_, ⟨alone, extended, settled, rfl⟩, extendedOther⟩
  exact ⟨alone, settled, extended, extendedOther⟩

/-- The sessions alongside each other after a fetch in each. -/
theorem Alongside.extend {base baseOther world other : World lib}
    (alongside : Alongside base baseOther world other)
    {node goal : SharedPtr OaiCompletionState} {entry : EntryPoint}
    {alone : Option OaiCompletionState × FetchSession lib.sse}
    {waited waitedOther : StatePtr × List StreamCallback × Conversation lib.sse}
    (extended : Extended world.conversation (fetchArgs setup (some node)) entry alone waited)
    (extendedOther : Extended other.conversation (fetchArgs setup (some goal)) entry
      (alone.1.map (OaiCompletionState.relink goal.address), alone.2.relink goal.address)
      waitedOther) :
    Alongside base baseOther { world with conversation := waited.2.2 }
      { other with conversation := waitedOther.2.2 } := by
  refine ⟨extended.sound, extendedOther.sound, alongside.grows.trans ⟨_, extended.nodes⟩,
    alongside.growsOther.trans ⟨_, extendedOther.nodes⟩, alongside.console, ?_⟩
  have last : SameCall ⟨fetchArgs setup (some node), entry, alone.2⟩
      ⟨fetchArgs setup (some goal), entry, alone.2.relink goal.address⟩ :=
    ⟨rfl, goal.address, rfl⟩
  rcases alongside.calls with ⟨made, others, before, beforeOther, same⟩
  refine ⟨_, _, ?_, ?_, List.rel_append same (.cons last .nil)⟩
  · simp only [extended.calls, before, List.append_assoc]
  · simp only [extendedOther.calls, beforeOther, List.append_assoc]

/-- What a fetch in each session delivers. -/
theorem sameDone_of_settled {conversation other : Conversation lib.sse}
    {node goal : SharedPtr OaiCompletionState}
    (asking : Asking conversation.heap other.heap (some node) (some goal))
    {entry : EntryPoint} {round : Round}
    {alone : Option OaiCompletionState × FetchSession lib.sse}
    {waited waitedOther : StatePtr × List StreamCallback × Conversation lib.sse}
    (settled : Settled lib (FetchSession.start lib setup.factory conversation.heap
      (fetchArgs setup (some node)) round.now entry) round.answers alone)
    (extended : Extended conversation (fetchArgs setup (some node)) entry alone waited)
    (extendedOther : Extended other (fetchArgs setup (some goal)) entry
      (alone.1.map (OaiCompletionState.relink goal.address), alone.2.relink goal.address)
      waitedOther) :
    SameDone waited.2.2.heap waitedOther.2.2.heap waited.1 waitedOther.1 := by
  have nodes : waited.2.2.heap.nodes = _ := extended.nodes
  have nodesOther : waitedOther.2.2.heap.nodes = _ := extendedOther.nodes
  rw [extended.done, extendedOther.done]
  cases settled with
  | refused => exact .none
  | @delivered value idle accepted ran idles states =>
      have linked : value.previous = some node.address :=
        FetchSession.linked_of_run ran value (by rw [states]; exact List.mem_singleton_self value)
      have statesOther : (idle.relink goal.address).states = [value.relink goal.address] := by
        rw [FetchSession.states_relink, states, List.map_singleton]
      rw [states] at nodes
      rw [statesOther] at nodesOther
      have held := asking.held
      rw [Option.map_some, ← linked] at held
      have allocated := last_allocated nodes held
      have allocatedOther := last_allocated nodesOther asking.heldOther
      have chain := allocated.2
      rw [linked] at chain
      refine .some ⟨⟨allocated.1, allocatedOther.1, ?_⟩, ?_⟩ rfl rfl
      · simp only [Option.map_some]
        rw [chain, allocatedOther.2]
        exact congrArg (· ++ [value.message]) asking.chain
      · simp only [Option.map_some]
        rw [chain]
        exact List.append_ne_nil_of_right_ne_nil _ (List.cons_ne_nil _ _)

/-- The wait for a reply in both sessions. -/
theorem waitFor_agrees {base baseOther world other : World lib}
    (alongside : Alongside base baseOther world other) {state target : StatePtr}
    (asking : Asking world.conversation.heap other.conversation.heap state target)
    (round : Round) :
    Agree (fun result resultOther =>
        Alongside base baseOther result.2 resultOther.2 ∧
          SameDone result.2.conversation.heap resultOther.2.conversation.heap result.1
            resultOther.1)
      (waitFor lib setup state round world) (waitFor lib setup target round other) := by
  have nonemptyOther : collectMessageChain other.conversation.heap
      (target.map SharedPtr.address) ≠ [] := by
    rw [asking.chain]
    exact asking.nonempty
  rcases exists_node_of_chain asking.nonempty with ⟨node, rfl⟩
  rcases exists_node_of_chain nonemptyOther with ⟨goal, rfl⟩
  apply (fetches_agree alongside.sound alongside.soundOther asking.toSamePlace
    (sessionEntry setup.options) round).bind
  rintro ⟨done, callbacks, conversation⟩ ⟨doneOther, callbacksOther, conversationOther⟩
    ⟨alone, settled, extended, extendedOther⟩
  have isCallbacks : callbacks = _ := extended.callbacks
  have isCallbacksOther : callbacksOther = _ := extendedOther.callbacks
  have same : SameDone conversation.heap conversationOther.heap done doneOther :=
    sameDone_of_settled asking settled extended extendedOther
  have shows : shown setup.options doneOther callbacksOther =
      shown setup.options done callbacks := by
    rw [isCallbacksOther, isCallbacks, FetchSession.callbacks_relink]
    exact shown_relink setup.options same goal.address alone.2.callbacks
  refine ⟨?_, same⟩
  simp only [shows]
  exact (alongside.extend extended extendedOther).write _

/-- The tool calls of a reply in both sessions. -/
theorem appendResultsFrom_agrees {base baseOther : World lib} (round : Round)
    (calls : List OaiToolCall) (position : Nat) {world other : World lib}
    (alongside : Alongside base baseOther world other) {state target : StatePtr}
    (asking : Asking world.conversation.heap other.conversation.heap state target) :
    Agree (fun result resultOther =>
        Alongside base baseOther result.2 resultOther.2 ∧
          Asking result.2.conversation.heap resultOther.2.conversation.heap result.1
            resultOther.1)
      (appendResultsFrom lib setup round position calls state world)
      (appendResultsFrom lib setup round position calls target other) := by
  induction calls generalizing position state target world other with
  | nil => exact ⟨alongside, asking⟩
  | cons call calls ih =>
      rw [appendResultsFrom, appendResultsFrom]
      have executes : Agree (fun result resultOther => result = resultOther)
          (expect Stop.undefined (setup.toolRegistry.execute (round.hosts position) call))
          (expect Stop.undefined (setup.toolRegistry.execute (round.hosts position) call)) := by
        cases setup.toolRegistry.execute (round.hosts position) call with
        | none => exact rfl
        | some result => exact rfl
      apply executes.bind
      intro result _ same
      subst same
      have written := (alongside.write (printToolCall lib.json position call)).write
        (printToolResult position (lib.json.serialize (toValue result)))
      apply (appendMessage_agrees written asking.toSamePlace setup.factory _
        (round.times position)).bind
      rintro ⟨next, later⟩ ⟨nextOther, laterOther⟩ ⟨alongside, asking⟩
      exact ih (position + 1) alongside asking

/-- How the same round ends in both sessions. -/
inductive SameEnd (heap other : StateHeap) : RoundEnd → RoundEnd → Prop where
  | returns {done doneOther : StatePtr} (same : SameDone heap other done doneOther) :
      SameEnd heap other (.returns done) (.returns doneOther)
  | goesOn {state target : StatePtr} (asking : Asking heap other state target) :
      SameEnd heap other (.goesOn state) (.goesOn target)

theorem runRound_agrees {base baseOther world other : World lib} (number : Nat) (round : Round)
    (alongside : Alongside base baseOther world other) {state target : StatePtr}
    (asking : Asking world.conversation.heap other.conversation.heap state target) :
    Agree (fun result resultOther =>
        Alongside base baseOther result.2 resultOther.2 ∧
          SameEnd result.2.conversation.heap resultOther.2.conversation.heap result.1
            resultOther.1)
      (runRound lib setup number round state world)
      (runRound lib setup number round target other) := by
  rw [runRound_eq, runRound_eq]
  apply (waitFor_agrees alongside asking round).bind
  rintro ⟨done, waited⟩ ⟨doneOther, waitedOther⟩ ⟨alongside, same⟩
  cases same with
  | none => exact ⟨alongside.write _, .returns .none⟩
  | @some node goal place message log =>
      have tools : CallsTools goal.value ↔ CallsTools node.value := by
        rw [CallsTools, CallsTools, message, log]
      have logs : logged setup.options number goal.value =
          logged setup.options number node.value := by
        rw [logged, logged, message, log]
      have answers : answerShown setup.options goal.value =
          answerShown setup.options node.value := by
        rw [answerShown, answerShown, message, log]
      simp only [tools, logs, answers]
      have written := alongside.write (logged setup.options number node.value)
      split
      next =>
        rw [message]
        apply (appendResultsFrom_agrees round node.value.message.toolCalls 0 written place).bind
        rintro ⟨next, final⟩ ⟨nextOther, finalOther⟩ ⟨alongside, asking⟩
        exact ⟨alongside, .goesOn asking⟩
      next => exact ⟨written.write _, .returns (.some place message log)⟩

theorem runRounds_agrees {base baseOther : World lib} (rounds : Nat → Round)
    (left number : Nat) {world other : World lib}
    (alongside : Alongside base baseOther world other) {state target : StatePtr}
    (asking : Asking world.conversation.heap other.conversation.heap state target) :
    Agree (fun result resultOther =>
        Alongside base baseOther result.2 resultOther.2 ∧
          SameDone result.2.conversation.heap resultOther.2.conversation.heap result.1
            resultOther.1)
      (runRounds lib setup rounds left number state world)
      (runRounds lib setup rounds left number target other) := by
  induction left generalizing number state target world other with
  | zero => exact ⟨alongside.write _, .none⟩
  | succ left ih =>
      rw [runRounds, runRounds]
      apply (runRound_agrees number (rounds number) alongside asking).bind
      rintro ⟨ending, next⟩ ⟨endingOther, nextOther⟩ ⟨alongside, same⟩
      cases same with
      | returns same => exact ⟨alongside, same⟩
      | goesOn asking => exact ih (number + 1) alongside asking

theorem succeededWith_same {heap other : StateHeap} {done doneOther : StatePtr}
    (same : SameDone heap other done doneOther) :
    succeededWith doneOther = succeededWith done := by
  cases same with
  | none => rfl
  | some place message log => simp only [succeededWith, log]

/-! ## Chats -/

/-- Where two chats are that go alongside each other. -/
inductive SamePhase (base baseOther : World lib) : Interactive lib → Interactive lib → Prop where
  | reading {state target : StatePtr} {world other : World lib}
      (alongside : Alongside base baseOther world other)
      (place : SamePlace world.conversation.heap other.conversation.heap state target) :
      SamePhase base baseOther (.reading state world) (.reading target other)
  | returned {code : Int} {world other : World lib}
      (alongside : Alongside base baseOther world other) :
      SamePhase base baseOther (.returned code world) (.returned code other)
  | stopped {stop : Stop} : SamePhase base baseOther (.stopped stop) (.stopped stop)

theorem readLine_agrees {base baseOther world other : World lib} {initial initialOther : StatePtr}
    (opens : SamePlace base.conversation.heap baseOther.conversation.heap initial initialOther)
    (alongside : Alongside base baseOther world other) {state target : StatePtr}
    (place : SamePlace world.conversation.heap other.conversation.heap state target)
    (input : Input) :
    Agree (SamePhase base baseOther) (readLine lib setup initial state world input)
      (readLine lib setup initialOther target other input) := by
  have prompted := alongside.write [.out "you> "]
  cases input with
  | eof => exact SamePhase.returned (prompted.write _)
  | line text now rounds =>
      rw [readLine, readLine]
      split
      next => exact SamePhase.returned prompted
      next =>
      split
      next => exact SamePhase.reading (prompted.write _) place
      next =>
      split
      next =>
        exact SamePhase.reading (prompted.write _) (opens.grows alongside.grows
          alongside.growsOther)
      next =>
      split
      next => exact SamePhase.reading prompted place
      next =>
        rw [answerUser, answerUser]
        apply (appendMessage_agrees prompted place setup.factory _ now).bind
        rintro ⟨asking, asked⟩ ⟨askingOther, askedOther⟩ ⟨alongside, asks⟩
        apply (runRounds_agrees rounds setup.options.maxRoundTrips.toNat 1
          (alongside.write [.out "assistant> "]) asks).bind
        rintro ⟨done, final⟩ ⟨doneOther, finalOther⟩ ⟨alongside, same⟩
        simp only [succeededWith_same same]
        split
        next success =>
          cases same with
          | none => cases success
          | some place => exact SamePhase.reading alongside place.toSamePlace
        next => exact SamePhase.returned alongside

theorem step_agrees {base baseOther : World lib} {initial initialOther : StatePtr}
    (opens : SamePlace base.conversation.heap baseOther.conversation.heap initial initialOther)
    {phase other : Interactive lib} (same : SamePhase base baseOther phase other) (input : Input) :
    Option.Rel (SamePhase base baseOther) ((interactiveMachine lib setup initial).step phase input)
      ((interactiveMachine lib setup initialOther).step other input) := by
  cases same with
  | returned | stopped => exact .none
  | @reading state target world other alongside place =>
      have reads : Agree (SamePhase base baseOther) (readLine lib setup initial state world input)
          (readLine lib setup initialOther target other input) :=
        readLine_agrees opens alongside place input
      simp only [interactiveMachine]
      revert reads
      generalize readLine lib setup initial state world input = read
      generalize readLine lib setup initialOther target other input = readOther
      intro reads
      cases read with
      | ok next =>
          cases readOther with
          | ok nextOther => exact .some reads
          | error stop => exact reads.elim
      | error stop =>
          cases readOther with
          | ok nextOther => exact reads.elim
          | error stopOther =>
              cases reads
              cases stop with
              | unscripted => exact .none
              | blocked | undefined => exact .some .stopped

end Alongside

/-- What the line `:reset` writes. -/
def World.reset {lib : Libraries} (world : World lib) : World lib :=
  (world.write [.out "you> "]).write [.err "conversation reset\n"]

/-- Starting over: whatever was said before, after `:reset` a chat runs exactly as
one that has just been started does on the same inputs.  Either both stop reading
at the same input, or both are in the same phase, with the same exit code if they
have returned; since then both have written the same and made the same calls, with
the same requests, and delivered the same messages and logs; and whoever is at the
prompt continues the same dialogue. -/
theorem reset_starts_over (lib : Libraries) (setup : Setup) (started startedOther : Int)
    (initial initialOther : StatePtr) (begun begunOther : World lib)
    (begins : startInteractive setup started {} = .ok (initial, begun))
    (beginsOther : startInteractive setup startedOther {} = .ok (initialOther, begunOther))
    (past : List Input) (state : StatePtr) (world : World lib)
    (ran : (interactiveMachine lib setup initialOther).run (.reading initialOther begunOther)
      past = some (.reading state world)) (now : Int) (rounds : Nat → Round)
    (later : List Input) :
    Option.Rel (SamePhase begun world.reset)
      ((interactiveMachine lib setup initial).run (.reading initial begun) later)
      ((interactiveMachine lib setup initialOther).run (.reading state world)
        (.line ":reset" now rounds :: later)) := by
  have start := (startInteractive_ensures started).of_ok begins
  obtain ⟨coherent, _, again, _⟩ := interactiveSound_of_run beginsOther ran
  have opens : SamePlace begun.conversation.heap world.reset.conversation.heap initial
      initialOther :=
    ⟨start.opens.held, again.held, again.chain.trans start.opens.chain.symm⟩
  have alongside : Alongside begun world.reset begun world.reset :=
    ⟨start.coherent.sound, coherent.sound, .refl _, .refl _,
      ⟨[], (List.append_nil _).symm, (List.append_nil _).symm⟩,
      [], [], (List.append_nil _).symm, (List.append_nil _).symm, .nil⟩
  rw [StepMachine.run_cons]
  apply StepMachine.run_rel _ _ _ (.reading alongside opens)
  · exact List.forall₂_same.mpr fun input _ => rfl
  · intro phase other input answer same isAnswer
    rw [← isAnswer]
    exact step_agrees opens same input

/-- A question and the end of the input. -/
def oneMore : List Input := [.line "which system?" 9 toolThenAnswer, .eof]

theorem reset_starts_over_oneMore :
    ∃ initial begun state world final,
      startInteractive oneQuestion 0 ({} : World toolServer) = .ok (initial, begun) ∧
      (interactiveMachine toolServer oneQuestion initial).run (.reading initial begun)
        [.line "hi" 1 toolThenAnswer] = some (.reading state world) ∧
      (interactiveMachine toolServer oneQuestion initial).run (.reading state world)
        (.line ":reset" 2 toolThenAnswer :: oneMore) = some final ∧
      Option.Rel (SamePhase begun world.reset)
        ((interactiveMachine toolServer oneQuestion initial).run (.reading initial begun) oneMore)
        (some final) := by
  have computed : (startInteractive oneQuestion 0 ({} : World toolServer)).toOption.bind
      (fun start => ((interactiveMachine toolServer oneQuestion start.1).run
        (.reading start.1 start.2) [.line "hi" 1 toolThenAnswer]).bind fun phase =>
          ((interactiveMachine toolServer oneQuestion start.1).run phase
            (.line ":reset" 2 toolThenAnswer :: oneMore)).map fun _ => ()) = some () := by
    decide +kernel
  rcases Option.bind_eq_some_iff.mp computed with ⟨⟨initial, begun⟩, returned, reads⟩
  rcases Option.bind_eq_some_iff.mp reads with ⟨phase, ran, goesOn⟩
  rcases Option.map_eq_some_iff.mp goesOn with ⟨final, ends, _⟩
  have begins := ok_of_toOption returned
  cases phase with
  | returned | stopped => cases ends
  | reading state world =>
      have alike := reset_starts_over toolServer oneQuestion 0 0 initial initial begun begun begins
        begins _ state world ran 2 toolThenAnswer oneMore
      rw [ends] at alike
      exact ⟨initial, begun, state, world, final, begins, ran, ends, alike⟩

end Boai.DeepseekDemo
