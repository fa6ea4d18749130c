import Boai.Completion.Relinking

/-!
# Calls in flight do not disturb each other

However the operations of a program and the answers of the transport interleave,
each call goes through the run it would go through alone, on the answers given to
it.  What it does is therefore a function of its arguments, of the message chain
it starts from and of its own answers, and answers to different calls commute up
to the order of the nodes they allocate.
-/

namespace Boai.Completion

open Boai.Json StepMachine

/-! ## What an operation does to the calls and to the store -/

/-- A fetch among the operations of a conversation. -/
structure Launch where
  factory : OaiCompletionFactory
  args : FetchArgs
  entry : EntryPoint
  now : Int

/-- The fetches among some operations, in order: the call at a position is that
of the fetch at the same position. -/
def launches (operations : List Operation) : List Launch :=
  operations.filterMap fun
    | .fetch factory args entry now => some { factory, args, entry, now }
    | _ => none

/-- The answers among some operations, each with the call it is given to. -/
def answers (operations : List Operation) : List (Nat × FetchAnswer) :=
  operations.filterMap fun
    | .answer call input => some (call, input)
    | _ => none

/-- The nodes of the messages appended by some operations. -/
def appended (operations : List Operation) : List OaiCompletionState :=
  operations.filterMap fun
    | .append factory message previous now => some (appendMessage factory message previous now)
    | _ => none

/-- A call as a machine. -/
def callMachine (lib : Libraries) : StepMachine (Call lib.sse) FetchAnswer where
  step call input := (call.session.answer lib input).map fun session => { call with session }

/-- What one operation does. -/
inductive Effect (lib : Libraries) (conversation : Conversation lib.sse) :
    Operation → Conversation lib.sse → Prop where
  | append {factory : OaiCompletionFactory} {message : OaiMessage}
      {previous : Option StateRef} {now : Int} {heap : StateHeap}
      (nodes : heap.nodes =
        conversation.heap.nodes ++ [appendMessage factory message previous now]) :
      Effect lib conversation (.append factory message previous now)
        { conversation with heap }
  | fetch {factory : OaiCompletionFactory} {args : FetchArgs} {entry : EntryPoint} {now : Int}
      {heap : StateHeap} (held : conversation.heap.Holds args.state)
      (nodes : heap.nodes = conversation.heap.nodes ++
        (FetchSession.start lib factory conversation.heap args now entry).states) :
      Effect lib conversation (.fetch factory args entry now)
        { heap
          calls := conversation.calls ++ [{
            args, entry
            session := FetchSession.start lib factory conversation.heap args now entry }] }
  | answer {index : Nat} {input : FetchAnswer} {call next : Call lib.sse} {heap : StateHeap}
      {made : List OaiCompletionState} (found : conversation.calls[index]? = some call)
      (accepted : (callMachine lib).step call input = some next)
      (states : next.session.states = call.session.states ++ made)
      (nodes : heap.nodes = conversation.heap.nodes ++ made) :
      Effect lib conversation (.answer index input)
        { heap, calls := conversation.calls.set index next }

theorem effect_of_perform {lib : Libraries} {conversation next : Conversation lib.sse}
    {operation : Operation} (stepped : conversation.perform lib operation = some next) :
    Effect lib conversation operation next := by
  cases operation with
  | append factory message previous now =>
      simp only [Conversation.perform] at stepped
      split at stepped
      next held =>
        cases stepped
        exact .append rfl
      next => cases stepped
  | fetch factory args entry now =>
      simp only [Conversation.perform] at stepped
      split at stepped
      next held =>
        rcases Option.map_eq_some_iff.mp stepped with ⟨heap, allocated, rfl⟩
        exact .fetch held (StateHeap.allocateAll_nodes allocated)
      next => cases stepped
  | answer index input =>
      simp only [Conversation.perform] at stepped
      split at stepped
      next => cases stepped
      next call found =>
        split at stepped
        next => cases stepped
        next session accepted =>
          rcases FetchSession.progress_of_answer accepted with ⟨_, _, _, progress⟩
          rcases progress.states with ⟨made, states, _⟩
          rcases Option.map_eq_some_iff.mp stepped with ⟨heap, allocated, rfl⟩
          have nodes := StateHeap.allocateAll_nodes allocated
          rw [states, List.drop_left] at nodes
          apply Effect.answer found _ states nodes
          simp only [callMachine, accepted, Option.map_some]

/-! ## Every call has its own run -/

/-- The call is where its own answers lead it from the fetch that made it. -/
structure OwnRun (lib : Libraries) (operations : List Operation) (heap : StateHeap)
    (index : Nat) (call : Call lib.sse) (launch : Launch) (before : StateHeap) : Prop where
  launched : (launches operations)[index]? = some launch
  grown : before.Grows heap
  held : before.Holds launch.args.state
  args : call.args = launch.args
  entry : call.entry = launch.entry
  ran : (FetchSession.machine lib).run
      (FetchSession.start lib launch.factory before launch.args launch.now launch.entry)
      (addressedTo index (answers operations)) = some call.session

/-- What a conversation owes to the operations that led to it. -/
structure Explained (lib : Libraries) (operations : List Operation)
    (conversation : Conversation lib.sse) : Prop where
  sound : ConversationSound lib conversation
  counted : (launches operations).length = conversation.calls.length
  addressed : ∀ answer ∈ answers operations, answer.1 < conversation.calls.length
  own : ∀ index call, conversation.calls[index]? = some call →
    ∃ launch before, OwnRun lib operations conversation.heap index call launch before
  stored : conversation.heap.nodes.Perm
    (appended operations ++ conversation.calls.flatMap fun call => call.session.states)

/-- An operation that does not concern a call leaves its run as it is. -/
theorem OwnRun.keep {lib : Libraries} {operations : List Operation} {operation : Operation}
    {heap later : StateHeap} {index : Nat} {call : Call lib.sse} {launch : Launch}
    {before : StateHeap} (own : OwnRun lib operations heap index call launch before)
    (grown : heap.Grows later) (elsewhere : addressedTo index (answers [operation]) = []) :
    OwnRun lib (operations ++ [operation]) later index call launch before := by
  have inBounds := (List.getElem?_eq_some_iff.mp own.launched).1
  constructor
  · rw [launches, List.filterMap_append, ← launches, List.getElem?_append_left inBounds]
    exact own.launched
  · exact own.grown.trans grown
  · exact own.held
  · exact own.args
  · exact own.entry
  · rw [answers, List.filterMap_append, ← answers, ← answers, addressedTo,
      List.filterMap_append, ← addressedTo, ← addressedTo, elsewhere, List.append_nil]
    exact own.ran

theorem flatMap_set_perm {α β : Type} (read : α → List β) {items : List α} {position : Nat}
    {old new : α} (found : items[position]? = some old) {made : List β}
    (grows : read new = read old ++ made) :
    ((items.set position new).flatMap read).Perm (items.flatMap read ++ made) := by
  induction items generalizing position with
  | nil => cases found
  | cons item rest ih =>
      cases position with
      | zero =>
          cases found
          rw [List.set_cons_zero, List.flatMap_cons, List.flatMap_cons, grows,
            List.append_assoc, List.append_assoc]
          exact (List.perm_append_comm).append_left _
      | succ position =>
          rw [List.set_cons_succ, List.flatMap_cons, List.flatMap_cons, List.append_assoc]
          exact (ih found).append_left _

section Steps

variable {lib : Libraries} {past : List Operation} {conversation next : Conversation lib.sse}

theorem Explained.append (explained : Explained lib past conversation)
    {factory : OaiCompletionFactory} {message : OaiMessage} {previous : Option StateRef}
    {now : Int} {heap : StateHeap}
    (sound : ConversationSound lib { conversation with heap })
    (nodes : heap.nodes =
      conversation.heap.nodes ++ [appendMessage factory message previous now]) :
    Explained lib (past ++ [.append factory message previous now])
      { conversation with heap } := by
  have sameLaunches : launches (past ++ [.append factory message previous now]) =
      launches past := by simp [launches]
  have sameAnswers : answers (past ++ [.append factory message previous now]) =
      answers past := by simp [answers]
  constructor
  · exact sound
  · rw [sameLaunches]
    exact explained.counted
  · rw [sameAnswers]
    exact explained.addressed
  · intro index call found
    rcases explained.own index call found with ⟨launch, before, own⟩
    exact ⟨launch, before, own.keep ⟨_, nodes⟩ rfl⟩
  · simp only [nodes, appended, List.filterMap_append, List.filterMap_cons, List.filterMap_nil]
    rw [← appended, List.append_assoc]
    apply (explained.stored.append_right _).trans
    rw [List.append_assoc]
    exact (List.perm_append_comm).append_left _

theorem Explained.fetch (explained : Explained lib past conversation)
    {factory : OaiCompletionFactory} {args : FetchArgs} {entry : EntryPoint} {now : Int}
    {heap : StateHeap} {session : FetchSession lib.sse}
    (isStart : session = FetchSession.start lib factory conversation.heap args now entry)
    (sound : ConversationSound lib
      { heap, calls := conversation.calls ++ [{ args, entry, session }] })
    (held : conversation.heap.Holds args.state)
    (nodes : heap.nodes = conversation.heap.nodes ++ session.states) :
    Explained lib (past ++ [.fetch factory args entry now])
      { heap, calls := conversation.calls ++ [{ args, entry, session }] } := by
  have moreLaunches : launches (past ++ [.fetch factory args entry now]) =
      launches past ++ [⟨factory, args, entry, now⟩] := by simp [launches]
  have sameAnswers : answers (past ++ [.fetch factory args entry now]) =
      answers past := by simp [answers]
  constructor
  · exact sound
  · rw [moreLaunches, List.length_append, List.length_append, explained.counted]
    rfl
  · rw [sameAnswers]
    intro answer member
    rw [List.length_append]
    exact Nat.lt_add_right _ (explained.addressed answer member)
  · intro index call found
    by_cases old : index < conversation.calls.length
    · rw [List.getElem?_append_left old] at found
      rcases explained.own index call found with ⟨launch, before, own⟩
      exact ⟨launch, before, own.keep ⟨_, nodes⟩ rfl⟩
    · rw [List.getElem?_append_right (Nat.le_of_not_lt old)] at found
      have last : index = conversation.calls.length := by
        have inBounds := (List.getElem?_eq_some_iff.mp found).1
        rw [List.length_singleton] at inBounds
        omega
      subst last
      rw [Nat.sub_self] at found
      cases found
      have unanswered : addressedTo conversation.calls.length (answers past) = [] := by
        rw [addressedTo, List.filterMap_eq_nil_iff]
        intro answer member
        exact if_neg (Nat.ne_of_lt (explained.addressed answer member))
      refine ⟨⟨factory, args, entry, now⟩, conversation.heap, ?_, ⟨_, nodes⟩, held, rfl, rfl, ?_⟩
      · rw [moreLaunches, ← explained.counted, List.getElem?_concat_length]
      · rw [sameAnswers, unanswered, isStart]
        rfl
  · simp only [nodes, appended, List.filterMap_append, List.filterMap_cons, List.filterMap_nil,
      List.append_nil, List.flatMap_append, List.flatMap_cons, List.flatMap_nil]
    rw [← appended, ← List.append_assoc]
    exact explained.stored.append_right _

theorem Explained.answer (explained : Explained lib past conversation) {index : Nat}
    {input : FetchAnswer} {call next : Call lib.sse} {heap : StateHeap}
    {made : List OaiCompletionState}
    (sound : ConversationSound lib { heap, calls := conversation.calls.set index next })
    (found : conversation.calls[index]? = some call)
    (accepted : (callMachine lib).step call input = some next)
    (states : next.session.states = call.session.states ++ made)
    (nodes : heap.nodes = conversation.heap.nodes ++ made) :
    Explained lib (past ++ [.answer index input])
      { heap, calls := conversation.calls.set index next } := by
  have sameLaunches : launches (past ++ [.answer index input]) = launches past := by
    simp [launches]
  have moreAnswers : answers (past ++ [.answer index input]) =
      answers past ++ [(index, input)] := by simp [answers]
  have inBounds : index < conversation.calls.length := (List.getElem?_eq_some_iff.mp found).1
  constructor
  · exact sound
  · rw [sameLaunches, List.length_set]
    exact explained.counted
  · rw [moreAnswers, List.length_set]
    intro answer member
    rcases List.mem_append.mp member with old | new
    · exact explained.addressed answer old
    · cases List.mem_singleton.mp new
      exact inBounds
  · intro position other foundOther
    by_cases addressed : index = position
    · subst addressed
      rw [List.getElem?_set_self inBounds, Option.some.injEq] at foundOther
      subst foundOther
      rcases explained.own index call found with ⟨launch, before, own⟩
      simp only [callMachine] at accepted
      rcases Option.map_eq_some_iff.mp accepted with ⟨session, answered, rfl⟩
      refine ⟨launch, before, sameLaunches ▸ own.launched, own.grown.trans ⟨_, nodes⟩, own.held,
        own.args, own.entry, ?_⟩
      have toCall : addressedTo index [(index, input)] = [input] := by simp [addressedTo]
      rw [moreAnswers, addressedTo, List.filterMap_append, ← addressedTo, ← addressedTo, toCall]
      exact run_concat_eq_some.mpr ⟨call.session, own.ran, answered⟩
    · rw [List.getElem?_set_ne addressed] at foundOther
      rcases explained.own position other foundOther with ⟨launch, before, own⟩
      refine ⟨launch, before, own.keep ⟨_, nodes⟩ ?_⟩
      simp [answers, addressedTo, addressed]
  · have unappended : appended (past ++ [.answer index input]) = appended past := by
      simp [appended]
    rw [nodes, unappended]
    apply (explained.stored.append_right _).trans
    rw [List.append_assoc]
    exact (flatMap_set_perm (fun call : Call lib.sse => call.session.states) found
      states).symm.append_left _

end Steps

/-- Every run explains the conversation it leads to. -/
theorem explained_of_run {lib : Libraries} {operations : List Operation}
    {conversation : Conversation lib.sse}
    (ran : (Conversation.machine lib).run {} operations = some conversation) :
    Explained lib operations conversation := by
  apply run_history (Explained lib) _ _ ran
  · constructor
    · intro call member
      cases member
    · rfl
    · intro answer member
      cases member
    · intro index call found
      cases found
    · exact .refl _
  · intro past conversation operation next _ explained stepped
    have sound := (performed_of_perform explained.sound stepped).sound
    cases effect_of_perform stepped with
    | append nodes => exact explained.append sound nodes
    | fetch held nodes => exact explained.fetch rfl sound held nodes
    | answer found accepted states nodes =>
        exact explained.answer sound found accepted states nodes

/-- Two programs over one set of libraries may each make a call with the same
factory, tools, model, entry point and clock reading from states with the same
message chain.  If the two calls get the same answers, then whatever else the
programs do and however the answers to other calls fall in between, the two calls
are in the same state up to the link to the caller's state: they sent the same
requests, wait for the same answer, and made the same callback calls with the
same texts, messages and logs. -/
theorem concurrent_calls_isolated (lib : Libraries) (operations others : List Operation)
    (conversation other : Conversation lib.sse)
    (ran : (Conversation.machine lib).run {} operations = some conversation)
    (ranOther : (Conversation.machine lib).run {} others = some other)
    (index indexOther : Nat) (call callOther : Call lib.sse)
    (found : conversation.calls[index]? = some call)
    (foundOther : other.calls[indexOther]? = some callOther)
    (launch : Launch) (state target : StateRef)
    (launched : (launches operations)[index]? =
      some { launch with args := { launch.args with state := some state } })
    (launchedOther : (launches others)[indexOther]? =
      some { launch with args := { launch.args with state := some target } })
    (sameChain : collectMessageChain other.heap (some target) =
      collectMessageChain conversation.heap (some state))
    (sameAnswers : addressedTo indexOther (answers others) =
      addressedTo index (answers operations)) :
    callOther.session = call.session.relink target := by
  rcases (explained_of_run ran).own index call found with ⟨own, before, run⟩
  rcases (explained_of_run ranOther).own indexOther callOther foundOther with
    ⟨ownOther, beforeOther, runOther⟩
  have isLaunch := run.launched.symm.trans launched
  have isLaunchOther := runOther.launched.symm.trans launchedOther
  cases isLaunch
  cases isLaunchOther
  have chains : collectMessageChain beforeOther (some target) =
      collectMessageChain before (some state) := by
    rw [← run.grown.collectMessageChain_eq run.held,
      ← runOther.grown.collectMessageChain_eq runOther.held]
    exact sameChain
  have ranSecond := runOther.ran
  rw [sameAnswers, FetchSession.start_relink lib launch.factory chains launch.args launch.now
      launch.entry, FetchSession.run_relink, run.ran] at ranSecond
  exact (Option.some.inj ranSecond).symm

/-- A message of the user in a store of its own. -/
def saysHi (now : Int) : Operation :=
  .append Reference.factory { role := "user", message := "hi" } none now

def fetchFrom (state : StateRef) (now : Int) : Operation :=
  .fetch Reference.factory { Reference.args with state := some state } (.fetchCompletion true) now

def connects (call : Nat) : Operation :=
  .answer call (.completion ⟨4, .acquire (.ok (.tcp 3))⟩)

def failsToConnect (call : Nat) : Operation :=
  .answer call (.completion ⟨6, .acquire (.error "refused")⟩)

def answers404 (call : Nat) : Operation :=
  .answer call (.completion ⟨5, .done { response := { status := 404 } }⟩)

/-- One call, alone. -/
def alone : List Operation := [saysHi 0, fetchFrom 0 3, connects 0, answers404 0]

/-- The same call from another node, while a second call is in flight. -/
def amongOthers : List Operation :=
  [saysHi 1, saysHi 2, fetchFrom 0 7, fetchFrom 1 3, connects 1, failsToConnect 0, answers404 1]

theorem concurrent_calls_isolated_alone :
    ∃ conversation other call callOther,
      (Conversation.machine Reference.twoPieces).run {} alone = some conversation ∧
      (Conversation.machine Reference.twoPieces).run {} amongOthers = some other ∧
      conversation.calls[0]? = some call ∧ other.calls[1]? = some callOther ∧
      callOther.session = call.session.relink 1 := by
  have computed : ((Conversation.machine Reference.twoPieces).run {} alone).map
      (fun conversation => (conversation.calls.length,
        collectMessageChain conversation.heap (some 0))) =
        some (1, [{ role := "user", message := "hi" }]) := by decide
  have computedOther : ((Conversation.machine Reference.twoPieces).run {} amongOthers).map
      (fun conversation => (conversation.calls.length,
        collectMessageChain conversation.heap (some 1))) =
        some (2, [{ role := "user", message := "hi" }]) := by decide
  rcases Option.map_eq_some_iff.mp computed with ⟨conversation, ran, read⟩
  rcases Option.map_eq_some_iff.mp computedOther with ⟨other, ranOther, readOther⟩
  rw [Prod.mk.injEq] at read readOther
  have found := List.getElem?_eq_getElem (read.1 ▸ Nat.zero_lt_one : 0 < conversation.calls.length)
  have foundOther := List.getElem?_eq_getElem (readOther.1 ▸ Nat.one_lt_two :
    1 < other.calls.length)
  refine ⟨conversation, other, _, _, ran, ranOther, found, foundOther, ?_⟩
  exact concurrent_calls_isolated Reference.twoPieces alone amongOthers conversation other ran
    ranOther 0 1 _ _ found foundOther
    ⟨Reference.factory, Reference.args, .fetchCompletion true, 3⟩ 0 1 rfl rfl
    (readOther.2.trans read.2.symm) rfl

/-! ## Answers to different calls commute -/

/-- Answers only move the calls they are given to: the store never refuses what a
call accepts. -/
theorem calls_of_answers {lib : Libraries} {conversation : Conversation lib.sse}
    (sound : ConversationSound lib conversation) (inputs : List (Nat × FetchAnswer)) :
    ((Conversation.machine lib).run conversation
        (inputs.map fun input => .answer input.1 input.2)).map Conversation.calls =
      (callMachine lib).sideBySide.run conversation.calls inputs := by
  induction inputs generalizing conversation with
  | nil => rfl
  | cons input inputs ih =>
      rw [List.map_cons, run_cons, run_cons]
      have step : (Conversation.machine lib).step conversation (.answer input.1 input.2) =
        conversation.perform lib (.answer input.1 input.2) := rfl
      rw [step]
      cases stepped : conversation.perform lib (.answer input.1 input.2) with
      | some next =>
          have soundNext := (performed_of_perform sound stepped).sound
          cases effect_of_perform stepped with
          | @answer _ _ call moved heap made found accepted states nodes =>
              have moves : (callMachine lib).sideBySide.step conversation.calls input =
                  some (conversation.calls.set input.1 moved) :=
                sideBySide_step.mpr ⟨call, moved, found, accepted, rfl⟩
              rw [moves, Option.bind_some, Option.bind_some]
              exact ih soundNext
      | none =>
          cases moves : (callMachine lib).sideBySide.step conversation.calls input with
          | none => rfl
          | some calls =>
              rcases sideBySide_step.mp moves with ⟨call, moved, found, accepted, _⟩
              rcases Option.map_eq_some_iff.mp accepted with ⟨session, answered, _⟩
              have offered : conversation.Offers (.answer input.1 input.2) :=
                ⟨call, found, Option.isSome_iff_exists.mpr ⟨session, answered⟩⟩
              have performs := isSome_perform sound offered
              rw [stepped] at performs
              cases performs

/-- From any conversation, two interleavings of answers that give each call the
same answers in the same order are both possible or both impossible, and end with
the same calls and with the same nodes in the store up to the order of their
allocation. -/
theorem answers_commute (lib : Libraries) (operations : List Operation)
    (conversation : Conversation lib.sse)
    (ran : (Conversation.machine lib).run {} operations = some conversation)
    (left right : List (Nat × FetchAnswer))
    (same : ∀ index, addressedTo index left = addressedTo index right)
    (final : Conversation lib.sse)
    (ranLeft : (Conversation.machine lib).run conversation
      (left.map fun input => .answer input.1 input.2) = some final) :
    ∃ other, (Conversation.machine lib).run conversation
        (right.map fun input => .answer input.1 input.2) = some other ∧
      other.calls = final.calls ∧ other.heap.nodes.Perm final.heap.nodes := by
  have sound := (explained_of_run ran).sound
  have calls := calls_of_answers sound right
  rw [← run_sideBySide_congr same, ← calls_of_answers sound left, ranLeft] at calls
  rcases Option.map_eq_some_iff.mp calls with ⟨other, ranRight, sameCalls⟩
  have stored : ∀ {inputs : List (Nat × FetchAnswer)} {later : Conversation lib.sse},
      (Conversation.machine lib).run conversation
        (inputs.map fun input => .answer input.1 input.2) = some later →
      later.heap.nodes.Perm
        (appended operations ++ later.calls.flatMap fun call => call.session.states) := by
    intro inputs later ranOn
    have whole : (Conversation.machine lib).run {}
        (operations ++ inputs.map fun input => .answer input.1 input.2) = some later := by
      rw [run_append, ran, Option.bind_some, ranOn]
    have perm := (explained_of_run whole).stored
    have unappended : appended (operations ++ inputs.map fun input => .answer input.1 input.2) =
        appended operations := by
      simp [appended, List.filterMap_append, List.filterMap_map]
    rw [unappended] at perm
    exact perm
  refine ⟨other, ranRight, sameCalls, ?_⟩
  have nodes := stored ranRight
  rw [sameCalls] at nodes
  exact nodes.trans (stored ranLeft).symm

/-- Two calls are in flight. -/
def twoCalls : List Operation := [saysHi 0, fetchFrom 0 1, fetchFrom 0 2]

/-- Both connect, then the first is answered. -/
def firstConnectsFirst : List (Nat × FetchAnswer) :=
  answers [connects 0, connects 1, answers404 0]

def secondConnectsFirst : List (Nat × FetchAnswer) :=
  answers [connects 1, connects 0, answers404 0]

theorem answers_commute_twoCalls :
    ∃ conversation final other,
      (Conversation.machine Reference.twoPieces).run {} twoCalls = some conversation ∧
      (Conversation.machine Reference.twoPieces).run conversation
        (firstConnectsFirst.map fun input => .answer input.1 input.2) = some final ∧
      (Conversation.machine Reference.twoPieces).run conversation
        (secondConnectsFirst.map fun input => .answer input.1 input.2) = some other ∧
      other.calls = final.calls ∧ other.heap.nodes.Perm final.heap.nodes := by
  have computed : (((Conversation.machine Reference.twoPieces).run {} twoCalls).bind
      fun conversation => (Conversation.machine Reference.twoPieces).run conversation
        (firstConnectsFirst.map fun input => .answer input.1 input.2)).isSome := by decide
  rcases Option.isSome_iff_exists.mp computed with ⟨final, ranBoth⟩
  rcases Option.bind_eq_some_iff.mp ranBoth with ⟨conversation, ran, ranLeft⟩
  have same : ∀ index, addressedTo index firstConnectsFirst =
      addressedTo index secondConnectsFirst
    | 0 => rfl
    | 1 => rfl
    | _ + 2 => rfl
  rcases answers_commute Reference.twoPieces twoCalls conversation ran firstConnectsFirst
    secondConnectsFirst same final ranLeft with ⟨other, ranRight, calls, nodes⟩
  exact ⟨conversation, final, other, ran, ranLeft, ranRight, calls, nodes⟩

end Boai.Completion
