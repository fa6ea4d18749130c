import Boai.Completion.Conversation
import Boai.Completion.RequestCodec
import Boai.Reference

/-!
# History over whole conversations

Nodes are immutable and the store only grows, so every state keeps the chain it
was created with.  Every exit of every operation links the state it yields to the
state the operation started from, and the request of a call carries the encoding
of the chain of the caller's state.
-/

namespace Boai.Completion

open Boai.Json

/-! ## The growing store -/

namespace StateHeap

/-- The later store has the nodes of the earlier one at the same addresses. -/
def Grows (heap later : StateHeap) : Prop := ∃ made, later.nodes = heap.nodes ++ made

theorem Grows.refl (heap : StateHeap) : heap.Grows heap := ⟨[], (List.append_nil _).symm⟩

theorem Grows.trans {heap middle later : StateHeap} (first : heap.Grows middle)
    (second : middle.Grows later) : heap.Grows later := by
  rcases first with ⟨made, first⟩
  rcases second with ⟨more, second⟩
  exact ⟨made ++ more, by rw [second, first, List.append_assoc]⟩

theorem Holds.grows {heap later : StateHeap} {state : Option StateRef}
    (held : heap.Holds state) (grows : heap.Grows later) : later.Holds state := by
  rcases grows with ⟨made, nodes⟩
  intro address pointed
  rw [nodes, List.length_append]
  exact Nat.lt_add_right _ (held address pointed)

/-- A stored state keeps its chain. -/
theorem Grows.collectMessageChain_eq {heap later : StateHeap} (grows : heap.Grows later)
    {state : Option StateRef} (held : heap.Holds state) :
    collectMessageChain later state = collectMessageChain heap state := by
  rcases grows with ⟨made, nodes⟩
  have backward := later.backward
  simp only [collectMessageChain]
  rw [nodes] at backward ⊢
  exact ParentChain.chain_append backward held

theorem Grows.payload_eq {heap later : StateHeap} (grows : heap.Grows later)
    {capture : FetchCapture} (held : heap.Holds (some capture.state)) (json : JsonLib)
    (stream : Bool) :
    capture.payload json later stream = capture.payload json heap stream := by
  simp only [FetchCapture.payload, grows.collectMessageChain_eq held]

theorem allocateAll_nodes {heap later : StateHeap} {nodes : List OaiCompletionState}
    (allocated : heap.allocateAll nodes = some later) :
    later.nodes = heap.nodes ++ nodes := by
  induction nodes generalizing heap with
  | nil =>
      cases allocated
      exact (List.append_nil _).symm
  | cons node rest ih =>
      simp only [allocateAll] at allocated
      split at allocated
      next held =>
        rw [ih allocated]
        simp [allocate]
      next => cases allocated

/-- Nodes that link to stored states can be allocated. -/
theorem isSome_allocateAll {heap : StateHeap} {nodes : List OaiCompletionState}
    (held : ∀ node ∈ nodes, heap.Holds node.previous) : (heap.allocateAll nodes).isSome := by
  induction nodes generalizing heap with
  | nil => rfl
  | cons node rest ih =>
      have here := held node List.mem_cons_self
      simp only [allocateAll, here, dif_pos]
      apply ih
      intro other member
      have grows : heap.Grows (heap.allocate node here) := ⟨[node], rfl⟩
      exact (held other (List.mem_cons_of_mem _ member)).grows grows

end StateHeap

/-! ## Calls in flight -/

/-- What holds of a call in flight over the store it belongs to. -/
structure CallSound (lib : Libraries) (heap : StateHeap) (call : Call lib.sse) : Prop where
  held : heap.Holds call.args.state
  captured : ∀ capture requestBody, call.session.captured = some (capture, requestBody) →
    call.args.state = some capture.state ∧ call.args.modelInfo = some capture.modelInfo ∧
      call.args.tools = capture.tools ∧
      capture.payload lib.json heap call.entry.isStream = .ok requestBody
  sent : ∀ request, .start request ∈ call.session.issued →
    ∃ capture requestBody, call.session.captured = some (capture, requestBody) ∧
      ((∃ slot, request = completionRequest lib.http capture requestBody slot) ∨
        request = streamRequest lib.http capture requestBody)

theorem CallSound.grows {lib : Libraries} {heap later : StateHeap} {call : Call lib.sse}
    (sound : CallSound lib heap call) (grows : heap.Grows later) :
    CallSound lib later call := by
  constructor
  · exact sound.held.grows grows
  · intro capture requestBody captured
    have fields := sound.captured capture requestBody captured
    have held := sound.held
    rw [fields.1] at held
    rw [grows.payload_eq held]
    exact fields
  · exact sound.sent

/-- Every call of a conversation is sound. -/
def ConversationSound (lib : Libraries) (conversation : Conversation lib.sse) : Prop :=
  ∀ call ∈ conversation.calls, CallSound lib conversation.heap call

/-- What one operation does: it allocates nodes that link to the state it started
from and keeps the calls sound. -/
structure Performed (lib : Libraries) (conversation : Conversation lib.sse)
    (operation : Operation) (next : Conversation lib.sse) : Prop where
  sound : ConversationSound lib next
  held : conversation.heap.Holds (conversation.origin operation)
  made : ∃ made, next.heap.nodes = conversation.heap.nodes ++ made ∧
    ∀ node ∈ made, node.previous = conversation.origin operation

section Operations

variable {lib : Libraries} {conversation next : Conversation lib.sse}

theorem performed_append (sound : ConversationSound lib conversation)
    {factory : OaiCompletionFactory} {message : OaiMessage} {previous : Option StateRef}
    {now : Int}
    (stepped : conversation.perform lib (.append factory message previous now) = some next) :
    Performed lib conversation (.append factory message previous now) next := by
  simp only [Conversation.perform] at stepped
  split at stepped
  next held =>
    cases stepped
    have grows : conversation.heap.Grows
        (conversation.heap.allocate (appendMessage factory message previous now) held) :=
      ⟨[appendMessage factory message previous now], rfl⟩
    constructor
    · intro call member
      exact (sound call member).grows grows
    · exact held
    · refine ⟨[appendMessage factory message previous now], rfl, ?_⟩
      intro node member
      cases List.mem_singleton.mp member
      rfl
  next => cases stepped

theorem performed_fetch (sound : ConversationSound lib conversation)
    {factory : OaiCompletionFactory} {args : FetchArgs} {entry : EntryPoint} {now : Int}
    (stepped : conversation.perform lib (.fetch factory args entry now) = some next) :
    Performed lib conversation (.fetch factory args entry now) next := by
  simp only [Conversation.perform] at stepped
  split at stepped
  next held =>
    have launched := FetchSession.launched_start lib factory conversation.heap args now entry
    generalize FetchSession.start lib factory conversation.heap args now entry = session
      at launched stepped
    rcases Option.map_eq_some_iff.mp stepped with ⟨heap, allocated, rfl⟩
    have nodes := StateHeap.allocateAll_nodes allocated
    have grows : conversation.heap.Grows heap := ⟨_, nodes⟩
    constructor
    · intro call member
      rcases List.mem_append.mp member with old | new
      · exact (sound call old).grows grows
      · cases List.mem_singleton.mp new
        have fresh : CallSound lib conversation.heap ⟨args, entry, session⟩ :=
          ⟨held, launched.captured, fun request started => absurd started (launched.unsent request)⟩
        exact fresh.grows grows
    · exact held
    · exact ⟨session.states, nodes, launched.linked⟩
  next => cases stepped

theorem performed_answer (sound : ConversationSound lib conversation) {index : Nat}
    {input : FetchAnswer}
    (stepped : conversation.perform lib (.answer index input) = some next) :
    Performed lib conversation (.answer index input) next := by
  simp only [Conversation.perform] at stepped
  split at stepped
  next => cases stepped
  next call found =>
    split at stepped
    next => cases stepped
    next session accepted =>
      have callSound := sound call (List.mem_of_getElem? found)
      rcases FetchSession.progress_of_answer accepted with
        ⟨capture, requestBody, captured, progress⟩
      have fields := callSound.captured capture requestBody captured
      rcases progress.states with ⟨made, states, linked⟩
      rcases Option.map_eq_some_iff.mp stepped with ⟨heap, allocated, rfl⟩
      have nodes := StateHeap.allocateAll_nodes allocated
      rw [states, List.drop_left] at nodes
      have grows : conversation.heap.Grows heap := ⟨made, nodes⟩
      have origin : conversation.origin (.answer index input) = call.args.state := by
        simp only [Conversation.origin, found, Option.bind_some]
      constructor
      · intro other member
        rcases List.mem_or_eq_of_mem_set member with old | new
        · exact (sound other old).grows grows
        · subst new
          have answered : CallSound lib conversation.heap { call with session } := by
            constructor
            · exact callSound.held
            · rw [progress.captured]
              exact callSound.captured
            · intro request started
              rw [progress.captured]
              rcases progress.sent request started with old | new
              · exact callSound.sent request old
              · exact ⟨capture, requestBody, captured, new⟩
          exact answered.grows grows
      · rw [origin]
        exact callSound.held
      · refine ⟨made, nodes, ?_⟩
        intro node member
        rw [origin, fields.1]
        exact linked node member

theorem performed_of_perform (sound : ConversationSound lib conversation)
    {operation : Operation}
    (stepped : conversation.perform lib operation = some next) :
    Performed lib conversation operation next := by
  cases operation with
  | append => exact performed_append sound stepped
  | fetch => exact performed_fetch sound stepped
  | answer => exact performed_answer sound stepped

/-- An operation that starts from a stored state, or an answer that its call
accepts. -/
def Conversation.Offers (conversation : Conversation lib.sse) : Operation → Prop
  | .append _ _ previous _ => conversation.heap.Holds previous
  | .fetch _ args _ _ => conversation.heap.Holds args.state
  | .answer index input => ∃ call, conversation.calls[index]? = some call ∧
      (call.session.answer lib input).isSome

/-- No such operation is refused: the states it yields can always be allocated. -/
theorem isSome_perform (sound : ConversationSound lib conversation) {operation : Operation}
    (offered : conversation.Offers operation) :
    (conversation.perform lib operation).isSome := by
  cases operation with
  | append factory message previous now =>
      have held : conversation.heap.Holds previous := offered
      simp only [Conversation.perform, held, dif_pos, Option.isSome_some]
  | fetch factory args entry now =>
      have held : conversation.heap.Holds args.state := offered
      have launched := FetchSession.launched_start lib factory conversation.heap args now entry
      simp only [Conversation.perform, held, if_true, Option.isSome_map]
      apply StateHeap.isSome_allocateAll
      intro state member
      rw [launched.linked state member]
      exact held
  | answer index input =>
      rcases offered with ⟨call, found, accepted⟩
      rcases Option.isSome_iff_exists.mp accepted with ⟨session, accepted⟩
      have callSound := sound call (List.mem_of_getElem? found)
      rcases FetchSession.progress_of_answer accepted with
        ⟨capture, requestBody, captured, progress⟩
      have fields := callSound.captured capture requestBody captured
      rcases progress.states with ⟨made, states, linked⟩
      simp only [Conversation.perform, found, accepted, Option.isSome_map, states,
        List.drop_left]
      apply StateHeap.isSome_allocateAll
      intro state member
      rw [linked state member, ← fields.1]
      exact callSound.held

end Operations

/-! ## Histories -/

/-- The encoding of the chain of a state, one element a message. -/
def messagesArray (json : JsonLib) (heap : StateHeap) (state : Option StateRef) :
    List JsonValue :=
  (collectMessageChain heap state).map (messageElement json)

/-- The chain of a node is that of its predecessor and its own message. -/
theorem collectMessageChain_node {heap : StateHeap} {address : StateRef}
    {node : OaiCompletionState} (found : heap.nodes[address]? = some node) :
    collectMessageChain heap (some address) =
      collectMessageChain heap node.previous ++ [node.message] :=
  ParentChain.chain_some heap.backward found

/-- A chain of an ancestor is encoded to a prefix. -/
theorem messagesArray_prefix {json : JsonLib} {heap : StateHeap} {ancestor descendant : StateRef}
    (above : ParentChain.Ancestor OaiCompletionState.previous heap.nodes ancestor descendant) :
    messagesArray json heap (some ancestor) <+: messagesArray json heap (some descendant) :=
  (ParentChain.chain_prefix_of_ancestor heap.backward above).map _

/-- The body of a started request encodes the chain of the caller's state. -/
theorem sent_body {lib : Libraries} (frames : lib.http.Frames) {heap : StateHeap}
    {call : Call lib.sse} (sound : CallSound lib heap call) {request : HttpRequest}
    (started : .start request ∈ call.session.issued) :
    ∃ modelInfo, call.args.modelInfo = some modelInfo ∧
      request.body = lib.json.serialize (toValue (requestRoot lib.json
        (collectMessageChain heap call.args.state) call.args.tools modelInfo.value
        call.entry.isStream)) := by
  rcases sound.sent request started with ⟨capture, requestBody, captured, built⟩
  rcases sound.captured capture requestBody captured with ⟨state, modelInfo, tools, payload⟩
  have body : request.body = requestBody := by
    rcases built with ⟨slot, rfl⟩ | rfl
    · simp only [completionRequest]
      rw [frames.body]
    · simp only [streamRequest]
      rw [frames.body]
  refine ⟨capture.modelInfo, modelInfo, ?_⟩
  simp only [FetchCapture.payload, buildRequestPayload] at payload
  split at payload
  next => cases payload
  next =>
    rw [body, state, tools]
    exact (Except.ok.inj payload).symm

/-- In every conversation: stored states keep their chains whatever follows; an
operation yields states that link to the state it started from, so that their
chains are its chain and their own message; no operation on a stored state is
refused; the body of every started request is the serialisation of an object
whose `messages` are the elements for the messages of the chain of the caller's
state, in order; and the elements for an ancestor are a prefix of those for its
descendants. -/
theorem conversation_history (lib : Libraries) (frames : lib.http.Frames)
    (operations : List Operation) (conversation : Conversation lib.sse)
    (ran : (Conversation.machine lib).run {} operations = some conversation) :
    (∀ more later, (Conversation.machine lib).run conversation more = some later →
      ∀ state, conversation.heap.Holds state →
        collectMessageChain later.heap state = collectMessageChain conversation.heap state) ∧
    (∀ operation, conversation.Offers operation →
      (conversation.perform lib operation).isSome) ∧
    (∀ operation next, conversation.perform lib operation = some next →
      ∀ address node, conversation.heap.nodes.length ≤ address →
        next.heap.nodes[address]? = some node →
        node.previous = conversation.origin operation ∧
          collectMessageChain next.heap (some address) =
            collectMessageChain conversation.heap (conversation.origin operation) ++
              [node.message]) ∧
    (∀ call ∈ conversation.calls, ∀ request, .start request ∈ call.session.issued →
      ∃ root : JsonObject, request.body = lib.json.serialize (toValue root) ∧
        root.get? "messages" =
          some (.array (messagesArray lib.json conversation.heap call.args.state))) ∧
    (∀ ancestor descendant,
      ParentChain.Ancestor OaiCompletionState.previous conversation.heap.nodes
        ancestor descendant →
      messagesArray lib.json conversation.heap (some ancestor) <+:
        messagesArray lib.json conversation.heap (some descendant)) := by
  have sound : ConversationSound lib conversation :=
    StepMachine.run_invariant (ConversationSound lib)
      (fun _ _ _ sound stepped => (performed_of_perform sound stepped).sound)
      (by intro call member; cases member) ran
  refine ⟨?_, fun _ offered => isSome_perform sound offered, ?_, ?_,
    fun _ _ above => messagesArray_prefix above⟩
  · intro more later ranOn state held
    have grown := StepMachine.run_invariant
      (fun other => ConversationSound lib other ∧ conversation.heap.Grows other.heap)
      (fun _ _ _ kept stepped =>
        have performed := performed_of_perform kept.1 stepped
        ⟨performed.sound, kept.2.trans (performed.made.imp fun _ made => made.1)⟩)
      ⟨sound, .refl _⟩ ranOn
    exact grown.2.collectMessageChain_eq held
  · intro operation next stepped address node new found
    have performed := performed_of_perform sound stepped
    rcases performed.made with ⟨made, nodes, linked⟩
    have previous : node.previous = conversation.origin operation := by
      rw [nodes, List.getElem?_append_right new] at found
      exact linked node (List.mem_of_getElem? found)
    have grows : conversation.heap.Grows next.heap := ⟨made, nodes⟩
    constructor
    · exact previous
    · rw [collectMessageChain_node found, previous,
        grows.collectMessageChain_eq performed.held]
  · intro call member request started
    rcases sent_body frames (sound call member) started with ⟨modelInfo, _, body⟩
    exact ⟨_, body, by rw [get?_requestRoot, buildRequestMessagesArray_eq]; rfl⟩

/-- A question, two answers that branch from it, and a fetch from the first
answer. -/
def branching : List Operation :=
  [.append Reference.factory { role := "user", message := "hi" } none 0,
    .append Reference.factory { role := "assistant", message := "hello" } (some 0) 1,
    .append Reference.factory { role := "assistant", message := "good day" } (some 0) 2,
    .fetch Reference.factory { Reference.args with state := some 1 } (.fetchCompletion true) 3,
    .answer 0 (.completion ⟨4, .acquire (.ok (.tcp 3))⟩),
    .answer 0 (.completion ⟨5, .done { response := { status := 404 } }⟩)]

theorem conversation_history_branching :
    ∃ conversation, (Conversation.machine Reference.twoPieces).run {} branching =
        some conversation ∧
      conversation.heap.nodes.map OaiCompletionState.previous =
        [none, some 0, some 0, some 1] ∧
      messagesArray Reference.twoPieces.json conversation.heap (some 0) <+:
        messagesArray Reference.twoPieces.json conversation.heap (some 1) := by
  have computed : ((Conversation.machine Reference.twoPieces).run {} branching).map
      (fun conversation => conversation.heap.nodes.map OaiCompletionState.previous) =
        some [none, some 0, some 0, some 1] := by decide
  rcases Option.map_eq_some_iff.mp computed with ⟨conversation, ran, links⟩
  have second : (conversation.heap.nodes.map OaiCompletionState.previous)[1]? =
      some (some 0) := by
    rw [links]
    rfl
  rw [List.getElem?_map] at second
  rcases Option.map_eq_some_iff.mp second with ⟨node, found, previous⟩
  have history := conversation_history Reference.twoPieces Reference.http_frames branching
    conversation ran
  exact ⟨conversation, ran, links,
    history.2.2.2.2 0 1 (.parent (.self 0) found previous)⟩

end Boai.Completion
