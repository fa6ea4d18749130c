import Boai.Completion.StreamTrace
import Boai.Completion.ToolCallFusion
import Boai.Completion.WholeTexts

/-!
# Streams read in whole

What a stream of payloads brings if every JSON string is taken with all its
characters: the texts reported to the delta callbacks, and the message and the
metadata of the delivered state.  Pieces of a text that lost characters join to a
shorter text, so nothing that is cut in one place is made up for in another, and
what is delivered is whole exactly when no string that it is made of has a NUL.
-/

namespace Boai.Completion

open Boai.Json KeyedFold StreamSession

/-! ## Texts of the deltas -/

/-- A string member of the delta in whole, empty when it is missing. -/
def wholeDeltaText (root : Members) (key : String) : String :=
  match payloadDelta root with
  | some delta => (givenText (ifContains delta key)).getD ""
  | none => ""

def wholeContent (root : Members) : String := wholeDeltaText root "content"

def wholeReasoning (root : Members) : String := wholeDeltaText root "reasoning_content"

theorem deltaText_eq (root : Members) (key : String) :
    deltaText root key = cStr (wholeDeltaText root key) := by
  simp only [deltaText, wholeDeltaText]
  cases payloadDelta root with
  | none => rfl
  | some delta => exact getD_memberText (ifContains delta key)

section Texts

variable {read whole : Members → String}

theorem join_texts_iff (reads : ∀ root, read root = cStr (whole root)) (payloads : List Members) :
    String.join (payloads.map read) = String.join (payloads.map whole) ↔
      ∀ root ∈ payloads, NulFree (whole root) := by
  have cut : ∀ root, read root = whole root ∨ (read root).length < (whole root).length := by
    intro root
    rw [reads root]
    exact cStr_cut (whole root)
  rw [join_map_eq_iff cut]
  apply forall₂_congr
  intro root _
  rw [reads root, cStr_eq_self_iff]

/-- The texts that are not empty. -/
theorem nonempty_texts_iff (reads : ∀ root, read root = cStr (whole root))
    (payloads : List Members) :
    (payloads.map read).filter (· ≠ "") = (payloads.map whole).filter (· ≠ "") ↔
      ∀ root ∈ payloads, NulFree (whole root) := by
  have agree : ∀ root, decide (whole root = "") = true → read root = whole root := by
    intro root isEmpty
    rw [reads root, of_decide_eq_true isEmpty]
    rfl
  have images := @map_filter_eq_iff _ _ (fun text => decide (text = "")) read whole payloads agree
  simp only [List.filter_map, Function.comp_def, ne_eq, decide_not]
  rw [images]
  apply forall₂_congr
  intro root _
  rw [reads root, cStr_eq_self_iff]

end Texts

/-! ## Callbacks -/

section Callbacks

variable {json : JsonLib} {callbacks : DeltaCallbacks}

/-- The texts of one kind of callback are those of the payloads that are read. -/
theorem reported_processEvents {texts : List StreamCallback → List String}
    {read : Members → String} (none : texts [] = [])
    (append : ∀ left right, texts (left ++ right) = texts left ++ texts right)
    (report : ∀ payload root agg result, json.parse payload = some (.object root) →
      applyStreamDeltaPayload json payload agg = .ok result →
      texts (result.calls callbacks) = [read root].filter (· ≠ ""))
    (events : List SseEvent) (agg : StreamAggregate) :
    texts (processEvents json callbacks events agg).calls =
      ((readPayloads json events).map read).filter (· ≠ "") := by
  induction events generalizing agg with
  | nil => exact none
  | cons event rest ih =>
      have step := processStreamEventData_step json callbacks event.data agg
      simp only [processEvents, readPayloads]
      generalize processStreamEventData json callbacks event.data agg = result at step
      cases step with
      | empty isEmpty =>
          simp only [isEmpty, if_true, List.nil_append]
          exact ih agg
      | done isDone =>
          simp only [isDone, if_true]
          exact none
      | invalid payload invalid =>
          simp only [payload.nonempty, payload.not_done, if_false]
          exact none
      | @delta payload root parsed result applied =>
          simp only [payload.nonempty, payload.not_done, if_false, parsed]
          rw [append, report _ root _ result parsed applied, ih, ← List.filter_append]
          rfl

theorem deltas_processEvents (registered : callbacks.onDelta = true) (events : List SseEvent)
    (agg : StreamAggregate) :
    deltas (processEvents json callbacks events agg).calls =
      ((readPayloads json events).map payloadContent).filter (· ≠ "") := by
  apply reported_processEvents rfl deltas_append
  intro payload root agg result parsed applied
  rw [deltas_calls, (applyStreamDeltaPayload_of_root parsed applied).1]
  simp only [registered, and_true, List.filter_cons, List.filter_nil, decide_eq_true_eq]

theorem reasoningDeltas_processEvents (registered : callbacks.onReasoningDelta = true)
    (events : List SseEvent) (agg : StreamAggregate) :
    reasoningDeltas (processEvents json callbacks events agg).calls =
      ((readPayloads json events).map payloadReasoning).filter (· ≠ "") := by
  apply reported_processEvents rfl reasoningDeltas_append
  intro payload root agg result parsed applied
  rw [reasoningDeltas_calls, (applyStreamDeltaPayload_of_root parsed applied).2.1]
  simp only [registered, and_true, List.filter_cons, List.filter_nil, decide_eq_true_eq]

end Callbacks

/-- The registered callbacks get each text with all its characters. -/
structure CompleteCallbacks (callbacks : DeltaCallbacks) (payloads : List Members)
    (calls : List StreamCallback) : Prop where
  onDelta : callbacks.onDelta = true →
    deltas calls = (payloads.map wholeContent).filter (· ≠ "")
  onReasoningDelta : callbacks.onReasoningDelta = true →
    reasoningDeltas calls = (payloads.map wholeReasoning).filter (· ≠ "")

/-- The texts reported to the registered callbacks have no NUL. -/
structure CallbacksNulFree (callbacks : DeltaCallbacks) (payloads : List Members) : Prop where
  onDelta : callbacks.onDelta = true → ∀ root ∈ payloads, NulFree (wholeContent root)
  onReasoningDelta : callbacks.onReasoningDelta = true →
    ∀ root ∈ payloads, NulFree (wholeReasoning root)

@[simp] theorem deltas_untimed (calls : List StreamCallback) :
    deltas (calls.map StreamCallback.untimed) = deltas calls := by
  simp only [deltas, List.filterMap_map]
  apply List.filterMap_congr
  intro callback _
  cases callback <;> rfl

@[simp] theorem reasoningDeltas_untimed (calls : List StreamCallback) :
    reasoningDeltas (calls.map StreamCallback.untimed) = reasoningDeltas calls := by
  simp only [reasoningDeltas, List.filterMap_map]
  apply List.filterMap_congr
  intro callback _
  cases callback <;> rfl

/-- What the registered callbacks have been given. -/
theorem StreamCalls.reported {lib : Libraries} {callbacks : DeltaCallbacks}
    {results : List (Timed HttpSseClientResult)} {calls : List StreamCallback}
    (stream : StreamCalls lib callbacks results calls) :
    (callbacks.onDelta = true → deltas calls =
      ((processedPayloads lib results).map payloadContent).filter (· ≠ "")) ∧
    (callbacks.onReasoningDelta = true → reasoningDeltas calls =
      ((processedPayloads lib results).map payloadReasoning).filter (· ≠ "")) := by
  rcases stream.eq_processed with ⟨agg, rest, processed, noDeltas, noReasoning⟩
  constructor
  · intro registered
    rw [← deltas_untimed, processed, deltas_append, noDeltas, List.append_nil, deltas_untimed,
      deltas_processEvents registered, processedPayloads]
  · intro registered
    rw [← reasoningDeltas_untimed, processed, reasoningDeltas_append, noReasoning,
      List.append_nil, reasoningDeltas_untimed, reasoningDeltas_processEvents registered,
      processedPayloads]

theorem StreamCalls.completeCallbacks_iff {lib : Libraries} {callbacks : DeltaCallbacks}
    {results : List (Timed HttpSseClientResult)} {calls : List StreamCallback}
    (stream : StreamCalls lib callbacks results calls) :
    CompleteCallbacks callbacks (processedPayloads lib results) calls ↔
      CallbacksNulFree callbacks (processedPayloads lib results) := by
  have content := nonempty_texts_iff (fun root => deltaText_eq root "content")
    (processedPayloads lib results)
  have reasoning := nonempty_texts_iff (fun root => deltaText_eq root "reasoning_content")
    (processedPayloads lib results)
  constructor
  · intro whole
    constructor
    · intro registered
      exact content.mp ((stream.reported.1 registered).symm.trans (whole.onDelta registered))
    · intro registered
      exact reasoning.mp
        ((stream.reported.2 registered).symm.trans (whole.onReasoningDelta registered))
  · intro free
    constructor
    · intro registered
      exact (stream.reported.1 registered).trans (content.mpr (free.onDelta registered))
    · intro registered
      exact (stream.reported.2 registered).trans
        (reasoning.mpr (free.onReasoningDelta registered))

/-! ## Tool calls -/

/-- What an element adds to the arguments text, a string in whole. -/
def wholePart (json : JsonLib) (element : Members) : String :=
  match functionMember element "arguments" with
  | none => ""
  | some (.string text) => text
  | some value => json.serialize value

/-- What a sequence of elements gathers when their texts are taken in whole. -/
def wholeGathered (json : JsonLib) (elements : List Members) : ToolCallAccumulator :=
  { id := lastText (elements.map fun element => givenText (ifContains element "id"))
    name := lastText (elements.map fun element => givenText (functionMember element "name"))
    argumentsText := String.join (elements.map (wholePart json)) }

/-- The call of a sequence of elements in whole. -/
def wholeGatheredCall (json : JsonLib) (elements : List Members) : OaiToolCall :=
  toolCallOfAccumulator json (wholeGathered json elements)

/-- The texts that a sequence of elements gives to its call have no NUL. -/
structure GatheredNulFree (elements : List Members) : Prop where
  id : NulFree (lastText (elements.map fun element => givenText (ifContains element "id")))
  name : NulFree
    (lastText (elements.map fun element => givenText (functionMember element "name")))
  arguments : ∀ element ∈ elements, NulFree (elementFragment element)

theorem lastText_map_cStr (texts : List (Option String)) :
    lastText (texts.map (Option.map cStr)) = cStr (lastText texts) := by
  have given : (texts.map (Option.map cStr)).filterMap id =
      (texts.filterMap id).map cStr := by
    rw [List.filterMap_map, List.map_filterMap]
    rfl
  rw [lastText, lastText, given, List.getLast?_map]
  cases (texts.filterMap id).getLast? <;> rfl

/-- The last text of a member is read up to its first NUL. -/
theorem lastText_memberText (member : Members → Option JsonValue) (elements : List Members) :
    lastText (elements.map fun element => memberText (member element)) =
      cStr (lastText (elements.map fun element => givenText (member element))) := by
  rw [← lastText_map_cStr, List.map_map]
  apply congrArg lastText
  apply List.map_congr_left
  intro element _
  exact memberText_eq (member element)

theorem gathered_id (json : JsonLib) (elements : List Members) :
    (gathered json elements).id = cStr (wholeGathered json elements).id :=
  lastText_memberText (fun element => ifContains element "id") elements

theorem gathered_name (json : JsonLib) (elements : List Members) :
    (gathered json elements).name = cStr (wholeGathered json elements).name :=
  lastText_memberText (fun element => functionMember element "name") elements

/-- A part that is a string is cut at its first NUL, any other is whole. -/
theorem argumentsPart_cut (json : JsonLib) (element : Members) :
    (argumentsPart json element = wholePart json element ↔ NulFree (elementFragment element)) ∧
      (argumentsPart json element = wholePart json element ∨
        (argumentsPart json element).length < (wholePart json element).length) := by
  rw [argumentsPart, wholePart, elementFragment]
  cases functionMember element "arguments" with
  | none => simp [nulFree_empty]
  | some value =>
      cases value with
      | string text => exact ⟨cStr_eq_self_iff, cStr_cut text⟩
      | _ => simp [argumentsFragment, nulFree_empty]

theorem nulFree_elementFragment {json : JsonLib} {element : Members}
    (free : NulFree (wholePart json element)) : NulFree (elementFragment element) := by
  rw [wholePart] at free
  rw [elementFragment]
  cases found : functionMember element "arguments" with
  | none => exact nulFree_empty
  | some value =>
      rw [found] at free
      cases value with
      | string text => exact free
      | _ => exact nulFree_empty

section Gathered

variable {json : JsonLib} {elements : List Members}

theorem gathered_text_of_free (free : ∀ element ∈ elements, NulFree (elementFragment element)) :
    (gathered json elements).argumentsText = (wholeGathered json elements).argumentsText := by
  simp only [gathered, wholeGathered]
  rw [join_map_eq_iff fun element => (argumentsPart_cut json element).2]
  intro element member
  exact (argumentsPart_cut json element).1.mpr (free element member)

/-- A fragment with a NUL leaves less than the whole text, which has a NUL. -/
theorem gathered_text_of_nul
    (hasNul : ¬∀ element ∈ elements, NulFree (elementFragment element)) :
    (gathered json elements).argumentsText.length <
        (wholeGathered json elements).argumentsText.length ∧
      ¬NulFree (wholeGathered json elements).argumentsText := by
  constructor
  · have cut := whole_or_length_join_lt (fun element => (argumentsPart_cut json element).2)
      elements
    apply cut.resolve_left
    intro whole
    apply hasNul
    intro element member
    exact (argumentsPart_cut json element).1.mp (whole element member)
  · intro free
    apply hasNul
    intro element member
    exact nulFree_elementFragment (nulFree_of_join free (List.mem_map_of_mem member))

/-- The decoded arguments are whole exactly when all fragments are. -/
theorem gathered_arguments_iff (lawful : json.Lawful) :
    (gatheredCall json elements).arguments = (wholeGatheredCall json elements).arguments ↔
      ∀ element ∈ elements, NulFree (elementFragment element) := by
  rw [gatheredCall, wholeGatheredCall, arguments_toolCallOfAccumulator,
    arguments_toolCallOfAccumulator]
  constructor
  · intro same
    by_contra hasNul
    have lost := @gathered_text_of_nul json elements hasNul
    have nonempty : (wholeGathered json elements).argumentsText ≠ "" := by
      intro isEmpty
      rw [isEmpty] at lost
      exact lost.2 nulFree_empty
    rw [if_neg nonempty] at same
    split at same
    next =>
      rw [decodeText_of_nul lawful lost.2] at same
      cases same
    next => exact decodeText_ne lawful lost.2 lost.1 same
  · intro free
    rw [gathered_text_of_free free]

/-- The call of some elements is whole exactly when their texts have no NUL. -/
theorem gatheredCall_whole_iff (lawful : json.Lawful) :
    gatheredCall json elements = wholeGatheredCall json elements ↔
      GatheredNulFree elements := by
  have arguments := @gathered_arguments_iff _ elements lawful
  constructor
  · intro same
    constructor
    · have id := congrArg OaiToolCall.id same
      exact cStr_eq_self_iff.mp ((gathered_id json elements).symm.trans id)
    · have name := congrArg OaiToolCall.name same
      exact cStr_eq_self_iff.mp ((gathered_name json elements).symm.trans name)
    · exact arguments.mp (congrArg OaiToolCall.arguments same)
  · intro free
    have id := (gathered_id json elements).trans (cStr_of_nulFree free.id)
    have name := (gathered_name json elements).trans (cStr_of_nulFree free.name)
    rw [gatheredCall, wholeGatheredCall, toolCallOfAccumulator, toolCallOfAccumulator,
      OaiToolCall.mk.injEq]
    exact ⟨id, name, arguments.mpr free.arguments⟩

/-- A call that is blank in whole is read as such. -/
theorem gatheredCall_of_blank (lawful : json.Lawful)
    (blank : (wholeGatheredCall json elements).isBlank = true) :
    gatheredCall json elements = wholeGatheredCall json elements := by
  have fields := (toolCallOfAccumulator_isBlank json _).mp blank
  rw [gatheredCall_whole_iff lawful]
  constructor
  · rw [show lastText _ = "" from fields.1]
    exact nulFree_empty
  · rw [show lastText _ = "" from fields.2.1]
    exact nulFree_empty
  · by_contra hasNul
    have free : NulFree (wholeGathered json elements).argumentsText := by
      cases fields.2.2 with
      | inl isEmpty =>
          rw [isEmpty]
          exact nulFree_empty
      | inr isNull => exact lawful.parse_nul _ _ isNull
    exact (gathered_text_of_nul hasNul).2 free

end Gathered

/-- The elements of the `tool_calls` arrays of a stream, in arrival order. -/
def streamElements (payloads : List Members) : List (Nat × Members) :=
  arrivedElements (payloads.filterMap payloadDelta)

/-- The calls of a stream in whole: one for each index whose elements gather a call
that is not blank, in increasing order of the index. -/
def WholeToolCalls (json : JsonLib) (payloads : List Members) (toolCalls : List OaiToolCall) :
    Prop :=
  ∃ indices : List Nat, indices.Pairwise (· < ·) ∧
    (∀ index, index ∈ indices ↔
      (wholeGatheredCall json (carrying index (streamElements payloads))).isBlank = false) ∧
    toolCalls = indices.map fun index =>
      wholeGatheredCall json (carrying index (streamElements payloads))

theorem toolCalls_messageOfPayloads (json : JsonLib) (payloads : List Members) :
    (messageOfPayloads json payloads).toolCalls = buildToolCallsFromAccumulation json
      (accumulateDeltas json (payloads.filterMap payloadDelta)) := by
  rw [accumulateDeltas_eq, arrivedElements_payloadDeltas]
  rfl

/-- Two listings of the calls that are not blank, in increasing order of the index,
are the same only if the calls are the same at every index. -/
theorem agree_of_listed {read whole : Nat → OaiToolCall}
    (agree : ∀ index, (whole index).isBlank = true → read index = whole index)
    {readIndices indices : List Nat} (sortedRead : readIndices.Pairwise (· < ·))
    (readKept : ∀ index, index ∈ readIndices ↔ (read index).isBlank = false)
    (sorted : indices.Pairwise (· < ·))
    (kept : ∀ index, index ∈ indices ↔ (whole index).isBlank = false)
    (same : readIndices.map read = indices.map whole) (index : Nat) :
    read index = whole index := by
  have keptRead : (indices.filter fun index => !(read index).isBlank) = readIndices := by
    apply (sorted.filter _).eq_of_mem_iff sortedRead
    intro index
    rw [readKept, List.mem_filter, kept, Bool.not_eq_true', and_iff_right_of_imp]
    intro readNotBlank
    rw [← Bool.not_eq_true]
    intro blank
    rw [agree index blank, blank] at readNotBlank
    cases readNotBlank
  have keptWhole : (indices.filter fun index => !(whole index).isBlank) = indices := by
    rw [List.filter_eq_self]
    intro index member
    rw [(kept index).mp member]
    rfl
  have images := @map_filter_eq_iff _ _ OaiToolCall.isBlank read whole indices agree
  rw [keptRead, keptWhole] at images
  cases blank : (whole index).isBlank with
  | true => exact agree index blank
  | false => exact images.mp same index ((kept index).mpr blank)

theorem wholeToolCalls_iff {json : JsonLib} (lawful : json.Lawful) (payloads : List Members) :
    WholeToolCalls json payloads (messageOfPayloads json payloads).toolCalls ↔
      ∀ index, GatheredNulFree (carrying index (streamElements payloads)) := by
  have everywhere : (∀ index, gatheredCall json (carrying index (streamElements payloads)) =
        wholeGatheredCall json (carrying index (streamElements payloads))) ↔
      ∀ index, GatheredNulFree (carrying index (streamElements payloads)) :=
    forall_congr' fun index => gatheredCall_whole_iff lawful
  rw [← everywhere, toolCalls_messageOfPayloads]
  rcases buildToolCalls_accumulateDeltas json (payloads.filterMap payloadDelta) with
    ⟨readIndices, sortedRead, readKept, isRead⟩
  rw [isRead]
  constructor
  · intro isWhole
    rcases isWhole with ⟨indices, sorted, kept, calls⟩
    have agree := fun index => @gatheredCall_of_blank json
      (carrying index (streamElements payloads)) lawful
    exact agree_of_listed agree sortedRead readKept sorted kept calls
  · intro same
    refine ⟨readIndices, sortedRead, ?_, ?_⟩
    · intro index
      rw [readKept index]
      exact iff_of_eq (congrArg (fun call => call.isBlank = false) (same index))
    · apply List.map_congr_left
      intro index _
      exact same index

/-! ## Delivered states -/

/-- The last text in whole, or the fallback if it is empty or none is given. -/
def lastWhole (texts : List String) (fallback : String) : String :=
  let last := (texts.getLast?).getD ""
  if last = "" then fallback else last

/-- The last text has no NUL, or is read as empty where it is the fallback itself. -/
def LastNulFree (texts : List String) (fallback : String) : Prop :=
  ∀ text, texts.getLast? = some text → NulFree text ∨ (cStr text = "" ∧ text = fallback)

theorem lastRead_eq_lastWhole_iff (texts : List String) (fallback : String) :
    lastRead texts fallback = lastWhole texts fallback ↔ LastNulFree texts fallback := by
  simp only [lastRead, lastWhole, LastNulFree, List.getLast?_map]
  cases texts.getLast? with
  | none => simp
  | some text =>
      simp only [Option.map_some, Option.getD_some, Option.some.injEq, forall_eq']
      by_cases isEmpty : text = ""
      · subst isEmpty
        simp [nulFree_empty, show cStr "" = "" from rfl]
      · rw [if_neg isEmpty]
        by_cases readsEmpty : cStr text = ""
        · have hasNul : ¬NulFree text := by
            intro free
            exact isEmpty ((cStr_of_nulFree free).symm.trans readsEmpty)
          simp [readsEmpty, hasNul, eq_comm]
        · simp [readsEmpty, cStr_eq_self_iff]

/-- The delivered state of a stream has its texts with all their characters. -/
structure CompleteState (json : JsonLib) (payloads : List Members) (requested : String)
    (state : OaiCompletionState) : Prop where
  content : state.message.message = String.join (payloads.map wholeContent)
  reasoning : state.message.reasoning = String.join (payloads.map wholeReasoning)
  toolCalls : WholeToolCalls json payloads state.message.toolCalls
  requestId : state.log.requestId = firstKnown (givenIds payloads)
  model : state.log.model = lastWhole (givenModels payloads) requested
  finishReason : state.log.finishReason = lastWhole (givenFinishReasons payloads) ""

/-- The texts that the delivered state of a stream is made of have no NUL. -/
structure StateNulFree (payloads : List Members) (requested : String) : Prop where
  content : ∀ root ∈ payloads, NulFree (wholeContent root)
  reasoning : ∀ root ∈ payloads, NulFree (wholeReasoning root)
  toolCalls : ∀ index, GatheredNulFree (carrying index (streamElements payloads))
  requestId : NulFree (firstKnown (givenIds payloads))
  model : LastNulFree (givenModels payloads) requested
  finishReason : LastNulFree (givenFinishReasons payloads) ""

/-- The message delivered for any list of results. -/
theorem Streams.message {lib : Libraries} {results : List (Timed HttpSseClientResult)}
    {state : OaiCompletionState} (streams : Streams lib results state) :
    state.message = messageOfPayloads lib.json (processedPayloads lib results) := by
  rcases streams.eq_eventsState_of_arrivals with ⟨capture, header, verdict, isState⟩
  have message := congrArg OaiCompletionState.message isState
  rw [message_eventsState] at message
  exact message

theorem Streams.completeState_iff {lib : Libraries} (lawful : lib.json.Lawful)
    {results : List (Timed HttpSseClientResult)} {state : OaiCompletionState}
    (streams : Streams lib results state) {modelInfo : SharedPtr OaiModelInfo}
    (requested : state.modelInfo = some modelInfo) :
    CompleteState lib.json (processedPayloads lib results) modelInfo.value.model state ↔
      StateNulFree (processedPayloads lib results) modelInfo.value.model := by
  have message := streams.message
  have metadata := streams.metadata requested
  have content := join_texts_iff (fun root => deltaText_eq root "content")
    (processedPayloads lib results)
  have reasoning := join_texts_iff (fun root => deltaText_eq root "reasoning_content")
    (processedPayloads lib results)
  have toolCalls := wholeToolCalls_iff lawful (processedPayloads lib results)
  have contentRead : state.message.message =
      String.join ((processedPayloads lib results).map payloadContent) := by
    rw [message]
    rfl
  have reasoningRead : state.message.reasoning =
      String.join ((processedPayloads lib results).map payloadReasoning) := by
    rw [message]
    rfl
  rw [← message] at toolCalls
  constructor
  · intro whole
    constructor
    · exact content.mp (contentRead.symm.trans whole.content)
    · exact reasoning.mp (reasoningRead.symm.trans whole.reasoning)
    · exact toolCalls.mp whole.toolCalls
    · exact (firstKnown_cStr_iff _).mp (metadata.1.symm.trans whole.requestId)
    · exact (lastRead_eq_lastWhole_iff _ _).mp (metadata.2.1.symm.trans whole.model)
    · exact (lastRead_eq_lastWhole_iff _ _).mp (metadata.2.2.symm.trans whole.finishReason)
  · intro free
    constructor
    · exact contentRead.trans (content.mpr free.content)
    · exact reasoningRead.trans (reasoning.mpr free.reasoning)
    · exact toolCalls.mpr free.toolCalls
    · exact metadata.1.trans ((firstKnown_cStr_iff _).mpr free.requestId)
    · exact metadata.2.1.trans ((lastRead_eq_lastWhole_iff _ _).mpr free.model)
    · exact metadata.2.2.trans ((lastRead_eq_lastWhole_iff _ _).mpr free.finishReason)

/-! ## All texts -/

/-- **Complete texts.**  Given that the codec follows the grammar of JSON, what is
decoded is whole exactly when the strings it is decoded from have no NUL: the
message and the log of an accepted body, the texts given to the callbacks of a
stream, the message and the log of a delivered stream, and the error text of a
provider. -/
theorem decodedTexts_complete_iff (lib : Libraries) (lawful : lib.json.Lawful) :
    (∀ body message log error,
      (parseCompletionResponseBody lib.json body message log error).accepted = true →
      (CompleteBody lib.json body log
          (parseCompletionResponseBody lib.json body message log error) ↔
        BodyNulFree lib.json body)) ∧
    (∀ callbacks results calls, StreamCalls lib callbacks results calls →
      (CompleteCallbacks callbacks (processedPayloads lib results) calls ↔
        CallbacksNulFree callbacks (processedPayloads lib results))) ∧
    (∀ results state modelInfo, Streams lib results state → state.modelInfo = some modelInfo →
      (CompleteState lib.json (processedPayloads lib results) modelInfo.value.model state ↔
        StateNulFree (processedPayloads lib results) modelInfo.value.model)) ∧
    ∀ body, extractErrorMessageFromJsonBody lib.json body = providerError lib.json body ↔
      NulFree (providerError lib.json body) := by
  constructor
  · intro body message log error accepted
    exact completeBody_iff lawful accepted
  constructor
  · intro callbacks results calls stream
    exact stream.completeCallbacks_iff
  constructor
  · intro results state modelInfo streams requested
    exact streams.completeState_iff lawful requested
  · intro body
    rw [extractErrorMessageFromJsonBody_eq]
    exact cStr_eq_self_iff

/-- A body and a payload with texts that have a NUL. -/
def cutTexts : Libraries :=
  Reference.libraries
    [("null", .null), ("123", .int64 123),
      ("1", .object [("choices", .array [.object [("message", .object
        [("content", .string "a\x00b"),
          ("tool_calls", .array [.object (callWithArguments "123\x00x")])])]])]),
      ("2", Reference.payload [("content", .string "a\x00b")])]

theorem lawful_cutTexts : cutTexts.json.Lawful := by
  apply Reference.lawful_ofTable
  · decide
  · simp [NulFree, Reference.payload]
  · decide

theorem decodedTexts_complete_iff_cutTexts :
    (CompleteBody cutTexts.json "1" {} (parseCompletionResponseBody cutTexts.json "1" {} {} "") ↔
      BodyNulFree cutTexts.json "1") ∧
    ∃ state, Streams cutTexts (inOneChunk ["2", "[DONE]"]) state ∧
      state.modelInfo = some Reference.modelInfo ∧
      (CompleteState cutTexts.json (processedPayloads cutTexts (inOneChunk ["2", "[DONE]"]))
          "unit-test-model" state ↔
        StateNulFree (processedPayloads cutTexts (inOneChunk ["2", "[DONE]"]))
          "unit-test-model") := by
  constructor
  · exact (decodedTexts_complete_iff cutTexts lawful_cutTexts).1 "1" {} {} "" (by decide)
  · rcases exists_streams (fun state => state.modelInfo)
      (by decide : (handedOver cutTexts (inOneChunk ["2", "[DONE]"])).map
        (List.map fun state => state.modelInfo) = some [some Reference.modelInfo]) with
      ⟨state, streams, requested⟩
    exact ⟨state, streams, requested,
      (decodedTexts_complete_iff cutTexts lawful_cutTexts).2.2.1 _ state Reference.modelInfo streams
        requested⟩

/-- The content ends at its NUL, and the arguments text, which is not JSON, is
accepted as the number before its NUL. -/
theorem cutTexts_not_complete :
    cutTexts.json.Lawful ∧
      (parseCompletionResponseBody cutTexts.json "1" {} {} "").accepted = true ∧
      (parseCompletionResponseBody cutTexts.json "1" {} {} "").message.message = "a" ∧
      (parseCompletionResponseBody cutTexts.json "1" {} {} "").message.toolCalls =
        [{ id := "call_1", name := "lookup", arguments := .int64 123 }] ∧
      ¬CompleteBody cutTexts.json "1" {}
        (parseCompletionResponseBody cutTexts.json "1" {} {} "") := by
  refine ⟨lawful_cutTexts, by decide, by decide, by decide, ?_⟩
  intro whole
  have message := whole.message
    [("content", .string "a\x00b"),
      ("tool_calls", .array [.object (callWithArguments "123\x00x")])] (.intro rfl rfl rfl)
  exact absurd message (by decide)

end Boai.Completion
