import Boai.Completion.ToolCalls

/-!
# Tool calls gathered by index

A stream delivers a tool call in pieces.  The accumulator of an index is a
function of the elements that resolve to that index, in arrival order: the last
id, the last name and all the argument fragments.  How the pieces of different
calls are interleaved, and how they are split over delta arrays, leaves no trace
in the accumulated map or in the list of calls built from it.
-/

namespace Boai.Completion

open Boai.Json KeyedFold

/-! ## Accumulating over deltas -/

/-- The tool-call map after a sequence of delta objects. -/
def accumulateDeltas (json : JsonLib) (deltas : List Members) : ToolCallMap :=
  deltas.foldl (fun toolCalls delta => maybeAccumulateStreamToolCalls json delta toolCalls) ∅

/-- The elements of the `tool_calls` array of a delta, each with the index it
resolves to. -/
def deltaElements (delta : Members) : List (Nat × Members) :=
  match ifContains delta "tool_calls" with
  | some (.array array) => resolvedElements array 0
  | _ => []

/-- The elements of a sequence of deltas in arrival order. -/
def arrivedElements (deltas : List Members) : List (Nat × Members) :=
  deltas.flatMap deltaElements

theorem maybeAccumulateStreamToolCalls_eq (json : JsonLib) (delta : Members)
    (toolCalls : ToolCallMap) :
    maybeAccumulateStreamToolCalls json delta toolCalls =
      writeAll (mergeElement json) toolCalls (deltaElements delta) := by
  simp only [maybeAccumulateStreamToolCalls, deltaElements, accumulateStreamToolCallsFromArray]
  cases ifContains delta "tool_calls" with
  | none => rfl
  | some value =>
      cases value with
      | array array => exact accumulateFrom_eq json array 0 toolCalls
      | _ => rfl

/-- Payloads, arrays and elements: the nested loop is one keyed fold. -/
theorem accumulateDeltas_eq (json : JsonLib) (deltas : List Members) :
    accumulateDeltas json deltas = writeAll (mergeElement json) ∅ (arrivedElements deltas) := by
  simp only [accumulateDeltas, arrivedElements]
  generalize (∅ : ToolCallMap) = toolCalls
  induction deltas generalizing toolCalls with
  | nil => rfl
  | cons delta rest ih =>
      rw [List.foldl_cons, ih, maybeAccumulateStreamToolCalls_eq, List.flatMap_cons,
        writeAll_append]

theorem payloadToolCalls_eq (root : Members) :
    payloadToolCalls root = arrivedElements (payloadDelta root).toList := by
  simp only [payloadToolCalls, arrivedElements]
  cases payloadDelta root with
  | none => rfl
  | some delta => exact (List.flatMap_singleton deltaElements delta).symm

/-- The elements of the deltas of payloads. -/
theorem arrivedElements_payloadDeltas (payloads : List Members) :
    arrivedElements (payloads.filterMap payloadDelta) = payloads.flatMap payloadToolCalls := by
  induction payloads with
  | nil => rfl
  | cons root rest ih =>
      rw [List.flatMap_cons, ← ih, payloadToolCalls_eq, List.filterMap_cons]
      cases payloadDelta root with
      | none => rfl
      | some delta => simp [arrivedElements]

/-- The event loop accumulates the deltas of the payloads it reads. -/
theorem processEvents_accumulates (json : JsonLib) (callbacks : DeltaCallbacks)
    (events : List SseEvent) :
    (processEvents json callbacks events {}).agg.toolCalls =
      accumulateDeltas json ((readPayloads json events).filterMap payloadDelta) := by
  rw [(processEvents_reads json callbacks events {}).toolCalls, accumulateDeltas_eq,
    arrivedElements_payloadDeltas]

/-! ## One accumulator -/

/-- The text of the `id` of an element that has a string there. -/
def idText (element : Members) : Option String := memberText (ifContains element "id")

def nameText (element : Members) : Option String := memberText (functionMember element "name")

/-- What an element adds to the arguments text: a string as decoded, any other
value serialised, nothing when there are no arguments. -/
def argumentsPart (json : JsonLib) (element : Members) : String :=
  ((functionMember element "arguments").map (argumentsFragment json)).getD ""

/-- The last text given by a sequence, empty when none is given. -/
def lastText (texts : List (Option String)) : String :=
  ((texts.filterMap id).getLast?).getD ""

/-- The accumulator that belongs to a sequence of elements. -/
def gathered (json : JsonLib) (elements : List Members) : ToolCallAccumulator :=
  { id := lastText (elements.map idText)
    name := lastText (elements.map nameText)
    argumentsText := String.join (elements.map (argumentsPart json)) }

/-- The call of a sequence of elements. -/
def gatheredCall (json : JsonLib) (elements : List Members) : OaiToolCall :=
  toolCallOfAccumulator json (gathered json elements)

theorem lastText_append_singleton (texts : List (Option String)) (text : Option String) :
    lastText (texts ++ [text]) = text.getD (lastText texts) := by
  simp only [lastText, List.filterMap_append]
  cases text with
  | none => simp
  | some text => simp

theorem gathered_append_singleton (json : JsonLib) (elements : List Members)
    (element : Members) :
    gathered json (elements ++ [element]) =
      updateAccumulator json (gathered json elements) element := by
  rw [updateAccumulator_eq]
  simp only [gathered, List.map_append, List.map_cons, List.map_nil, String.join_append,
    lastText_append_singleton]
  simp [idText, nameText, argumentsPart]

/-- A slot is filled with what its elements gather. -/
theorem fillSlot_mergeElement (json : JsonLib) {elements : List Members}
    (used : elements ≠ []) :
    fillSlot (mergeElement json) none elements = some (gathered json elements) := by
  induction elements using List.reverseRecOn with
  | nil => exact absurd rfl used
  | append_singleton before element ih =>
      rw [gathered_append_singleton]
      simp only [fillSlot, List.foldl_append, List.foldl_cons, List.foldl_nil]
      cases before with
      | nil => rfl
      | cons first rest =>
          have earlier := ih (List.cons_ne_nil first rest)
          simp only [fillSlot] at earlier
          rw [earlier]
          rfl

/-! ## The map and the list of calls -/

theorem getElem?_accumulateDeltas (json : JsonLib) (deltas : List Members) (index : Nat) :
    (accumulateDeltas json deltas)[index]? =
      if carrying index (arrivedElements deltas) = [] then none
      else some (gathered json (carrying index (arrivedElements deltas))) := by
  rw [accumulateDeltas_eq, getElem?_writeAll, Std.ExtTreeMap.getElem?_empty]
  split
  next unused => rw [unused, fillSlot_nil]
  next used => exact fillSlot_mergeElement json used

/-- No elements, no call. -/
theorem gatheredCall_nil (json : JsonLib) : (gatheredCall json []).isBlank = true := rfl

/-- The list built from an accumulated map has one call for each index whose
elements gather a call that is not blank, in increasing order of the index. -/
theorem buildToolCalls_accumulateDeltas (json : JsonLib) (deltas : List Members) :
    ∃ indices : List Nat, indices.Pairwise (· < ·) ∧
      (∀ index, index ∈ indices ↔
        (gatheredCall json (carrying index (arrivedElements deltas))).isBlank = false) ∧
      buildToolCallsFromAccumulation json (accumulateDeltas json deltas) =
        indices.map fun index => gatheredCall json (carrying index (arrivedElements deltas)) := by
  let keep : ToolCallAccumulator → Bool := fun acc => !(toolCallOfAccumulator json acc).isBlank
  have listed := exists_keys_of_filter (accumulateDeltas json deltas) keep
  cases listed with
  | intro indices listed =>
      have slots := getElem?_accumulateDeltas json deltas
      apply Exists.intro indices
      constructor
      · exact listed.1
      constructor
      · intro index
        rw [listed.2.1 index, slots index]
        split
        next unused => simp [unused, gatheredCall_nil]
        next used => simp [keep, gatheredCall]
      · have reads : ∀ index acc, (accumulateDeltas json deltas)[index]? = some acc →
            gathered json (carrying index (arrivedElements deltas)) = acc := by
          intro index acc found
          rw [slots index] at found
          split at found
          next => cases found
          next => exact Option.some.inj found
        have kept := listed.2.2 _ reads
        have calls : buildToolCallsFromAccumulation json (accumulateDeltas json deltas) =
            (((accumulateDeltas json deltas).toList.filter fun entry => keep entry.2).map
              fun entry => toolCallOfAccumulator json entry.2) := by
          rw [buildToolCallsFromAccumulation, ← List.filterMap_eq_map, List.filterMap_filter]
          apply List.filterMap_congr
          intro entry member
          cases blank : (toolCallOfAccumulator json entry.2).isBlank <;> simp [keep, blank]
        rw [calls, kept, List.map_map]
        rfl

/-! ## In the words of the stream -/

/-- A piece of a call that names its index. -/
def indexedPiece (index : Nat) (header : Members) (arguments : String) : JsonValue :=
  .object (("index", .int64 index) :: header ++
    [("function", .object [("name", .null), ("arguments", .string arguments)])])

/-- Two calls whose pieces alternate, the later index first, and an item that is no
object. -/
def alternatingPieces : List Members :=
  [[("tool_calls", .array [.null, indexedPiece 1 [("id", .string "call_b")] "[1",
      indexedPiece 0 [("id", .string "call_a")] "[2"])],
    [("tool_calls", .array [indexedPiece 0 [] ",3]", indexedPiece 1 [] ",4]"])]]

example :
    buildToolCallsFromAccumulation (JsonLib.ofTable [])
        (accumulateDeltas (JsonLib.ofTable []) alternatingPieces) =
      [{ id := "call_a", arguments := .string "[2,3]" },
        { id := "call_b", arguments := .string "[1,4]" }] := by
  decide

end Boai.Completion
