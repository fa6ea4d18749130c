import Boai.Completion.ToolCallSlots

/-!
# When tool calls stay apart

Elements without an index are keyed by their position in their own delta array,
while the accumulators live across deltas.  Two calls whose elements carry no
index, each alone in its delta, therefore share the accumulator of position
zero.  This module gives the exact condition under which calls with different
ids keep their accumulators, their ids and their argument fragments apart.
-/

namespace Boai.Completion

open Boai.Json KeyedFold

/-- The index an element names itself. -/
def explicitIndex (element : Members) : Option Nat :=
  match ifContains element "index" with
  | some (.int64 index) => if 0 ≤ index then some index.toNat else none
  | _ => none

/-- The id an element carries, empty when it carries none. -/
def elementId (element : Members) : String :=
  match ifContains element "id" with
  | some (.string text) => text
  | _ => ""

/-- No explicit index is used by elements carrying two different ids. -/
def ExplicitIndicesUnambiguous (elements : List (Nat × Members)) : Prop :=
  ∀ index first second, (index, first) ∈ elements → (index, second) ∈ elements →
    explicitIndex first = some index → explicitIndex second = some index →
    elementId first ≠ "" → elementId second ≠ "" → elementId first = elementId second

/-- Different tool calls are never fused. -/
structure NeverFused (json : JsonLib) (deltas : List Members) : Prop where
  /-- Elements with different ids write different accumulators. -/
  apart : ∀ index first second,
    (index, first) ∈ arrivedElements deltas → (index, second) ∈ arrivedElements deltas →
    elementId first ≠ "" → elementId second ≠ "" → elementId first = elementId second
  /-- Every id seen is the id of a call. -/
  seen : ∀ index element, (index, element) ∈ arrivedElements deltas → elementId element ≠ "" →
    ∃ call ∈ buildToolCallsFromAccumulation json (accumulateDeltas json deltas),
      call.id = elementId element
  /-- A call's arguments text holds no fragment that arrived under the id of
  another call. -/
  own : ∀ index acc, (accumulateDeltas json deltas)[index]? = some acc →
    (toolCallOfAccumulator json acc).isBlank = false →
    ∀ element, (index, element) ∈ arrivedElements deltas → elementId element ≠ "" →
      argumentsPart json element ≠ "" →
      ∀ other ∈ buildToolCallsFromAccumulation json (accumulateDeltas json deltas),
        other.id = elementId element → other.id = acc.id

/-- The last id an index receives is the empty text or it receives none. -/
def EndsWithoutId (index : Nat) (elements : List (Nat × Members)) : Prop :=
  lastText ((carrying index elements).map idText) = ""

/-- What a stream must look like for its calls to stay apart. -/
structure KeptApart (json : JsonLib) (elements : List (Nat × Members)) : Prop where
  /-- An element with an id but no index sits at a position that no element with
  a different id resolves to. -/
  positions : ∀ index first second, (index, first) ∈ elements → (index, second) ∈ elements →
    explicitIndex first = none → elementId first ≠ "" → elementId second ≠ "" →
    elementId first = elementId second
  /-- Ids are read whole. -/
  plain : ∀ index element, (index, element) ∈ elements → NulFree (elementId element)
  /-- An id is not taken back by a later empty one everywhere. -/
  lasting : ∀ index element, (index, element) ∈ elements → elementId element ≠ "" →
    ∃ other same, (other, same) ∈ elements ∧ elementId same = elementId element ∧
      ¬EndsWithoutId other elements
  /-- Where an id is taken back and fragments came under it, the rest of the call
  is empty, so that it is dropped. -/
  dropped : ∀ index element, (index, element) ∈ elements → elementId element ≠ "" →
    argumentsPart json element ≠ "" → EndsWithoutId index elements →
    lastText ((carrying index elements).map nameText) = "" ∧
      json.parse (String.join ((carrying index elements).map (argumentsPart json))) = some .null

/-! ## Ids -/

theorem idText_eq_some {element : Members} {text : String} (given : idText element = some text) :
    text = cStr (elementId element) := by
  simp only [idText, elementId] at *
  cases found : ifContains element "id" with
  | none =>
      rw [found] at given
      cases given
  | some value =>
      rw [found] at given
      cases value with
      | string id => exact (Option.some.inj given).symm
      | _ => cases given

/-- A last text that is not empty was given. -/
theorem mem_of_lastText_ne_empty {texts : List (Option String)} (given : lastText texts ≠ "") :
    some (lastText texts) ∈ texts := by
  simp only [lastText] at given ⊢
  cases last : (texts.filterMap id).getLast? with
  | none =>
      rw [last] at given
      exact absurd rfl given
  | some text =>
      have member := List.mem_of_getLast? last
      simpa using member

/-- The id an index ends with is the id carried by one of its elements, up to
its first NUL. -/
theorem exists_of_not_endsWithoutId {index : Nat} {elements : List (Nat × Members)}
    (ends : ¬EndsWithoutId index elements) :
    ∃ element, (index, element) ∈ elements ∧
      lastText ((carrying index elements).map idText) = cStr (elementId element) := by
  have given := mem_of_lastText_ne_empty ends
  rw [List.mem_map] at given
  cases given with
  | intro element found =>
      exact ⟨element, mem_carrying.mp found.1, idText_eq_some found.2⟩

theorem resolvedIndex_of_explicitIndex {element : Members} {index position : Nat}
    (explicit : explicitIndex element = some index) :
    resolvedIndex element position = index := by
  simp only [explicitIndex] at explicit
  split at explicit
  next number found =>
      split at explicit
      next nonnegative =>
          rw [Option.some.inj explicit.symm]
          simp only [resolvedIndex, found]
          exact if_pos nonnegative
      next => cases explicit
  next => cases explicit

theorem index_eq_of_explicitIndex {elements : List JsonValue} {position index named : Nat}
    {element : Members} (member : (index, element) ∈ resolvedElements elements position)
    (explicit : explicitIndex element = some named) : index = named := by
  induction elements generalizing position with
  | nil => cases member
  | cons item rest ih =>
      cases item with
      | object callObject =>
          cases member with
          | head => exact resolvedIndex_of_explicitIndex explicit
          | tail _ later => exact ih later
      | _ => exact ih member

/-- An element with an index of its own is found under it. -/
theorem arrived_explicitIndex {deltas : List Members} {index : Nat} {element : Members}
    (arrived : (index, element) ∈ arrivedElements deltas) :
    explicitIndex element = none ∨ explicitIndex element = some index := by
  cases explicit : explicitIndex element with
  | none => exact .inl rfl
  | some named =>
      right
      simp only [arrivedElements, List.mem_flatMap] at arrived
      cases arrived with
      | intro delta found =>
          simp only [deltaElements] at found
          split at found
          next => rw [index_eq_of_explicitIndex found.2 explicit]
          next => cases found.2

theorem mem_buildToolCalls (json : JsonLib) (deltas : List Members) (call : OaiToolCall) :
    call ∈ buildToolCallsFromAccumulation json (accumulateDeltas json deltas) ↔
      ∃ index, (gatheredCall json (carrying index (arrivedElements deltas))).isBlank = false ∧
        gatheredCall json (carrying index (arrivedElements deltas)) = call := by
  cases buildToolCalls_accumulateDeltas json deltas with
  | intro indices listed =>
      rw [listed.2.2, List.mem_map]
      exact exists_congr fun index => and_congr_left fun _ => listed.2.1 index

/-- A call is left out when it has no id, no name and its arguments text is empty
or denotes `null`. -/
theorem toolCallOfAccumulator_isBlank (json : JsonLib) (acc : ToolCallAccumulator) :
    (toolCallOfAccumulator json acc).isBlank = true ↔
      acc.id = "" ∧ acc.name = "" ∧
        (acc.argumentsText = "" ∨ json.parse acc.argumentsText = some .null) := by
  rw [OaiToolCall.isBlank_iff]
  simp only [toolCallOfAccumulator, tryParseJsonValue]
  apply and_congr_right
  intro _
  apply and_congr_right
  intro _
  split
  next isEmpty => simp [isEmpty]
  next nonempty => cases parsed : json.parse acc.argumentsText <;> simp [nonempty]

/-! ## The exact condition -/

section Exact

variable {json : JsonLib} {deltas : List Members}

/-- A call with an id has it from an element of its index. -/
theorem exists_source_of_call {call : OaiToolCall}
    (built : call ∈ buildToolCallsFromAccumulation json (accumulateDeltas json deltas))
    (hasId : call.id ≠ "") :
    ∃ index element, (index, element) ∈ arrivedElements deltas ∧
      ¬EndsWithoutId index (arrivedElements deltas) ∧ call.id = cStr (elementId element) := by
  cases (mem_buildToolCalls json deltas call).mp built with
  | intro index kept =>
      have ends : ¬EndsWithoutId index (arrivedElements deltas) := by
        intro without
        apply hasId
        rw [← kept.2]
        exact without
      cases exists_of_not_endsWithoutId ends with
      | intro element given =>
          apply Exists.intro index
          apply Exists.intro element
          rw [← kept.2]
          exact ⟨given.1, ends, given.2⟩

theorem KeptApart.of_neverFused (separate : NeverFused json deltas) :
    KeptApart json (arrivedElements deltas) := by
  have plain : ∀ index element, (index, element) ∈ arrivedElements deltas →
      NulFree (elementId element) := by
    intro index element arrived
    by_cases carried : elementId element = ""
    · rw [carried]
      exact nulFree_empty
    · cases separate.seen index element arrived carried with
      | intro call found =>
          have hasId : call.id ≠ "" := fun isEmpty => carried (found.2 ▸ isEmpty)
          rcases exists_source_of_call found.1 hasId with ⟨_, source, _, _, sameId⟩
          rw [← found.2, sameId]
          exact nulFree_cStr _
  constructor
  · intro index first second isFirst isSecond _ firstId secondId
    exact separate.apart index first second isFirst isSecond firstId secondId
  · exact plain
  · intro index element arrived carried
    cases separate.seen index element arrived carried with
    | intro call found =>
        have hasId : call.id ≠ "" := fun isEmpty => carried (found.2 ▸ isEmpty)
        rcases exists_source_of_call found.1 hasId with ⟨other, source, there, ends, sameId⟩
        rw [found.2, cStr_of_nulFree (plain other source there)] at sameId
        exact ⟨other, source, there, sameId.symm, ends⟩
  · intro index element arrived carried fragment without
    let own := carrying index (arrivedElements deltas)
    have member : element ∈ own := mem_carrying.mpr arrived
    have slot : (accumulateDeltas json deltas)[index]? = some (gathered json own) := by
      rw [getElem?_accumulateDeltas]
      exact if_neg (List.ne_nil_of_mem member)
    have blank : (gatheredCall json own).isBlank = true := by
      by_contra kept
      cases separate.seen index element arrived carried with
      | intro call found =>
          have sameId := separate.own index (gathered json own) slot (Bool.not_eq_true _ ▸ kept)
            element arrived carried fragment call found.1 found.2
          apply carried
          rw [← found.2, sameId]
          exact without
    have fields := (toolCallOfAccumulator_isBlank json (gathered json own)).mp blank
    apply And.intro fields.2.1
    apply fields.2.2.resolve_left
    intro noText
    exact fragment (eq_empty_of_join_eq_empty noText (List.mem_map_of_mem member))

theorem NeverFused.of_keptApart
    (unambiguous : ExplicitIndicesUnambiguous (arrivedElements deltas))
    (kept : KeptApart json (arrivedElements deltas)) : NeverFused json deltas := by
  have apart : ∀ index first second, (index, first) ∈ arrivedElements deltas →
      (index, second) ∈ arrivedElements deltas → elementId first ≠ "" →
      elementId second ≠ "" → elementId first = elementId second := by
    intro index first second isFirst isSecond firstId secondId
    cases arrived_explicitIndex isFirst with
    | inl unnamed =>
        exact kept.positions index first second isFirst isSecond unnamed firstId secondId
    | inr named =>
        cases arrived_explicitIndex isSecond with
        | inl unnamed =>
            exact (kept.positions index second first isSecond isFirst unnamed secondId firstId).symm
        | inr also =>
            exact unambiguous index first second isFirst isSecond named also firstId secondId
  -- An index that ends with an id ends with the one id its elements carry.
  have endsWith : ∀ index element, (index, element) ∈ arrivedElements deltas →
      elementId element ≠ "" → ¬EndsWithoutId index (arrivedElements deltas) →
      (gatheredCall json (carrying index (arrivedElements deltas))).id = elementId element := by
    intro index element arrived carried ends
    rcases exists_of_not_endsWithoutId ends with ⟨source, there, sameId⟩
    rw [cStr_of_nulFree (kept.plain index source there)] at sameId
    have sourceId : elementId source ≠ "" := sameId ▸ ends
    rw [← apart index source element there arrived sourceId carried]
    exact sameId
  constructor
  · exact apart
  · intro index element arrived carried
    rcases kept.lasting index element arrived carried with ⟨other, same, there, sameId, ends⟩
    have callId := endsWith other same there (sameId ▸ carried) ends
    rw [sameId] at callId
    apply Exists.intro (gatheredCall json (carrying other (arrivedElements deltas)))
    refine ⟨(mem_buildToolCalls json deltas _).mpr ⟨other, ?_, rfl⟩, callId⟩
    rw [← Bool.not_eq_true]
    intro blank
    exact carried (callId ▸ ((toolCallOfAccumulator_isBlank json _).mp blank).1)
  · intro index acc found notBlank element arrived carried fragment other _ otherId
    rw [getElem?_accumulateDeltas,
      if_neg (List.ne_nil_of_mem (mem_carrying.mpr arrived))] at found
    rw [otherId, ← Option.some.inj found]
    by_cases ends : EndsWithoutId index (arrivedElements deltas)
    · have empties := kept.dropped index element arrived carried fragment ends
      rw [← Option.some.inj found, ← Bool.not_eq_true, toolCallOfAccumulator_isBlank] at notBlank
      exact absurd ⟨ends, empties.1, .inr empties.2⟩ notBlank
    · exact (endsWith index element arrived carried ends).symm

end Exact

/-- In a stream whose explicit indices are unambiguous, calls stay apart exactly
when no element without an index falls on the position of another id, ids are
free of NULs, and no id is taken back by a later empty one. -/
theorem neverFused_iff (json : JsonLib) (deltas : List Members)
    (unambiguous : ExplicitIndicesUnambiguous (arrivedElements deltas)) :
    NeverFused json deltas ↔ KeptApart json (arrivedElements deltas) := by
  constructor
  · exact KeptApart.of_neverFused
  · exact NeverFused.of_keptApart unambiguous

/-! ## Two calls with an index -/

/-- Every piece names its index, and the id of its call is the last one there. -/
theorem alternatingPieces_named :
    ∀ piece ∈ arrivedElements alternatingPieces, explicitIndex piece.2 = some piece.1 ∧
      NulFree (elementId piece.2) ∧
      lastText ((carrying piece.1 (arrivedElements alternatingPieces)).map idText) ≠ "" ∧
      (elementId piece.2 = "" ∨ elementId piece.2 =
        lastText ((carrying piece.1 (arrivedElements alternatingPieces)).map idText)) := by
  decide

theorem alternatingPieces_unambiguous :
    ExplicitIndicesUnambiguous (arrivedElements alternatingPieces) := by
  intro index first second isFirst isSecond _ _ firstId secondId
  have ofFirst := (alternatingPieces_named _ isFirst).2.2.2.resolve_left firstId
  have ofSecond := (alternatingPieces_named _ isSecond).2.2.2.resolve_left secondId
  exact ofFirst.trans ofSecond.symm

theorem alternatingPieces_keptApart :
    KeptApart (JsonLib.ofTable []) (arrivedElements alternatingPieces) where
  positions := by
    intro index first _ isFirst _ unnamed
    rw [(alternatingPieces_named _ isFirst).1] at unnamed
    cases unnamed
  plain := fun _ _ member => (alternatingPieces_named _ member).2.1
  lasting := fun index element member _ =>
    ⟨index, element, member, rfl, (alternatingPieces_named _ member).2.2.1⟩
  dropped := fun _ _ member _ _ ends =>
    absurd ends (alternatingPieces_named _ member).2.2.1

theorem neverFused_iff_alternatingPieces :
    NeverFused (JsonLib.ofTable []) alternatingPieces :=
  (neverFused_iff (JsonLib.ofTable []) alternatingPieces alternatingPieces_unambiguous).mpr
    alternatingPieces_keptApart

/-! ## Two calls without an index -/

/-- A call without an index, alone in its delta. -/
def unindexedCall (id name : String) : Members :=
  [("tool_calls", .array [.object [("id", .string id),
    ("function", .object [("name", .string name), ("arguments", .string "{}")])]])]

def unindexedCalls : List Members :=
  [unindexedCall "call_a" "get_time", unindexedCall "call_b" "get_date"]

theorem unindexedCalls_unambiguous :
    ExplicitIndicesUnambiguous (arrivedElements unindexedCalls) := by
  have unnamed : ∀ element ∈ arrivedElements unindexedCalls, explicitIndex element.2 = none := by
    decide
  intro index first second isFirst _ named
  rw [unnamed _ isFirst] at named
  cases named

/-- Two calls without an index, each in a delta of its own, become one call with
the id and the name of the second and the arguments of both. -/
theorem unindexedCalls_fused :
    ExplicitIndicesUnambiguous (arrivedElements unindexedCalls) ∧
      buildToolCallsFromAccumulation (JsonLib.ofTable [])
          (accumulateDeltas (JsonLib.ofTable []) unindexedCalls) =
        [{ id := "call_b", name := "get_date", arguments := .string "{}{}" }] ∧
      ¬NeverFused (JsonLib.ofTable []) unindexedCalls := by
  constructor
  · exact unindexedCalls_unambiguous
  constructor
  · decide
  · intro separate
    have sameId := separate.apart 0 _ _ (List.mem_cons_self ..)
      (List.mem_cons_of_mem _ (List.mem_cons_self ..)) (by decide) (by decide)
    exact absurd sameId (by decide)

end Boai.Completion
