import Boai.Completion.RequestCodec
import Boai.Completion.ToolCalls
import Boai.Reference

/-!
# Tool-call arguments sent back as history

A received arguments text is decoded into a JSON value and encoded again when
the call is sent back.  The encoder sends a string value as it is and serialises
every other value, whatever text the value was decoded from.  Which texts
survive is decided here for both ways of receiving a call.
-/

namespace Boai.Completion

open Boai.Json KeyedFold

/-! ## Receiving a call -/

/-- The text of an `arguments` member that is a string. -/
def elementFragment (callObject : Members) : String :=
  match functionMember callObject "arguments" with
  | some (.string text) => text
  | _ => ""

/-- `Received json streamed text call`: `call` was decoded from a tool call whose
`arguments` are the string `text`, which came whole in a body or in fragments
under one index of a stream. -/
inductive Received (json : JsonLib) : Bool → String → OaiToolCall → Prop where
  | whole {callObject : Members} {text : String}
      (arguments : functionMember callObject "arguments" = some (.string text)) :
      Received json false text (parseToolCall json callObject)
  | streamed {callbacks : DeltaCallbacks} {events : List SseEvent} {agg : StreamAggregate}
      {index : Nat} {acc : ToolCallAccumulator} (fresh : agg.toolCalls = ∅)
      (strings : ∀ element ∈ carrying index
          ((readPayloads json events).flatMap payloadToolCalls),
        ∀ value, functionMember element "arguments" = some value → value.isString = true)
      (slot : (processEvents json callbacks events agg).agg.toolCalls[index]? = some acc) :
      Received json true
        (String.join ((carrying index
          ((readPayloads json events).flatMap payloadToolCalls)).map elementFragment))
        (toolCallOfAccumulator json acc)

/-- The arguments text that is written for a call sent back. -/
def resentArguments (json : JsonLib) (call : OaiToolCall) : Option String :=
  (objectField (buildRequestToolCallObject json call).entries "function").bind fun function =>
    stringField function "arguments"

/-- A received text survives being sent back: valid JSON stays valid JSON for the
same value, any other text stays as it is, and the call sent back is decoded to
the same call. -/
structure Survives (json : JsonLib) (text : String) (call : OaiToolCall) : Prop where
  valid : ∀ value, json.parse text = some value →
    ∃ sent, resentArguments json call = some sent ∧ json.parse sent = some value
  invalid : json.parse text = none → resentArguments json call = some text
  decoded : parseToolCallsFromArray json [toValue (buildRequestToolCallObject json call)] = [call]

/-! ## Texts cut at NUL characters -/

/-- `kept` is what reading `text`, in one piece or several, through `c_str()`
keeps. -/
structure Kept (text kept : String) : Prop where
  free : NulFree kept
  whole : NulFree text → kept = text
  shorter : ¬NulFree text → kept.length < text.length

theorem kept_cStr (text : String) : Kept text (cStr text) :=
  ⟨nulFree_cStr text, cStr_of_nulFree, length_cStr_lt⟩

theorem Kept.length_le {text kept : String} (cut : Kept text kept) :
    kept.length ≤ text.length := by
  by_cases free : NulFree text
  · rw [cut.whole free]
  · exact Nat.le_of_lt (cut.shorter free)

theorem Kept.append {left right keptLeft keptRight : String} (first : Kept left keptLeft)
    (second : Kept right keptRight) : Kept (left ++ right) (keptLeft ++ keptRight) := by
  constructor
  · exact nulFree_append.mpr ⟨first.free, second.free⟩
  · intro free
    rw [nulFree_append] at free
    rw [first.whole free.1, second.whole free.2]
  · intro hasNul
    rw [nulFree_append, Classical.not_and_iff_not_or_not] at hasNul
    rw [String.length_append, String.length_append]
    rcases hasNul with inLeft | inRight
    · exact Nat.add_lt_add_of_lt_of_le (first.shorter inLeft) second.length_le
    · exact Nat.add_lt_add_of_le_of_lt first.length_le (second.shorter inRight)

theorem kept_empty : Kept "" "" :=
  ⟨nulFree_empty, fun _ => rfl, fun hasNul => absurd nulFree_empty hasNul⟩

section Accumulated

variable {json : JsonLib}

/-- The text accumulated from string fragments keeps what `c_str()` keeps of each. -/
theorem kept_fillSlot {elements : List Members} (slot : Option ToolCallAccumulator)
    {text : String} (cut : Kept text (slot.getD {}).argumentsText)
    (strings : ∀ element ∈ elements, ∀ value, functionMember element "arguments" = some value →
      value.isString = true) :
    Kept (text ++ String.join (elements.map elementFragment))
      ((fillSlot (mergeElement json) slot elements).getD {}).argumentsText := by
  induction elements generalizing slot text with
  | nil => simpa using cut
  | cons element rest ih =>
      have fragment : Kept (elementFragment element)
          (((functionMember element "arguments").map (argumentsFragment json)).getD "") := by
        have isString := strings element List.mem_cons_self
        simp only [elementFragment]
        cases found : functionMember element "arguments" with
        | none => exact kept_empty
        | some value =>
            cases value with
            | string piece => exact kept_cStr piece
            | _ => cases isString _ found
      have merged : Kept (text ++ elementFragment element)
          ((some (mergeElement json slot element)).getD {}).argumentsText := by
        simp only [Option.getD_some, mergeElement, updateAccumulator_eq]
        exact cut.append fragment
      rw [List.map_cons, String.join_cons, ← String.append_assoc]
      exact ih _ merged fun other member => strings other (List.mem_cons_of_mem _ member)

end Accumulated

/-! ## Sending a call back -/

/-- Identifier and name of a call, as every decoder leaves them. -/
structure Clean (call : OaiToolCall) : Prop where
  id : NulFree call.id
  name : NulFree call.name

section Resent

variable {json : JsonLib}

theorem clean_parseToolCall (callObject : Members) : Clean (parseToolCall json callObject) := by
  rw [parseToolCall_eq]
  exact ⟨nulFree_memberText nulFree_empty, nulFree_memberText nulFree_empty⟩

/-- Merging elements keeps identifier and name free of NUL characters. -/
theorem clean_fillSlot {elements : List Members} (slot : Option ToolCallAccumulator)
    (clean : Clean (toolCallOfAccumulator json (slot.getD {}))) :
    Clean (toolCallOfAccumulator json
      ((fillSlot (mergeElement json) slot elements).getD {})) := by
  induction elements generalizing slot with
  | nil => exact clean
  | cons element rest ih =>
      have merged : Clean (toolCallOfAccumulator json (mergeElement json slot element)) := by
        rw [mergeElement, updateAccumulator_eq]
        exact ⟨nulFree_memberText clean.id, nulFree_memberText clean.name⟩
      exact ih (some (mergeElement json slot element)) merged

theorem resentArguments_eq (json : JsonLib) (call : OaiToolCall) :
    resentArguments json call = some (argumentsText json call.arguments) := by
  rw [resentArguments, entries_buildRequestToolCallObject]
  rfl

/-- A decoded call is never blank. -/
theorem isBlank_of_mem_parseToolCallsFromArray {array : List JsonValue} {call : OaiToolCall}
    (member : call ∈ parseToolCallsFromArray json array) : call.isBlank = false := by
  rcases List.mem_filterMap.mp member with ⟨value, _, decoded⟩
  cases value with
  | object callObject =>
      simp only at decoded
      split at decoded
      next => cases decoded
      next notBlank =>
        rw [← Option.some.inj decoded]
        exact Bool.eq_false_iff.mpr notBlank
  | null | bool | int64 | uint64 | double | string | array => cases decoded

/-- A call that is sent back is decoded to itself when its arguments are. -/
theorem parseToolCallsFromArray_resent {call : OaiToolCall} (clean : Clean call)
    (notBlank : call.isBlank = false) (free : NulFree (argumentsText json call.arguments))
    (decoded : decodeText json (argumentsText json call.arguments) = call.arguments) :
    parseToolCallsFromArray json [toValue (buildRequestToolCallObject json call)] = [call] := by
  have parsed : parseToolCall json (buildRequestToolCallObject json call).entries = call := by
    have id : ifContains (buildRequestToolCallObject json call).entries "id" =
        some (.string call.id) := by
      rw [entries_buildRequestToolCallObject]
      rfl
    have name : functionMember (buildRequestToolCallObject json call).entries "name" =
        some (.string call.name) := by
      rw [entries_buildRequestToolCallObject]
      rfl
    have arguments : functionMember (buildRequestToolCallObject json call).entries "arguments" =
        some (.string (argumentsText json call.arguments)) := by
      rw [entries_buildRequestToolCallObject]
      rfl
    rw [parseToolCall_eq, id, name, arguments, Option.map_some,
      parseToolCallArgumentsValue_string, cStr_of_nulFree free, decoded]
    simp only [memberText, cStr_of_nulFree clean.id, cStr_of_nulFree clean.name,
      Option.getD_some]
  simp [parseToolCallsFromArray, toValue, parsed, notBlank]

/-- The text sent back for a decoded text. -/
theorem argumentsText_decodeText (json : JsonLib) (text : String) :
    argumentsText json (decodeText json text) =
      match json.parse text with
      | some (.string string) => string
      | some value => json.serialize value
      | none => text := by
  simp only [decodeText]
  cases json.parse text with
  | none => rfl
  | some value => cases value <;> rfl

/-- A serialisation of a parsed value is JSON text, so it has no raw NUL. -/
theorem nulFree_serialize (lawful : json.Lawful) {text : String} {value : JsonValue}
    (parsed : json.parse text = some value) : NulFree (json.serialize value) :=
  lawful.parse_nul _ value (lawful.reparse text value parsed)

/-- Texts with a NUL are lost: what is sent back is shorter, or has no NUL. -/
theorem argumentsText_ne_of_nul (lawful : json.Lawful) {text kept : String}
    (cut : Kept text kept) (hasNul : ¬NulFree text) :
    argumentsText json (decodeText json kept) ≠ text := by
  intro same
  have shorter := cut.shorter hasNul
  rw [argumentsText_decodeText] at same
  split at same
  next string parsed =>
    have longer := lawful.literal_longer kept string parsed
    rw [same] at longer
    exact absurd shorter (Nat.lt_asymm longer)
  next value _ parsed => exact hasNul (same ▸ nulFree_serialize lawful parsed)
  next =>
    rw [same] at shorter
    exact Nat.lt_irrefl _ shorter

theorem decodeText_eq_null {text : String} :
    decodeText json text = .null ↔ json.parse text = some .null := by
  rw [decodeText]
  cases json.parse text <;> simp

theorem survives_iff_of_decoded (lawful : json.Lawful) {text kept : String}
    (cut : Kept text kept) {call : OaiToolCall} (clean : Clean call)
    (decoded : call.arguments = decodeText json kept) :
    Survives json text call ↔
      NulFree text ∧ (∀ string, json.parse text ≠ some (.string string)) ∧
        ¬(call.id = "" ∧ call.name = "" ∧ json.parse text = some .null) := by
  have sent := resentArguments_eq json call
  rw [decoded] at sent
  constructor
  · intro survives
    have free : NulFree text := by
      by_contra hasNul
      have notJson : json.parse text = none := by
        cases parsed : json.parse text with
        | none => rfl
        | some value => exact absurd (lawful.parse_nul text value parsed) hasNul
      have same := sent.symm.trans (survives.invalid notJson)
      exact argumentsText_ne_of_nul lawful cut hasNul (Option.some.inj same)
    refine ⟨free, ?_, ?_⟩
    · intro string parsed
      rcases survives.valid _ parsed with ⟨resent, found, again⟩
      have isString : resent = string := by
        rw [sent, argumentsText_decodeText, cut.whole free, parsed] at found
        exact (Option.some.inj found).symm
      have longer := lawful.literal_longer resent string again
      rw [isString] at longer
      exact Nat.lt_irrefl _ longer
    · rintro ⟨noId, noName, isNull⟩
      rw [cut.whole free, decodeText_eq_null.mpr isNull] at decoded
      have notBlank := isBlank_of_mem_parseToolCallsFromArray
        (survives.decoded.symm ▸ List.mem_singleton_self call)
      rw [(OaiToolCall.isBlank_iff call).mpr ⟨noId, noName, decoded⟩] at notBlank
      cases notBlank
  · rintro ⟨free, notString, notEmpty⟩
    have same := cut.whole free
    subst same
    have notBlank : call.isBlank = false := by
      by_contra blank
      rw [Bool.not_eq_false, OaiToolCall.isBlank_iff, decoded, decodeText_eq_null] at blank
      exact notEmpty blank
    have resent : ∀ value, json.parse kept = some value →
        argumentsText json (decodeText json kept) = json.serialize value := by
      intro value parsed
      rw [argumentsText_decodeText, parsed]
      cases value with
      | string string => exact absurd parsed (notString string)
      | _ => rfl
    constructor
    · intro value parsed
      exact ⟨_, sent, by rw [resent value parsed]; exact lawful.reparse kept value parsed⟩
    · intro notJson
      rw [sent, argumentsText_decodeText, notJson]
    · apply parseToolCallsFromArray_resent clean notBlank
      · rw [decoded]
        cases parsed : json.parse kept with
        | none =>
            rw [argumentsText_decodeText, parsed]
            exact free
        | some value =>
            rw [resent value parsed]
            exact nulFree_serialize lawful parsed
      · rw [decoded]
        cases parsed : json.parse kept with
        | none => rw [argumentsText_decodeText, parsed]
        | some value =>
            rw [resent value parsed]
            simp only [decodeText, parsed, lawful.reparse kept value parsed]

/-- A text of which nothing is kept is sent back as `null`. -/
theorem not_survives_of_dropped (lawful : json.Lawful) {text : String} (cut : Kept text "")
    {call : OaiToolCall} (dropped : call.arguments = .null) : ¬Survives json text call := by
  intro survives
  have notJson : json.parse text = none := by
    by_cases free : NulFree text
    · rw [← cut.whole free]
      exact lawful.parse_empty
    · cases parsed : json.parse text with
      | none => rfl
      | some value => exact absurd (lawful.parse_nul text value parsed) free
  have sent := survives.invalid notJson
  have isNull : argumentsText json .null = json.serialize .null := rfl
  rw [resentArguments_eq, dropped, isNull, lawful.serialize_null, Option.some.injEq] at sent
  have isEmpty := cut.whole (sent ▸ by decide)
  rw [← sent] at isEmpty
  exact absurd isEmpty (by decide)

theorem arguments_parseToolCall {callObject : Members} {text : String}
    (arguments : functionMember callObject "arguments" = some (.string text)) :
    (parseToolCall json callObject).arguments = decodeText json (cStr text) := by
  rw [parseToolCall_eq, arguments]
  rfl

/-- The accumulator of an index holds what the elements under that index bring. -/
theorem fillSlot_of_streamed {callbacks : DeltaCallbacks} {events : List SseEvent}
    {agg : StreamAggregate} {index : Nat} {acc : ToolCallAccumulator}
    (fresh : agg.toolCalls = ∅)
    (slot : (processEvents json callbacks events agg).agg.toolCalls[index]? = some acc) :
    (fillSlot (mergeElement json) none (carrying index
      ((readPayloads json events).flatMap payloadToolCalls))).getD {} = acc := by
  have reads := (processEvents_reads json callbacks events agg).toolCalls
  have empty : (∅ : ToolCallMap)[index]? = none := Std.ExtTreeMap.getElem?_empty
  rw [reads, fresh, getElem?_writeAll, empty] at slot
  rw [slot, Option.getD_some]

theorem kept_of_streamed {callbacks : DeltaCallbacks} {events : List SseEvent}
    {agg : StreamAggregate} {index : Nat} {acc : ToolCallAccumulator}
    (fresh : agg.toolCalls = ∅)
    (strings : ∀ element ∈ carrying index
        ((readPayloads json events).flatMap payloadToolCalls),
      ∀ value, functionMember element "arguments" = some value → value.isString = true)
    (slot : (processEvents json callbacks events agg).agg.toolCalls[index]? = some acc) :
    Kept (String.join ((carrying index
        ((readPayloads json events).flatMap payloadToolCalls)).map elementFragment))
      acc.argumentsText := by
  rw [← fillSlot_of_streamed fresh slot]
  simpa using kept_fillSlot none kept_empty strings

theorem clean_of_streamed {callbacks : DeltaCallbacks} {events : List SseEvent}
    {agg : StreamAggregate} {index : Nat} {acc : ToolCallAccumulator}
    (fresh : agg.toolCalls = ∅)
    (slot : (processEvents json callbacks events agg).agg.toolCalls[index]? = some acc) :
    Clean (toolCallOfAccumulator json acc) := by
  rw [← fillSlot_of_streamed fresh slot]
  exact clean_fillSlot none ⟨nulFree_empty, nulFree_empty⟩

end Resent

/-- Given that the codec reads back what it writes, a received arguments text
survives being sent back if and only if it has no NUL character, is not a JSON
string literal, is not empty when it was received in a stream, and is not `null` in
a call without a name whose id is empty or is read as empty. -/
theorem received_survives_iff (json : JsonLib) (lawful : json.Lawful) (streamed : Bool)
    (text : String) (call : OaiToolCall) (received : Received json streamed text call) :
    Survives json text call ↔
      NulFree text ∧ (∀ string, json.parse text ≠ some (.string string)) ∧
        (streamed = true → text ≠ "") ∧
        ¬(call.id = "" ∧ call.name = "" ∧ json.parse text = some .null) := by
  cases received with
  | @whole callObject _ arguments =>
      rw [survives_iff_of_decoded lawful (kept_cStr text) (clean_parseToolCall callObject)
        (arguments_parseToolCall arguments)]
      simp
  | @streamed callbacks events agg index acc fresh strings slot =>
      have cut := kept_of_streamed fresh strings slot
      have clean := clean_of_streamed fresh slot
      have arguments := arguments_toolCallOfAccumulator json acc
      generalize String.join ((carrying index
        ((readPayloads json events).flatMap payloadToolCalls)).map elementFragment) = text at cut
      by_cases isEmpty : acc.argumentsText = ""
      · rw [isEmpty] at cut
        rw [if_pos isEmpty] at arguments
        constructor
        · intro survives
          exact absurd survives (not_survives_of_dropped lawful cut arguments)
        · intro condition
          exact absurd (cut.whole condition.1).symm (condition.2.2.1 rfl)
      · rw [if_neg isEmpty] at arguments
        rw [survives_iff_of_decoded lawful cut clean arguments]
        constructor
        · rintro ⟨free, notString, notBlank⟩
          refine ⟨free, notString, ?_, notBlank⟩
          intro _ textEmpty
          exact isEmpty ((cut.whole free).trans textEmpty)
        · rintro ⟨free, notString, _, notBlank⟩
          exact ⟨free, notString, notBlank⟩

/-- A codec for two scalars and a string literal with digits. -/
def scalarCodec : JsonLib :=
  .ofTable [("null", .null), ("123", .int64 123), ("\"123\"", .string "123")]

theorem lawful_scalarCodec : scalarCodec.Lawful := by
  apply Reference.lawful_ofTable
  · decide
  · have shorter : "123".length < "\"123\"".length := by decide
    simp [NulFree, shorter]
  · decide

/-- A call with a given arguments text, as a body carries it. -/
def callWithArguments (text : String) : Members :=
  [("id", .string "call_1"),
    ("function", .object [("name", .string "lookup"), ("arguments", .string text)])]

/-- The same call in two pieces of a stream. -/
def callInPieces : JsonLib :=
  .ofTable [("null", .null), ("123", .int64 123),
    ("1", Reference.payload [("tool_calls", .array [.object (callWithArguments "12")])]),
    ("2", Reference.payload [("tool_calls", .array [.object [("function",
      .object [("arguments", .string "3")])]])])]

theorem lawful_callInPieces : callInPieces.Lawful := by
  apply Reference.lawful_ofTable
  · decide
  · simp [NulFree, Reference.payload]
  · decide

theorem received_callInPieces :
    Received callInPieces true "123"
      (toolCallOfAccumulator callInPieces ⟨"call_1", "lookup", "123"⟩) := by
  have strings : ∀ element ∈ carrying 0
      ((readPayloads callInPieces [⟨"1"⟩, ⟨"2"⟩]).flatMap payloadToolCalls),
      (functionMember element "arguments").all JsonValue.isString = true := by
    decide
  have text : String.join ((carrying 0
      ((readPayloads callInPieces [⟨"1"⟩, ⟨"2"⟩]).flatMap payloadToolCalls)).map
        elementFragment) = "123" := by
    decide
  rw [← text]
  refine @Received.streamed callInPieces Reference.bothCallbacks [⟨"1"⟩, ⟨"2"⟩] {} 0
    ⟨"call_1", "lookup", "123"⟩ rfl ?_ (by decide)
  intro element member value found
  have isString := strings element member
  rw [found] at isString
  exact isString

theorem received_survives_iff_number :
    Survives scalarCodec "123" (parseToolCall scalarCodec (callWithArguments "123")) ∧
      Survives callInPieces "123"
        (toolCallOfAccumulator callInPieces ⟨"call_1", "lookup", "123"⟩) := by
  have named : ∀ {json : JsonLib} {call : OaiToolCall}, call.id ≠ "" →
      ¬(call.id = "" ∧ call.name = "" ∧ json.parse "123" = some .null) :=
    fun hasId blank => hasId blank.1
  constructor
  · exact (received_survives_iff scalarCodec lawful_scalarCodec false "123" _
      (.whole (by decide))).mpr ⟨by decide, nofun, nofun, named (by decide)⟩
  · exact (received_survives_iff callInPieces lawful_callInPieces true "123" _
      received_callInPieces).mpr ⟨by decide, nofun, fun _ => by decide, named (by decide)⟩

/-- The literal `"123"` is sent back as `123`, which is a number. -/
theorem stringLiteral_not_survives :
    scalarCodec.Lawful ∧
      Received scalarCodec false "\"123\""
        (parseToolCall scalarCodec (callWithArguments "\"123\"")) ∧
      (parseToolCall scalarCodec (callWithArguments "\"123\"")).id ≠ "" ∧
      ¬Survives scalarCodec "\"123\""
        (parseToolCall scalarCodec (callWithArguments "\"123\"")) := by
  constructor
  · exact lawful_scalarCodec
  · constructor
    · exact .whole (by decide)
    · constructor
      · decide
      · intro survives
        rcases survives.valid (.string "123") (by decide) with ⟨sent, found, parsed⟩
        have isNumber : resentArguments scalarCodec
            (parseToolCall scalarCodec (callWithArguments "\"123\"")) = some "123" := by
          decide
        rw [isNumber] at found
        cases found
        exact absurd parsed (by decide)

end Boai.Completion
