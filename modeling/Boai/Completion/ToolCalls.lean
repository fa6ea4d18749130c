import Boai.Completion.StreamPayloads

/-!
# One tool call

Both decoders read the same members of a tool call: its `id`, and the `name` and
`arguments` of its `function`.  Here each of them is given field by field, which
is all that the comparison of the decoders and the round trip of a call need.
-/

namespace Boai.Completion

open Boai.Json

/-- A member of a call's `function`. -/
def functionMember (callObject : Members) (key : String) : Option JsonValue :=
  match ifContains callObject "function" with
  | some (.object functionObject) => ifContains functionObject key
  | _ => none

/-- The text of a member that is a string. -/
def memberText : Option JsonValue → Option String
  | some (.string text) => some (cStr text)
  | _ => none

/-- What an arguments text decodes to when it is not dropped. -/
def decodeText (json : JsonLib) (text : String) : JsonValue :=
  match json.parse text with
  | some value => value
  | none => .string text

theorem jsonStringFromObjectField_eq (object : Members) (key : String) :
    jsonStringFromObjectField object key = memberText (ifContains object key) := rfl

theorem nulFree_memberText {member : Option JsonValue} {old : String} (free : NulFree old) :
    NulFree ((memberText member).getD old) := by
  simp only [memberText]
  split
  next text => exact nulFree_cStr text
  next => exact free

/-- The whole-object decoder, field by field. -/
theorem parseToolCall_eq (json : JsonLib) (callObject : Members) :
    parseToolCall json callObject =
      { id := (memberText (ifContains callObject "id")).getD ""
        name := (memberText (functionMember callObject "name")).getD ""
        arguments := ((functionMember callObject "arguments").map
          (parseToolCallArgumentsValue json)).getD .null } := by
  simp only [parseToolCall, functionMember, jsonStringFromObjectField_eq]
  cases ifContains callObject "function" with
  | none => rfl
  | some function =>
      cases function with
      | object functionObject =>
          simp only
          cases ifContains functionObject "arguments" <;> rfl
      | _ => rfl

/-- Merging an element into an accumulator, field by field. -/
theorem updateAccumulator_eq (json : JsonLib) (acc : ToolCallAccumulator)
    (callObject : Members) :
    updateAccumulator json acc callObject =
      { id := (memberText (ifContains callObject "id")).getD acc.id
        name := (memberText (functionMember callObject "name")).getD acc.name
        argumentsText := acc.argumentsText ++
          ((functionMember callObject "arguments").map (argumentsFragment json)).getD "" } := by
  simp only [updateAccumulator, functionMember, jsonStringFromObjectField_eq]
  cases ifContains callObject "function" with
  | none => simp [memberText]
  | some function =>
      cases function with
      | object functionObject =>
          simp only
          cases ifContains functionObject "arguments" <;> simp
      | _ => simp [memberText]

theorem parseToolCallArgumentsValue_string (json : JsonLib) (text : String) :
    parseToolCallArgumentsValue json (.string text) = decodeText json (cStr text) := rfl

theorem arguments_toolCallOfAccumulator (json : JsonLib) (acc : ToolCallAccumulator) :
    (toolCallOfAccumulator json acc).arguments =
      if acc.argumentsText = "" then .null else decodeText json acc.argumentsText := rfl

end Boai.Completion
