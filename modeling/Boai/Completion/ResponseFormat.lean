import Boai.Completion.Metadata
import Boai.Completion.Outcome
import Mathlib.Data.List.Basic

/-!
# What the decoder of a body accepts

The decoder accepts a body exactly when it parses to an object whose first choice
is an object with an object message, fails without a trace in the message, and
makes the message out of that one object.  Which tool calls it keeps is decided on
the texts it has read: an id or a name that starts with a NUL is read as empty,
so that a call with nothing else is left out.
-/

namespace Boai.Completion

open Boai.Json

/-- The body parses to an object whose `choices[0].message` is `messageObject`. -/
inductive FirstMessage (json : JsonLib) (body : String) (messageObject : Members) : Prop where
  | intro {root choice : Members} {others : List JsonValue}
      (parsed : json.parse body = some (.object root))
      (choices : ifContains root "choices" = some (.array (.object choice :: others)))
      (found : ifContains choice "message" = some (.object messageObject))

/-- The object elements of the `tool_calls` array, in order. -/
def callObjects (messageObject : Members) : List Members :=
  match ifContains messageObject "tool_calls" with
  | some (.array array) => array.filterMap fun
      | .object callObject => some callObject
      | _ => none
  | _ => []

def givenCallId (callObject : Members) : String :=
  (givenText (ifContains callObject "id")).getD ""

def givenCallName (callObject : Members) : String :=
  (givenText (functionMember callObject "name")).getD ""

/-- The arguments of a call, decoded. -/
def decodedArguments (json : JsonLib) (callObject : Members) : JsonValue :=
  ((functionMember callObject "arguments").map (parseToolCallArgumentsValue json)).getD .null

/-- An element with a non-empty id, a non-empty name or arguments other than
null. -/
def HasContent (json : JsonLib) (callObject : Members) : Prop :=
  givenCallId callObject ≠ "" ∨ givenCallName callObject ≠ "" ∨
    decodedArguments json callObject ≠ .null

instance (json : JsonLib) (callObject : Members) : Decidable (HasContent json callObject) :=
  inferInstanceAs (Decidable (_ ∨ _ ∨ _))

/-- All that an element has is an id or a name that starts with a NUL. -/
structure HiddenByNul (json : JsonLib) (callObject : Members) : Prop where
  given : givenCallId callObject ≠ "" ∨ givenCallName callObject ≠ ""
  id : cStr (givenCallId callObject) = ""
  name : cStr (givenCallName callObject) = ""
  arguments : decodedArguments json callObject = .null

/-- The decoder accepts exactly its format and fails cleanly. -/
structure DecodesFormat (json : JsonLib) (body : String) (message : OaiMessage)
    (log : OaiRequestLog) (error : String) : Prop where
  accepts : (parseCompletionResponseBody json body message log error).accepted = true ↔
    ∃ messageObject, FirstMessage json body messageObject
  failsCleanly : (parseCompletionResponseBody json body message log error).accepted = false →
    (parseCompletionResponseBody json body message log error).message = message ∧
      (parseCompletionResponseBody json body message log error).error ≠ "" ∧
      (parseCompletionResponseBody json body message log error).log = { log with
        requestId := (parseCompletionResponseBody json body message log error).log.requestId
        model := (parseCompletionResponseBody json body message log error).log.model
        finishReason :=
          (parseCompletionResponseBody json body message log error).log.finishReason }
  /-- The message is a function of `choices[0].message` alone. -/
  overwrites : ∀ messageObject, FirstMessage json body messageObject →
    ∀ other otherMessage otherLog otherError, FirstMessage json other messageObject →
      (parseCompletionResponseBody json body message log error).message =
        (parseCompletionResponseBody json other otherMessage otherLog otherError).message
  toolCalls : ∀ messageObject, FirstMessage json body messageObject →
    (parseCompletionResponseBody json body message log error).message.toolCalls =
      ((callObjects messageObject).filter fun callObject => HasContent json callObject).map
        (parseToolCall json)

/-! ## Acceptance -/

section Decoder

variable {json : JsonLib}

theorem parseCompletionResponseBody_of_firstMessage {body : String} {messageObject : Members}
    (first : FirstMessage json body messageObject) (message : OaiMessage)
    (log : OaiRequestLog) (error : String) :
    (parseCompletionResponseBody json body message log error).accepted = true ∧
      (parseCompletionResponseBody json body message log error).message =
        parseAssistantMessageFromObject json messageObject := by
  cases first with
  | intro parsed choices found =>
      simp only [parseCompletionResponseBody, parsed, extractResponseFirstChoiceObject, choices,
        extractResponseChoiceMessageObject, found, and_self]

theorem firstMessage_of_accepted {body : String} {message : OaiMessage} {log : OaiRequestLog}
    {error : String}
    (accepted : (parseCompletionResponseBody json body message log error).accepted = true) :
    ∃ messageObject, FirstMessage json body messageObject := by
  have exit := parseCompletionResponseBody_exit json body message log error
  generalize parseCompletionResponseBody json body message log error = result at exit accepted
  cases exit with
  | rejected => cases accepted
  | @accepted root choice messageObject parsed first found =>
      apply Exists.intro messageObject
      simp only [extractResponseFirstChoiceObject] at first
      simp only [extractResponseChoiceMessageObject] at found
      split at first
      next choices =>
          cases first
          split at found
          next isMessage =>
              cases found
              exact .intro parsed choices isMessage
          next => cases found
      next => cases first
      next => cases first

theorem failsCleanly_of_rejected {body : String} {message : OaiMessage} {log : OaiRequestLog}
    {error : String}
    (rejected : (parseCompletionResponseBody json body message log error).accepted = false) :
    (parseCompletionResponseBody json body message log error).message = message ∧
      (parseCompletionResponseBody json body message log error).error ≠ "" ∧
      (parseCompletionResponseBody json body message log error).log = { log with
        requestId := (parseCompletionResponseBody json body message log error).log.requestId
        model := (parseCompletionResponseBody json body message log error).log.model
        finishReason :=
          (parseCompletionResponseBody json body message log error).log.finishReason } := by
  have exit := parseCompletionResponseBody_exit json body message log error
  generalize parseCompletionResponseBody json body message log error = result at exit rejected ⊢
  cases exit with
  | rejected nonempty frame => exact ⟨rfl, nonempty, frame⟩
  | accepted => cases rejected

/-! ## Tool calls -/

/-- What the decoder keeps, decided on the texts it has read. -/
theorem parseToolCall_isBlank (json : JsonLib) (callObject : Members) :
    (parseToolCall json callObject).isBlank = true ↔
      cStr (givenCallId callObject) = "" ∧ cStr (givenCallName callObject) = "" ∧
        decodedArguments json callObject = .null := by
  rw [OaiToolCall.isBlank_iff, parseToolCall_eq]
  simp only [getD_memberText, givenCallId, givenCallName, decodedArguments]

theorem toolCalls_parseAssistantMessageFromObject (messageObject : Members) :
    (parseAssistantMessageFromObject json messageObject).toolCalls =
      ((callObjects messageObject).filter fun callObject =>
        !(parseToolCall json callObject).isBlank).map (parseToolCall json) := by
  simp only [parseAssistantMessageFromObject, callObjects]
  cases ifContains messageObject "tool_calls" with
  | none => rfl
  | some value =>
      cases value with
      | array array =>
          simp only [parseToolCallsFromArray]
          rw [← List.filterMap_eq_map, List.filterMap_filter, List.filterMap_filterMap]
          apply List.filterMap_congr
          intro item _
          cases item with
          | object callObject =>
              cases blank : (parseToolCall json callObject).isBlank <;> simp [blank]
          | _ => rfl
      | _ => rfl

theorem hasContent_of_kept {callObject : Members}
    (kept : (parseToolCall json callObject).isBlank = false) : HasContent json callObject := by
  by_contra nothing
  simp only [HasContent, not_or, not_not] at nothing
  have blank := (parseToolCall_isBlank json callObject).mpr
    ⟨by rw [nothing.1]; rfl, by rw [nothing.2.1]; rfl, nothing.2.2⟩
  rw [kept] at blank
  cases blank

/-- The decoder keeps the elements with content exactly when none of them is
hidden by a NUL. -/
theorem filter_hasContent_iff (callObjects : List Members) :
    (callObjects.filter fun callObject => !(parseToolCall json callObject).isBlank).map
          (parseToolCall json) =
        (callObjects.filter fun callObject => HasContent json callObject).map
          (parseToolCall json) ↔
      ∀ callObject ∈ callObjects, ¬HiddenByNul json callObject := by
  have fewer : (callObjects.filter fun callObject =>
      !(parseToolCall json callObject).isBlank).Sublist
        (callObjects.filter fun callObject => HasContent json callObject) := by
    apply List.monotone_filter_right
    intro callObject kept
    exact decide_eq_true (hasContent_of_kept (by simpa using kept))
  constructor
  · intro same callObject member hidden
    have lengths := congrArg List.length same
    rw [List.length_map, List.length_map] at lengths
    have content : callObject ∈ callObjects.filter fun callObject =>
        HasContent json callObject := by
      rw [List.mem_filter, decide_eq_true_eq]
      exact ⟨member, hidden.given.imp_right .inl⟩
    rw [← fewer.eq_of_length lengths, List.mem_filter] at content
    have blank := (parseToolCall_isBlank json callObject).mpr
      ⟨hidden.id, hidden.name, hidden.arguments⟩
    simp [blank] at content
  · intro visible
    apply congrArg (List.map (parseToolCall json))
    apply List.filter_congr
    intro callObject member
    cases blank : (parseToolCall json callObject).isBlank with
    | false => exact (decide_eq_true (hasContent_of_kept blank)).symm
    | true =>
        have fields := (parseToolCall_isBlank json callObject).mp blank
        have noContent : ¬HasContent json callObject := by
          intro content
          apply visible callObject member
          refine ⟨?_, fields.1, fields.2.1, fields.2.2⟩
          rw [HasContent, ← or_assoc] at content
          exact content.resolve_right (not_not.mpr fields.2.2)
        simp [noContent]

end Decoder

/-- For every body and whatever the out-parameters held before: the decoder
accepts exactly its format, fails cleanly, and makes the message out of
`choices[0].message` alone; it keeps exactly the tool calls with content if and
only if none of them has nothing but an id or a name that starts with a NUL. -/
theorem parseCompletionResponseBody_format_iff (json : JsonLib) (body : String)
    (message : OaiMessage) (log : OaiRequestLog) (error : String) :
    DecodesFormat json body message log error ↔
      ∀ messageObject, FirstMessage json body messageObject →
        ∀ callObject ∈ callObjects messageObject, ¬HiddenByNul json callObject := by
  constructor
  · intro format messageObject first
    have calls := format.toolCalls messageObject first
    rw [(parseCompletionResponseBody_of_firstMessage first message log error).2,
      toolCalls_parseAssistantMessageFromObject] at calls
    exact (filter_hasContent_iff (callObjects messageObject)).mp calls
  · intro visible
    constructor
    · constructor
      · exact firstMessage_of_accepted
      · intro exists_first
        cases exists_first with
        | intro messageObject first =>
            exact (parseCompletionResponseBody_of_firstMessage first message log error).1
    · exact failsCleanly_of_rejected
    · intro messageObject first other otherMessage otherLog otherError otherFirst
      rw [(parseCompletionResponseBody_of_firstMessage first message log error).2,
        (parseCompletionResponseBody_of_firstMessage otherFirst otherMessage otherLog
          otherError).2]
    · intro messageObject first
      rw [(parseCompletionResponseBody_of_firstMessage first message log error).2,
        toolCalls_parseAssistantMessageFromObject]
      exact (filter_hasContent_iff (callObjects messageObject)).mpr
        (visible messageObject first)

/-- A body with one tool call that has an id only, and whose id starts with a
NUL. -/
def nulId : JsonLib :=
  .ofTable [("1", .object [("choices", .array [.object [("message", .object
    [("tool_calls", .array [.object [("id", .string "\x00call_1")]])])]])])]

theorem nulId_not_format :
    (parseCompletionResponseBody nulId "1" {} {} "").accepted = true ∧
      (parseCompletionResponseBody nulId "1" {} {} "").message.toolCalls = [] ∧
      ¬DecodesFormat nulId "1" {} {} "" := by
  constructor
  · decide
  constructor
  · decide
  · intro format
    have calls := format.toolCalls
      [("tool_calls", .array [.object [("id", .string "\x00call_1")]])] (.intro rfl rfl rfl)
    exact absurd calls (by decide)

end Boai.Completion
