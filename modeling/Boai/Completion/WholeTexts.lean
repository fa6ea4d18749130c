import Boai.Completion.ResponseFormat
import Boai.Completion.ToolCallHistory

/-!
# Bodies read in whole

The decoder of a body as it would be if it took every JSON string with all its
characters.  The decoder of the source reads each string through `c_str()`, so
the two agree on a body exactly when no string that is taken has a NUL: a text
with one is cut, and no later step makes up for that.
-/

namespace Boai.Completion

open Boai.Json

/-! ## Kept images -/

section Kept

variable {α β : Type} {blank : β → Bool} {read whole : α → β}

/-- Two readings of a list leave the same after the blank results are dropped only
if they agree everywhere, provided that they agree where the second is blank. -/
theorem map_filter_eq_iff {items : List α}
    (agree : ∀ item, blank (whole item) = true → read item = whole item) :
    (items.filter fun item => !blank (read item)).map read =
        (items.filter fun item => !blank (whole item)).map whole ↔
      ∀ item ∈ items, read item = whole item := by
  have fewer : (items.filter fun item => !blank (read item)).Sublist
      (items.filter fun item => !blank (whole item)) := by
    apply List.monotone_filter_right
    intro item kept
    cases isBlank : blank (whole item) with
    | false => rfl
    | true =>
        rw [agree item isBlank, isBlank] at kept
        exact kept
  constructor
  · intro same item member
    have lengths := congrArg List.length same
    rw [List.length_map, List.length_map] at lengths
    rw [fewer.eq_of_length lengths] at same
    cases isBlank : blank (whole item) with
    | true => exact agree item isBlank
    | false =>
        apply List.map_inj_left.mp same
        rw [List.mem_filter, isBlank]
        exact ⟨member, rfl⟩
  · intro same
    have kept : (items.filter fun item => !blank (read item)) =
        items.filter fun item => !blank (whole item) := by
      apply List.filter_congr
      intro item member
      rw [same item member]
    rw [kept]
    apply List.map_congr_left
    intro item member
    exact same item (List.mem_of_mem_filter member)

end Kept

/-! ## Texts -/

/-- A text that overrides a default is read whole exactly when it has no NUL. -/
theorem getD_map_cStr_iff (given : Option String) (known : String) :
    (given.map cStr).getD known = given.getD known ↔ NulFree (given.getD "") := by
  cases given with
  | none => simp [nulFree_empty]
  | some text => exact cStr_eq_self_iff

section Codec

variable {json : JsonLib}

/-- A text with a NUL is not JSON. -/
theorem decodeText_of_nul (lawful : json.Lawful) {text : String} (hasNul : ¬NulFree text) :
    decodeText json text = .string text := by
  cases parsed : json.parse text with
  | none => simp only [decodeText, parsed]
  | some value => exact absurd (lawful.parse_nul text value parsed) hasNul

/-- What is left of a text with a NUL is decoded to something else. -/
theorem decodeText_ne (lawful : json.Lawful) {text kept : String} (hasNul : ¬NulFree text)
    (shorter : kept.length < text.length) : decodeText json kept ≠ decodeText json text := by
  rw [decodeText_of_nul lawful hasNul]
  intro same
  cases parsed : json.parse kept with
  | none =>
      simp only [decodeText, parsed, JsonValue.string.injEq] at same
      rw [same] at shorter
      exact Nat.lt_irrefl _ shorter
  | some value =>
      simp only [decodeText, parsed] at same
      rw [same] at parsed
      exact Nat.lt_asymm shorter (lawful.literal_longer kept text parsed)

theorem decodeText_cStr_iff (lawful : json.Lawful) (text : String) :
    decodeText json (cStr text) = decodeText json text ↔ NulFree text := by
  constructor
  · intro same
    by_contra hasNul
    exact decodeText_ne lawful hasNul (length_cStr_lt hasNul) same
  · intro free
    rw [cStr_of_nulFree free]

/-! ## Tool calls -/

/-- Arguments in whole: a string is accepted as JSON only if all of it is JSON. -/
def wholeArguments (json : JsonLib) : JsonValue → JsonValue
  | .string text => decodeText json text
  | arguments => arguments

/-- A call in whole. -/
def wholeToolCall (json : JsonLib) (callObject : Members) : OaiToolCall :=
  { id := givenCallId callObject
    name := givenCallName callObject
    arguments :=
      ((functionMember callObject "arguments").map (wholeArguments json)).getD .null }

/-- The texts of a call have no NUL. -/
structure CallNulFree (callObject : Members) : Prop where
  id : NulFree (givenCallId callObject)
  name : NulFree (givenCallName callObject)
  arguments : NulFree (elementFragment callObject)

theorem arguments_whole_iff (lawful : json.Lawful) (callObject : Members) :
    ((functionMember callObject "arguments").map (parseToolCallArgumentsValue json)).getD .null =
        ((functionMember callObject "arguments").map (wholeArguments json)).getD .null ↔
      NulFree (elementFragment callObject) := by
  simp only [elementFragment]
  cases functionMember callObject "arguments" with
  | none => simp [nulFree_empty]
  | some arguments =>
      cases arguments with
      | string text => exact decodeText_cStr_iff lawful text
      | _ => simp [parseToolCallArgumentsValue, wholeArguments, nulFree_empty]

theorem parseToolCall_whole_iff (lawful : json.Lawful) (callObject : Members) :
    parseToolCall json callObject = wholeToolCall json callObject ↔ CallNulFree callObject := by
  rw [parseToolCall_eq, wholeToolCall, OaiToolCall.mk.injEq, getD_memberText, getD_memberText,
    arguments_whole_iff lawful]
  constructor
  · intro same
    exact ⟨cStr_eq_self_iff.mp same.1, cStr_eq_self_iff.mp same.2.1, same.2.2⟩
  · intro free
    exact ⟨cStr_of_nulFree free.id, cStr_of_nulFree free.name, free.arguments⟩

/-- A call that is blank in whole is read as such. -/
theorem parseToolCall_of_blank (lawful : json.Lawful) {callObject : Members}
    (blank : (wholeToolCall json callObject).isBlank = true) :
    parseToolCall json callObject = wholeToolCall json callObject := by
  have fields := (OaiToolCall.isBlank_iff _).mp blank
  rw [parseToolCall_whole_iff lawful]
  constructor
  · rw [show givenCallId callObject = "" from fields.1]
    exact nulFree_empty
  · rw [show givenCallName callObject = "" from fields.2.1]
    exact nulFree_empty
  · by_contra hasNul
    have isNull := fields.2.2
    simp only [wholeToolCall] at isNull
    rw [elementFragment] at hasNul
    cases found : functionMember callObject "arguments" with
    | none =>
        rw [found] at hasNul
        exact hasNul nulFree_empty
    | some arguments =>
        rw [found] at hasNul isNull
        cases arguments with
        | string text =>
            have isText : wholeArguments json (.string text) = .string text :=
              decodeText_of_nul lawful hasNul
            rw [Option.map_some, Option.getD_some, isText] at isNull
            cases isNull
        | _ => exact hasNul nulFree_empty

/-! ## Messages -/

/-- A text member in whole, or any other value serialised. -/
def wholeTextOrSerialize (json : JsonLib) : Option JsonValue → String
  | none => ""
  | some .null => ""
  | some (.string text) => text
  | some value => json.serialize value

/-- The message of a body in whole. -/
def wholeMessage (json : JsonLib) (messageObject : Members) : OaiMessage :=
  { role := (givenText (ifContains messageObject "role")).getD "assistant"
    message := wholeTextOrSerialize json (ifContains messageObject "content")
    reasoning := wholeTextOrSerialize json (ifContains messageObject "reasoning_content")
    toolCalls := ((callObjects messageObject).filter fun callObject =>
      !(wholeToolCall json callObject).isBlank).map (wholeToolCall json) }

/-- The texts of a message have no NUL. -/
structure MessageNulFree (messageObject : Members) : Prop where
  role : NulFree ((givenText (ifContains messageObject "role")).getD "")
  content : NulFree ((givenText (ifContains messageObject "content")).getD "")
  reasoning : NulFree ((givenText (ifContains messageObject "reasoning_content")).getD "")
  toolCalls : ∀ callObject ∈ callObjects messageObject, CallNulFree callObject

theorem textOrSerialize_whole_iff (json : JsonLib) (message : Members) (key : String) :
    parseMessageTextFieldOrSerialize json message key "" =
        wholeTextOrSerialize json (ifContains message key) ↔
      NulFree ((givenText (ifContains message key)).getD "") := by
  simp only [parseMessageTextFieldOrSerialize]
  cases ifContains message key with
  | none => simp [wholeTextOrSerialize, givenText, nulFree_empty]
  | some value =>
      cases value with
      | string text => exact cStr_eq_self_iff
      | _ => simp [wholeTextOrSerialize, givenText, nulFree_empty]

theorem toolCalls_whole_iff (lawful : json.Lawful) (messageObject : Members) :
    (parseAssistantMessageFromObject json messageObject).toolCalls =
        (wholeMessage json messageObject).toolCalls ↔
      ∀ callObject ∈ callObjects messageObject, CallNulFree callObject := by
  have agree : ∀ callObject, (wholeToolCall json callObject).isBlank = true →
      parseToolCall json callObject = wholeToolCall json callObject :=
    fun _ blank => parseToolCall_of_blank lawful blank
  rw [toolCalls_parseAssistantMessageFromObject, wholeMessage, map_filter_eq_iff agree]
  exact forall₂_congr fun callObject _ => parseToolCall_whole_iff lawful callObject

theorem parseAssistantMessage_whole_iff (lawful : json.Lawful) (messageObject : Members) :
    parseAssistantMessageFromObject json messageObject = wholeMessage json messageObject ↔
      MessageNulFree messageObject := by
  have role := getD_map_cStr_iff (givenText (ifContains messageObject "role")) "assistant"
  have content := textOrSerialize_whole_iff json messageObject "content"
  have reasoning := textOrSerialize_whole_iff json messageObject "reasoning_content"
  have toolCalls := toolCalls_whole_iff lawful messageObject
  rw [← memberText_eq] at role
  constructor
  · intro same
    exact ⟨role.mp (congrArg OaiMessage.role same), content.mp (congrArg OaiMessage.message same),
      reasoning.mp (congrArg OaiMessage.reasoning same),
      toolCalls.mp (congrArg OaiMessage.toolCalls same)⟩
  · intro free
    have sameCalls := toolCalls.mpr free.toolCalls
    simp only [parseAssistantMessageFromObject, wholeMessage] at sameCalls ⊢
    rw [sameCalls, content.mpr free.content, reasoning.mpr free.reasoning,
      jsonStringFromObjectField_eq, role.mpr free.role]

/-! ## Bodies -/

/-- The finish reason of the first choice of a body. -/
def bodyFinishReason (json : JsonLib) (body : String) : Option String :=
  match json.parse body with
  | some (.object root) => (tryGetStreamFirstChoiceObject root).bind fun choice =>
      givenText (ifContains choice "finish_reason")
  | _ => none

/-- The message and the log made of a body have its texts with all their
characters. -/
structure CompleteBody (json : JsonLib) (body : String) (log : OaiRequestLog)
    (result : BodyResult) : Prop where
  message : ∀ messageObject, FirstMessage json body messageObject →
    result.message = wholeMessage json messageObject
  requestId : result.log.requestId = (bodyText json body "id").getD log.requestId
  model : result.log.model = (bodyText json body "model").getD log.model
  finishReason : result.log.finishReason = (bodyFinishReason json body).getD log.finishReason

/-- The texts of a body have no NUL. -/
structure BodyNulFree (json : JsonLib) (body : String) : Prop where
  message : ∀ messageObject, FirstMessage json body messageObject → MessageNulFree messageObject
  requestId : NulFree ((bodyText json body "id").getD "")
  model : NulFree ((bodyText json body "model").getD "")
  finishReason : NulFree ((bodyFinishReason json body).getD "")

theorem finishReason_of_firstMessage {body : String} {messageObject : Members}
    (first : FirstMessage json body messageObject) (message : OaiMessage) (log : OaiRequestLog)
    (error : String) :
    (parseCompletionResponseBody json body message log error).log.finishReason =
      ((bodyFinishReason json body).map cStr).getD log.finishReason := by
  cases first with
  | intro parsed choices found =>
      simp only [parseCompletionResponseBody, bodyFinishReason, parsed, choices,
        extractResponseFirstChoiceObject, extractResponseChoiceMessageObject, found,
        tryGetStreamFirstChoiceObject, Option.bind_some, ← memberText_eq]
      rfl

/-- An accepted body is read whole exactly when its texts have no NUL. -/
theorem completeBody_iff (lawful : json.Lawful) {body : String} {message : OaiMessage}
    {log : OaiRequestLog} {error : String}
    (accepted : (parseCompletionResponseBody json body message log error).accepted = true) :
    CompleteBody json body log (parseCompletionResponseBody json body message log error) ↔
      BodyNulFree json body := by
  cases firstMessage_of_accepted accepted with
  | intro messageObject first =>
      have fields := parseCompletionResponseBody_log json body message log error
      have finishReason := finishReason_of_firstMessage first message log error
      have read : ∀ other, FirstMessage json body other →
          (parseCompletionResponseBody json body message log error).message =
            parseAssistantMessageFromObject json other :=
        fun other isFirst => (parseCompletionResponseBody_of_firstMessage isFirst message log
          error).2
      constructor
      · intro whole
        constructor
        · intro other isFirst
          rw [← parseAssistantMessage_whole_iff lawful, ← read other isFirst]
          exact whole.message other isFirst
        · exact (getD_map_cStr_iff _ _).mp (fields.1.symm.trans whole.requestId)
        · exact (getD_map_cStr_iff _ _).mp (fields.2.symm.trans whole.model)
        · exact (getD_map_cStr_iff _ _).mp (finishReason.symm.trans whole.finishReason)
      · intro free
        constructor
        · intro other isFirst
          rw [read other isFirst]
          exact (parseAssistantMessage_whole_iff lawful other).mpr (free.message other isFirst)
        · exact fields.1.trans ((getD_map_cStr_iff _ _).mpr free.requestId)
        · exact fields.2.trans ((getD_map_cStr_iff _ _).mpr free.model)
        · exact finishReason.trans ((getD_map_cStr_iff _ _).mpr free.finishReason)

/-! ## Provider errors -/

/-- The error text of a body in whole. -/
def providerError (json : JsonLib) (body : String) : String :=
  match json.parse body with
  | some (.object root) =>
      match ifContains root "error" with
      | some (.string text) => text
      | some (.object error) => (givenText (ifContains error "message")).getD ""
      | _ => ""
  | _ => ""

theorem extractErrorMessageFromJsonBody_eq (json : JsonLib) (body : String) :
    extractErrorMessageFromJsonBody json body = cStr (providerError json body) := by
  simp only [extractErrorMessageFromJsonBody, providerError]
  cases json.parse body with
  | none => rfl
  | some value =>
      cases value with
      | object root =>
          simp only
          cases ifContains root "error" with
          | none => rfl
          | some error =>
              cases error with
              | object error => exact getD_memberText (ifContains error "message")
              | _ => rfl
      | _ => rfl

end Codec

end Boai.Completion
