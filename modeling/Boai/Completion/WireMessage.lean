import Boai.Completion.StreamResult
import Boai.Completion.ToolCalls

/-!
# One assistant message, whole and in pieces

`WireMessage` is what a provider wants to say.  A body carries it whole and the
payloads of a stream carry it in pieces.  For each way the decoder is shown to
compute a function of the message alone, whatever the pieces are and however
they are interleaved.
-/

namespace Boai.Completion

open Boai.Json KeyedFold

/-! ## The message -/

structure WireCall where
  id : String
  name : String
  arguments : String

structure WireMessage where
  content : String
  reasoning : String
  toolCalls : List WireCall

/-- No text of a call has a NUL character. -/
structure WireCall.NulFree (call : WireCall) : Prop where
  id : Boai.NulFree call.id
  name : Boai.NulFree call.name
  arguments : Boai.NulFree call.arguments

/-- No text of a message has a NUL character. -/
structure WireMessage.NulFree (message : WireMessage) : Prop where
  content : Boai.NulFree message.content
  reasoning : Boai.NulFree message.reasoning
  toolCalls : ∀ call ∈ message.toolCalls, call.NulFree

/-- A text under a key.  The empty text may also be `null` or left out. -/
def CarriesText (object : Members) (key text : String) : Prop :=
  ifContains object key = some (.string text) ∨
    (text = "" ∧ (ifContains object key = some .null ∨ ifContains object key = none))

/-- An array of objects under a key.  The empty array may also be `null` or left
out. -/
def CarriesObjects (object : Members) (key : String) (elements : List Members) : Prop :=
  ifContains object key = some (.array (elements.map .object)) ∨
    (elements = [] ∧ (ifContains object key = some .null ∨ ifContains object key = none))

/-- How both decoders read an array member. -/
theorem CarriesObjects.read {object : Members} {key : String} {elements : List Members}
    {α : Type} {ofArray : List JsonValue → α} {otherwise : α}
    (carries : CarriesObjects object key elements) (empty : ofArray [] = otherwise) :
    (match ifContains object key with
      | some (.array array) => ofArray array
      | _ => otherwise) = ofArray (elements.map .object) := by
  rcases carries with found | ⟨isEmpty, found | found⟩
  · rw [found]
  · rw [found, isEmpty]
    exact empty.symm
  · rw [found, isEmpty]
    exact empty.symm

/-! ## Whole, in a body -/

/-- An element of `tool_calls` that carries a whole call. -/
structure WholeCall (call : WireCall) (element : Members) : Prop where
  id : ifContains element "id" = some (.string call.id)
  name : functionMember element "name" = some (.string call.name)
  arguments : functionMember element "arguments" = some (.string call.arguments)

/-- A body whose first choice carries the whole message. -/
inductive WholeBody (json : JsonLib) (message : WireMessage) (body : String) : Prop where
  | intro {root choice object : Members} {others : List JsonValue} {elements : List Members}
      (parsed : json.parse body = some (.object root))
      (choices : ifContains root "choices" = some (.array (.object choice :: others)))
      (messageMember : ifContains choice "message" = some (.object object))
      (content : CarriesText object "content" message.content)
      (reasoning : CarriesText object "reasoning_content" message.reasoning)
      (toolCalls : CarriesObjects object "tool_calls" elements)
      (calls : List.Forall₂ WholeCall message.toolCalls elements)

/-! ## In pieces, in a stream -/

/-- A piece of a call: a fragment of the arguments text, with identifier and name
when it is the first piece. -/
structure CallPiece where
  header : Option (String × String)
  fragment : String

/-- What one payload brings: a piece of each text, either of which may be empty,
and any number of pieces of calls with their indices. -/
structure DeltaPiece where
  content : String
  reasoning : String
  toolCalls : List (Nat × CallPiece)

/-- A call cut into at least one piece, the first of which has the header. -/
inductive CutCall (call : WireCall) : List CallPiece → Prop where
  | intro (first : String) (rest : List String)
      (whole : first ++ String.join rest = call.arguments) :
      CutCall call
        (⟨some (call.id, call.name), first⟩ :: rest.map fun fragment => ⟨none, fragment⟩)

/-- A message cut into pieces.  The index of a call is its position, and nothing
is said about the order of pieces of different texts and calls. -/
structure CutMessage (message : WireMessage) (pieces : List DeltaPiece) : Prop where
  content : String.join (pieces.map DeltaPiece.content) = message.content
  reasoning : String.join (pieces.map DeltaPiece.reasoning) = message.reasoning
  toolCalls : ∀ index call, message.toolCalls[index]? = some call →
    CutCall call (carrying index (pieces.flatMap DeltaPiece.toolCalls))
  noOthers : ∀ index, message.toolCalls[index]? = none →
    carrying index (pieces.flatMap DeltaPiece.toolCalls) = []

/-- A member that is a string in the first piece of a call, and `null` or left out
in the others. -/
def CarriesHeader (member : Option JsonValue) : Option String → Prop
  | some text => member = some (.string text)
  | none => member = some .null ∨ member = none

/-- An element of `tool_calls` that carries a piece of a call. -/
structure PieceElement (piece : CallPiece) (element : Members) : Prop where
  id : CarriesHeader (ifContains element "id") (piece.header.map Prod.fst)
  name : CarriesHeader (functionMember element "name") (piece.header.map Prod.snd)
  arguments : functionMember element "arguments" = some (.string piece.fragment) ∨
    (piece.fragment = "" ∧ functionMember element "arguments" = none)

/-- A payload object that carries a piece of a message. -/
inductive PieceRoot (piece : DeltaPiece) (root : Members) : Prop where
  | intro {choice delta : Members} {others : List JsonValue} {elements : List Members}
      (choices : ifContains root "choices" = some (.array (.object choice :: others)))
      (deltaMember : ifContains choice "delta" = some (.object delta))
      (content : CarriesText delta "content" piece.content)
      (reasoning : CarriesText delta "reasoning_content" piece.reasoning)
      (toolCalls : CarriesObjects delta "tool_calls" elements)
      (calls : List.Forall₂ (fun tagged element =>
        ifContains element "index" = some (.int64 tagged.1) ∧ PieceElement tagged.2 element)
        piece.toolCalls elements)

/-- A payload text that carries a piece of a message. -/
structure PiecePayload (json : JsonLib) (piece : DeltaPiece) (text : String) : Prop where
  payload : IsPayload text
  root : ∃ root, json.parse text = some (.object root) ∧ PieceRoot piece root

/-! ## Decoding a body -/

/-- What the whole-object decoder makes of a call. -/
def wholeCall (json : JsonLib) (call : WireCall) : OaiToolCall where
  id := call.id
  name := call.name
  arguments := decodeText json call.arguments

/-- Blank calls are left out. -/
def keepCall (call : OaiToolCall) : Option OaiToolCall :=
  if call.isBlank then none else some call

theorem parseMessageTextFieldOrSerialize_of_carries {object : Members} {key text : String}
    (json : JsonLib) (carries : CarriesText object key text) (free : NulFree text) :
    parseMessageTextFieldOrSerialize json object key "" = text := by
  simp only [parseMessageTextFieldOrSerialize]
  rcases carries with found | ⟨isEmpty, found | found⟩
  · rw [found]
    exact cStr_of_nulFree free
  · rw [found, isEmpty]
  · rw [found, isEmpty]

theorem parseToolCall_of_whole {call : WireCall} {element : Members} (json : JsonLib)
    (whole : WholeCall call element) (free : call.NulFree) :
    parseToolCall json element = wholeCall json call := by
  rw [parseToolCall_eq, whole.id, whole.name, whole.arguments]
  simp only [memberText, cStr_of_nulFree free.id, cStr_of_nulFree free.name, Option.map_some,
    Option.getD_some, parseToolCallArgumentsValue_string, cStr_of_nulFree free.arguments]
  rfl

theorem parseToolCallsFromArray_of_whole {calls : List WireCall} {elements : List Members}
    (json : JsonLib) (whole : List.Forall₂ WholeCall calls elements)
    (free : ∀ call ∈ calls, call.NulFree) :
    parseToolCallsFromArray json (elements.map .object) =
      calls.filterMap fun call => keepCall (wholeCall json call) := by
  induction whole with
  | nil => rfl
  | @cons call element calls elements here _ ih =>
      rw [List.forall_mem_cons] at free
      have rest := ih free.2
      simp only [parseToolCallsFromArray] at rest
      simp only [parseToolCallsFromArray, List.map_cons, List.filterMap_cons,
        parseToolCall_of_whole json here free.1, rest]
      rfl

/-- A body is decoded to the texts and the calls of the message. -/
theorem parseCompletionResponseBody_of_whole {json : JsonLib} {message : WireMessage}
    {body : String} (whole : WholeBody json message body) (free : message.NulFree)
    (base : OaiMessage) (log : OaiRequestLog) (error : String) :
    (parseCompletionResponseBody json body base log error).accepted = true ∧
      (parseCompletionResponseBody json body base log error).message.message =
        message.content ∧
      (parseCompletionResponseBody json body base log error).message.reasoning =
        message.reasoning ∧
      (parseCompletionResponseBody json body base log error).message.toolCalls =
        message.toolCalls.filterMap fun call => keepCall (wholeCall json call) := by
  cases whole with
  | @intro root choice object others elements parsed choices messageMember content reasoning
      toolCalls calls =>
      simp only [parseCompletionResponseBody, parsed, extractResponseFirstChoiceObject, choices,
        extractResponseChoiceMessageObject, messageMember, parseAssistantMessageFromObject,
        parseMessageTextFieldOrSerialize_of_carries json content free.content,
        parseMessageTextFieldOrSerialize_of_carries json reasoning free.reasoning,
        true_and]
      exact (toolCalls.read rfl).trans
        (parseToolCallsFromArray_of_whole json calls free.toolCalls)

/-! ## Decoding a stream -/

/-- What the accumulator of a call holds in the end. -/
def wholeAccumulator (call : WireCall) : ToolCallAccumulator where
  id := call.id
  name := call.name
  argumentsText := call.arguments

theorem memberText_of_header {member : Option JsonValue} {header : Option String}
    (carries : CarriesHeader member header) (free : ∀ text, header = some text → NulFree text) :
    memberText member = header := by
  cases header with
  | none =>
      rcases carries with isNull | isAbsent
      · rw [isNull]
        rfl
      · rw [isAbsent]
        rfl
  | some text =>
      simp only [CarriesHeader] at carries
      rw [carries, memberText, cStr_of_nulFree (free text rfl)]

/-- What merging an element does to its accumulator. -/
theorem mergeElement_of_piece {piece : CallPiece} {element : Members} (json : JsonLib)
    (slot : Option ToolCallAccumulator) (carries : PieceElement piece element)
    (header : ∀ names, piece.header = some names → NulFree names.1 ∧ NulFree names.2)
    (fragment : NulFree piece.fragment) :
    mergeElement json slot element =
      { id := (piece.header.map Prod.fst).getD (slot.getD {}).id
        name := (piece.header.map Prod.snd).getD (slot.getD {}).name
        argumentsText := (slot.getD {}).argumentsText ++ piece.fragment } := by
  have id : memberText (ifContains element "id") = piece.header.map Prod.fst := by
    apply memberText_of_header carries.id
    intro text found
    rcases Option.map_eq_some_iff.mp found with ⟨names, isHeader, isId⟩
    exact isId ▸ (header names isHeader).1
  have name : memberText (functionMember element "name") = piece.header.map Prod.snd := by
    apply memberText_of_header carries.name
    intro text found
    rcases Option.map_eq_some_iff.mp found with ⟨names, isHeader, isName⟩
    exact isName ▸ (header names isHeader).2
  have arguments : ((functionMember element "arguments").map (argumentsFragment json)).getD "" =
      piece.fragment := by
    rcases carries.arguments with found | ⟨isEmpty, found⟩
    · rw [found]
      exact cStr_of_nulFree fragment
    · rw [found, isEmpty]
      rfl
  rw [mergeElement, updateAccumulator_eq, id, name, arguments]

/-- Further pieces only lengthen the arguments text. -/
theorem fillSlot_of_rest (json : JsonLib) {fragments : List String} {elements : List Members}
    (carries : List.Forall₂ PieceElement (fragments.map fun fragment => ⟨none, fragment⟩) elements)
    (free : NulFree (String.join fragments)) (acc : ToolCallAccumulator) :
    fillSlot (mergeElement json) (some acc) elements =
      some { acc with argumentsText := acc.argumentsText ++ String.join fragments } := by
  induction fragments generalizing elements acc with
  | nil =>
      cases carries
      simp
  | cons fragment rest ih =>
      rw [List.map_cons] at carries
      rw [String.join_cons, nulFree_append] at free
      cases carries with
      | @cons _ element _ elements here later =>
          have merged := mergeElement_of_piece json (some acc) here (by simp) free.1
          rw [fillSlot_cons, merged, ih later free.2, String.join_cons]
          simp [String.append_assoc]

/-- The pieces of a call fill its accumulator with the call. -/
theorem fillSlot_of_cut (json : JsonLib) {call : WireCall} {pieces : List CallPiece}
    {elements : List Members} (cut : CutCall call pieces) (free : call.NulFree)
    (carries : List.Forall₂ PieceElement pieces elements) :
    fillSlot (mergeElement json) none elements = some (wholeAccumulator call) := by
  cases cut with
  | intro first rest whole =>
      have fragments := free.arguments
      rw [← whole, nulFree_append] at fragments
      cases carries with
      | @cons _ element _ elements here later =>
          have merged := mergeElement_of_piece json none here
            (by
              intro names isHeader
              cases isHeader
              exact ⟨free.id, free.name⟩) fragments.1
          rw [fillSlot_cons, merged, fillSlot_of_rest json later fragments.2]
          simp [wholeAccumulator, ← whole]

/-- An element with an explicit index resolves to it. -/
theorem forall₂_resolvedElements {pieces : List (Nat × CallPiece)} {elements : List Members}
    (carries : List.Forall₂ (fun tagged element =>
      ifContains element "index" = some (.int64 tagged.1) ∧ PieceElement tagged.2 element)
      pieces elements) (position : Nat) :
    List.Forall₂ (fun piece element => piece.1 = element.1 ∧ PieceElement piece.2 element.2)
      pieces (resolvedElements (elements.map .object) position) := by
  induction carries generalizing position with
  | nil => exact .nil
  | @cons piece element _ _ here _ ih =>
      have index : resolvedIndex element position = piece.1 := by
        simp [resolvedIndex, here.1]
      rw [List.map_cons, resolvedElements, index]
      exact .cons ⟨rfl, here.2⟩ (ih _)

section Root

variable {piece : DeltaPiece} {root : Members}

theorem payloadDelta_eq {choice delta : Members} {others : List JsonValue}
    (choices : ifContains root "choices" = some (.array (.object choice :: others)))
    (deltaMember : ifContains choice "delta" = some (.object delta)) :
    payloadDelta root = some delta := by
  simp only [payloadDelta, tryGetStreamFirstChoiceObject, choices, Option.bind_some,
    tryGetStreamDeltaObject, deltaMember]

theorem deltaText_of_carries {delta : Members} {key text : String}
    (found : payloadDelta root = some delta) (carries : CarriesText delta key text)
    (free : NulFree text) : deltaText root key = text := by
  simp only [deltaText, found, jsonStringFromObjectField_eq]
  rcases carries with isText | ⟨isEmpty, isNull | isAbsent⟩
  · rw [isText]
    exact cStr_of_nulFree free
  · rw [isNull, isEmpty]
    rfl
  · rw [isAbsent, isEmpty]
    rfl

theorem payloadContent_of_piece (carries : PieceRoot piece root) (free : NulFree piece.content) :
    payloadContent root = piece.content := by
  cases carries with
  | intro choices deltaMember content =>
      exact deltaText_of_carries (payloadDelta_eq choices deltaMember) content free

theorem payloadReasoning_of_piece (carries : PieceRoot piece root)
    (free : NulFree piece.reasoning) : payloadReasoning root = piece.reasoning := by
  cases carries with
  | intro choices deltaMember _ reasoning =>
      exact deltaText_of_carries (payloadDelta_eq choices deltaMember) reasoning free

theorem payloadToolCalls_of_piece (carries : PieceRoot piece root) :
    List.Forall₂ (fun piece element => piece.1 = element.1 ∧ PieceElement piece.2 element.2)
      piece.toolCalls (payloadToolCalls root) := by
  cases carries with
  | @intro choice delta others elements choices deltaMember _ _ toolCalls calls =>
      have found := payloadDelta_eq choices deltaMember
      have listed : payloadToolCalls root = resolvedElements (elements.map .object) 0 := by
        simp only [payloadToolCalls, found]
        exact toolCalls.read rfl
      rw [listed]
      exact forall₂_resolvedElements calls 0

end Root

end Boai.Completion
