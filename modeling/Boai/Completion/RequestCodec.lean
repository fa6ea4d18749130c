import Boai.Completion.Request

/-!
# The request encoding is lossless

A decoder reads the object that `BuildRequestPayload` serialises back into the
parts of its inputs that the provider is meant to see.  Optional fields are
omitted exactly when they are empty, so nothing is lost by the omission, and the
parameters of the model add precisely their non-reserved keys.
-/

namespace Boai.Completion

open Boai.Json

/-! ## What a request says -/

/-- A tool call as the provider sees it. -/
structure ToolCallView where
  id : String
  name : String
  argumentsText : String
  deriving DecidableEq, Repr

/-- A message as the provider sees it. -/
structure MessageView where
  role : String
  content : String
  toolCallId : String
  toolCalls : List ToolCallView
  deriving DecidableEq, Repr

/-- A request as the provider sees it, the parameters aside. -/
structure RequestView where
  model : String
  stream : Bool
  messages : List MessageView
  tools : List (String × String × Members)
  deriving DecidableEq

/-- The arguments text of a call: the string itself for a string value, else the
serialisation. -/
def argumentsText (json : JsonLib) : JsonValue → String
  | .string text => text
  | value => json.serialize value

/-- The element of `tool_calls` for a call, member by member. -/
def callElement (json : JsonLib) (call : OaiToolCall) : JsonValue :=
  .object [("id", .string call.id), ("type", .string "function"),
    ("function", .object [("name", .string call.name),
      ("arguments", .string (argumentsText json call.arguments))])]

/-- The element of `messages` for a message, member by member. -/
def messageElement (json : JsonLib) (message : OaiMessage) : JsonValue :=
  .object ([("role", .string message.role), ("content", .string message.message)] ++
    (if message.toolCalls = [] then []
    else [("tool_calls", .array (message.toolCalls.map (callElement json)))]) ++
    if message.toolCallId = "" then [] else [("tool_call_id", .string message.toolCallId)])

def viewToolCall (json : JsonLib) (call : OaiToolCall) : ToolCallView :=
  { id := call.id, name := call.name, argumentsText := argumentsText json call.arguments }

def viewMessage (json : JsonLib) (message : OaiMessage) : MessageView :=
  { role := message.role
    content := message.message
    toolCallId := message.toolCallId
    toolCalls := message.toolCalls.map (viewToolCall json) }

def viewTool (tool : OaiToolDefinition) : String × String × Members :=
  (tool.name, tool.description, tool.parameters.entries)

def viewRequest (json : JsonLib) (messages : List OaiMessage)
    (tools : List OaiToolDefinition) (modelInfo : OaiModelInfo) (stream : Bool) :
    RequestView :=
  { model := modelInfo.model
    stream
    messages := messages.map (viewMessage json)
    tools := tools.map viewTool }

/-! ## The decoder -/

/-- A string member. -/
def stringField (members : Members) (key : String) : Option String :=
  match ifContains members key with
  | some (.string text) => some text
  | _ => none

/-- An object member. -/
def objectField (members : Members) (key : String) : Option Members :=
  match ifContains members key with
  | some (.object object) => some object
  | _ => none

/-- An array member that counts as empty when it is left out. -/
def arrayField (members : Members) (key : String) : Option (List JsonValue) :=
  match ifContains members key with
  | none => some []
  | some (.array items) => some items
  | some _ => none

def decodeToolCall : JsonValue → Option ToolCallView
  | .object members => do
      let function ← objectField members "function"
      some {
        id := ← stringField members "id"
        name := ← stringField function "name"
        argumentsText := ← stringField function "arguments" }
  | _ => none

def decodeMessage : JsonValue → Option MessageView
  | .object members => do
      some {
        role := ← stringField members "role"
        content := ← stringField members "content"
        toolCallId := (stringField members "tool_call_id").getD ""
        toolCalls := ← (← arrayField members "tool_calls").mapM decodeToolCall }
  | _ => none

def decodeTool : JsonValue → Option (String × String × Members)
  | .object members => do
      let function ← objectField members "function"
      some (← stringField function "name", ← stringField function "description",
        ← objectField function "parameters")
  | _ => none

def decodeRequest (members : Members) : Option RequestView := do
  let stream ← match ifContains members "stream" with
    | some (.bool stream) => some stream
    | _ => none
  some {
    model := ← stringField members "model"
    stream
    messages := ← (← arrayField members "messages").mapM decodeMessage
    tools := ← (← arrayField members "tools").mapM decodeTool }

/-! ## Round trips -/

/-- A decoder that inverts an encoder element by element inverts it on lists. -/
theorem mapM_map_eq_some {α β γ : Type} {encode : α → β} {decode : β → Option γ}
    {view : α → γ} (inverts : ∀ item, decode (encode item) = some (view item))
    (items : List α) : (items.map encode).mapM decode = some (items.map view) := by
  induction items with
  | nil => rfl
  | cons item rest ih => simp [inverts, ih]

section RoundTrips

variable (json : JsonLib)

/-- The members of an encoded call, whichever branch wrote the arguments. -/
theorem entries_buildRequestToolCallObject (call : OaiToolCall) :
    (buildRequestToolCallObject json call).entries =
      [("id", .string call.id), ("type", .string "function"),
        ("function", .object [("name", .string call.name),
          ("arguments", .string (argumentsText json call.arguments))])] := by
  have arguments : (if call.arguments.isString then call.arguments
      else .string (json.serialize call.arguments)) =
        .string (argumentsText json call.arguments) := by
    cases call.arguments <;> rfl
  rw [buildRequestToolCallObject, arguments]
  rfl

theorem decodeToolCall_encode (call : OaiToolCall) :
    decodeToolCall (toValue (buildRequestToolCallObject json call)) =
      some (viewToolCall json call) := by
  rw [toValue, entries_buildRequestToolCallObject]
  rfl

theorem toValue_buildRequestMessageObject (message : OaiMessage) :
    toValue (buildRequestMessageObject json message) = messageElement json message := by
  have calls : buildRequestToolCallsArray json message.toolCalls =
      message.toolCalls.map (callElement json) := by
    apply List.map_congr_left
    intro call _
    rw [toValue, entries_buildRequestToolCallObject, callElement]
  simp only [buildRequestMessageObject, messageElement, calls]
  by_cases noCalls : message.toolCalls = [] <;> by_cases noId : message.toolCallId = "" <;>
    simp only [noCalls, noId, if_true, if_false] <;> rfl

theorem buildRequestMessagesArray_eq (messages : List OaiMessage) :
    buildRequestMessagesArray json messages = messages.map (messageElement json) := by
  apply List.map_congr_left
  intro message _
  exact toValue_buildRequestMessageObject json message

/-- The members of an encoded message: empty optional fields are left out. -/
theorem get?_buildRequestMessageObject (message : OaiMessage) (key : String) :
    (buildRequestMessageObject json message).get? key =
      if key = "tool_call_id" ∧ message.toolCallId ≠ "" then some (.string message.toolCallId)
      else if key = "tool_calls" ∧ message.toolCalls ≠ [] then
        some (.array (buildRequestToolCallsArray json message.toolCalls))
      else if key = "content" then some (.string message.message)
      else if key = "role" then some (.string message.role)
      else none := by
  simp only [buildRequestMessageObject]
  by_cases noId : message.toolCallId = "" <;> by_cases noCalls : message.toolCalls = [] <;>
    simp [noId, noCalls]

theorem decodeMessage_encode (message : OaiMessage) :
    decodeMessage (toValue (buildRequestMessageObject json message)) =
      some (viewMessage json message) := by
  have members := get?_buildRequestMessageObject json message
  have role : stringField (buildRequestMessageObject json message).entries "role" =
      some message.role := by
    simp [stringField, members]
  have content : stringField (buildRequestMessageObject json message).entries "content" =
      some message.message := by
    simp [stringField, members]
  have toolCallId :
      (stringField (buildRequestMessageObject json message).entries "tool_call_id").getD "" =
        message.toolCallId := by
    by_cases empty : message.toolCallId = "" <;> simp [stringField, members, empty]
  have toolCalls : arrayField (buildRequestMessageObject json message).entries "tool_calls" =
      some (buildRequestToolCallsArray json message.toolCalls) := by
    by_cases empty : message.toolCalls = [] <;>
      simp [arrayField, members, empty, buildRequestToolCallsArray]
  have decoded : (buildRequestToolCallsArray json message.toolCalls).mapM decodeToolCall =
      some (message.toolCalls.map (viewToolCall json)) :=
    mapM_map_eq_some (decodeToolCall_encode json) message.toolCalls
  simp only [decodeMessage, toValue, role, content, toolCallId, toolCalls, decoded,
    Option.bind_eq_bind, Option.bind_some]
  rfl

theorem decodeTool_encode (tool : OaiToolDefinition) :
    decodeTool (toValue (buildRequestToolDefinitionObject tool)) = some (viewTool tool) := by
  simp [decodeTool, buildRequestToolDefinitionObject, toValue, objectField, stringField, viewTool]

end RoundTrips

/-- A tool definition is nothing but what the provider sees of it. -/
theorem viewTool_injective : Function.Injective viewTool := by
  intro left right same
  simp only [viewTool, Prod.mk.injEq] at same
  cases left
  cases right
  cases same.1
  cases same.2.1
  cases Dict.ext same.2.2
  rfl

/-! ## The members of a request -/

/-- The members of the parameters that reach the request. -/
def sentParams (params : JsonObject) : Members :=
  params.entries.filter fun entry => !isReservedRequestField entry.1

theorem mergeModelParamsIntoRoot_eq (params root : JsonObject) :
    mergeModelParamsIntoRoot params root = root.setAll (sentParams params) := by
  simp only [mergeModelParamsIntoRoot, sentParams, Dict.setAll, List.foldl_filter]
  congr 1
  funext root entry
  cases isReservedRequestField entry.1 <;> rfl

theorem sentParams_nodup (params : JsonObject) :
    ((sentParams params).map Prod.fst).Nodup :=
  (List.filter_sublist.map Prod.fst).nodup params.nodup

theorem lookup_sentParams (params : JsonObject) (key : String) :
    (sentParams params).lookup key =
      if isReservedRequestField key then none else params.get? key := by
  have general : ∀ entries : Members,
      (entries.filter fun entry => !isReservedRequestField entry.1).lookup key =
        if isReservedRequestField key then none else entries.lookup key := by
    intro entries
    induction entries with
    | nil => simp
    | cons entry rest ih =>
        cases entry with
        | mk other value =>
            rw [List.filter_cons, Dict.lookup_cons]
            by_cases same : key = other
            · subst same
              cases reserved : isReservedRequestField key with
              | true => simp [reserved, ih]
              | false => simp
            · cases reserved : isReservedRequestField other with
              | true => simp [same, ih]
              | false => simp [Dict.lookup_cons, same, ih]
  exact general params.entries

/-- Every member of the serialised object. -/
theorem get?_requestRoot (json : JsonLib) (messages : List OaiMessage)
    (tools : List OaiToolDefinition) (modelInfo : OaiModelInfo) (stream : Bool)
    (key : String) :
    (requestRoot json messages tools modelInfo stream).get? key =
      if key = "model" then some (.string modelInfo.model)
      else if key = "stream" then some (.bool stream)
      else if key = "messages" then some (.array (buildRequestMessagesArray json messages))
      else if key = "tools" then
        if tools = [] then none else some (.array (buildRequestToolsArray tools))
      else modelInfo.params.get? key := by
  have params : (mergeModelParamsIntoRoot modelInfo.params Dict.empty).get? key =
      if isReservedRequestField key then none else modelInfo.params.get? key := by
    rw [mergeModelParamsIntoRoot_eq, Dict.get?_setAll _ (sentParams_nodup _), lookup_sentParams]
    simp
  have reserved : isReservedRequestField key = true ↔
      key = "model" ∨ key = "stream" ∨ key = "messages" ∨ key = "tools" := by
    simp [isReservedRequestField, reservedFields]
  simp only [requestRoot]
  by_cases empty : tools = [] <;> simp only [empty, if_true, if_false, Dict.get?_set, params]
  all_goals grind

theorem decodeRequest_requestRoot (json : JsonLib) (messages : List OaiMessage)
    (tools : List OaiToolDefinition) (modelInfo : OaiModelInfo) (stream : Bool) :
    decodeRequest (requestRoot json messages tools modelInfo stream).entries =
      some (viewRequest json messages tools modelInfo stream) := by
  have members := get?_requestRoot json messages tools modelInfo stream
  have decodedMessages : (buildRequestMessagesArray json messages).mapM decodeMessage =
      some (messages.map (viewMessage json)) :=
    mapM_map_eq_some (decodeMessage_encode json) messages
  have decodedTools : (buildRequestToolsArray tools).mapM decodeTool =
      some (tools.map viewTool) :=
    mapM_map_eq_some decodeTool_encode tools
  have toolsField :
      arrayField (requestRoot json messages tools modelInfo stream).entries "tools" =
        some (buildRequestToolsArray tools) := by
    simp only [arrayField, ifContains_entries, members]
    by_cases empty : tools = [] <;> simp [empty, buildRequestToolsArray]
  have messagesField :
      arrayField (requestRoot json messages tools modelInfo stream).entries "messages" =
        some (buildRequestMessagesArray json messages) := by
    simp [arrayField, members]
  have modelField :
      stringField (requestRoot json messages tools modelInfo stream).entries "model" =
        some modelInfo.model := by
    simp [stringField, members]
  have streamField :
      ifContains (requestRoot json messages tools modelInfo stream).entries "stream" =
        some (.bool stream) := by
    simp [members]
  simp only [decodeRequest, streamField, modelField, messagesField, toolsField, decodedMessages,
    decodedTools, Option.bind_eq_bind, Option.bind_some]
  rfl

/-! ## What the body depends on -/

/-- The parts of the inputs that the object depends on decide it. -/
theorem requestRoot_congr (json : JsonLib) {messages others : List OaiMessage}
    (tools : List OaiToolDefinition) {modelInfo other : OaiModelInfo} (stream : Bool)
    (model : modelInfo.model = other.model)
    (params : sentParams modelInfo.params = sentParams other.params)
    (sameMessages : messages.map (fun message => { message with reasoning := "" }) =
      others.map fun message => { message with reasoning := "" }) :
    requestRoot json messages tools modelInfo stream =
      requestRoot json others tools other stream := by
  have forget : ∀ messages : List OaiMessage, buildRequestMessagesArray json messages =
      buildRequestMessagesArray json
        (messages.map fun message => { message with reasoning := "" }) := by
    intro messages
    simp only [buildRequestMessagesArray, List.map_map]
    rfl
  have encoded : buildRequestMessagesArray json messages =
      buildRequestMessagesArray json others := by
    rw [forget messages, sameMessages, ← forget others]
  simp only [requestRoot, mergeModelParamsIntoRoot_eq, model, params, encoded]

/-- A request with a model is encoded as an object that has exactly the members
`model`, `stream`, `messages`, for a non-empty tool list `tools`, and the
non-reserved parameters.  A decoder recovers the messages and the tools from it,
so equal objects come from inputs that agree on them; and the body does not
depend on the reserved parameters or on the reasoning of the messages. -/
theorem buildRequestPayload_lossless (json : JsonLib) (messages : List OaiMessage)
    (tools : List OaiToolDefinition) (modelInfo : OaiModelInfo) (stream : Bool)
    (named : modelInfo.model ≠ "") :
    buildRequestPayload json messages tools modelInfo stream =
        .ok (json.serialize (toValue (requestRoot json messages tools modelInfo stream))) ∧
      (∀ key, (requestRoot json messages tools modelInfo stream).get? key =
        if key = "model" then some (.string modelInfo.model)
        else if key = "stream" then some (.bool stream)
        else if key = "messages" then some (.array (buildRequestMessagesArray json messages))
        else if key = "tools" then
          if tools = [] then none else some (.array (buildRequestToolsArray tools))
        else modelInfo.params.get? key) ∧
      decodeRequest (requestRoot json messages tools modelInfo stream).entries =
        some (viewRequest json messages tools modelInfo stream) ∧
      (∀ others otherTools other otherStream,
        requestRoot json messages tools modelInfo stream =
            requestRoot json others otherTools other otherStream →
          viewRequest json messages tools modelInfo stream =
              viewRequest json others otherTools other otherStream ∧
            tools = otherTools) ∧
      (∀ others other, modelInfo.model = other.model →
        sentParams modelInfo.params = sentParams other.params →
        messages.map (fun message => { message with reasoning := "" }) =
          others.map (fun message => { message with reasoning := "" }) →
        buildRequestPayload json messages tools modelInfo stream =
          buildRequestPayload json others tools other stream) := by
  have succeeds : ∀ messages tools (modelInfo : OaiModelInfo) stream, modelInfo.model ≠ "" →
      buildRequestPayload json messages tools modelInfo stream =
        .ok (json.serialize (toValue (requestRoot json messages tools modelInfo stream))) := by
    intro messages tools modelInfo stream named
    simp only [buildRequestPayload, named, if_false]
  have decoded := decodeRequest_requestRoot json messages tools modelInfo stream
  refine ⟨succeeds messages tools modelInfo stream named,
    get?_requestRoot json messages tools modelInfo stream, decoded, ?_, ?_⟩
  · intro others otherTools other otherStream same
    have otherDecoded := decodeRequest_requestRoot json others otherTools other otherStream
    rw [← same, decoded] at otherDecoded
    have views := Option.some.inj otherDecoded
    constructor
    · exact views
    · have sameTools := congrArg RequestView.tools views
      exact viewTool_injective.list_map sameTools
  · intro others other model params sameMessages
    rw [succeeds _ _ _ _ named, succeeds _ _ _ _ (model ▸ named),
      requestRoot_congr json tools stream model params sameMessages]

/-- A history with a tool call, and parameters one of which is reserved. -/
def toolCallHistory : List OaiMessage :=
  [{ role := "assistant"
     toolCalls := [{ id := "call_1", name := "get_weather", arguments := .string "Berlin" }]
     reasoning := "ask" }]

def mixedParams : JsonObject :=
  ((Dict.empty : JsonObject).set "n" (.int64 2)).set "stream" (.string "no")

theorem buildRequestPayload_lossless_toolCall :
    decodeRequest (requestRoot (.ofTable []) toolCallHistory [] ⟨"m", mixedParams⟩
        true).entries =
      some {
        model := "m"
        stream := true
        messages := [{
          role := "assistant"
          content := ""
          toolCallId := ""
          toolCalls := [{ id := "call_1", name := "get_weather", argumentsText := "Berlin" }] }]
        tools := [] } :=
  (buildRequestPayload_lossless (.ofTable []) toolCallHistory [] ⟨"m", mixedParams⟩ true
    (by decide)).2.2.1

end Boai.Completion
