import Boai.Completion.Types

/-!
# Request building

The encoders of `oai_completion_request.cc`.  Objects are filled by assignment,
in the order of the source, so that the order of members, and with it the
serialised body, is the one the program sends.
-/

namespace Boai.Completion

open Boai.Json

/-- `BuildRequestToolCallObject`. -/
def buildRequestToolCallObject (json : JsonLib) (call : OaiToolCall) : JsonObject :=
  let functionObject := ((Dict.empty : JsonObject).set "name" (.string call.name)).set
    "arguments"
      (if call.arguments.isString then call.arguments
      else .string (json.serialize call.arguments))
  (((Dict.empty : JsonObject).set "id" (.string call.id)).set
    "type" (.string "function")).set "function" (toValue functionObject)

/-- `BuildRequestToolCallsArray`. -/
def buildRequestToolCallsArray (json : JsonLib) (calls : List OaiToolCall) :
    List JsonValue :=
  calls.map fun call => toValue (buildRequestToolCallObject json call)

/-- `BuildRequestMessageObject`. -/
def buildRequestMessageObject (json : JsonLib) (message : OaiMessage) : JsonObject :=
  let msg := ((Dict.empty : JsonObject).set "role" (.string message.role)).set
    "content" (.string message.message)
  let msg :=
    if message.toolCalls = [] then msg
    else msg.set "tool_calls" (.array (buildRequestToolCallsArray json message.toolCalls))
  if message.toolCallId = "" then msg
  else msg.set "tool_call_id" (.string message.toolCallId)

/-- `BuildRequestMessagesArray`. -/
def buildRequestMessagesArray (json : JsonLib) (messages : List OaiMessage) :
    List JsonValue :=
  messages.map fun message => toValue (buildRequestMessageObject json message)

/-- `BuildRequestToolDefinitionObject`. -/
def buildRequestToolDefinitionObject (tool : OaiToolDefinition) : JsonObject :=
  let functionObject := (((Dict.empty : JsonObject).set "name" (.string tool.name)).set
    "description" (.string tool.description)).set "parameters" (toValue tool.parameters)
  ((Dict.empty : JsonObject).set "type" (.string "function")).set
    "function" (toValue functionObject)

/-- `BuildRequestToolsArray`. -/
def buildRequestToolsArray (tools : List OaiToolDefinition) : List JsonValue :=
  tools.map fun tool => toValue (buildRequestToolDefinitionObject tool)

/-- `kReservedFields`. -/
def reservedFields : List String := ["model", "stream", "messages", "tools"]

/-- `IsReservedRequestField`. -/
def isReservedRequestField (key : String) : Bool := reservedFields.contains key

/-- `MergeModelParamsIntoRoot`. -/
def mergeModelParamsIntoRoot (params root : JsonObject) : JsonObject :=
  params.entries.foldl (fun root entry =>
    if isReservedRequestField entry.1 then root else root.set entry.1 entry.2) root

/-- The object that `BuildRequestPayload` serialises. -/
def requestRoot (json : JsonLib) (messages : List OaiMessage)
    (tools : List OaiToolDefinition) (modelInfo : OaiModelInfo) (stream : Bool) :
    JsonObject :=
  let root := mergeModelParamsIntoRoot modelInfo.params Dict.empty
  let root := root.set "model" (.string modelInfo.model)
  let root := root.set "stream" (.bool stream)
  let root := root.set "messages" (.array (buildRequestMessagesArray json messages))
  if tools = [] then root
  else root.set "tools" (.array (buildRequestToolsArray tools))

/-- `BuildRequestPayload`: the body, or the error text. -/
def buildRequestPayload (json : JsonLib) (messages : List OaiMessage)
    (tools : List OaiToolDefinition) (modelInfo : OaiModelInfo) (stream : Bool) :
    Except String String :=
  if modelInfo.model = "" then .error "model_info.model is required"
  else .ok (json.serialize (toValue (requestRoot json messages tools modelInfo stream)))

/-- `IsHttpSuccessStatus`. -/
def isHttpSuccessStatus (status : Int) : Bool := decide (200 ≤ status ∧ status < 300)

/-- `BuildLogSkeleton` at a clock reading. -/
def buildLogSkeleton (modelInfo : OaiModelInfo) (isStream : Bool) (now : Int) :
    OaiRequestLog :=
  { status := .kFail, model := modelInfo.model, isStream, timestamp := now }

end Boai.Completion
