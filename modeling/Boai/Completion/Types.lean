import Boai.Json.Value

/-!
# Data types of the completion facade

The public types of `oai_completion.h`.  A non-null `std::shared_ptr` is an
address together with the object it points to, so that equality of pointers is
equality of `SharedPtr`s; a pointer that may be null is an `Option`.  State
nodes live in a store of their own and are referred to by address.
-/

namespace Boai.Completion

open Boai.Json

/-- A non-null `std::shared_ptr` to an object that nobody mutates while a
request is in flight. -/
structure SharedPtr (α : Type) where
  address : Nat
  value : α
  deriving DecidableEq, Repr

/-- `bsrvcore::ProxyConfig`. -/
structure ProxyConfig where
  host : String := ""
  port : String := ""
  auth : String := ""
  deriving DecidableEq, Repr, Inhabited

/-- `proxy.enabled()`: an empty host means a direct connection. -/
def ProxyConfig.enabled (proxy : ProxyConfig) : Bool := decide (proxy.host ≠ "")

/-- Provider connection information for chat completions. -/
structure OaiCompletionInfo where
  apiKey : String := ""
  baseUrl : String := ""
  organization : Option String := none
  project : Option String := none
  proxy : ProxyConfig := {}
  deriving DecidableEq, Repr

/-- Model selection and model-specific request parameters. -/
structure OaiModelInfo where
  model : String := ""
  params : JsonObject := Dict.empty
  deriving DecidableEq

/-- Lifecycle status for one completion request. -/
inductive OaiCompletionStatus where
  | kLocal
  | kSuccess
  | kFail
  deriving DecidableEq, Repr

/-- Tool call object parsed from assistant responses. -/
structure OaiToolCall where
  id : String := ""
  name : String := ""
  arguments : JsonValue := .null
  deriving DecidableEq, Repr

/-- `id`, `name` and `arguments` are all empty: such a call is never kept. -/
def OaiToolCall.isBlank (call : OaiToolCall) : Bool :=
  decide (call.id = "") && decide (call.name = "") && decide (call.arguments = .null)

theorem OaiToolCall.isBlank_iff (call : OaiToolCall) :
    call.isBlank = true ↔ call.id = "" ∧ call.name = "" ∧ call.arguments = .null := by
  simp only [isBlank, Bool.and_eq_true, decide_eq_true_eq, and_assoc]

/-- Tool definition included in request payload (`tools`). -/
structure OaiToolDefinition where
  name : String := ""
  description : String := ""
  parameters : JsonObject := Dict.empty
  deriving DecidableEq

/-- Chat message stored in state chain. -/
structure OaiMessage where
  role : String := ""
  message : String := ""
  toolCalls : List OaiToolCall := []
  reasoning : String := ""
  toolCallId : String := ""
  deriving DecidableEq, Repr

/-- The assistant message every fetch starts from. -/
def blankAssistant : OaiMessage := { role := "assistant" }

/-- Minimal request/response log for one completion call. -/
structure OaiRequestLog where
  status : OaiCompletionStatus := .kLocal
  httpStatusCode : Int := 0
  errorMessage : String := ""
  requestId : String := ""
  finishReason : String := ""
  model : String := ""
  isStream : Bool := false
  deltaCount : Nat := 0
  timestamp : Int := 0
  deriving DecidableEq, Repr

/-- Address of a state node. -/
abbrev StateRef := Nat

/-- Immutable linked state node for completion conversations. -/
structure OaiCompletionState where
  info : Option (SharedPtr OaiCompletionInfo)
  modelInfo : Option (SharedPtr OaiModelInfo)
  message : OaiMessage
  log : OaiRequestLog
  previous : Option StateRef
  deriving DecidableEq

/-- A state with its timestamp forgotten. -/
def OaiCompletionState.untimed (state : OaiCompletionState) : OaiCompletionState :=
  { state with log := { state.log with timestamp := 0 } }

/-- The part of `OaiCompletionFactory` that decides what a fetch does. -/
structure OaiCompletionFactory where
  info : Option (SharedPtr OaiCompletionInfo)
  deriving DecidableEq

end Boai.Completion
