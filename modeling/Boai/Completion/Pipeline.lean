import Boai.Transport
import Boai.Completion.Request
import Boai.Completion.StateHeap
import Boai.Completion.Url

/-!
# What both entry points do before and after the exchange

`FetchCompletion` and `FetchStreamCompletion` repeat the same steps around
their exchange with the server: the check of the arguments, the choice of
assembler and builder, the assembly of the request, the credential fields and
the construction of the delivered state.  Each step is defined once here, and
the two entry points apply it to their own values.
-/

namespace Boai.Completion

open Boai.Json

/-- `ConnectionPipeline`. -/
structure ConnectionPipeline where
  assembler : RequestAssembler
  builder : StreamBuilder
  deriving DecidableEq, Repr

/-- `CreateConnectionPipeline`, which both entry points spell out. -/
def createConnectionPipeline (info : OaiCompletionInfo) (scheme : String) :
    ConnectionPipeline :=
  if info.proxy.enabled then
    { assembler := .proxy info.proxy
      builder := if scheme = "https" then .proxy else .direct }
  else
    { assembler := .default, builder := .direct }

/-- The timeouts both entry points set. -/
def fetchOptions : HttpClientOptions :=
  { connectTimeout := 10, readHeaderTimeout := 10, readBodyTimeout := 60 }

/-- Arguments of a fetch, apart from its callbacks. -/
structure FetchArgs where
  state : Option StateRef
  tools : List OaiToolDefinition := []
  modelInfo : Option (SharedPtr OaiModelInfo)

/-- What the handlers of an accepted fetch capture. -/
structure FetchCapture where
  info : SharedPtr OaiCompletionInfo
  modelInfo : SharedPtr OaiModelInfo
  state : StateRef
  tools : List OaiToolDefinition

namespace FetchCapture

/-- The argument check: pointers are set, the URL and the model are not empty.
The check of the callbacks differs and stays with the entry points. -/
def check (factory : OaiCompletionFactory) (args : FetchArgs) : Option FetchCapture :=
  match args.state, args.modelInfo, factory.info with
  | some state, some modelInfo, some info =>
      if info.value.baseUrl = "" ∨ modelInfo.value.model = "" then none
      else some { info, modelInfo, state, tools := args.tools }
  | _, _, _ => none

/-- `ParseUrl(BuildCompletionsUrl(info_->base_url))`. -/
def parsed (capture : FetchCapture) : ParsedUrl :=
  parseUrl (buildCompletionsUrl capture.info.value.baseUrl)

def pipeline (capture : FetchCapture) : ConnectionPipeline :=
  createConnectionPipeline capture.info.value capture.parsed.scheme

/-- The call of `Assemble`. -/
def assembled (http : HttpLib) (capture : FetchCapture) : AssembledRequest :=
  http.assemble capture.pipeline.assembler
    { method := .post, target := capture.parsed.target, version := 11 } fetchOptions
    capture.parsed.scheme capture.parsed.host capture.parsed.port
    (capture.parsed.scheme = "https")

def connHost (http : HttpLib) (capture : FetchCapture) : String :=
  (capture.assembled http).connectionKey.host

def connTarget (http : HttpLib) (capture : FetchCapture) : String :=
  (capture.assembled http).request.target

/-- The body of the request, from the chain of the caller's state. -/
def payload (json : JsonLib) (heap : StateHeap) (capture : FetchCapture)
    (stream : Bool) : Except String String :=
  buildRequestPayload json (collectMessageChain heap (some capture.state)) capture.tools
    capture.modelInfo.value stream

/-- The state a fetch delivers: every exit links to the caller's state. -/
def deliver (capture : FetchCapture) (message : OaiMessage) (log : OaiRequestLog) :
    OaiCompletionState :=
  { info := some capture.info
    modelInfo := some capture.modelInfo
    message, log
    previous := some capture.state }

/-- The state delivered when a fetch fails before any response. -/
def deliverFailure (capture : FetchCapture) (isStream : Bool) (now : Int)
    (error : String) : OaiCompletionState :=
  capture.deliver blankAssistant
    { buildLogSkeleton capture.modelInfo.value isStream now with errorMessage := error }

end FetchCapture

/-- The credential fields set from the provider info. -/
def setCredentials (info : OaiCompletionInfo) (request : HttpRequest) : HttpRequest :=
  let request :=
    if info.apiKey = "" then request
    else request.set "Authorization" ("Bearer " ++ info.apiKey)
  let request :=
    match info.organization with
    | some organization => request.set "OpenAI-Organization" organization
    | none => request
  match info.project with
  | some project => request.set "OpenAI-Project" project
  | none => request

end Boai.Completion
