import Boai.Completion.Types

/-!
# The transport library

Requests and results of `bsrvcore` and Boost.Beast in so far as the facade
reads or writes them.  Assembling a request, the request a fresh task starts
from, framing a payload and cutting an event stream into events are the
library's work and stay parameters.
-/

namespace Boai

open Boai.Json Boai.Completion

/-- `http::verb`, of which the facade uses one. -/
inductive HttpVerb where
  | post
  | other (name : String)
  deriving DecidableEq, Repr

structure HttpField where
  name : String
  value : String
  deriving DecidableEq, Repr

/-- Field names are compared without regard to case. -/
def sameFieldName (left right : String) : Bool :=
  left.toList.map Char.toLower == right.toList.map Char.toLower

structure HttpRequest where
  method : HttpVerb
  target : String
  version : Nat
  fields : List HttpField := []
  body : String := ""
  deriving DecidableEq, Repr

/-- `request.set(name, value)`: drop every field of that name, then add one. -/
def HttpRequest.set (request : HttpRequest) (name value : String) : HttpRequest :=
  { request with
    fields := request.fields.filter (fun field => !sameFieldName field.name name) ++
      [⟨name, value⟩] }

structure HttpResponse where
  status : Int
  fields : List HttpField := []
  body : String := ""
  deriving DecidableEq, Repr

/-- `response.base().find(name)`. -/
def HttpResponse.find (response : HttpResponse) (name : String) : Option String :=
  (response.fields.find? fun field => sameFieldName field.name name).map HttpField.value

/-- The timeouts set on `HttpClientOptions` and `HttpSseClientOptions`, in
seconds. -/
structure HttpClientOptions where
  connectTimeout : Nat
  readHeaderTimeout : Nat
  readBodyTimeout : Nat
  deriving DecidableEq, Repr

/-- A connected stream, with TLS or without. -/
inductive StreamSlot where
  | ssl (stream : Nat)
  | tcp (stream : Nat)
  deriving DecidableEq, Repr

/-- The part of a connection key that the facade reads. -/
structure ConnectionKey where
  host : String
  deriving DecidableEq, Repr

structure AssembledRequest where
  connectionKey : ConnectionKey
  request : HttpRequest
  deriving DecidableEq, Repr

/-- `DefaultRequestAssembler`, or `ProxyRequestAssembler` around it. -/
inductive RequestAssembler where
  | default
  | proxy (config : ProxyConfig)
  deriving DecidableEq, Repr

/-- `DirectStreamBuilder`, or `ProxyStreamBuilder` around it. -/
inductive StreamBuilder where
  | direct
  | proxy
  deriving DecidableEq, Repr

/-- A call of `HttpClientTask::CreateHttpRaw` or `CreateHttpsRaw`, with its
arguments.  The calls of the SSE client are left out, because the facade
overwrites the request of the client they create. -/
inductive RawTask where
  | http (stream : Nat) (host target : String) (method : HttpVerb)
      (options : HttpClientOptions)
  | https (stream : Nat) (host target : String) (method : HttpVerb)
      (options : HttpClientOptions)
  deriving DecidableEq, Repr

/-- Request handling of the transport library.  The request of a freshly created
task depends on the creation call alone. -/
structure HttpLib where
  assemble : RequestAssembler → HttpRequest → HttpClientOptions →
    (scheme host port : String) → (tls : Bool) → AssembledRequest
  freshRequest : RawTask → HttpRequest
  preparePayload : HttpRequest → HttpRequest

/-- Names of the fields that frame a payload. -/
def isFramingField (name : String) : Bool :=
  sameFieldName name "Content-Length" || sameFieldName name "Transfer-Encoding"

/-- `prepare_payload` touches framing fields only. -/
structure HttpLib.Frames (http : HttpLib) : Prop where
  target : ∀ request, (http.preparePayload request).target = request.target
  body : ∀ request, (http.preparePayload request).body = request.body
  fields : ∀ request,
    (http.preparePayload request).fields.filter (fun field => !isFramingField field.name) =
      request.fields.filter fun field => !isFramingField field.name

/-- `SseEvent`, whose other fields the facade ignores. -/
structure SseEvent where
  data : String
  deriving DecidableEq, Repr

/-- `SseEventParser`. -/
structure SseParser where
  State : Type
  init : State
  feed : State → String → State × List SseEvent

/-- Feeding a text in two parts yields the events of feeding it at once. -/
def SseParser.Incremental (parser : SseParser) : Prop :=
  ∀ state left right,
    (parser.feed state left).2 ++ (parser.feed (parser.feed state left).1 right).2 =
      (parser.feed state (left ++ right)).2

/-- Everything the facade takes from other libraries. -/
structure Libraries where
  json : JsonLib
  http : HttpLib
  sse : SseParser

/-- What can be outstanding at the transport. -/
inductive RequestKind where
  | acquire
  | start
  | next
  deriving DecidableEq, Repr

/-- A request handed to the transport. -/
inductive TransportCall where
  | acquire (builder : StreamBuilder) (key : ConnectionKey)
  | start (request : HttpRequest)
  | next
  deriving DecidableEq, Repr

/-- `HttpClientResult`.  A set error code is known by its message. -/
structure HttpClientResult where
  ec : Option String := none
  cancelled : Bool := false
  response : HttpResponse
  deriving DecidableEq, Repr

/-- `HttpSseClientResult`. -/
structure HttpSseClientResult where
  status : Int := 0
  ec : Option String := none
  cancelled : Bool := false
  eof : Bool := false
  chunk : String := ""
  deriving DecidableEq, Repr

/-- An answer of the transport and the clock reading when it arrives. -/
structure Timed (α : Type) where
  now : Int
  answer : α

end Boai
