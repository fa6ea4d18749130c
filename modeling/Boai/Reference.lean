import Boai.Completion.FetchStream
import Boai.Completion.Fetch

/-!
# Reference implementations of the libraries

Small executable stand-ins for what the facade takes from other libraries,
together with the laws the facade relies on: an event stream parser that reads
one character at a time, a codec given by a table, and a transport that
assembles requests directly or for a proxy.  They show that the laws can be
met, and concrete calls are evaluated over them.
-/

namespace Boai.Reference

open Boai.Json Boai.Completion

/-! ## Event streams -/

/-- The unfinished line, newest character first, and the data of the unfinished
event. -/
structure SseState where
  line : List Char := []
  data : Option (List Char) := none

/-- Add a finished line to the unfinished event.  Only `data` fields count. -/
def SseState.addLine (state : SseState) (line : List Char) : SseState :=
  if "data:".toList.isPrefixOf line then
    let value := line.drop 5
    let value := if value.head? = some ' ' then value.drop 1 else value
    { data := some (match state.data with
        | none => value
        | some data => data ++ '\n' :: value) }
  else
    { data := state.data }

/-- Read one character.  An empty line dispatches the event. -/
def SseState.read (state : SseState) (character : Char) : SseState × List SseEvent :=
  if character = '\n' then
    match state.line with
    | [] => ({}, state.data.toList.map fun data => ⟨String.ofList data⟩)
    | line => (state.addLine line.reverse, [])
  else
    ({ state with line := character :: state.line }, [])

def SseState.readAll : SseState → List Char → SseState × List SseEvent
  | state, [] => (state, [])
  | state, character :: rest =>
      let first := state.read character
      let later := first.1.readAll rest
      (later.1, first.2 ++ later.2)

/-- A parser for event streams with line feeds as line ends. -/
def sse : SseParser where
  State := SseState
  init := {}
  feed state text := state.readAll text.toList

theorem SseState.readAll_append (state : SseState) (left right : List Char) :
    state.readAll (left ++ right) =
      let first := state.readAll left
      let later := first.1.readAll right
      (later.1, first.2 ++ later.2) := by
  induction left generalizing state with
  | nil => rfl
  | cons character rest ih => simp [SseState.readAll, ih]

theorem sse_incremental : sse.Incremental := by
  intro state left right
  change SseState at state
  change _ = (state.readAll (left ++ right).toList).2
  rw [String.toList_append, SseState.readAll_append]
  rfl

/-! ## JSON text -/

/-- A table of texts and the values they denote is a lawful codec when its texts
are distinct and obey the grammar. -/
theorem lawful_ofTable {table : List (String × JsonValue)}
    (distinct : (table.map Prod.fst).Nodup)
    (grammar : ∀ entry ∈ table, entry.1 ≠ "" ∧ NulFree entry.1 ∧
      ∀ string, entry.2 = .string string → string.length < entry.1.length)
    (null : (JsonLib.ofTable table).serialize .null = "null") :
    (JsonLib.ofTable table).Lawful where
  reparse := by
    intro text value parsed
    have member := Dict.mem_of_lookup parsed
    simp only [JsonLib.ofTable]
    split
    next absent =>
      have noEntry := List.find?_eq_none.mp absent _ member
      simp at noEntry
    next entry found =>
      have same : entry.2 = value := by simpa using List.find?_some found
      have listed := List.mem_of_find?_eq_some found
      rw [← same]
      exact Dict.lookup_of_mem distinct listed
  serialize_null := null
  parse_empty := by
    cases parsed : (JsonLib.ofTable table).parse "" with
    | none => rfl
    | some value =>
        exact absurd rfl (grammar _ (Dict.mem_of_lookup parsed)).1
  parse_nul := by
    intro text value parsed
    exact (grammar _ (Dict.mem_of_lookup parsed)).2.1
  literal_longer := by
    intro text string parsed
    exact (grammar _ (Dict.mem_of_lookup parsed)).2.2 string rfl

/-! ## Requests -/

/-- Assembles for the origin, or for a proxy: absolute-form target for plain
HTTP, and the credentials of the proxy. -/
def http : HttpLib where
  assemble assembler request _ scheme host port tls :=
    match assembler with
    | .default =>
        { connectionKey := ⟨host⟩, request := request.set "Host" host }
    | .proxy config =>
        let target :=
          if tls then request.target
          else scheme ++ "://" ++ host ++ ":" ++ port ++ request.target
        let request := { request with target }.set "Host" host
        { connectionKey := ⟨host⟩
          request :=
            if config.auth = "" then request
            else request.set "Proxy-Authorization" config.auth }
  freshRequest
    | .http _ host target method _ | .https _ host target method _ =>
        { method, target, version := 11, fields := [⟨"Host", host⟩] }
  preparePayload request := request.set "Content-Length" (toString request.body.length)

theorem http_frames : http.Frames where
  target := fun _ => rfl
  body := fun _ => rfl
  fields := by
    intro request
    have framing : isFramingField "Content-Length" = true := by decide
    simp only [http, HttpRequest.set, List.filter_append, List.filter_filter]
    simp only [List.filter_cons, framing, Bool.not_true, Bool.false_eq_true, if_false,
      List.filter_nil, List.append_nil]
    apply List.filter_congr
    intro field _
    cases isLength : sameFieldName field.name "Content-Length" <;>
      simp [isFramingField, isLength]

/-! ## A call -/

/-- The libraries with a codec for the texts of a table. -/
def libraries (table : List (String × JsonValue)) : Libraries where
  json := .ofTable table
  http := http
  sse := sse

/-- A provider on the local host, as in the unit tests. -/
def info : SharedPtr OaiCompletionInfo :=
  ⟨1, { apiKey := "unit-test-key", baseUrl := "http://127.0.0.1:8080" }⟩

def modelInfo : SharedPtr OaiModelInfo := ⟨2, { model := "unit-test-model" }⟩

def factory : OaiCompletionFactory := ⟨some info⟩

/-- A history of one user message. -/
def heap : StateHeap :=
  StateHeap.empty.allocate
    (appendMessage factory { role := "user", message := "stream me" } none 0) (by
      simp [appendMessage, StateHeap.Holds])

def args : FetchArgs := { state := some 0, modelInfo := some modelInfo }

/-- A stream payload with one choice that carries `delta`. -/
def payload (delta : Members) : JsonValue :=
  .object [("choices", .array [.object [("delta", .object delta)]])]

/-- The text of an event with one line of data. -/
def event (data : String) : String := "data: " ++ data ++ "\n\n"

/-- Two payloads with content, the first one with a reasoning text. -/
def twoPieces : Libraries :=
  libraries
    [("1", payload [("content", .string "Hel"), ("reasoning_content", .string "hm")]),
      ("2", payload [("content", .string "lo")])]

/-- Connecting and a successful response header. -/
def opened : List (Timed StreamAnswer) :=
  [⟨1, .acquire (.ok (.tcp 3))⟩, ⟨2, .start { status := 200 }⟩]

/-- A `Next` result that carries a chunk. -/
def chunk (now : Int) (text : String) : Timed StreamAnswer := ⟨now, .next { chunk := text }⟩

/-- Both delta callbacks are registered. -/
def bothCallbacks : DeltaCallbacks := { onDelta := true, onReasoningDelta := true }

end Boai.Reference
