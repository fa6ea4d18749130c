import Boai.Completion.CompletionResult
import Boai.Completion.StreamResult
import Boai.Completion.ToolCalls

/-!
# Metadata over a whole response

`id`, `model` and `finish_reason` are merged by different rules on the two paths.
The merge of a stream's request id skips empty texts; the merges of the model
and of the finish reason, and both merges of a body, do not, so an empty text
erases what was known.  The delivered log keeps all that was known exactly when
the last text given is not such an empty one.
-/

namespace Boai.Completion

open Boai.Json StreamSession

/-! ## First and last texts -/

/-- The texts that are not empty. -/
def nonemptyTexts (texts : List String) : List String := texts.filter (· ≠ "")

/-- The first text that is not empty. -/
def firstKnown (texts : List String) : String := ((nonemptyTexts texts).head?).getD ""

/-- The last text that is not empty. -/
def lastKnown (texts : List String) (fallback : String) : String :=
  ((nonemptyTexts texts).getLast?).getD fallback

/-- The last text given leaves what is known: if it is empty, the fallback was all
that was known, and if not, it is read whole or read as empty where it is the
fallback itself. -/
structure NotErased (texts : List String) (fallback : String) : Prop where
  empty : texts.getLast? = some "" → lastKnown texts fallback = fallback
  whole : ∀ text, texts.getLast? = some text → text ≠ "" →
    NulFree text ∨ (cStr text = "" ∧ text = fallback)

section Folds

variable {α : Type}

/-- Overwriting with every text given leaves the last one. -/
theorem foldl_overwrite (read : α → Option String) (items : List α) (known : String) :
    items.foldl (fun known item => (read item).getD known) known =
      ((items.filterMap read).getLast?).getD known := by
  induction items generalizing known with
  | nil => rfl
  | cons item rest ih =>
      rw [List.foldl_cons, ih]
      cases given : read item with
      | none => rw [List.filterMap_cons_none given, Option.getD_none]
      | some text =>
          rw [List.filterMap_cons_some given, List.getLast?_cons]
          simp

/-- Overwriting an empty text only leaves the first text that is not empty. -/
theorem foldl_fill (read : α → Option String) (items : List α) (known : String) :
    items.foldl (fun known item => if known = "" then (read item).getD "" else known) known =
      firstKnown (known :: items.filterMap read) := by
  induction items generalizing known with
  | nil =>
      by_cases isEmpty : known = ""
      · simp [firstKnown, nonemptyTexts, isEmpty]
      · simp [firstKnown, nonemptyTexts, isEmpty]
  | cons item rest ih =>
      rw [List.foldl_cons, ih]
      by_cases isEmpty : known = ""
      · cases given : read item <;> simp [firstKnown, nonemptyTexts, isEmpty, given]
      · simp [firstKnown, nonemptyTexts, isEmpty]

end Folds

/-- What the code keeps of the last text given. -/
def lastRead (texts : List String) (fallback : String) : String :=
  let last := ((texts.map cStr).getLast?).getD ""
  if last = "" then fallback else last

theorem lastRead_eq_lastKnown_iff (texts : List String) (fallback : String) :
    lastRead texts fallback = lastKnown texts fallback ↔ NotErased texts fallback := by
  cases last : texts.getLast? with
  | none =>
      rw [List.getLast?_eq_none_iff] at last
      subst last
      exact ⟨fun _ => ⟨by simp, by simp⟩, fun _ => rfl⟩
  | some text =>
      rcases List.getLast?_eq_some_iff.mp last with ⟨before, isLast⟩
      have read : lastRead texts fallback = if cStr text = "" then fallback else cStr text := by
        simp [lastRead, isLast]
      by_cases isEmpty : text = ""
      · have empty : cStr text = "" := by rw [isEmpty]; rfl
        rw [read, if_pos empty]
        constructor
        · intro same
          constructor
          · exact fun _ => same.symm
          · intro other found notEmpty
            rw [last, Option.some.injEq] at found
            exact absurd (found ▸ isEmpty) notEmpty
        · intro kept
          exact (kept.empty (isEmpty ▸ last)).symm
      · have known : lastKnown texts fallback = text := by
          simp [lastKnown, nonemptyTexts, isLast, List.filter_append, isEmpty]
        rw [read, known]
        constructor
        · intro same
          constructor
          · intro found
            rw [last, Option.some.injEq] at found
            exact absurd found isEmpty
          · intro other found _
            rw [last, Option.some.injEq] at found
            subst found
            by_cases readsEmpty : cStr text = ""
            · rw [if_pos readsEmpty] at same
              exact .inr ⟨readsEmpty, same.symm⟩
            · rw [if_neg readsEmpty] at same
              exact .inl (cStr_eq_self_iff.mp same)
        · intro kept
          cases kept.whole text last isEmpty with
          | inl free => rw [cStr_of_nulFree free, if_neg isEmpty]
          | inr hidden => rw [if_pos hidden.1, hidden.2]

theorem firstKnown_cons (text : String) (rest : List String) :
    firstKnown (text :: rest) = if text = "" then firstKnown rest else text := by
  by_cases isEmpty : text = ""
  · simp [firstKnown, nonemptyTexts, isEmpty]
  · simp [firstKnown, nonemptyTexts, isEmpty]

theorem nulFree_firstKnown (texts : List String) : NulFree (firstKnown (texts.map cStr)) := by
  induction texts with
  | nil => exact nulFree_empty
  | cons text rest ih =>
      rw [List.map_cons, firstKnown_cons]
      split
      · exact ih
      · exact nulFree_cStr text

/-- The code keeps the first text that is not empty exactly when it has no NUL. -/
theorem firstKnown_cStr_iff (texts : List String) :
    firstKnown (texts.map cStr) = firstKnown texts ↔ NulFree (firstKnown texts) := by
  constructor
  · intro same
    rw [← same]
    exact nulFree_firstKnown texts
  · intro free
    induction texts with
    | nil => rfl
    | cons text rest ih =>
        rw [firstKnown_cons] at free
        rw [List.map_cons, firstKnown_cons, firstKnown_cons]
        by_cases isEmpty : text = ""
        · rw [if_pos isEmpty] at free
          have empty : cStr text = "" := by rw [isEmpty]; rfl
          rw [if_pos isEmpty, if_pos empty, ih free]
        · rw [if_neg isEmpty] at free
          rw [cStr_of_nulFree free, if_neg isEmpty, if_neg isEmpty]

/-! ## Streams -/

/-- The text of a member that is a string. -/
def givenText : Option JsonValue → Option String
  | some (.string text) => some text
  | _ => none

theorem memberText_eq (member : Option JsonValue) :
    memberText member = (givenText member).map cStr := by
  cases member with
  | none => rfl
  | some value => cases value <;> rfl

theorem getD_memberText (member : Option JsonValue) :
    (memberText member).getD "" = cStr ((givenText member).getD "") := by
  rw [memberText_eq]
  cases givenText member <;> rfl

def givenIds (payloads : List Members) : List String :=
  payloads.filterMap fun root => givenText (ifContains root "id")

def givenModels (payloads : List Members) : List String :=
  payloads.filterMap fun root => givenText (ifContains root "model")

def givenFinishReasons (payloads : List Members) : List String :=
  payloads.filterMap fun root =>
    (tryGetStreamFirstChoiceObject root).bind fun choice =>
      givenText (ifContains choice "finish_reason")

/-- The code reads the given texts up to their first NUL. -/
theorem filterMap_read {read given : Members → Option String}
    (reads : ∀ root, read root = (given root).map cStr) (payloads : List Members) :
    payloads.filterMap read = (payloads.filterMap given).map cStr := by
  rw [List.map_filterMap]
  exact List.filterMap_congr fun root _ => reads root

def payloadId (root : Members) : Option String := memberText (ifContains root "id")

def payloadModel (root : Members) : Option String := memberText (ifContains root "model")

theorem filterMap_payloadId (payloads : List Members) :
    payloads.filterMap payloadId = (givenIds payloads).map cStr :=
  filterMap_read (fun _ => memberText_eq _) payloads

theorem filterMap_payloadModel (payloads : List Members) :
    payloads.filterMap payloadModel = (givenModels payloads).map cStr :=
  filterMap_read (fun _ => memberText_eq _) payloads

theorem filterMap_payloadFinishReason (payloads : List Members) :
    payloads.filterMap payloadFinishReason = (givenFinishReasons payloads).map cStr := by
  apply filterMap_read
  intro root
  rw [payloadFinishReason, Option.map_bind]
  apply Option.bind_congr
  intro choice _
  exact memberText_eq _

/-- What accepted payloads do to the metadata of the aggregate. -/
structure ReadsMetadata (agg : StreamAggregate) (payloads : List Members)
    (next : StreamAggregate) : Prop where
  requestId : next.requestId = payloads.foldl
    (fun known root => if known = "" then (payloadId root).getD "" else known) agg.requestId
  model : next.model = payloads.foldl (fun known root => (payloadModel root).getD known) agg.model

theorem applyStreamDeltaPayload_metadata {json : JsonLib} {payload : String} {root : Members}
    {agg : StreamAggregate} {result : DeltaResult}
    (parsed : json.parse payload = some (.object root))
    (applied : applyStreamDeltaPayload json payload agg = .ok result) :
    result.agg.requestId = (if agg.requestId = "" then (payloadId root).getD ""
        else agg.requestId) ∧
      result.agg.model = (payloadModel root).getD agg.model := by
  simp only [applyStreamDeltaPayload, parsed] at applied
  split at applied
  · cases applied
    exact ⟨rfl, rfl⟩
  · split at applied
    · cases applied
      exact ⟨rfl, rfl⟩
    · cases applied
      exact ⟨rfl, rfl⟩

theorem processEvents_readsMetadata (json : JsonLib) (callbacks : DeltaCallbacks)
    (events : List SseEvent) (agg : StreamAggregate) :
    ReadsMetadata agg (readPayloads json events) (processEvents json callbacks events agg).agg := by
  induction events generalizing agg with
  | nil => exact ⟨rfl, rfl⟩
  | cons event rest ih =>
      have step := processStreamEventData_step json callbacks event.data agg
      simp only [processEvents, readPayloads]
      generalize processStreamEventData json callbacks event.data agg = result at step
      cases step with
      | empty isEmpty =>
          simp only [isEmpty, if_true]
          exact ih agg
      | done isDone =>
          simp only [isDone, if_true]
          exact ⟨rfl, rfl⟩
      | invalid payload invalid =>
          simp only [payload.nonempty, payload.not_done, if_false]
          exact ⟨rfl, rfl⟩
      | @delta payload root parsed result applied =>
          simp only [payload.nonempty, payload.not_done, if_false, parsed]
          have fields := applyStreamDeltaPayload_metadata parsed applied
          have requestId : result.appended.requestId =
              if agg.requestId = "" then (payloadId root).getD "" else agg.requestId := fields.1
          have model : result.appended.model = (payloadModel root).getD agg.model := fields.2
          have later := ih result.appended
          constructor
          · rw [later.requestId, List.foldl_cons, requestId]
          · rw [later.model, List.foldl_cons, model]

/-- The payloads processed before the state of a stream was delivered. -/
def processedPayloads (lib : Libraries) (results : List (Timed HttpSseClientResult)) :
    List Members :=
  readPayloads lib.json (arrivals lib.sse lib.sse.init results).1

/-- Metadata of a stream that keeps what was known. -/
structure StreamKeepsKnown (payloads : List Members) (requested : String)
    (log : OaiRequestLog) : Prop where
  requestId : log.requestId = firstKnown (givenIds payloads)
  model : log.model = lastKnown (givenModels payloads) requested
  finishReason : log.finishReason = lastKnown (givenFinishReasons payloads) ""

/-- The metadata of a delivered stream, merged as the code merges it. -/
theorem Streams.metadata {lib : Libraries} {results : List (Timed HttpSseClientResult)}
    {state : OaiCompletionState} (streams : Streams lib results state)
    {modelInfo : SharedPtr OaiModelInfo} (requested : state.modelInfo = some modelInfo) :
    state.log.requestId = firstKnown ((givenIds (processedPayloads lib results)).map cStr) ∧
      state.log.model =
        lastRead (givenModels (processedPayloads lib results)) modelInfo.value.model ∧
      state.log.finishReason =
        lastRead (givenFinishReasons (processedPayloads lib results)) "" := by
  rcases streams.eq_eventsState_of_arrivals with ⟨capture, header, verdict, isState⟩
  have metadata := processEvents_readsMetadata lib.json capture.callbacks
    (arrivals lib.sse lib.sse.init results).1 { httpStatusCode := header }
  have reads := processEvents_reads lib.json capture.callbacks
    (arrivals lib.sse lib.sse.init results).1 { httpStatusCode := header }
  have sameModelInfo : some capture.modelInfo = some modelInfo := by
    rw [← requested]
    exact (congrArg OaiCompletionState.modelInfo isState).symm
  cases sameModelInfo
  have requestId : state.log.requestId = _ :=
    congrArg (fun state => state.log.requestId) isState
  have model : state.log.model = _ := congrArg (fun state => state.log.model) isState
  have finishReason : state.log.finishReason = _ :=
    congrArg (fun state => state.log.finishReason) isState
  simp only [eventsState, streamState, FetchCapture.deliver, StreamAggregate.closed]
    at requestId model finishReason
  constructor
  · rw [requestId, metadata.requestId, foldl_fill, firstKnown_cons, if_pos rfl,
      ← filterMap_payloadId, processedPayloads]
  constructor
  · simp only [model, metadata.model, foldl_overwrite, lastRead, ← filterMap_payloadModel,
      processedPayloads]
  · rw [finishReason, reads.finishReason]
    have folded := foldl_overwrite payloadFinishReason (processedPayloads lib results) ""
    simp only [lastRead, ← filterMap_payloadFinishReason, ← folded]
    split
    next isEmpty => exact isEmpty
    next => rfl

theorem Streams.keepsKnown_iff {lib : Libraries} {results : List (Timed HttpSseClientResult)}
    {state : OaiCompletionState} (streams : Streams lib results state)
    {modelInfo : SharedPtr OaiModelInfo} (requested : state.modelInfo = some modelInfo) :
    StreamKeepsKnown (processedPayloads lib results) modelInfo.value.model state.log ↔
      NulFree (firstKnown (givenIds (processedPayloads lib results))) ∧
        NotErased (givenModels (processedPayloads lib results)) modelInfo.value.model ∧
        NotErased (givenFinishReasons (processedPayloads lib results)) "" := by
  have merged := streams.metadata requested
  rw [← firstKnown_cStr_iff, ← lastRead_eq_lastKnown_iff, ← lastRead_eq_lastKnown_iff,
    ← merged.1, ← merged.2.1, ← merged.2.2]
  constructor
  · intro keeps
    exact ⟨keeps.requestId, keeps.model, keeps.finishReason⟩
  · intro keeps
    exact ⟨keeps.1, keeps.2.1, keeps.2.2⟩

/-! ## Bodies -/

/-- A string member of a body that is an object. -/
def bodyText (json : JsonLib) (body key : String) : Option String :=
  match json.parse body with
  | some (.object root) => givenText (ifContains root key)
  | _ => none

/-- The `x-request-id` header, empty when it is missing. -/
def headerRequestId (response : HttpResponse) : String :=
  (response.find "x-request-id").getD ""

/-- A field whose value was known keeps it unless a text that is not empty is
given. -/
def KeepsUnlessGiven (given : Option String) (known read : String) : Prop :=
  (∀ text, given = some text → text = "") → read = known

/-- Metadata of a body that keeps what was known. -/
structure BodyKeepsKnown (json : JsonLib) (response : HttpResponse) (requested : String)
    (log : OaiRequestLog) : Prop where
  requestId :
    KeepsUnlessGiven (bodyText json response.body "id") (headerRequestId response) log.requestId
  model : KeepsUnlessGiven (bodyText json response.body "model") requested log.model

theorem keepsUnlessGiven_iff (given : Option String) (known : String) :
    KeepsUnlessGiven given known ((given.map cStr).getD known) ↔
      (given = some "" → known = "") := by
  simp only [KeepsUnlessGiven]
  cases given with
  | none => simp
  | some text =>
      by_cases isEmpty : text = ""
      · subst isEmpty
        have empty : cStr "" = "" := rfl
        simp [empty, eq_comm]
      · simp [isEmpty]

theorem parseCompletionResponseBody_log (json : JsonLib) (body : String)
    (message : OaiMessage) (log : OaiRequestLog) (error : String) :
    (parseCompletionResponseBody json body message log error).log.requestId =
        ((bodyText json body "id").map cStr).getD log.requestId ∧
      (parseCompletionResponseBody json body message log error).log.model =
        ((bodyText json body "model").map cStr).getD log.model := by
  unfold parseCompletionResponseBody
  simp only [bodyText]
  cases json.parse body with
  | none => exact ⟨rfl, rfl⟩
  | some value =>
      cases value with
      | object root =>
          simp only [← memberText_eq]
          split
          · exact ⟨rfl, rfl⟩
          · split
            · exact ⟨rfl, rfl⟩
            · exact ⟨rfl, rfl⟩
      | _ => exact ⟨rfl, rfl⟩

theorem BodyResult.settledLog_metadata (parsed : BodyResult) :
    parsed.settledLog.requestId = parsed.log.requestId ∧
      parsed.settledLog.model = parsed.log.model := by
  simp only [settledLog]
  split
  · exact ⟨rfl, rfl⟩
  · exact ⟨rfl, rfl⟩

theorem Completes.keepsKnown_iff {lib : Libraries} {result : HttpClientResult}
    {state : OaiCompletionState} (completes : Completes lib result state)
    (answered : Answered2xx result) {modelInfo : SharedPtr OaiModelInfo}
    (requested : state.modelInfo = some modelInfo) :
    BodyKeepsKnown lib.json result.response modelInfo.value.model state.log ↔
      (bodyText lib.json result.response.body "id" = some "" →
        headerRequestId result.response = "") ∧
      (bodyText lib.json result.response.body "model" = some "" →
        modelInfo.value.model = "") := by
  rcases completes.eq_deliver answered with ⟨capture, now, isState⟩
  have read := parseCompletionResponseBody_log lib.json result.response.body blankAssistant
    (responseLog capture now result.response) ""
  have settled :=
    (decodedResponse lib.json capture now result.response).settledLog_metadata
  have sameModelInfo : some capture.modelInfo = some modelInfo := by
    rw [← requested, isState]
    rfl
  cases sameModelInfo
  have requestId : state.log.requestId =
      ((bodyText lib.json result.response.body "id").map cStr).getD
        (headerRequestId result.response) := by
    rw [isState]
    exact settled.1.trans read.1
  have model : state.log.model =
      ((bodyText lib.json result.response.body "model").map cStr).getD
        capture.modelInfo.value.model := by
    rw [isState]
    exact settled.2.trans read.2
  rw [← keepsUnlessGiven_iff, ← keepsUnlessGiven_iff, ← requestId, ← model]
  constructor
  · intro keeps
    exact ⟨keeps.requestId, keeps.model⟩
  · intro keeps
    exact ⟨keeps.1, keeps.2⟩

/-! ## Both paths -/

/-- The delivered log keeps the metadata that was known exactly when no empty
text is given for it last: for a body, unless nothing was known; for a stream,
unless the last non-empty model is the requested one or none was given, and as
long as the texts kept have no NUL. -/
theorem knownMetadata_kept_iff (lib : Libraries) (state : OaiCompletionState)
    (modelInfo : SharedPtr OaiModelInfo) (requested : state.modelInfo = some modelInfo) :
    (∀ result, Completes lib result state → Answered2xx result →
      (BodyKeepsKnown lib.json result.response modelInfo.value.model state.log ↔
        (bodyText lib.json result.response.body "id" = some "" →
          headerRequestId result.response = "") ∧
        (bodyText lib.json result.response.body "model" = some "" →
          modelInfo.value.model = ""))) ∧
    (∀ results, Streams lib results state →
      (StreamKeepsKnown (processedPayloads lib results) modelInfo.value.model state.log ↔
        NulFree (firstKnown (givenIds (processedPayloads lib results))) ∧
        NotErased (givenModels (processedPayloads lib results)) modelInfo.value.model ∧
        NotErased (givenFinishReasons (processedPayloads lib results)) "")) := by
  constructor
  · intro result completes answered
    exact completes.keepsKnown_iff answered requested
  · intro results streams
    exact streams.keepsKnown_iff requested

/-- A provider that gives empty texts only where nothing is known yet, or where what
is known is not replaced. -/
def keptTexts : Libraries :=
  Reference.libraries
    [("1", .object [("id", .string ""),
        ("choices", .array [.object [("message", .object [("content", .string "hi")])]])]),
      ("2", .object [("id", .string "chatcmpl-1"), ("model", .string "")]),
      ("3", .object [("id", .string ""), ("model", .string "served-model"),
        ("choices", .array [.object [("finish_reason", .string "stop")]])])]

theorem notErased_of_last {texts : List String} {text fallback : String}
    (last : texts.getLast? = some text) (nonempty : text ≠ "") (free : NulFree text) :
    NotErased texts fallback where
  empty := by
    intro isEmpty
    rw [last, Option.some.injEq] at isEmpty
    exact absurd isEmpty nonempty
  whole := by
    intro other given _
    rw [last, Option.some.injEq] at given
    exact .inl (given ▸ free)

theorem knownMetadata_kept_iff_keptTexts :
    (∃ state, Completes keptTexts (withBody "1") state ∧
      BodyKeepsKnown keptTexts.json (withBody "1").response "unit-test-model" state.log) ∧
    ∃ state, Streams keptTexts (inOneChunk ["2", "3", "[DONE]"]) state ∧
      state.log.requestId = "chatcmpl-1" ∧ state.log.model = "served-model" ∧
      state.log.finishReason = "stop" := by
  constructor
  · rcases exists_completes (fun state => state.modelInfo)
      (by decide : (calledBack keptTexts (withBody "1")).map (List.map fun state =>
        state.modelInfo) = some [some Reference.modelInfo]) with ⟨state, completes, requested⟩
    refine ⟨state, completes, ((knownMetadata_kept_iff keptTexts state Reference.modelInfo
      requested).1 (withBody "1") completes ⟨rfl, rfl, rfl⟩).mpr ⟨fun _ => rfl, ?_⟩⟩
    intro given
    exact absurd given (by decide)
  · rcases exists_streams (fun state => state.modelInfo)
      (by decide : (handedOver keptTexts (inOneChunk ["2", "3", "[DONE]"])).map (List.map
        fun state => state.modelInfo) = some [some Reference.modelInfo]) with
      ⟨state, streams, requested⟩
    let payloads := processedPayloads keptTexts (inOneChunk ["2", "3", "[DONE]"])
    have models : NotErased (givenModels payloads) Reference.modelInfo.value.model :=
      notErased_of_last (by decide : _ = some "served-model") (by decide) (by decide)
    have finishReasons : NotErased (givenFinishReasons payloads) "" :=
      notErased_of_last (by decide : _ = some "stop") (by decide) (by decide)
    have keeps := ((knownMetadata_kept_iff keptTexts state Reference.modelInfo requested).2 _
      streams).mpr ⟨by decide, models, finishReasons⟩
    have values : firstKnown (givenIds payloads) = "chatcmpl-1" ∧
        lastKnown (givenModels payloads) Reference.modelInfo.value.model = "served-model" ∧
        lastKnown (givenFinishReasons payloads) "" = "stop" := by
      decide
    exact ⟨state, streams, keeps.requestId.trans values.1, keeps.model.trans values.2.1,
      keeps.finishReason.trans values.2.2⟩

/-- A provider whose body, and whose last payload, give empty texts. -/
def emptyTexts : Libraries :=
  Reference.libraries
    [("1", .object [("id", .string ""), ("model", .string ""),
        ("choices", .array [.object [("finish_reason", .string ""),
          ("message", .object [("content", .string "hi")])]])]),
      ("2", .object [("id", .string "chatcmpl-1"), ("model", .string "served-model"),
        ("choices", .array [.object [("finish_reason", .string "stop")]])])]

/-- A response with the body that gives empty texts and with a request id in its
header. -/
def headedResponse : HttpClientResult :=
  { response := { status := 200, fields := [⟨"X-Request-Id", "req-1"⟩], body := "1" } }

/-- Empty texts erase the request id of the header and the requested model of a
body, and the model and the finish reason of a stream. -/
theorem emptyTexts_erase :
    (∃ state, Completes emptyTexts headedResponse state ∧ Answered2xx headedResponse ∧
      state.modelInfo = some Reference.modelInfo ∧
      state.log.requestId = "" ∧ state.log.model = "" ∧
      ¬BodyKeepsKnown emptyTexts.json headedResponse.response "unit-test-model" state.log) ∧
    ∃ state, Streams emptyTexts (inOneChunk ["2", "1", "[DONE]"]) state ∧
      state.modelInfo = some Reference.modelInfo ∧
      state.log.model = "unit-test-model" ∧ state.log.finishReason = "" ∧
      ¬StreamKeepsKnown (processedPayloads emptyTexts (inOneChunk ["2", "1", "[DONE]"]))
        "unit-test-model" state.log := by
  constructor
  · rcases exists_completes
      (fun state => (state.modelInfo, state.log.requestId, state.log.model))
      (by decide : (calledBack emptyTexts headedResponse).map (List.map fun state =>
        (state.modelInfo, state.log.requestId, state.log.model)) =
          some [(some Reference.modelInfo, "", "")]) with ⟨state, completes, values⟩
    simp only [Prod.mk.injEq] at values
    refine ⟨state, completes, ⟨rfl, rfl, rfl⟩, values.1, values.2.1, values.2.2, ?_⟩
    intro keeps
    have requestId := keeps.requestId (by
      intro text given
      cases given
      rfl)
    rw [values.2.1] at requestId
    exact absurd requestId (by decide)
  · rcases exists_streams
      (fun state => (state.modelInfo, state.log.model, state.log.finishReason))
      (by decide : (handedOver emptyTexts (inOneChunk ["2", "1", "[DONE]"])).map
        (List.map fun state => (state.modelInfo, state.log.model, state.log.finishReason)) =
          some [(some Reference.modelInfo, "unit-test-model", "")]) with
      ⟨state, streams, values⟩
    simp only [Prod.mk.injEq] at values
    refine ⟨state, streams, values.1, values.2.1, values.2.2, ?_⟩
    intro keeps
    have model := keeps.model
    rw [values.2.1] at model
    exact absurd model (by decide)

end Boai.Completion
