import Boai.Completion.CompletionSteps
import Boai.Completion.StreamSteps
import Boai.Reference

/-!
# What is sent of the assembled request

Both entry points set fields of their own on the request they start a task with.
Apart from these, the stream call sends the fields of the assembled request and
the other call sends those of the freshly created task, whatever the assembler
added.
-/

namespace Boai.Completion

open Boai.Json

/-! ## Fields set by the entry points -/

/-- Names of the fields an entry point or the framing of the payload sets. -/
def isOwnField (name : String) : Bool :=
  ["Host", "Content-Type", "Accept", "Authorization", "OpenAI-Organization",
    "OpenAI-Project"].any (sameFieldName name) || isFramingField name

/-- The fields that no entry point sets itself. -/
def otherFields (request : HttpRequest) : List HttpField :=
  request.fields.filter fun field => !isOwnField field.name

/-- Names that differ in case only are alike for every comparison of names. -/
theorem isOwnField_congr {left right : String} (same : sameFieldName left right = true) :
    isOwnField left = isOwnField right := by
  have equal : left.toList.map Char.toLower = right.toList.map Char.toLower := by
    simpa [sameFieldName] using same
  simp only [isOwnField, isFramingField, List.any_cons, List.any_nil, sameFieldName, equal]

/-- Setting an own field leaves the other fields alone. -/
theorem otherFields_set {name : String} (own : isOwnField name = true)
    (request : HttpRequest) (value : String) :
    otherFields (request.set name value) = otherFields request := by
  simp only [otherFields, HttpRequest.set, List.filter_append, List.filter_filter]
  have setField : [HttpField.mk name value].filter (fun field => !isOwnField field.name) = [] := by
    simp [own]
  rw [setField, List.append_nil]
  apply List.filter_congr
  intro field _
  cases same : sameFieldName field.name name with
  | false => simp
  | true => simp [isOwnField_congr same, own]

theorem otherFields_setCredentials (info : OaiCompletionInfo) (request : HttpRequest) :
    otherFields (setCredentials info request) = otherFields request := by
  have authorization : isOwnField "Authorization" = true := by decide
  have organization : isOwnField "OpenAI-Organization" = true := by decide
  have project : isOwnField "OpenAI-Project" = true := by decide
  simp only [setCredentials]
  cases info.project <;> cases info.organization <;>
    simp only [otherFields_set project, otherFields_set organization]
  all_goals
    split
    · rfl
    · exact otherFields_set authorization _ _

theorem target_setCredentials (info : OaiCompletionInfo) (request : HttpRequest) :
    (setCredentials info request).target = request.target := by
  simp only [setCredentials]
  cases info.project <;> cases info.organization <;> simp only [HttpRequest.set]
  all_goals split <;> rfl

/-- Framing the payload leaves the other fields alone. -/
theorem otherFields_preparePayload {http : HttpLib} (frames : http.Frames)
    (request : HttpRequest) :
    otherFields (http.preparePayload request) = otherFields request := by
  have narrow : ∀ fields : List HttpField,
      fields.filter (fun field => !isOwnField field.name) =
        (fields.filter fun field => !isFramingField field.name).filter
          fun field => !isOwnField field.name := by
    intro fields
    rw [List.filter_filter]
    apply List.filter_congr
    intro field _
    cases framing : isFramingField field.name with
    | false => simp
    | true => simp [isOwnField, framing]
  simp only [otherFields]
  rw [narrow, frames.fields, ← narrow]

/-! ## The two requests -/

section Requests

variable {http : HttpLib}

theorem otherFields_completionRequest (frames : http.Frames) (capture : FetchCapture)
    (requestBody : String) (slot : StreamSlot) :
    otherFields (completionRequest http capture requestBody slot) =
      otherFields (http.freshRequest (completionTask http capture slot)) := by
  have host : isOwnField "Host" = true := by decide
  have contentType : isOwnField "Content-Type" = true := by decide
  have accept : isOwnField "Accept" = true := by decide
  simp only [completionRequest]
  rw [otherFields_preparePayload frames]
  apply (otherFields_setCredentials capture.info.value _).trans
  rw [otherFields_set accept, otherFields_set contentType, otherFields_set host]
  rfl

theorem otherFields_streamRequest (frames : http.Frames) (capture : FetchCapture)
    (requestBody : String) :
    otherFields (streamRequest http capture requestBody) =
      otherFields (capture.assembled http).request := by
  have contentType : isOwnField "Content-Type" = true := by decide
  have accept : isOwnField "Accept" = true := by decide
  simp only [streamRequest]
  rw [otherFields_preparePayload frames]
  apply (otherFields_setCredentials capture.info.value _).trans
  rw [otherFields_set accept, otherFields_set contentType]
  rfl

theorem target_completionRequest (frames : http.Frames) (capture : FetchCapture)
    (requestBody : String) (slot : StreamSlot) :
    (completionRequest http capture requestBody slot).target =
      (capture.assembled http).request.target := by
  simp only [completionRequest]
  rw [frames.target]
  exact target_setCredentials capture.info.value _

theorem target_streamRequest (frames : http.Frames) (capture : FetchCapture)
    (requestBody : String) :
    (streamRequest http capture requestBody).target =
      (capture.assembled http).request.target := by
  simp only [streamRequest]
  rw [frames.target]
  exact target_setCredentials capture.info.value _

/-- The assembled request depends on the provider info alone. -/
theorem assembled_congr {capture other : FetchCapture} (same : capture.info = other.info) :
    capture.assembled http = other.assembled http := by
  cases capture
  cases other
  cases same
  rfl

end Requests

/-! ## Requests started in a run -/

section Started

variable {lib : Libraries} {factory : OaiCompletionFactory} {heap : StateHeap}
  {args : FetchArgs} {capture : FetchCapture} {now : Int}

/-- A started completion request was built for the slot that was acquired. -/
theorem started_completion (checked : FetchCapture.check factory args = some capture)
    {cb : Bool} {inputs : List (Timed CompletionAnswer)} {session : CompletionSession}
    (ran : (completionMachine lib).run (fetchCompletion lib factory heap args cb now) inputs =
      some session) {request : HttpRequest} (sent : .start request ∈ session.issued) :
    ∃ requestBody slot, (∃ input ∈ inputs, input.answer = .acquire (.ok slot)) ∧
      request = completionRequest lib.http capture requestBody slot := by
  let invariant : CompletionSession → Prop := fun session =>
    (∀ other requestBody, session.captured = some (other, requestBody) → other = capture) ∧
      ∀ request, .start request ∈ session.issued →
        ∃ requestBody slot, (∃ input ∈ inputs, input.answer = .acquire (.ok slot)) ∧
          request = completionRequest lib.http capture requestBody slot
  have initial : invariant (fetchCompletion lib factory heap args cb now) := by
    have launch := completionLaunch lib factory heap args cb now
    generalize fetchCompletion lib factory heap args cb now = session at launch
    cases launch with
    | rejected | buildFailed => exact ⟨by simp, by simp⟩
    | acquiring otherChecked =>
        have same := Option.some.inj (otherChecked.symm.trans checked)
        constructor
        · intro other requestBody captured
          cases captured
          exact same
        · intro request started
          simp at started
  refine (StepMachine.run_invariant_of (· ∈ inputs) invariant ?_ (fun _ member => member)
    initial ran).2 request sent
  intro session input next member kept stepped
  have frame := CompletionSession.answer_frame stepped
  rcases completionStep_of_answer stepped with ⟨other, requestBody, captured, step⟩
  have same := kept.1 other requestBody captured
  subst same
  constructor
  · rw [frame.2]
    exact kept.1
  · generalize answerEq : input.answer = answer at step
    cases step with
    | acquireFailed | done => exact kept.2
    | acquired slot =>
        intro request started
        rcases List.mem_append.mp started with old | new
        · exact kept.2 request old
        · cases List.mem_singleton.mp new
          exact ⟨requestBody, slot, ⟨input, member, answerEq⟩, rfl⟩

/-- A started stream request was built from the assembled one. -/
theorem started_stream (checked : FetchCapture.check factory args = some capture)
    {onDone : Bool} {callbacks : DeltaCallbacks} {inputs : List (Timed StreamAnswer)}
    {session : StreamSession lib.sse}
    (ran : (streamMachine lib).run
      (fetchStreamCompletion lib factory heap args onDone callbacks now) inputs =
        some session) {request : HttpRequest} (sent : .start request ∈ session.issued) :
    ∃ requestBody, request = streamRequest lib.http capture requestBody := by
  let invariant : StreamSession lib.sse → Prop := fun session =>
    (∀ other, session.captured = some other → other.toFetchCapture = capture) ∧
      ∀ request, .start request ∈ session.issued →
        ∃ requestBody, request = streamRequest lib.http capture requestBody
  have initial :
      invariant (fetchStreamCompletion lib factory heap args onDone callbacks now) := by
    have launch := streamLaunch lib factory heap args onDone callbacks now
    generalize fetchStreamCompletion lib factory heap args onDone callbacks now = session
      at launch
    cases launch with
    | rejected | buildFailed => exact ⟨by simp, by simp⟩
    | acquiring otherChecked =>
        have same := Option.some.inj (otherChecked.symm.trans checked)
        constructor
        · intro other captured
          cases captured
          exact same
        · intro request started
          simp at started
  apply (StepMachine.run_invariant invariant _ initial ran).2 request sent
  intro session input next kept stepped
  have frame := StreamSession.answer_frame stepped
  rcases StreamSession.streamStep_of_answer stepped with ⟨other, captured, step⟩
  have same := kept.1 other captured
  constructor
  · rw [frame.2]
    exact kept.1
  · generalize input.answer = answer at step
    intro request started
    cases step with
    | acquireFailed => exact kept.2 request started
    | acquired slot =>
        rcases List.mem_append.mp started with old | new
        · exact kept.2 request old
        · cases List.mem_singleton.mp new
          exact ⟨other.requestBody, by rw [same]⟩
    | started result =>
        have earlier := StreamSession.start_mem_conclude started
        exact kept.2 request earlier
    | next result =>
        have earlier := StreamSession.start_mem_onNext started
        exact kept.2 request earlier
    | late result => exact kept.2 request (StreamSession.start_mem_onNext started)

end Started

/-- A sent request has the assembled target and every field the assembler put in,
own fields aside. -/
def SendsWhole (assembled sent : HttpRequest) : Prop :=
  sent.target = assembled.target ∧ ∀ field ∈ otherFields assembled, field ∈ sent.fields

theorem sendsWhole_of_otherFields {assembled sent : HttpRequest}
    (target : sent.target = assembled.target)
    (fields : otherFields sent = otherFields assembled) : SendsWhole assembled sent := by
  constructor
  · exact target
  · intro field member
    rw [← fields] at member
    exact List.mem_of_mem_filter member

/-- The requests that the two entry points start for the same provider info.  The
stream call sends the assembled request whole.  Both do, and send the same other
fields, if and only if the request of the freshly created task has, own fields
aside, exactly the fields of the assembled request. -/
theorem fetch_sendsWhole_iff (lib : Libraries) (frames : lib.http.Frames)
    (factory : OaiCompletionFactory) (heap streamHeap : StateHeap)
    (args streamArgs : FetchArgs) (capture streamCapture : FetchCapture)
    (checked : FetchCapture.check factory args = some capture)
    (streamChecked : FetchCapture.check factory streamArgs = some streamCapture)
    (cb onDone : Bool) (callbacks : DeltaCallbacks) (now streamNow : Int)
    (inputs : List (Timed CompletionAnswer)) (streamInputs : List (Timed StreamAnswer))
    (session : CompletionSession) (streamSession : StreamSession lib.sse)
    (ran : (completionMachine lib).run (fetchCompletion lib factory heap args cb now) inputs =
      some session)
    (streamRan : (streamMachine lib).run
      (fetchStreamCompletion lib factory streamHeap streamArgs onDone callbacks streamNow)
        streamInputs = some streamSession)
    (request streamed : HttpRequest) (sent : .start request ∈ session.issued)
    (streamSent : .start streamed ∈ streamSession.issued) :
    SendsWhole (capture.assembled lib.http).request streamed ∧
      ∃ slot, (∃ input ∈ inputs, input.answer = .acquire (.ok slot)) ∧
        ((SendsWhole (capture.assembled lib.http).request request ∧
            SendsWhole (capture.assembled lib.http).request streamed ∧
            otherFields request = otherFields streamed) ↔
          otherFields (lib.http.freshRequest (completionTask lib.http capture slot)) =
            otherFields (capture.assembled lib.http).request) := by
  rcases started_completion checked ran sent with ⟨requestBody, slot, acquired, rfl⟩
  rcases started_stream streamChecked streamRan streamSent with ⟨streamBody, rfl⟩
  have sameInfo : streamCapture.info = capture.info := by
    have left := (FetchCapture.check_eq_some streamChecked).2.2.1
    have right := (FetchCapture.check_eq_some checked).2.2.1
    exact Option.some.inj (left.symm.trans right)
  have sameAssembled : streamCapture.assembled lib.http = capture.assembled lib.http :=
    assembled_congr sameInfo
  have streamFields := otherFields_streamRequest frames streamCapture streamBody
  rw [sameAssembled] at streamFields
  have streamTarget := target_streamRequest frames streamCapture streamBody
  rw [sameAssembled] at streamTarget
  have whole := sendsWhole_of_otherFields streamTarget streamFields
  have fields := otherFields_completionRequest frames capture requestBody slot
  have target := target_completionRequest frames capture requestBody slot
  refine ⟨whole, slot, acquired, ?_⟩
  constructor
  · intro both
    rw [← fields, ← streamFields]
    exact both.2.2
  · intro same
    have sentFields := fields.trans same
    exact ⟨sendsWhole_of_otherFields target sentFields, whole,
      sentFields.trans streamFields.symm⟩

/-! ## Concrete calls -/

/-- The connection is established. -/
def connected : List (Timed CompletionAnswer) := [⟨1, .acquire (.ok (.tcp 3))⟩]

/-- The fields sent to the local provider when nothing else was assembled. -/
def ownRequest (target accept : String) : HttpRequest where
  method := .post
  target := target
  version := 11
  fields := [⟨"Host", "127.0.0.1"⟩, ⟨"Content-Type", "application/json"⟩, ⟨"Accept", accept⟩,
    ⟨"Authorization", "Bearer unit-test-key"⟩, ⟨"Content-Length", "0"⟩]

/-- What the handlers capture of a provider. -/
def captureOf (info : SharedPtr OaiCompletionInfo) : FetchCapture where
  info := info
  modelInfo := Reference.modelInfo
  state := 0
  tools := []

/-- On a direct connection nothing is lost. -/
theorem fetch_sendsWhole_iff_direct :
    SendsWhole ((captureOf Reference.info).assembled Reference.http).request
        (ownRequest "/chat/completions" "application/json") ∧
      SendsWhole ((captureOf Reference.info).assembled Reference.http).request
        (ownRequest "/chat/completions" "text/event-stream") := by
  have started : ((completionMachine Reference.twoPieces).run
      (fetchCompletion Reference.twoPieces Reference.factory Reference.heap Reference.args true 0)
      connected).map (fun session => decide
        (.start (ownRequest "/chat/completions" "application/json") ∈ session.issued)) =
        some true := by decide
  have streamStarted : ((streamMachine Reference.twoPieces).run
      (fetchStreamCompletion Reference.twoPieces Reference.factory Reference.heap Reference.args
        true Reference.bothCallbacks 0) Reference.opened).map (fun session => decide
          (.start (ownRequest "/chat/completions" "text/event-stream") ∈ session.issued)) =
        some true := by decide
  rcases Option.map_eq_some_iff.mp started with ⟨session, ran, sent⟩
  rcases Option.map_eq_some_iff.mp streamStarted with ⟨streamSession, streamRan, streamSent⟩
  rcases (fetch_sendsWhole_iff Reference.twoPieces Reference.http_frames Reference.factory
    Reference.heap Reference.heap Reference.args Reference.args (captureOf Reference.info)
    (captureOf Reference.info) rfl rfl true true Reference.bothCallbacks 0 0
    connected Reference.opened session streamSession ran streamRan _ _
    (of_decide_eq_true sent) (of_decide_eq_true streamSent)).2 with
    ⟨slot, ⟨input, member, answer⟩, whole⟩
  have onlySlot : slot = .tcp 3 := by
    rw [connected, List.mem_singleton] at member
    subst member
    cases answer
    rfl
  subst onlySlot
  have sends := whole.mpr (by decide)
  exact ⟨sends.1, sends.2.1⟩

/-- A provider behind a proxy that asks for credentials. -/
def proxied : SharedPtr OaiCompletionInfo :=
  ⟨1, { Reference.info.value with
    proxy := { host := "proxy", port := "3128", auth := "Basic dTpw" } }⟩

/-- `FetchCompletion` sends no credentials to the proxy, although the assembler
put them in. -/
theorem fetchCompletion_drops_proxyAuthorization :
    ∃ session,
      (completionMachine Reference.twoPieces).run
        (fetchCompletion Reference.twoPieces ⟨some proxied⟩ Reference.heap Reference.args true 0)
        connected = some session ∧
      .start (ownRequest "http://127.0.0.1:8080/chat/completions" "application/json") ∈
        session.issued ∧
      ⟨"Proxy-Authorization", "Basic dTpw"⟩ ∈
        otherFields ((captureOf proxied).assembled Reference.http).request ∧
      ¬SendsWhole ((captureOf proxied).assembled Reference.http).request
        (ownRequest "http://127.0.0.1:8080/chat/completions" "application/json") := by
  have started : ((completionMachine Reference.twoPieces).run
      (fetchCompletion Reference.twoPieces ⟨some proxied⟩ Reference.heap Reference.args true 0)
      connected).map (fun session => decide
        (.start (ownRequest "http://127.0.0.1:8080/chat/completions" "application/json") ∈
          session.issued)) = some true := by decide
  rcases Option.map_eq_some_iff.mp started with ⟨session, ran, sent⟩
  have assembled : HttpField.mk "Proxy-Authorization" "Basic dTpw" ∈
      otherFields ((captureOf proxied).assembled Reference.http).request := by decide
  refine ⟨session, ran, of_decide_eq_true sent, assembled, ?_⟩
  intro whole
  have absent := whole.2 _ assembled
  revert absent
  decide

end Boai.Completion
