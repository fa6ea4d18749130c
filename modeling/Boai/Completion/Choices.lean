import Boai.Completion.StreamResult

/-!
# Several alternatives in one stream

A provider that is asked for several alternatives labels the choice object of
each payload with the index of its alternative.  Both decoders take the first
element of `choices` and never read the label, so the payloads of all alternatives
are folded into one message.  What this means for a stream is compared here over
two calls: with the sub-stream of one alternative, and with relabelled payloads.
-/

namespace Boai.Completion

open Boai.Json KeyedFold

/-- The label of a payload with one choice object. -/
def choiceLabel (root : Members) : Option Int :=
  match ifContains root "choices" with
  | some (.array [.object choice]) =>
      match ifContains choice "index" with
      | some (.int64 label) => some label
      | _ => none
  | _ => none

/-- The payloads with a label. -/
def alternative (label : Int) (payloads : List Members) : List Members :=
  payloads.filter fun root => choiceLabel root = some label

/-- A payload that brings no text, no tool-call element and no finish reason. -/
structure Silent (root : Members) : Prop where
  content : payloadContent root = ""
  reasoning : payloadReasoning root = ""
  finishReason : payloadFinishReason root = none
  toolCalls : payloadToolCalls root = []

/-- Two payloads whose first choice objects differ in their labels only. -/
def Relabelled (root other : Members) : Prop :=
  ∃ choice otherChoice rest otherRest,
    ifContains root "choices" = some (.array (.object choice :: rest)) ∧
    ifContains other "choices" = some (.array (.object otherChoice :: otherRest)) ∧
    ∀ key, key ≠ "index" → ifContains choice key = ifContains otherChoice key

/-- Two delivered states with the same message and the same finish reason. -/
structure SameResult (state other : OaiCompletionState) : Prop where
  message : state.message = other.message
  finishReason : state.log.finishReason = other.log.finishReason

/-! ## Silent payloads -/

section Silent

variable {keep : Members → Bool} {payloads : List Members}

theorem flatMap_payloadToolCalls_filter
    (silent : ∀ root ∈ payloads, keep root = false → Silent root) :
    (payloads.filter keep).flatMap payloadToolCalls = payloads.flatMap payloadToolCalls := by
  induction payloads with
  | nil => rfl
  | cons root rest ih =>
      rw [List.forall_mem_cons] at silent
      rw [List.flatMap_cons, ← ih silent.2, List.filter_cons]
      cases kept : keep root with
      | true => rfl
      | false =>
          rw [(silent.1 kept).toolCalls]
          rfl

theorem lastFinishReason_filter (reason : String)
    (silent : ∀ root ∈ payloads, keep root = false → Silent root) :
    lastFinishReason reason (payloads.filter keep) = lastFinishReason reason payloads := by
  induction payloads generalizing reason with
  | nil => rfl
  | cons root rest ih =>
      rw [List.forall_mem_cons] at silent
      rw [lastFinishReason_cons, ← ih _ silent.2, List.filter_cons]
      cases kept : keep root with
      | true => rfl
      | false =>
          rw [(silent.1 kept).finishReason]
          rfl

/-- Silent payloads may be left out. -/
theorem messageOfPayloads_filter (json : JsonLib)
    (silent : ∀ root ∈ payloads, keep root = false → Silent root) :
    messageOfPayloads json (payloads.filter keep) = messageOfPayloads json payloads := by
  have content : String.join (payloads.map payloadContent) =
      String.join ((payloads.filter keep).map payloadContent) :=
    join_filter_eq_iff.mpr fun root member dropped => (silent root member dropped).content
  have reasoning : String.join (payloads.map payloadReasoning) =
      String.join ((payloads.filter keep).map payloadReasoning) :=
    join_filter_eq_iff.mpr fun root member dropped => (silent root member dropped).reasoning
  simp only [messageOfPayloads, content, reasoning, flatMap_payloadToolCalls_filter silent]

end Silent

/-! ## Relabelled payloads -/

section Relabelled

variable {root other : Members}

theorem payloadDelta_relabelled (relabelled : Relabelled root other) :
    payloadDelta root = payloadDelta other := by
  rcases relabelled with ⟨choice, otherChoice, rest, otherRest, choices, otherChoices, same⟩
  have delta := same "delta" (by decide)
  simp only [payloadDelta, tryGetStreamFirstChoiceObject, choices, otherChoices,
    Option.bind_some, tryGetStreamDeltaObject, delta]

theorem payloadFinishReason_relabelled (relabelled : Relabelled root other) :
    payloadFinishReason root = payloadFinishReason other := by
  rcases relabelled with ⟨choice, otherChoice, rest, otherRest, choices, otherChoices, same⟩
  have reason := same "finish_reason" (by decide)
  simp only [payloadFinishReason, tryGetStreamFirstChoiceObject, choices, otherChoices,
    Option.bind_some, jsonStringFromObjectField, reason]

/-- What is read from relabelled payloads is the same. -/
theorem map_relabelled {α : Type} {read : Members → α} {payloads others : List Members}
    (respects : ∀ root other, Relabelled root other → read root = read other)
    (relabelled : List.Forall₂ Relabelled payloads others) :
    payloads.map read = others.map read := by
  induction relabelled with
  | nil => rfl
  | cons here _ ih => rw [List.map_cons, List.map_cons, respects _ _ here, ih]

theorem messageOfPayloads_relabelled (json : JsonLib) {payloads others : List Members}
    (relabelled : List.Forall₂ Relabelled payloads others) :
    messageOfPayloads json payloads = messageOfPayloads json others := by
  have content : payloads.map payloadContent = others.map payloadContent := by
    apply map_relabelled _ relabelled
    intro root other same
    simp only [payloadContent, deltaText, payloadDelta_relabelled same]
  have reasoning : payloads.map payloadReasoning = others.map payloadReasoning := by
    apply map_relabelled _ relabelled
    intro root other same
    simp only [payloadReasoning, deltaText, payloadDelta_relabelled same]
  have toolCalls : payloads.map payloadToolCalls = others.map payloadToolCalls := by
    apply map_relabelled _ relabelled
    intro root other same
    simp only [payloadToolCalls, payloadDelta_relabelled same]
  simp only [messageOfPayloads, content, reasoning, List.flatMap_def, toolCalls]

theorem lastFinishReason_relabelled {payloads others : List Members}
    (relabelled : List.Forall₂ Relabelled payloads others) (reason : String) :
    lastFinishReason reason payloads = lastFinishReason reason others := by
  induction relabelled generalizing reason with
  | nil => rfl
  | cons here _ ih =>
      rw [lastFinishReason_cons, lastFinishReason_cons, payloadFinishReason_relabelled here]
      exact ih _

end Relabelled

/-! ## Bodies -/

/-- A body is decoded from the first element of its `choices`. -/
theorem parseCompletionResponseBody_firstChoice {json : JsonLib} {body other : String}
    {root otherRoot choice : Members} {rest otherRest : List JsonValue}
    (parsed : json.parse body = some (.object root))
    (choices : ifContains root "choices" = some (.array (.object choice :: rest)))
    (otherParsed : json.parse other = some (.object otherRoot))
    (otherChoices : ifContains otherRoot "choices" = some (.array (.object choice :: otherRest)))
    (message : OaiMessage) (log : OaiRequestLog) (error : String) :
    (parseCompletionResponseBody json body message log error).message =
        (parseCompletionResponseBody json other message log error).message ∧
      (parseCompletionResponseBody json body message log error).log.finishReason =
        (parseCompletionResponseBody json other message log error).log.finishReason := by
  simp only [parseCompletionResponseBody, parsed, otherParsed, extractResponseFirstChoiceObject,
    choices, otherChoices]
  cases extractResponseChoiceMessageObject choice with
  | error _ => exact ⟨rfl, rfl⟩
  | ok object => exact ⟨rfl, rfl⟩

/-- Labels are never read.  A stream gives the message and the finish reason of
its sub-stream labelled 0 when the payloads with other labels are silent, and
gives the texts of that sub-stream only when the others bring no text; relabelled
payloads give the same message and finish reason.  A body gives those of the first
element of its `choices`, whatever the others are. -/
theorem fetchStreamCompletion_choices (lib : Libraries) (ending otherEnding : Ending)
    (bytes otherBytes : String) (results others : List (Timed HttpSseClientResult))
    (carries : Carries ending bytes results)
    (otherCarries : Carries otherEnding otherBytes others)
    (state other : OaiCompletionState) (streams : Streams lib results state)
    (otherStreams : Streams lib others other) :
    (streamPayloads lib others = alternative 0 (streamPayloads lib results) →
      ((∀ root ∈ streamPayloads lib results, choiceLabel root ≠ some 0 → Silent root) →
        SameResult state other) ∧
      ((state.message.message = other.message.message ∧
          state.message.reasoning = other.message.reasoning) ↔
        ∀ root ∈ streamPayloads lib results, choiceLabel root ≠ some 0 →
          payloadContent root = "" ∧ payloadReasoning root = "")) ∧
    (List.Forall₂ Relabelled (streamPayloads lib results) (streamPayloads lib others) →
      SameResult state other) ∧
    (∀ body otherBody root otherRoot choice rest otherRest message log error,
      lib.json.parse body = some (.object root) →
      ifContains root "choices" = some (.array (.object choice :: rest)) →
      lib.json.parse otherBody = some (.object otherRoot) →
      ifContains otherRoot "choices" = some (.array (.object choice :: otherRest)) →
      (parseCompletionResponseBody lib.json body message log error).message =
          (parseCompletionResponseBody lib.json otherBody message log error).message ∧
        (parseCompletionResponseBody lib.json body message log error).log.finishReason =
          (parseCompletionResponseBody lib.json otherBody message log error).log.finishReason) := by
  have result := streams.result carries
  have otherResult := otherStreams.result otherCarries
  constructor
  · intro substream
    rw [substream] at otherResult
    constructor
    · intro silent
      have dropped : ∀ root ∈ streamPayloads lib results,
          decide (choiceLabel root = some 0) = false → Silent root :=
        fun root member notZero => silent root member (of_decide_eq_false notZero)
      constructor
      · rw [result.1, otherResult.1]
        exact (messageOfPayloads_filter lib.json dropped).symm
      · rw [result.2, otherResult.2]
        exact (lastFinishReason_filter "" dropped).symm
    · rw [result.1, otherResult.1]
      simp only [messageOfPayloads, alternative, join_filter_eq_iff, decide_eq_false_iff_not]
      constructor
      · intro both root member notZero
        exact ⟨both.1 root member notZero, both.2 root member notZero⟩
      · intro noText
        exact ⟨fun root member notZero => (noText root member notZero).1,
          fun root member notZero => (noText root member notZero).2⟩
  · constructor
    · intro relabelled
      constructor
      · rw [result.1, otherResult.1, messageOfPayloads_relabelled lib.json relabelled]
      · rw [result.2, otherResult.2, lastFinishReason_relabelled relabelled]
    · intro body otherBody root otherRoot choice rest otherRest message log error parsed choices
        otherParsed otherChoices
      exact parseCompletionResponseBody_firstChoice parsed choices otherParsed otherChoices
        message log error

/-- A payload with one choice object, as a provider labels it. -/
def choicePayload (label : Int) (delta : Members) : JsonValue :=
  .object [("choices", .array [.object [("index", .int64 label), ("delta", .object delta)]])]

/-- A payload of the first alternative, and two of the second. -/
def twoAlternatives : Libraries :=
  Reference.libraries
    [("1", choicePayload 0 [("content", .string "a")]),
      ("2", choicePayload 1 [("content", .string "b")]),
      ("3", choicePayload 1 [])]

theorem fetchStreamCompletion_choices_silent :
    ∃ state other, Streams twoAlternatives (inOneChunk ["3", "1"]) state ∧
      Streams twoAlternatives (inOneChunk ["1"]) other ∧ SameResult state other := by
  rcases exists_streams (fun state => state.message.message)
    (by decide : (handedOver twoAlternatives (inOneChunk ["3", "1"])).map
      (List.map fun state => state.message.message) = some ["a"]) with ⟨state, streams, _⟩
  rcases exists_streams (fun state => state.message.message)
    (by decide : (handedOver twoAlternatives (inOneChunk ["1"])).map
      (List.map fun state => state.message.message) = some ["a"]) with ⟨other, otherStreams, _⟩
  have compared := fetchStreamCompletion_choices twoAlternatives .eof .eof _ _ _ _
    (carries_inOneChunk ["3", "1"]) (carries_inOneChunk ["1"]) state other streams otherStreams
  have silent : ∀ root ∈ streamPayloads twoAlternatives (inOneChunk ["3", "1"]),
      choiceLabel root ≠ some 0 → payloadContent root = "" ∧ payloadReasoning root = "" ∧
        payloadFinishReason root = none ∧ payloadToolCalls root = [] := by
    decide
  exact ⟨state, other, streams, otherStreams,
    (compared.1 (by decide)).1 fun root member notZero =>
      have quiet := silent root member notZero
      ⟨quiet.1, quiet.2.1, quiet.2.2.1, quiet.2.2.2⟩⟩

/-- A stream of two alternatives delivers the text of both, while its sub-stream
labelled 0 delivers the text of the first. -/
theorem alternatives_mixed :
    (streamPayloads twoAlternatives (inOneChunk ["1", "2"])).map choiceLabel =
        [some 0, some 1] ∧
      streamPayloads twoAlternatives (inOneChunk ["1"]) =
        alternative 0 (streamPayloads twoAlternatives (inOneChunk ["1", "2"])) ∧
      ∃ state other, Streams twoAlternatives (inOneChunk ["1", "2"]) state ∧
        Streams twoAlternatives (inOneChunk ["1"]) other ∧
        state.message.message = "ab" ∧ other.message.message = "a" := by
  constructor
  · decide
  · constructor
    · decide
    · rcases exists_streams (fun state => state.message.message)
        (by decide : (handedOver twoAlternatives (inOneChunk ["1", "2"])).map
          (List.map fun state => state.message.message) = some ["ab"]) with
        ⟨state, streams, both⟩
      rcases exists_streams (fun state => state.message.message)
        (by decide : (handedOver twoAlternatives (inOneChunk ["1"])).map
          (List.map fun state => state.message.message) = some ["a"]) with
        ⟨other, otherStreams, first⟩
      exact ⟨state, other, streams, otherStreams, both, first⟩

end Boai.Completion
