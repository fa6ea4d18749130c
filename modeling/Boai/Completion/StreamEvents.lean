import Boai.Completion.FetchStream

/-!
# What one event and one event loop do

`EventStep` lists the exits of `ProcessStreamEventData`.  Everything proved
about streams goes through it, through the invariant rule for the event loop and
through the law that splits the loop over two lists of events.
-/

namespace Boai.Completion

open Boai.Json

variable {json : JsonLib} {callbacks : DeltaCallbacks}

/-- A non-empty text other than `[DONE]`. -/
structure IsPayload (data : String) : Prop where
  nonempty : data ≠ ""
  not_done : data ≠ "[DONE]"

/-- Data of an event at which processing stops. -/
def Stops (json : JsonLib) (data : String) : Prop :=
  data = "[DONE]" ∨ (data ≠ "" ∧ ∀ root, json.parse data ≠ some (.object root))

/-- The error text of an invalid payload. -/
def invalidPayload : String := "invalid stream delta JSON payload"

/-- An accepted payload touches the metadata and the tool calls of the aggregate
only. -/
theorem applyStreamDeltaPayload_frame {payload : String} {agg : StreamAggregate}
    {result : DeltaResult}
    (applied : applyStreamDeltaPayload json payload agg = .ok result) :
    result.agg = { agg with
      requestId := result.agg.requestId
      model := result.agg.model
      finishReason := result.agg.finishReason
      toolCalls := result.agg.toolCalls } := by
  unfold applyStreamDeltaPayload at applied
  split at applied
  next root parsed =>
    simp only at applied
    cases choiceFound : tryGetStreamFirstChoiceObject root with
    | none =>
        simp only [choiceFound, Except.ok.injEq] at applied
        subst applied
        rfl
    | some choice =>
        simp only [choiceFound] at applied
        cases deltaFound : tryGetStreamDeltaObject choice with
        | none =>
            simp only [deltaFound, Except.ok.injEq] at applied
            subst applied
            rfl
        | some delta =>
            simp only [deltaFound, Except.ok.injEq] at applied
            subst applied
            rfl
  next => cases applied

/-- A payload is accepted when it parses to an object. -/
theorem applyStreamDeltaPayload_of_object {payload : String} {root : Members}
    (agg : StreamAggregate) (parsed : json.parse payload = some (.object root)) :
    ∃ result, applyStreamDeltaPayload json payload agg = .ok result := by
  simp only [applyStreamDeltaPayload, parsed]
  split
  · exact ⟨_, rfl⟩
  · split
    · exact ⟨_, rfl⟩
    · exact ⟨_, rfl⟩

theorem applyStreamDeltaPayload_of_invalid {payload : String} (agg : StreamAggregate)
    (invalid : ∀ root, json.parse payload ≠ some (.object root)) :
    applyStreamDeltaPayload json payload agg = .error invalidPayload := by
  unfold applyStreamDeltaPayload
  split
  next root parsed => exact absurd parsed (invalid root)
  next => rfl

/-- The aggregate after an accepted payload whose outputs are `result`. -/
def DeltaResult.appended (result : DeltaResult) : StreamAggregate :=
  { result.agg with
    accumulatedReasoning := result.agg.accumulatedReasoning ++ result.reasoningDelta
    accumulatedMessage := result.agg.accumulatedMessage ++ result.delta }

/-- The calls made for an accepted payload, the reasoning first. -/
def DeltaResult.calls (result : DeltaResult) (callbacks : DeltaCallbacks) :
    List StreamCallback :=
  reportDelta callbacks.onReasoningDelta .onReasoningDelta result.reasoningDelta ++
    reportDelta callbacks.onDelta .onDelta result.delta

/-- `++agg->delta_count`. -/
def StreamAggregate.counted (agg : StreamAggregate) : StreamAggregate :=
  { agg with deltaCount := agg.deltaCount + 1 }

/-- The exits of `ProcessStreamEventData`. -/
inductive EventStep (json : JsonLib) (callbacks : DeltaCallbacks) (data : String)
    (agg : StreamAggregate) : EventResult → Prop where
  | empty (isEmpty : data = "") :
      EventStep json callbacks data agg { action := .kContinue, agg }
  | done (isDone : data = "[DONE]") :
      EventStep json callbacks data agg { action := .kDone, agg }
  | invalid (payload : IsPayload data)
      (invalid : ∀ root, json.parse data ≠ some (.object root)) :
      EventStep json callbacks data agg
        { action := .kFail, agg := agg.counted, error := invalidPayload }
  | delta (payload : IsPayload data) {root : Members}
      (parsed : json.parse data = some (.object root)) {result : DeltaResult}
      (applied : applyStreamDeltaPayload json data agg.counted = .ok result) :
      EventStep json callbacks data agg
        { action := .kContinue, agg := result.appended, calls := result.calls callbacks }

theorem processStreamEventData_step (json : JsonLib) (callbacks : DeltaCallbacks)
    (data : String) (agg : StreamAggregate) :
    EventStep json callbacks data agg (processStreamEventData json callbacks data agg) := by
  simp only [processStreamEventData]
  split
  next isEmpty => exact .empty isEmpty
  next nonempty =>
    split
    next isDone => exact .done isDone
    next notDone =>
      have payload : IsPayload data := ⟨nonempty, notDone⟩
      by_cases object : ∃ root, json.parse data = some (.object root)
      · rcases object with ⟨root, parsed⟩
        rcases applyStreamDeltaPayload_of_object agg.counted parsed with ⟨result, applied⟩
        have unfolded := applied
        simp only [StreamAggregate.counted] at unfolded
        simp only [unfolded]
        exact .delta payload parsed applied
      · have invalid : ∀ root, json.parse data ≠ some (.object root) := by
          intro root parsed
          exact object ⟨root, parsed⟩
        have unfolded := applyStreamDeltaPayload_of_invalid agg.counted invalid
        simp only [StreamAggregate.counted] at unfolded
        simp only [unfolded]
        exact .invalid payload invalid

/-- A rule of the loop: what one event preserves, the loop preserves. -/
theorem processEvents_invariant
    (invariant : StreamAggregate → List StreamCallback → Prop)
    (preserved : ∀ data agg calls result, invariant agg calls →
      EventStep json callbacks data agg result →
      invariant result.agg (calls ++ result.calls))
    {agg : StreamAggregate} (calls : List StreamCallback) (events : List SseEvent)
    (initial : invariant agg calls) :
    invariant (processEvents json callbacks events agg).agg
      (calls ++ (processEvents json callbacks events agg).calls) := by
  induction events generalizing agg calls with
  | nil => simpa [processEvents] using initial
  | cons event rest ih =>
      have kept := preserved event.data agg calls _ initial
        (processStreamEventData_step json callbacks event.data agg)
      simp only [processEvents]
      split
      · exact kept
      · exact kept
      · simpa [List.append_assoc] using ih _ kept

/-- Go on after a loop that was not stopped. -/
def LoopResult.andThen (first : LoopResult) (next : StreamAggregate → LoopResult) :
    LoopResult :=
  match first.stop with
  | some _ => first
  | none => { next first.agg with calls := first.calls ++ (next first.agg).calls }

/-- The loop over two lists of events goes on with the second list exactly when
no event of the first one stopped it. -/
theorem processEvents_append (left right : List SseEvent) (agg : StreamAggregate) :
    processEvents json callbacks (left ++ right) agg =
      (processEvents json callbacks left agg).andThen (processEvents json callbacks right) := by
  induction left generalizing agg with
  | nil => simp [processEvents, LoopResult.andThen]
  | cons event rest ih =>
      simp only [List.cons_append, processEvents]
      generalize processStreamEventData json callbacks event.data agg = result
      rcases result with ⟨action, agg, calls, error⟩
      cases action with
      | kDone => rfl
      | kFail => rfl
      | kContinue =>
          simp only [ih]
          generalize processEvents json callbacks rest agg = first
          rcases first with ⟨middle, made, stop⟩
          cases stop with
          | some stopped => rfl
          | none => simp only [LoopResult.andThen, List.append_assoc]

/-- What the loop hands to `finish`: success without a text, or failure with
one. -/
theorem processEvents_stop {events : List SseEvent} {agg : StreamAggregate}
    {success : Bool} {error : String}
    (stopped : (processEvents json callbacks events agg).stop = some (success, error)) :
    (success = true ∧ error = "") ∨ (success = false ∧ error = invalidPayload) := by
  induction events generalizing agg with
  | nil => simp [processEvents] at stopped
  | cons event rest ih =>
      have step :=
        processStreamEventData_step json callbacks event.data agg
      simp only [processEvents] at stopped
      generalize processStreamEventData json callbacks event.data agg = result
        at step stopped
      cases step with
      | empty => exact ih stopped
      | done =>
          simp only [Option.some.injEq, Prod.mk.injEq] at stopped
          exact .inl ⟨stopped.1.symm, stopped.2.symm⟩
      | invalid =>
          simp only [Option.some.injEq, Prod.mk.injEq] at stopped
          exact .inr ⟨stopped.1.symm, stopped.2.symm⟩
      | delta => exact ih stopped

/-- The loop stops if and only if one of its events is a stopping one. -/
theorem processEvents_stop_isSome_iff (json : JsonLib) (callbacks : DeltaCallbacks)
    (events : List SseEvent) (agg : StreamAggregate) :
    (processEvents json callbacks events agg).stop.isSome ↔
      ∃ event ∈ events, Stops json event.data := by
  induction events generalizing agg with
  | nil => simp [processEvents]
  | cons event rest ih =>
      have step :=
        processStreamEventData_step json callbacks event.data agg
      simp only [processEvents, List.mem_cons, exists_eq_or_imp]
      generalize processStreamEventData json callbacks event.data agg = result at step
      cases step with
      | empty isEmpty =>
          have goesOn : ¬Stops json event.data := by
            rintro (isDone | ⟨nonempty, _⟩)
            · simp [isEmpty] at isDone
            · exact nonempty isEmpty
          simp only [goesOn, false_or]
          exact ih agg
      | done isDone => simp [Stops, isDone]
      | invalid payload invalid => simp [Stops, payload.nonempty, invalid]
      | @delta payload root parsed result applied =>
          have goesOn : ¬Stops json event.data := by
            rintro (isDone | ⟨_, invalid⟩)
            · exact payload.not_done isDone
            · exact invalid root parsed
          simp only [goesOn, false_or]
          exact ih result.appended

/-! ## Traces -/

@[simp] theorem delivered_append (left right : List StreamCallback) :
    delivered (left ++ right) = delivered left ++ delivered right :=
  List.filterMap_append

@[simp] theorem deltas_append (left right : List StreamCallback) :
    deltas (left ++ right) = deltas left ++ deltas right :=
  List.filterMap_append

@[simp] theorem reasoningDeltas_append (left right : List StreamCallback) :
    reasoningDeltas (left ++ right) = reasoningDeltas left ++ reasoningDeltas right :=
  List.filterMap_append

@[simp] theorem delivered_nil : delivered [] = [] := rfl
@[simp] theorem delivered_onDone (state : OaiCompletionState) :
    delivered [.onDone state] = [state] := rfl
@[simp] theorem deltas_onDone (state : OaiCompletionState) :
    deltas [.onDone state] = [] := rfl
@[simp] theorem reasoningDeltas_onDone (state : OaiCompletionState) :
    reasoningDeltas [.onDone state] = [] := rfl

theorem mem_delivered {calls : List StreamCallback} {state : OaiCompletionState} :
    state ∈ delivered calls ↔ .onDone state ∈ calls := by
  simp only [delivered, List.mem_filterMap]
  constructor
  · rintro ⟨callback, member, found⟩
    cases callback with
    | onDone other =>
        cases found
        exact member
    | onDelta | onReasoningDelta => cases found
  · intro member
    exact ⟨_, member, rfl⟩

/-- Processing an event never calls `on_done`. -/
theorem EventStep.delivered_calls {data : String} {agg : StreamAggregate}
    {result : EventResult} (step : EventStep json callbacks data agg result) :
    delivered result.calls = [] := by
  cases step with
  | empty | done | invalid => rfl
  | delta =>
      simp only [DeltaResult.calls, reportDelta, delivered_append, List.append_eq_nil_iff]
      constructor <;> split <;> rfl

/-- What processing an event never touches. -/
theorem EventStep.frame {data : String} {agg : StreamAggregate} {result : EventResult}
    (step : EventStep json callbacks data agg result) :
    result.agg.done = agg.done ∧ result.agg.httpStatusCode = agg.httpStatusCode ∧
      result.agg.errorMessage = agg.errorMessage := by
  cases step with
  | empty | done | invalid => exact ⟨rfl, rfl, rfl⟩
  | delta _ _ applied =>
      simp only [DeltaResult.appended]
      rw [applyStreamDeltaPayload_frame applied]
      exact ⟨rfl, rfl, rfl⟩

theorem delivered_processEvents (events : List SseEvent) (agg : StreamAggregate) :
    delivered (processEvents json callbacks events agg).calls = [] := by
  refine processEvents_invariant (fun _ calls => delivered calls = []) ?_ [] events rfl
  intro data agg calls result none step
  rw [delivered_append, none, step.delivered_calls, List.append_nil]

theorem processEvents_frame (json : JsonLib) (callbacks : DeltaCallbacks)
    (events : List SseEvent) (agg : StreamAggregate) :
    (processEvents json callbacks events agg).agg.done = agg.done ∧
      (processEvents json callbacks events agg).agg.httpStatusCode = agg.httpStatusCode ∧
      (processEvents json callbacks events agg).agg.errorMessage = agg.errorMessage :=
  processEvents_invariant
    (fun other _ => other.done = agg.done ∧
      other.httpStatusCode = agg.httpStatusCode ∧ other.errorMessage = agg.errorMessage)
    (by
      intro data other calls result same step
      have kept := step.frame
      exact ⟨kept.1.trans same.1, kept.2.1.trans same.2.1, kept.2.2.trans same.2.2⟩)
    [] events ⟨rfl, rfl, rfl⟩

end Boai.Completion
