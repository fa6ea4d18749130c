import Boai.Json.Schema
import Boai.DeepseekDemo.ToolResults

/-!
# The schemas of the tools

Every request offers the tools with a schema for their arguments.  Arguments that
keep to the schema pass all the checks that a handler makes of their shape, so what
is left to fail are values: a zero divisor, a fraction, reversed bounds, the clock.
-/

namespace Boai.DeepseekDemo

open Boai.Json Boai.Json.Schema Boai.Completion

/-! ## Admitted values -/

@[simp] theorem admits_typed (type : String) (value : JsonValue) :
    admits (typed type) value = hasType type value := by
  simp [typed, admits, admitsAll, admitsKeyword]

theorem admits_oneOf {choices : List String} {value : JsonValue} :
    admits (oneOf choices) value = true ↔ ∃ choice ∈ choices, value = .string choice := by
  cases value <;> simp [oneOf, admits, admitsAll, admitsKeyword, hasType]

/-- Arguments that keep to the parameters of a tool. -/
theorem admits_parameters {properties : Members} {required : List String} {value : JsonValue} :
    admits (toValue (parameters properties required)) value = true ↔
      ∃ args, value = .object args ∧
        (∀ property ∈ properties, ∀ field, ifContains args property.1 = some field →
          admits property.2 field = true) ∧
        ∀ name ∈ required, (ifContains args name).isSome = true := by
  have entries : (parameters properties required).entries =
      [("type", .string "object"), ("properties", .object properties)] ++
        if required = [] then [] else [("required", .array (required.map .string))] := by
    rw [parameters]
    split <;> rfl
  rw [toValue, entries, admits]
  cases value with
  | object args =>
      by_cases none : required = []
      · simp [none, admitsAll, admitsKeyword, hasType, admitsProperties_object]
      · simp [none, admitsAll, admitsKeyword, hasType, hasMembers, admitsProperties_object]
  | null | bool | int64 | uint64 | double | string | array =>
      simp [admitsAll, admitsKeyword, hasType]

/-- A member of a choice is read as that choice. -/
theorem stringField_of_oneOf {args : Members} {key : String} {choices : List String}
    (kept : ∀ field, ifContains args key = some field → admits (oneOf choices) field = true)
    (plain : ∀ choice ∈ choices, cStr choice = choice) :
    ifContains args key = none ∨
      ∃ choice ∈ choices, jsonStringField args key = some choice := by
  cases found : ifContains args key with
  | none => exact .inl rfl
  | some field =>
      rcases admits_oneOf.mp (kept field found) with ⟨choice, member, rfl⟩
      refine .inr ⟨choice, member, ?_⟩
      simp only [jsonStringField, jsonStringFromObjectField, found, plain choice member]

theorem numberField_of_typed {args : Members} {key : String}
    (present : (ifContains args key).isSome = true)
    (kept : ∀ field, ifContains args key = some field → admits (typed "number") field = true) :
    ∃ number, jsonNumberField args key = some number := by
  rcases Option.isSome_iff_exists.mp present with ⟨field, found⟩
  have isNumber := kept field found
  rw [admits_typed] at isNumber
  cases field with
  | int64 | uint64 | double => exact ⟨_, by rw [jsonNumberField, found]⟩
  | null | bool | string | array | object => simp [hasType] at isNumber

theorem stringField_of_typed {args : Members} {key : String}
    (present : (ifContains args key).isSome = true)
    (kept : ∀ field, ifContains args key = some field → admits (typed "string") field = true) :
    ∃ text, jsonStringField args key = some text := by
  rcases Option.isSome_iff_exists.mp present with ⟨field, found⟩
  have isString := kept field found
  rw [admits_typed] at isString
  cases field with
  | string text => exact ⟨_, by rw [jsonStringField, jsonStringFromObjectField, found]⟩
  | null | bool | int64 | uint64 | double | array | object => simp [hasType] at isString

/-! ## Handlers -/

/-- What a tool may refuse in arguments that keep to its schema, by its name. -/
inductive Refuses (host : Host) (args : Members) : (name error : String) → Prop where
  | noTime {utc : Bool} (unformatted : host.calendarTime utc host.now = none) :
      Refuses host args "get_current_time" "failed to format current time"
  | divisionByZero {divisor : Float.Model}
      (op : jsonStringField args "op" = some "divide")
      (rhs : jsonNumberField args "rhs" = some divisor) (small : divisor.abs < pico) :
      Refuses host args "calculate" "division by zero"
  | modByZero (op : jsonStringField args "op" = some "mod")
      (zero : jsonIntField args "rhs" = some (some 0)) :
      Refuses host args "calculate" "mod by zero"
  | modOfFraction (op : jsonStringField args "op" = some "mod")
      (fraction : jsonIntField args "lhs" = some none ∨ jsonIntField args "rhs" = some none) :
      Refuses host args "calculate" "mod requires integer lhs and rhs"
  | reversed {lower upper : Option Int} (min : jsonIntField args "min" = some lower)
      (max : jsonIntField args "max" = some upper) (above : upper.getD 100 < lower.getD 0) :
      Refuses host args "random_number" "min must be <= max"

/-- A handler succeeds or refuses. -/
def Answers (host : Host) (args : Members) (name : String) (result : HandlerResult) : Prop :=
  result.error = "" ∨ Refuses host args name result.error

theorem answers_currentTimeTool {host : Host} {args : Members} {result : HandlerResult}
    (kept : ∀ field, ifContains args "clock" = some field →
      admits (oneOf ["local", "utc"]) field = true)
    (ran : runCurrentTimeTool host (.object args) = some result) :
    Answers host args "get_current_time" result := by
  have mode : (jsonStringField args "clock").getD "local" ∈ ["local", "utc"] := by
    rcases stringField_of_oneOf kept (by decide) with absent | ⟨choice, member, isChoice⟩
    · simp [jsonStringFromObjectField, absent]
    · rw [isChoice]
      exact member
  simp only [runCurrentTimeTool, withObjectArgs] at ran
  generalize (jsonStringField args "clock").getD "local" = chosen at mode ran
  split at ran
  next other =>
    simp only [List.mem_cons, List.not_mem_nil, or_false] at mode
    rcases mode with rfl | rfl <;> simp at other
  next =>
    split at ran
    next unformatted =>
      cases ran
      exact .inr (.noTime unformatted)
    next =>
      cases ran
      exact .inl rfl

theorem answers_runMod {host : Host} {args : Members} {result : HandlerResult}
    (op : jsonStringField args "op" = some "mod") (ran : runMod args = some result) :
    Answers host args "calculate" result := by
  rw [runMod] at ran
  rcases Option.bind_eq_some_iff.mp ran with ⟨lhs, isLhs, ran⟩
  rcases Option.bind_eq_some_iff.mp ran with ⟨rhs, isRhs, ran⟩
  split at ran
  next left right =>
    split at ran
    next zero =>
      cases ran
      rw [zero] at isRhs
      exact .inr (.modByZero op isRhs)
    next =>
      rcases Option.bind_eq_some_iff.mp ran with ⟨value, _, ran⟩
      cases ran
      exact .inl rfl
  next fraction =>
    cases ran
    refine .inr (.modOfFraction op ?_)
    cases lhs with
    | none => exact .inl isLhs
    | some left =>
        cases rhs with
        | none => exact .inr isRhs
        | some right => exact absurd rfl (fraction left right rfl)

theorem answers_calculatorTool {host : Host} {args : Members} {result : HandlerResult}
    (kept : ∀ property ∈ [("lhs", typed "number"), ("rhs", typed "number"),
      ("op", oneOf ["add", "subtract", "multiply", "divide", "power", "mod"])],
      ∀ field, ifContains args property.1 = some field → admits property.2 field = true)
    (present : ∀ name ∈ ["lhs", "rhs", "op"], (ifContains args name).isSome = true)
    (ran : runCalculatorTool host (.object args) = some result) :
    Answers host args "calculate" result := by
  simp only [List.forall_mem_cons] at kept present
  rcases numberField_of_typed present.1 kept.1 with ⟨lhs, isLhs⟩
  rcases numberField_of_typed present.2.1 kept.2.1 with ⟨rhs, isRhs⟩
  rcases stringField_of_oneOf kept.2.2.1 (by decide) with absent | ⟨op, member, isOp⟩
  · rw [absent] at present
    cases present.2.2.1
  · simp only [runCalculatorTool, withObjectArgs, isLhs, isRhs, isOp] at ran
    simp only [List.mem_cons, List.not_mem_nil, or_false] at member
    rcases member with rfl | rfl | rfl | rfl | rfl | rfl <;>
      simp only [String.reduceEq, ↓reduceIte] at ran
    · cases ran
      exact .inl rfl
    · cases ran
      exact .inl rfl
    · cases ran
      exact .inl rfl
    · split at ran
      next small =>
        cases ran
        exact .inr (.divisionByZero isOp isRhs small)
      next =>
        cases ran
        exact .inl rfl
    · cases ran
      exact .inl rfl
    · exact answers_runMod isOp ran

theorem answers_randomNumberTool {host : Host} {args : Members} {result : HandlerResult}
    (ran : runRandomNumberTool host (.object args) = some result) :
    Answers host args "random_number" result := by
  simp only [runRandomNumberTool, withObjectArgs] at ran
  rcases Option.bind_eq_some_iff.mp ran with ⟨lower, isLower, ran⟩
  rcases Option.bind_eq_some_iff.mp ran with ⟨upper, isUpper, ran⟩
  split at ran
  next above =>
    cases ran
    exact .inr (.reversed isLower isUpper above)
  next =>
    cases ran
    exact .inl rfl

theorem answers_textStatsTool {host : Host} {args : Members} {result : HandlerResult}
    (kept : ∀ field, ifContains args "text" = some field → admits (typed "string") field = true)
    (present : (ifContains args "text").isSome = true)
    (ran : runTextStatsTool host (.object args) = some result) :
    Answers host args "text_stats" result := by
  rcases stringField_of_typed present kept with ⟨text, isText⟩
  simp only [runTextStatsTool, withObjectArgs, isText] at ran
  cases ran
  exact .inl rfl

theorem answers_entry {entry : ToolEntry} (member : entry ∈ demoRegistry.entries) {host : Host}
    {args : Members} {result : HandlerResult}
    (kept : admits (toValue entry.definition.parameters) (.object args) = true)
    (ran : entry.handler host (.object args) = some result) :
    Answers host args entry.definition.name result := by
  simp only [demoRegistry, List.mem_cons, List.not_mem_nil, or_false] at member
  rcases member with rfl | rfl | rfl | rfl | rfl <;>
    rcases admits_parameters.mp kept with ⟨_, isArgs, properties, present⟩ <;> cases isArgs
  · exact answers_currentTimeTool (properties _ List.mem_cons_self) ran
  · exact answers_calculatorTool properties present ran
  · exact answers_randomNumberTool ran
  · exact answers_textStatsTool (properties _ List.mem_cons_self)
      (present _ List.mem_cons_self) ran
  · cases ran
    exact .inl rfl

theorem object_of_admits {entry : ToolEntry} (member : entry ∈ demoRegistry.entries)
    {value : JsonValue} (kept : admits (toValue entry.definition.parameters) value = true) :
    ∃ args, value = .object args := by
  simp only [demoRegistry, List.mem_cons, List.not_mem_nil, or_false] at member
  rcases member with rfl | rfl | rfl | rfl | rfl <;>
    rcases admits_parameters.mp kept with ⟨args, isArgs, _⟩ <;> exact ⟨args, isArgs⟩

/-- The schemas that the requests offer say what the handlers check: a call of a
tool whose arguments keep to the schema of that tool is never refused for the shape
of its arguments.  If it has a result at all, that is an output or one of the
errors about values. -/
theorem schemas_cover_checks (host : Host) (call : OaiToolCall) (entry : ToolEntry)
    (member : entry ∈ demoRegistry.entries) (named : entry.definition.name = call.name)
    (kept : admits (toValue entry.definition.parameters) call.arguments = true)
    (result : JsonObject) (ran : demoRegistry.execute host call = some result) :
    ∃ args, call.arguments = .object args ∧
      ((∃ output, result = makeToolEnvelope call.name call.arguments output) ∨
        ∃ error, Refuses host args call.name error ∧
          result = makeToolError call.name call.arguments error) := by
  rcases object_of_admits member kept with ⟨args, isArgs⟩
  refine ⟨args, isArgs, ?_⟩
  have found := (find_demoRegistry call.name entry).mpr ⟨member, named⟩
  have notNull : call.arguments ≠ .null := by
    rw [isArgs]
    exact JsonValue.noConfusion
  simp only [ToolRegistry.execute, found, if_neg notNull] at ran
  rcases Option.map_eq_some_iff.mp ran with ⟨returned, handled, isResult⟩
  rw [isArgs] at kept handled
  have answers := answers_entry member kept handled
  rw [named] at answers
  split at isResult
  next failed =>
    cases answers with
    | inl fine => exact absurd fine failed
    | inr refuses => exact .inr ⟨returned.error, refuses, isResult.symm⟩
  next => exact .inl ⟨returned.output, isResult.symm⟩

/-- A division that keeps to the schema of `calculate`. -/
def divideByZero : OaiToolCall where
  id := "a"
  name := "calculate"
  arguments := .object [("lhs", .int64 1), ("rhs", .int64 0), ("op", .string "divide")]

theorem schemas_cover_checks_divideByZero :
    ∃ result args, demoRegistry.execute plainHost divideByZero = some result ∧
      divideByZero.arguments = .object args ∧
      ((∃ output, result = makeToolEnvelope "calculate" (.object args) output) ∨
        ∃ error, Refuses plainHost args "calculate" error ∧
          result = makeToolError "calculate" (.object args) error) := by
  have runs : (demoRegistry.execute plainHost divideByZero).isSome = true := by decide +kernel
  rcases Option.isSome_iff_exists.mp runs with ⟨result, ran⟩
  rcases schemas_cover_checks plainHost divideByZero calculatorTool (by simp [demoRegistry]) rfl
    (by decide +kernel) result ran with ⟨args, isArgs, outcome⟩
  rw [isArgs] at outcome
  exact ⟨result, args, ran, isArgs, outcome⟩

end Boai.DeepseekDemo
