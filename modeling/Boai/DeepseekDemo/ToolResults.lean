import Boai.DeepseekDemo.ToolArguments

/-!
# What the tools of the demo compute

Running a tool call is defined except for a listed kind of calls, of which the
only ones that a caller could take for valid are the division of the least
integer by minus one and integers out of range.
-/

namespace Boai.DeepseekDemo

open Boai.Json Boai.Completion

/-! ## Undefined calls -/

theorem withObjectArgs_eq_none {handler : Host → Members → Option HandlerResult} {host : Host}
    {args : JsonValue} :
    withObjectArgs handler host args = none ↔
      ∃ members, args = .object members ∧ handler host members = none := by
  cases args with
  | object members => simp [withObjectArgs]
  | null | bool | int64 | uint64 | double | string | array => simp [withObjectArgs]

theorem runCurrentTimeTool_ne_none (host : Host) (args : JsonValue) :
    runCurrentTimeTool host args ≠ none := by
  rw [runCurrentTimeTool, ne_eq, withObjectArgs_eq_none]
  intro ⟨members, _, undefined⟩
  simp only at undefined
  split at undefined
  · cases undefined
  · split at undefined <;> cases undefined

theorem runTextStatsTool_ne_none (host : Host) (args : JsonValue) :
    runTextStatsTool host args ≠ none := by
  rw [runTextStatsTool, ne_eq, withObjectArgs_eq_none]
  intro ⟨members, _, undefined⟩
  simp only at undefined
  split at undefined <;> cases undefined

theorem runSystemInfoTool_ne_none (host : Host) (args : JsonValue) :
    runSystemInfoTool host args ≠ none := by
  rw [runSystemInfoTool, ne_eq, withObjectArgs_eq_none]
  intro ⟨members, _, undefined⟩
  cases undefined

/-- The members of an object that stands in a `json::value`: integers fit their
type. -/
def Typed (args : Members) : Prop :=
  ∀ key value, ifContains args key = some (.int64 value) → InInt64 value

theorem int64Mod_eq_none {lhs rhs : Int} :
    int64Mod lhs rhs = none ↔ lhs = int64Min ∧ rhs = -1 := by
  rw [int64Mod]
  split <;> simp_all

theorem runMod_eq_none {args : Members} (typed : Typed args) :
    runMod args = none ↔
      Overflows args "lhs" ∨ Overflows args "rhs" ∨
        HoldsInteger args "lhs" int64Min ∧ HoldsInteger args "rhs" (-1) := by
  have limits : InInt64 int64Min ∧ InInt64 (-1) := by decide
  rw [← jsonIntField_eq_none, ← jsonIntField_eq_none]
  have isMin : jsonIntField args "lhs" = some (some int64Min) ↔
      HoldsInteger args "lhs" int64Min := by
    rw [jsonIntField_eq_some (typed "lhs")]
    exact and_iff_left limits.1
  have isMinusOne : jsonIntField args "rhs" = some (some (-1)) ↔
      HoldsInteger args "rhs" (-1) := by
    rw [jsonIntField_eq_some (typed "rhs")]
    exact and_iff_left limits.2
  rw [← isMin, ← isMinusOne]
  simp only [runMod]
  cases jsonIntField args "lhs" with
  | none => simp
  | some lhs =>
      cases jsonIntField args "rhs" with
      | none => simp
      | some rhs =>
          cases lhs with
          | none => simp
          | some lhs =>
              cases rhs with
              | none => simp
              | some rhs =>
                  simp only [Option.bind_eq_bind, Option.bind_some, reduceCtorEq,
                    Option.some.injEq, false_or]
                  rw [← int64Mod_eq_none]
                  split
                  next isZero =>
                    subst isZero
                    simp [int64Mod]
                  next => cases int64Mod lhs rhs <;> simp

theorem runCalculatorTool_eq_none {host : Host} {args : Members} (typed : Typed args) :
    runCalculatorTool host (.object args) = none ↔
      (jsonNumberField args "lhs").isSome ∧ (jsonNumberField args "rhs").isSome ∧
        jsonStringField args "op" = some "mod" ∧
        (Overflows args "lhs" ∨ Overflows args "rhs" ∨
          HoldsInteger args "lhs" int64Min ∧ HoldsInteger args "rhs" (-1)) := by
  rw [← runMod_eq_none typed]
  simp only [runCalculatorTool, withObjectArgs]
  split
  next lhs rhs op isLhs isRhs isOp =>
    rw [isLhs, isRhs, isOp]
    simp only [Option.isSome_some, true_and, Option.some.injEq]
    by_cases isMod : op = "mod"
    · subst isMod
      simp
    · simp only [isMod, if_false, false_and, iff_false]
      split_ifs <;> simp
  next missing =>
    simp only [reduceCtorEq, false_iff, Option.isSome_iff_exists]
    rintro ⟨⟨lhs, isLhs⟩, ⟨rhs, isRhs⟩, isOp, _⟩
    exact missing lhs rhs "mod" isLhs isRhs isOp

theorem runRandomNumberTool_eq_none {host : Host} {args : Members} :
    runRandomNumberTool host (.object args) = none ↔
      Overflows args "min" ∨ Overflows args "max" := by
  rw [← jsonIntField_eq_none, ← jsonIntField_eq_none]
  simp only [runRandomNumberTool, withObjectArgs]
  cases jsonIntField args "min" with
  | none => simp
  | some minimum =>
      cases jsonIntField args "max" with
      | none => simp
      | some maximum =>
          simp only [Option.bind_eq_bind, Option.bind_some, reduceCtorEq, or_self, iff_false]
          split <;> simp

theorem execute_eq_none {registry : ToolRegistry} {host : Host} {call : OaiToolCall} :
    registry.execute host call = none ↔
      ∃ entry, registry.find call.name = some entry ∧
        entry.handler host (if call.arguments = .null then .object [] else call.arguments) =
          none := by
  rw [ToolRegistry.execute]
  cases registry.find call.name with
  | none => simp
  | some entry => simp

/-- The tools of the demo by name. -/
theorem find_demoRegistry (name : String) (entry : ToolEntry) :
    demoRegistry.find name = some entry ↔
      entry ∈ demoRegistry.entries ∧ entry.definition.name = name := by
  constructor
  · intro found
    exact ⟨List.mem_of_find?_eq_some found, by simpa using List.find?_some found⟩
  · intro ⟨member, named⟩
    simp only [demoRegistry, List.mem_cons, List.not_mem_nil, or_false] at member
    subst named
    rcases member with rfl | rfl | rfl | rfl | rfl <;> rfl

/-- The arguments for which a tool is undefined. -/
def UndefinedFor (name : String) (args : Members) : Prop :=
  name = "random_number" ∧ (Overflows args "min" ∨ Overflows args "max") ∨
    name = "calculate" ∧ (jsonNumberField args "lhs").isSome ∧
      (jsonNumberField args "rhs").isSome ∧
      jsonStringField args "op" = some "mod" ∧
      (Overflows args "lhs" ∨ Overflows args "rhs" ∨
        HoldsInteger args "lhs" int64Min ∧ HoldsInteger args "rhs" (-1))

theorem handler_eq_none {entry : ToolEntry} (member : entry ∈ demoRegistry.entries)
    {host : Host} {input : JsonValue}
    (typed : ∀ args, input = .object args → Typed args) :
    entry.handler host input = none ↔
      ∃ args, input = .object args ∧ UndefinedFor entry.definition.name args := by
  simp only [demoRegistry, List.mem_cons, List.not_mem_nil, or_false] at member
  rcases member with rfl | rfl | rfl | rfl | rfl
  · simp [currentTimeTool, UndefinedFor, runCurrentTimeTool_ne_none]
  · simp only [calculatorTool, UndefinedFor, String.reduceEq, false_and, false_or, true_and]
    constructor
    · intro undefined
      rcases withObjectArgs_eq_none.mp undefined with ⟨args, isArgs, _⟩
      subst isArgs
      exact ⟨args, rfl, (runCalculatorTool_eq_none (typed args rfl)).mp undefined⟩
    · intro ⟨args, isArgs, undefined⟩
      subst isArgs
      exact (runCalculatorTool_eq_none (typed args rfl)).mpr undefined
  · simp only [randomNumberTool, UndefinedFor, String.reduceEq, false_and, or_false, true_and]
    constructor
    · intro undefined
      rcases withObjectArgs_eq_none.mp undefined with ⟨args, isArgs, _⟩
      subst isArgs
      exact ⟨args, rfl, runRandomNumberTool_eq_none.mp undefined⟩
    · intro ⟨args, isArgs, undefined⟩
      subst isArgs
      exact runRandomNumberTool_eq_none.mpr undefined
  · simp [textStatsTool, UndefinedFor, runTextStatsTool_ne_none]
  · simp [systemInfoTool, UndefinedFor, runSystemInfoTool_ne_none]

theorem not_undefinedFor_nil (name : String) : ¬UndefinedFor name [] := by
  simp [UndefinedFor, Overflows, jsonNumberField, ifContains]

/-- Executing a tool call is undefined exactly if it asks for a random number with
a bound of `2 ^ 63` written as a double, or for `mod` with such an operand or with
the least integer and minus one.  Every other call, whatever its name and
arguments, has a result. -/
theorem demoTools_undefined_iff (host : Host) (call : OaiToolCall)
    (typed : ∀ args, call.arguments = .object args → Typed args) :
    demoRegistry.execute host call = none ↔
      ∃ args, call.arguments = .object args ∧
        (call.name = "random_number" ∧ (Overflows args "min" ∨ Overflows args "max") ∨
          call.name = "calculate" ∧ (jsonNumberField args "lhs").isSome ∧
            (jsonNumberField args "rhs").isSome ∧
            jsonStringField args "op" = some "mod" ∧
            (Overflows args "lhs" ∨ Overflows args "rhs" ∨
              HoldsInteger args "lhs" int64Min ∧ HoldsInteger args "rhs" (-1))) := by
  have typedInput : ∀ args, (if call.arguments = .null then JsonValue.object []
      else call.arguments) = .object args → Typed args := by
    intro args isInput
    split at isInput
    next =>
      cases isInput
      intro key value found
      cases found
    next => exact typed args isInput
  rw [execute_eq_none]
  constructor
  · intro ⟨entry, found, undefined⟩
    rcases (find_demoRegistry _ _).mp found with ⟨member, named⟩
    rcases (handler_eq_none member typedInput).mp undefined with ⟨args, isInput, isUndefined⟩
    rw [named] at isUndefined
    split at isInput
    next =>
      cases isInput
      exact absurd isUndefined (not_undefinedFor_nil _)
    next => exact ⟨args, isInput, isUndefined⟩
  · intro ⟨args, isArgs, isUndefined⟩
    have named : ∃ entry ∈ demoRegistry.entries, entry.definition.name = call.name := by
      rcases isUndefined with ⟨isRandom, _⟩ | ⟨isCalculator, _⟩
      · exact ⟨randomNumberTool, by simp [demoRegistry], isRandom.symm⟩
      · exact ⟨calculatorTool, by simp [demoRegistry], isCalculator.symm⟩
    rcases named with ⟨entry, member, named⟩
    refine ⟨entry, (find_demoRegistry _ _).mpr ⟨member, named⟩, ?_⟩
    rw [handler_eq_none member typedInput]
    refine ⟨args, ?_, named ▸ isUndefined⟩
    rw [isArgs]
    rfl

/-- A machine whose clock stands and that always draws the lower bound. -/
def plainHost : Host where
  platform := "linux"
  architecture := "x86_64"
  compiler := "gcc-14.2"
  cppStandard := 202002
  pointerWidth := 64
  now := 0
  calendarTime := fun _ _ => some "1970-01-01 00:00:00"
  pow := fun lhs _ => lhs
  uniform := fun minimum _ => minimum

/-- The arguments of a `mod` of two integers. -/
def modArgs (lhs rhs : Int) : Members :=
  [("lhs", .int64 lhs), ("rhs", .int64 rhs), ("op", .string "mod")]

theorem typed_modArgs {lhs rhs : Int} (lhsInside : InInt64 lhs) (rhsInside : InInt64 rhs) :
    Typed (modArgs lhs rhs) := by
  intro key value found
  have member := Dict.mem_of_lookup found
  simp only [modArgs, List.mem_cons, Prod.mk.injEq, JsonValue.int64.injEq, reduceCtorEq, and_false,
    List.not_mem_nil, or_false] at member
  rcases member with ⟨_, isLhs⟩ | ⟨_, isRhs⟩
  · exact isLhs ▸ lhsInside
  · exact isRhs ▸ rhsInside

theorem demoTools_undefined_iff_leastByMinusOne :
    demoRegistry.execute plainHost
      { name := "calculate", arguments := .object (modArgs int64Min (-1)) } = none := by
  have typed : Typed (modArgs int64Min (-1)) := typed_modArgs (by decide) (by decide)
  apply (demoTools_undefined_iff plainHost
    { name := "calculate", arguments := .object (modArgs int64Min (-1)) } (by
      intro args isArgs
      cases isArgs
      exact typed)).mpr
  refine ⟨modArgs int64Min (-1), rfl, .inr ⟨rfl, rfl, rfl, rfl, .inr (.inr ⟨?_, ?_⟩)⟩⟩
  · exact ⟨_, rfl, rfl⟩
  · exact ⟨_, rfl, rfl⟩

/-! ## Remainders -/

theorem abs_tmod_lt (lhs : Int) {rhs : Int} (nonzero : rhs ≠ 0) : |lhs.tmod rhs| < |rhs| := by
  rw [Int.abs_eq_natAbs, Int.abs_eq_natAbs, Int.natAbs_tmod, Int.ofNat_lt]
  exact Nat.mod_lt _ (Int.natAbs_pos.mpr nonzero)

theorem tmod_nonpos {lhs : Int} (rhs : Int) (negative : lhs ≤ 0) : lhs.tmod rhs ≤ 0 := by
  have mirrored := Int.tmod_nonneg rhs (Int.neg_nonneg.mpr negative)
  rw [Int.neg_tmod] at mirrored
  exact Int.neg_nonneg.mp mirrored

theorem inInt64_tmod (lhs : Int) {rhs : Int} (inside : InInt64 rhs) (nonzero : rhs ≠ 0) :
    InInt64 (lhs.tmod rhs) := by
  have bounds := abs_lt.mp (abs_tmod_lt lhs nonzero)
  have width : |rhs| ≤ 2 ^ 63 := by
    rw [abs_le]
    rw [InInt64, int64Min, int64Max] at inside
    omega
  rw [InInt64, int64Min, int64Max]
  omega

/-- The field is there and is an integer of the type `std::int64_t`. -/
def HoldsInt64 (args : Members) (key : String) (integer : Int) : Prop :=
  HoldsInteger args key integer ∧ InInt64 integer

/-- The output of a `mod`. -/
def modOutput (lhs rhs : Int) : JsonObject :=
  ((Dict.empty : JsonObject).set
    "expression" (.string (toString lhs ++ " % " ++ toString rhs))).set
    "value" (.int64 (lhs.tmod rhs))

theorem succeeded_ne_failed {output : JsonObject} {error : String} (nonempty : error ≠ "") :
    succeeded output ≠ failed error := by
  intro same
  exact nonempty (congrArg HandlerResult.error same).symm

/-- An operand that is no integer of the type, and is not rounded to one outside of
it. -/
theorem jsonIntField_eq_some_none {args : Members} (typed : Typed args) {key : String} :
    jsonIntField args key = some none ↔
      (¬∃ integer, HoldsInt64 args key integer) ∧ ¬Overflows args key := by
  rw [← jsonIntField_eq_none]
  simp only [HoldsInt64, ← jsonIntField_eq_some (typed key)]
  cases jsonIntField args key with
  | none => simp
  | some read => cases read <;> simp

section Operands

variable {args : Members} {lhs rhs : Int}

theorem runMod_of_integers (isLhs : jsonIntField args "lhs" = some (some lhs))
    (isRhs : jsonIntField args "rhs" = some (some rhs)) (nonzero : rhs ≠ 0)
    (inRange : ¬(lhs = int64Min ∧ rhs = -1)) :
    runMod args = some (succeeded (modOutput lhs rhs)) := by
  simp only [runMod, isLhs, isRhs, Option.bind_eq_bind, Option.bind_some, nonzero, int64Mod,
    inRange, if_false]
  rfl

theorem runMod_of_zero (isLhs : jsonIntField args "lhs" = some (some lhs))
    (isRhs : jsonIntField args "rhs" = some (some 0)) :
    runMod args = some (failed "mod by zero") := by
  simp only [runMod, isLhs, isRhs, Option.bind_eq_bind, Option.bind_some, if_true]

theorem runMod_of_other (lhsDefined : jsonIntField args "lhs" ≠ none)
    (rhsDefined : jsonIntField args "rhs" ≠ none)
    (noInteger : jsonIntField args "lhs" = some none ∨ jsonIntField args "rhs" = some none) :
    runMod args = some (failed "mod requires integer lhs and rhs") := by
  rcases Option.ne_none_iff_exists'.mp lhsDefined with ⟨left, isLhs⟩
  rcases Option.ne_none_iff_exists'.mp rhsDefined with ⟨right, isRhs⟩
  simp only [runMod, isLhs, isRhs, Option.bind_eq_bind, Option.bind_some]
  cases left with
  | none => rfl
  | some lhs =>
      cases right with
      | none => rfl
      | some rhs => simp [isLhs, isRhs] at noInteger

/-- What a successful `mod` was given. -/
theorem integers_of_runMod {output : JsonObject} (ran : runMod args = some (succeeded output)) :
    ∃ lhs rhs, jsonIntField args "lhs" = some (some lhs) ∧
      jsonIntField args "rhs" = some (some rhs) ∧ rhs ≠ 0 ∧ ¬(lhs = int64Min ∧ rhs = -1) := by
  rcases Option.bind_eq_some_iff.mp ran with ⟨left, isLhs, rest⟩
  rcases Option.bind_eq_some_iff.mp rest with ⟨right, isRhs, isResult⟩
  cases left with
  | none => exact absurd (Option.some.inj isResult).symm (succeeded_ne_failed (by decide))
  | some lhs =>
      cases right with
      | none => exact absurd (Option.some.inj isResult).symm (succeeded_ne_failed (by decide))
      | some rhs =>
          simp only at isResult
          split at isResult
          next => exact absurd (Option.some.inj isResult).symm (succeeded_ne_failed (by decide))
          next nonzero =>
            rcases Option.bind_eq_some_iff.mp isResult with ⟨_, defined, _⟩
            refine ⟨lhs, rhs, isLhs, isRhs, nonzero, ?_⟩
            intro least
            rw [int64Mod, if_pos least] at defined
            cases defined

end Operands

/-- The whole behaviour of `calculate` on a `mod`.  It succeeds exactly if both
operands are integers of the type `std::int64_t`, the second is not zero, and they
are not the least integer and minus one; the value is then the remainder of the
division that truncates towards zero.  A zero divisor and an operand that is no such
integer are errors, and nothing is defined for the least integer by minus one and
for an operand that is a double rounding to `2 ^ 63`. -/
theorem calculator_mod (host : Host) (args : Members) (typed : Typed args)
    (lhsNumber : (jsonNumberField args "lhs").isSome)
    (rhsNumber : (jsonNumberField args "rhs").isSome)
    (isMod : jsonStringField args "op" = some "mod") :
    ((∃ output, runCalculatorTool host (.object args) = some (succeeded output)) ↔
      ∃ lhs rhs, HoldsInt64 args "lhs" lhs ∧ HoldsInt64 args "rhs" rhs ∧ rhs ≠ 0 ∧
        ¬(lhs = int64Min ∧ rhs = -1)) ∧
    (∀ lhs rhs, HoldsInt64 args "lhs" lhs → HoldsInt64 args "rhs" rhs → rhs ≠ 0 →
      ¬(lhs = int64Min ∧ rhs = -1) →
        ∃ (quotient remainder : Int) (output : JsonObject),
          runCalculatorTool host (.object args) = some (succeeded output) ∧
          output.get? "value" = some (.int64 remainder) ∧ lhs = rhs * quotient + remainder ∧
          |remainder| < |rhs| ∧ (0 ≤ lhs → 0 ≤ remainder) ∧ (lhs ≤ 0 → remainder ≤ 0) ∧
          InInt64 remainder) ∧
    (∀ lhs, HoldsInt64 args "lhs" lhs → HoldsInt64 args "rhs" 0 →
      runCalculatorTool host (.object args) = some (failed "mod by zero")) ∧
    (¬Overflows args "lhs" → ¬Overflows args "rhs" →
      (¬∃ lhs, HoldsInt64 args "lhs" lhs) ∨ (¬∃ rhs, HoldsInt64 args "rhs" rhs) →
        runCalculatorTool host (.object args) =
          some (failed "mod requires integer lhs and rhs")) ∧
    (runCalculatorTool host (.object args) = none ↔
      Overflows args "lhs" ∨ Overflows args "rhs" ∨
        HoldsInteger args "lhs" int64Min ∧ HoldsInteger args "rhs" (-1)) := by
  have isRunMod : runCalculatorTool host (.object args) = runMod args := by
    rcases Option.isSome_iff_exists.mp lhsNumber with ⟨lhs, isLhs⟩
    rcases Option.isSome_iff_exists.mp rhsNumber with ⟨rhs, isRhs⟩
    simp [runCalculatorTool, withObjectArgs, isLhs, isRhs, isMod]
  have reads : ∀ {key integer}, jsonIntField args key = some (some integer) ↔
      HoldsInt64 args key integer := jsonIntField_eq_some (typed _)
  rw [isRunMod]
  refine ⟨?_, ?_, ?_, ?_, runMod_eq_none typed⟩
  · constructor
    · rintro ⟨output, ran⟩
      rcases integers_of_runMod ran with ⟨lhs, rhs, isLhs, isRhs, nonzero, inRange⟩
      exact ⟨lhs, rhs, reads.mp isLhs, reads.mp isRhs, nonzero, inRange⟩
    · rintro ⟨lhs, rhs, isLhs, isRhs, nonzero, inRange⟩
      exact ⟨_, runMod_of_integers (reads.mpr isLhs) (reads.mpr isRhs) nonzero inRange⟩
  · intro lhs rhs isLhs isRhs nonzero inRange
    have ran := runMod_of_integers (reads.mpr isLhs) (reads.mpr isRhs) nonzero inRange
    refine ⟨lhs.tdiv rhs, lhs.tmod rhs, modOutput lhs rhs, ran, ?_, ?_, ?_, ?_, ?_, ?_⟩
    · simp [modOutput]
    · exact (Int.mul_tdiv_add_tmod lhs rhs).symm
    · exact abs_tmod_lt lhs nonzero
    · exact Int.tmod_nonneg rhs
    · exact tmod_nonpos rhs
    · exact inInt64_tmod lhs isRhs.2 nonzero
  · intro lhs isLhs isZero
    exact runMod_of_zero (reads.mpr isLhs) (reads.mpr isZero)
  · intro lhsDefined rhsDefined noInteger
    rw [← jsonIntField_eq_none] at lhsDefined rhsDefined
    apply runMod_of_other lhsDefined rhsDefined
    simp only [jsonIntField_eq_some_none typed, ← jsonIntField_eq_none]
    exact noInteger.imp (fun noLhs => ⟨noLhs, lhsDefined⟩) fun noRhs => ⟨noRhs, rhsDefined⟩

theorem calculator_mod_negative :
    ∃ (quotient remainder : Int) (output : JsonObject),
      runCalculatorTool plainHost (.object (modArgs (-7) 3)) = some (succeeded output) ∧
      output.get? "value" = some (.int64 remainder) ∧ -7 = 3 * quotient + remainder ∧
      |remainder| < |(3 : Int)| ∧ (0 ≤ (-7 : Int) → 0 ≤ remainder) ∧
      ((-7 : Int) ≤ 0 → remainder ≤ 0) ∧ InInt64 remainder := by
  have typed : Typed (modArgs (-7) 3) := typed_modArgs (by decide) (by decide)
  exact (calculator_mod plainHost (modArgs (-7) 3) typed rfl rfl rfl).2.1 (-7) 3
    ⟨⟨_, rfl, rfl⟩, by decide⟩ ⟨⟨_, rfl, rfl⟩, by decide⟩ (by decide) (by decide)

end Boai.DeepseekDemo
