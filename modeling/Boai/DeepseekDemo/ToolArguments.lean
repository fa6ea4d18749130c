import Boai.DeepseekDemo.Tools

/-!
# Integers among the arguments of a tool

`JsonIntField` reads an integer from three kinds of JSON numbers.  Which integer a
field holds is said here without the order of its checks; a double that is
`2 ^ 63` passes them all and is then converted to a type it does not fit, which,
with the least integer divided by minus one, is all that is undefined about the
tools of the demo.
-/

namespace Boai.DeepseekDemo

open Boai.Json Boai.Completion

/-! ## What a field holds -/

/-- The value of the type `std::int64_t`. -/
def InInt64 (integer : Int) : Prop := int64Min ≤ integer ∧ integer ≤ int64Max

instance (integer : Int) : Decidable (InInt64 integer) := inferInstanceAs (Decidable (_ ∧ _))

/-- The JSON number is the integer, up to a rounding error if it is a double. -/
def Denotes (number : JsonValue) (integer : Int) : Prop :=
  match number with
  | .int64 value => value = integer
  | .uint64 raw => (raw : Int) = integer
  | .double bits => ∃ raw, ExactDouble.value (.ofBits bits) = some raw ∧ |raw - integer| < nano
  | _ => False

/-- The field is there and is the integer. -/
def HoldsInteger (args : Members) (key : String) (integer : Int) : Prop :=
  ∃ number, ifContains args key = some number ∧ Denotes number integer

/-- The field is a double that rounds to `2 ^ 63`. -/
def Overflows (args : Members) (key : String) : Prop :=
  ∃ bits, ifContains args key = some (.double bits) ∧ Denotes (.double bits) (2 ^ 63)

theorem nano_le_half : nano ≤ 1 / 2 := by
  rw [nano]
  norm_num

theorem denotes_double_iff {bits : UInt64} {raw : Rat}
    (isRaw : ExactDouble.value (.ofBits bits) = some raw) (integer : Int) :
    Denotes (.double bits) integer ↔
      |raw - ExactDouble.roundAway raw| < nano ∧ ExactDouble.roundAway raw = integer := by
  rw [ExactDouble.near_roundAway_iff nano_le_half]
  simp only [Denotes, isRaw, Option.some.injEq]
  constructor
  · intro ⟨other, same, near⟩
    subst same
    exact near
  · intro near
    exact ⟨raw, rfl, near⟩

theorem castToInt64_eq_none {integer : Int} (atLeast : int64Min ≤ integer)
    (atMost : integer ≤ 2 ^ 63) : castToInt64 integer = none ↔ integer = 2 ^ 63 := by
  rw [castToInt64, int64Max]
  split
  next inside =>
    simp only [reduceCtorEq, false_iff]
    omega
  next outside =>
    simp only [true_iff]
    by_contra other
    exact outside ⟨atLeast, by omega⟩

theorem jsonIntField_eq_none {args : Members} {key : String} :
    jsonIntField args key = none ↔ Overflows args key := by
  rw [jsonIntField]
  split
  next value found => simp [Overflows, found]
  next raw found => simp [Overflows, found]
  next bits found =>
    have overflows : Overflows args key ↔ Denotes (.double bits) (2 ^ 63) := by
      simp [Overflows, found]
    rw [overflows]
    split
    next noValue => simp [Denotes, noValue]
    next raw isRaw =>
      rw [denotes_double_iff isRaw]
      simp only
      split
      next within =>
        rw [Option.map_eq_none_iff, castToInt64_eq_none within.2.1 within.2.2]
        exact ⟨fun isLimit => ⟨within.1, isLimit⟩, And.right⟩
      next outside =>
        simp only [reduceCtorEq, false_iff]
        intro ⟨near, isLimit⟩
        apply outside
        rw [isLimit] at near ⊢
        exact ⟨near, by decide, le_refl _⟩
  next other =>
    simp only [reduceCtorEq, false_iff]
    intro ⟨bits, found, _⟩
    exact other bits found

/-- The branch of `jsonIntField` for a finite double. -/
theorem roundedRead_eq_some {bits : UInt64} {raw : Rat} {integer : Int}
    (isRaw : ExactDouble.value (.ofBits bits) = some raw) :
    (if |raw - ExactDouble.roundAway raw| < nano ∧ int64Min ≤ ExactDouble.roundAway raw ∧
        ExactDouble.roundAway raw ≤ 2 ^ 63 then
      (castToInt64 (ExactDouble.roundAway raw)).map some else some none) = some (some integer) ↔
      Denotes (.double bits) integer ∧ InInt64 integer := by
  rw [denotes_double_iff isRaw]
  constructor
  · intro read
    split at read
    next within =>
      rcases Option.map_eq_some_iff.mp read with ⟨value, cast, same⟩
      cases same
      simp only [castToInt64] at cast
      split at cast
      next inside =>
        cases cast
        exact ⟨⟨within.1, rfl⟩, inside⟩
      next => cases cast
    next => cases read
  · intro ⟨⟨near, isInteger⟩, inside⟩
    have belowLimit : ExactDouble.roundAway raw ≤ 2 ^ 63 := by
      rw [isInteger]
      have atMost := inside.2
      rw [int64Max] at atMost
      omega
    have isCast : castToInt64 (ExactDouble.roundAway raw) = some integer := by
      rw [isInteger]
      exact if_pos inside
    rw [if_pos ⟨near, isInteger ▸ inside.1, belowLimit⟩, isCast, Option.map_some]

theorem jsonIntField_eq_some {args : Members} {key : String} {integer : Int}
    (typed : ∀ value, ifContains args key = some (.int64 value) → InInt64 value) :
    jsonIntField args key = some (some integer) ↔
      HoldsInteger args key integer ∧ InInt64 integer := by
  rw [jsonIntField]
  split
  next value found =>
    simp only [HoldsInteger, found, Option.some.injEq, exists_eq_left', Denotes]
    constructor
    · intro same
      exact ⟨same, same ▸ typed value found⟩
    · intro both
      exact both.1
  next raw found =>
    simp only [HoldsInteger, found, Option.some.injEq, exists_eq_left', Denotes]
    constructor
    · intro same
      split at same
      next inside =>
        have isRaw : (raw : Int) = integer := Option.some.inj same
        subst isRaw
        have atLeast : int64Min ≤ (raw : Int) := by
          have least : int64Min ≤ 0 := by decide
          omega
        exact ⟨rfl, atLeast, inside⟩
      next => cases same
    · intro ⟨isRaw, inside⟩
      subst isRaw
      exact if_pos inside.2
  next bits found =>
    have holds : HoldsInteger args key integer ↔ Denotes (.double bits) integer := by
      simp [HoldsInteger, found]
    rw [holds]
    split
    next noValue => simp [Denotes, noValue]
    next raw isRaw =>
      exact roundedRead_eq_some isRaw
  next notInt notUint notDouble =>
    simp only [Option.some.injEq, reduceCtorEq, false_iff, not_and]
    intro ⟨number, found, isInteger⟩
    cases number with
    | int64 value => exact absurd found (notInt value)
    | uint64 raw => exact absurd found (notUint raw)
    | double bits => exact absurd found (notDouble bits)
    | null | bool | string | array | object => cases isInteger

end Boai.DeepseekDemo
