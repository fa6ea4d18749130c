import Mathlib.Data.List.Nodup
import Mathlib.Data.List.TakeWhile
import Boai.DeepseekDemo.Options

/-!
# The command lines the demo accepts

A command line is a sequence of settings, each written as one or two arguments.
`ParseArgs` accepts exactly these sequences, and what it makes of them is told
setting by setting; of the errors it can run into it reports three.
-/

namespace Boai.DeepseekDemo

/-! ## Written options -/

/-- An option with a value, written in two arguments or joined by an equals
sign. -/
structure Written where
  name : String
  value : String
  joined : Bool

namespace Written

def first (written : Written) : String :=
  if written.joined then written.name ++ "=" ++ written.value else written.name

def values (written : Written) : List String :=
  if written.joined then [] else [written.value]

/-- Nothing behind an equals sign is not a value. -/
def Fits (written : Written) : Prop := written.joined = true → written.value ≠ ""

end Written

/-- The part of an argument in front of the first equals sign. -/
def optionName (arg : String) : List Char := arg.toList.takeWhile (· ≠ '=')

theorem optionName_of_plain {arg : String} (plain : '=' ∉ arg.toList) :
    optionName arg = arg.toList := by
  rw [optionName, List.takeWhile_eq_self_iff]
  intro character member
  simp only [ne_eq, decide_eq_true_eq]
  intro isEquals
  exact plain (isEquals ▸ member)

theorem optionName_first {written : Written} (plain : '=' ∉ written.name.toList) :
    optionName written.first = written.name.toList := by
  rw [Written.first]
  split
  · have front := optionName_of_plain plain
    rw [optionName, List.takeWhile_eq_self_iff] at front
    simp only [optionName, String.toList_append, List.append_assoc]
    rw [List.takeWhile_append_of_pos front]
    simp
  · exact optionName_of_plain plain

theorem readValueArg_written {written : Written} (fits : written.Fits) (later : List String)
    {cursor : Cursor} (untaken : cursor.taken = 0) :
    readValueArg (written.values ++ later) written.first written.name cursor =
      (some written.value, { cursor with taken := written.values.length }) := by
  rw [readValueArg]
  cases joined : written.joined with
  | false => simp [Written.first, Written.values, joined, untaken]
  | true =>
      have longer : written.first.length = (written.name ++ "=").length + written.value.length := by
        simp [Written.first, joined]
      have nonempty : 0 < written.value.length := by
        rw [Nat.pos_iff_ne_zero]
        intro isZero
        exact fits joined (String.length_eq_zero_iff.mp isZero)
      have characters : written.first.toList =
          (written.name ++ "=").toList ++ written.value.toList := by
        simp [Written.first, joined]
      have different : written.first ≠ written.name := by
        intro same
        have lengths := congrArg String.length same
        rw [longer, String.length_append] at lengths
        omega
      have unmoved : ({ cursor with taken := written.values.length } : Cursor) = cursor := by
        rw [Written.values, joined, if_pos rfl, List.length_nil, ← untaken]
      have fitsBefore : (written.name ++ "=").length < written.first.length := by omega
      rw [if_neg different, if_pos ⟨fitsBefore, characters ▸ List.prefix_append _ _⟩, unmoved,
        characters, ← String.length_toList, List.drop_left, String.ofList_toList]

/-- What a call of `ReadValueArg` that reads a value has read. -/
theorem written_of_readValueArg {rest : List String} {arg name value : String}
    {cursor after : Cursor} (untaken : cursor.taken = 0)
    (read : readValueArg rest arg name cursor = (some value, after)) :
    ∃ (written : Written) (later : List String), written.Fits ∧ written.name = name ∧
      written.value = value ∧ arg = written.first ∧ rest = written.values ++ later ∧
      after.taken = written.values.length := by
  simp only [readValueArg] at read
  split at read
  next same =>
    rw [untaken] at read
    cases rest with
    | nil => cases read
    | cons first later =>
        cases read
        exact ⟨⟨name, value, false⟩, later, nofun, rfl, rfl, same, rfl, rfl⟩
  next =>
    split at read
    next fits =>
      rcases fits.2 with ⟨tail, characters⟩
      have isTail : arg.toList.drop (name ++ "=").length = tail := by
        rw [← characters, List.drop_left' (String.length_toList ..)]
      simp only [Prod.mk.injEq, Option.some.injEq, isTail] at read
      have isArg : arg = (⟨name, value, true⟩ : Written).first := by
        apply String.toList_injective
        rw [← characters, ← read.1]
        simp [Written.first]
      refine ⟨⟨name, value, true⟩, rest, ?_, rfl, rfl, isArg, rfl, read.2 ▸ untaken⟩
      intro _ isEmpty
      have lengths := congrArg String.length isArg
      simp only [Written.first, if_true] at lengths isEmpty
      rw [isEmpty, String.append_empty] at lengths
      omega
    next => cases read

/-- An argument with another name is left alone. -/
theorem readValueArg_other {rest : List String} {arg name : String} (plain : '=' ∉ name.toList)
    (other : optionName arg ≠ name.toList) (cursor : Cursor) :
    readValueArg rest arg name cursor = (none, cursor) := by
  rw [readValueArg, if_neg, if_neg]
  · intro ⟨_, before⟩
    rcases before with ⟨tail, characters⟩
    have joined : arg = (⟨name, String.ofList tail, true⟩ : Written).first := by
      apply String.toList_injective
      rw [← characters]
      simp [Written.first]
    exact other (joined ▸ optionName_first plain)
  · intro same
    apply other
    rw [same]
    exact optionName_of_plain plain

theorem taken_of_unread {rest : List String} {arg name : String} {cursor after : Cursor}
    (read : readValueArg rest arg name cursor = (none, after)) : after.taken = cursor.taken := by
  simp only [readValueArg] at read
  split at read
  · split at read <;> cases read
    rfl
  · split at read <;> cases read
    rfl

/-! ## Options by their names -/

/-- The options with a value. -/
inductive ValueOption where
  | text (option : TextOption)
  | maxRoundTrips
  | temperature
  deriving DecidableEq, Repr

namespace ValueOption

def all : List ValueOption := TextOption.all.map text ++ [maxRoundTrips, temperature]

def name : ValueOption → String
  | text option => option.name
  | maxRoundTrips => "--max_round_trips"
  | temperature => "--temperature"

theorem mem_all (option : ValueOption) : option ∈ all := by
  cases option with
  | text option => cases option <;> decide
  | maxRoundTrips => decide
  | temperature => decide

theorem name_injective {left right : ValueOption} (same : left.name = right.name) :
    left = right := by
  have nodup : (all.map name).Nodup := by decide
  exact List.inj_on_of_nodup_map nodup (mem_all left) (mem_all right) same

theorem name_plain (option : ValueOption) : '=' ∉ option.name.toList := by
  have plain : ∀ option ∈ all, '=' ∉ option.name.toList := by decide
  exact plain option (mem_all option)

theorem name_ne_flag (option : ValueOption) (flag : Flag) : option.name ≠ flag.name := by
  have different : ∀ option ∈ all, ∀ flag ∈ Flag.all, option.name ≠ flag.name := by decide
  apply different option (mem_all option)
  cases flag <;> decide

theorem name_ne_help (option : ValueOption) : option.name ≠ "-h" ∧ option.name ≠ "--help" := by
  have different : ∀ option ∈ all, option.name ≠ "-h" ∧ option.name ≠ "--help" := by decide
  exact different option (mem_all option)

end ValueOption

theorem Flag.name_plain (flag : Flag) : '=' ∉ flag.name.toList := by cases flag <;> decide

theorem Flag.name_ne_help (flag : Flag) : flag.name ≠ "-h" ∧ flag.name ≠ "--help" := by
  cases flag <;> decide

theorem Flag.find?_name (flag : Flag) :
    (Flag.all.find? fun other => flag.name = other.name) = some flag := by
  cases flag <;> decide

/-- An argument that is named like an option with a value is neither help nor a
flag. -/
theorem not_plain_of_optionName {arg : String} {option : ValueOption}
    (named : optionName arg = option.name.toList) :
    ¬(arg = "-h" ∨ arg = "--help") ∧ (Flag.all.find? fun flag => arg = flag.name) = none := by
  have plain : ∀ other, '=' ∉ other.toList → option.name ≠ other → arg ≠ other := by
    intro other isPlain different same
    rw [same, optionName_of_plain isPlain] at named
    exact different (String.toList_injective named.symm)
  constructor
  · intro help
    rcases help with help | help
    · exact plain "-h" (by decide) option.name_ne_help.1 help
    · exact plain "--help" (by decide) option.name_ne_help.2 help
  · rw [List.find?_eq_none]
    intro flag _
    simpa using plain flag.name flag.name_plain (option.name_ne_flag flag)

theorem readTextOptions_other {options : Options} {rest : List String} {arg : String}
    {choices : List TextOption} (others : ∀ option ∈ choices,
      optionName arg ≠ option.name.toList) (cursor : Cursor) :
    readTextOptions options rest arg choices cursor = (none, cursor) := by
  induction choices with
  | nil => rfl
  | cons option choices ih =>
      rcases List.forall_mem_cons.mp others with ⟨here, later⟩
      have unread : readValueArg rest arg option.name cursor = (none, cursor) :=
        readValueArg_other (ValueOption.text option).name_plain here cursor
      simp only [readTextOptions, unread]
      exact ih later

theorem readTextOptions_written {options : Options} {written : Written} (fits : written.Fits)
    (later : List String) {option : TextOption} (named : written.name = option.name)
    {choices : List TextOption} (member : option ∈ choices) {cursor : Cursor}
    (untaken : cursor.taken = 0) :
    readTextOptions options (written.values ++ later) written.first choices cursor =
      (some (option.assign options written.value),
        { cursor with taken := written.values.length }) := by
  have isName : optionName written.first = option.name.toList := by
    rw [optionName_first (named ▸ (ValueOption.text option).name_plain), named]
  induction choices with
  | nil => cases member
  | cons other choices ih =>
      by_cases same : option = other
      · subst same
        have read := readValueArg_written fits later untaken
        rw [named] at read
        simp only [readTextOptions, read]
      · have different : optionName written.first ≠ other.name.toList := by
          rw [isName]
          intro names
          have options : ValueOption.text option = .text other :=
            ValueOption.name_injective (String.toList_injective names)
          exact same (ValueOption.text.inj options)
        have unread : readValueArg (written.values ++ later) written.first other.name cursor =
            (none, cursor) :=
          readValueArg_other (ValueOption.text other).name_plain different cursor
        simp only [readTextOptions, unread]
        apply ih
        rcases List.mem_cons.mp member with isHead | inTail
        · exact absurd isHead same
        · exact inTail

theorem written_of_readTextOptions {options result : Options} {rest : List String} {arg : String}
    {choices : List TextOption} {cursor after : Cursor} (untaken : cursor.taken = 0)
    (read : readTextOptions options rest arg choices cursor = (some result, after)) :
    ∃ (option : TextOption) (written : Written) (later : List String), written.Fits ∧
      written.name = option.name ∧ result = option.assign options written.value ∧
      arg = written.first ∧ rest = written.values ++ later ∧
      after.taken = written.values.length := by
  induction choices generalizing cursor with
  | nil => cases read
  | cons option choices ih =>
      simp only [readTextOptions] at read
      split at read
      next value moved found =>
        rcases written_of_readValueArg untaken found with
          ⟨written, later, fits, named, isValue, isArg, isRest, taken⟩
        cases read
        exact ⟨option, written, later, fits, named, isValue ▸ rfl, isArg, isRest, taken⟩
      next moved unread => exact ih ((taken_of_unread unread).trans untaken) read

theorem taken_of_unread_textOptions {options : Options} {rest : List String} {arg : String}
    {choices : List TextOption} {cursor after : Cursor}
    (read : readTextOptions options rest arg choices cursor = (none, after)) :
    after.taken = cursor.taken := by
  induction choices generalizing cursor with
  | nil =>
      cases read
      rfl
  | cons option choices ih =>
      simp only [readTextOptions] at read
      split at read
      next => cases read
      next moved unread => exact (ih read).trans (taken_of_unread unread)

end Boai.DeepseekDemo
