import Boai.Lib.Outcome
import Boai.DeepseekDemo.Settings

/-!
# `ParseArgs` as a whole

Which command lines are accepted and with which options, and with which texts the
others are refused.  The loop body prepares more texts than are ever reported:
those for a missing value and for a malformed number are overwritten before it
returns, and no accepted command line leaves the base URL or the model empty.
-/

namespace Boai.DeepseekDemo

variable {stod : String → Option UInt64} {env : Environment}

/-- The options that some settings ask for. -/
def settled (stod : String → Option UInt64) (settings : List Setting) (out : Options) : Options :=
  (settingGrammar stod).applyAll settings out

/-- The arguments some settings are written as. -/
def writtenAs (settings : List Setting) : List String :=
  settings.flatMap fun setting => setting.first :: setting.values

/-- The values that some settings give to an option, in order. -/
def given (settings : List Setting) (option : TextOption) : List String :=
  settings.filterMap fun
    | .valued (.text other) value _ => if other = option then some value else none
    | _ => none

/-- The last value given to an option is the one that counts. -/
theorem read_settled (settings : List Setting) (out : Options) (option : TextOption) :
    option.read (settled stod settings out) =
      ((given settings option).getLast?).getD (option.read out) := by
  induction settings generalizing out with
  | nil => rfl
  | cons setting settings ih =>
      have first : option.read (setting.apply stod out) =
          ((given [setting] option).getLast?).getD (option.read out) := by
        cases setting with
        | flag which => cases which <;> cases option <;> rfl
        | valued other value joined =>
            cases other with
            | text other =>
                simp only [Setting.apply, TextOption.read_assign, given, List.filterMap_cons,
                  List.filterMap_nil]
                split <;> rfl
            | maxRoundTrips => cases option <;> rfl
            | temperature =>
                simp only [Setting.apply]
                split <;> cases option <;> rfl
      have values : given (setting :: settings) option =
          given [setting] option ++ given settings option := by
        rw [given, ← List.singleton_append, List.filterMap_append]
        rfl
      have later := ih (setting.apply stod out)
      rw [first] at later
      rw [values, List.getLast?_append, Option.getD_or]
      exact later

theorem parseArgs_eq (argv : List String) (out : Options) :
    parseArgs stod env argv out =
      match (argReader stod).parse 0 out (argv.drop 1) with
      | .error error => .error error
      | .ok options =>
          if options.maxRoundTrips < 1 then .error "--max_round_trips must be >= 1"
          else .ok (withDefaults env options) := by
  simp only [parseArgs]
  cases (argReader stod).parse 0 out (argv.drop 1) with
  | error error => rfl
  | ok options =>
      have baseUrl : TextOption.baseUrl.read (withDefaults env options) ≠ "" :=
        required_withDefaults env options (by simp)
      have model : TextOption.model.read (withDefaults env options) ≠ "" :=
        required_withDefaults env options (by simp)
      have present : ¬((withDefaults env options).baseUrl = "" ∨
          (withDefaults env options).model = "") := by
        intro missing
        exact missing.elim baseUrl model
      simp only [maxRoundTrips_withDefaults, if_neg present]

/-- `ParseArgs` accepts exactly the written sequences of valid settings that leave
at least one round trip, and returns what they ask for, filled up with the
defaults.  A valid setting is a flag or one of the other options with a value,
which for the numeric options has to be convertible; it is written in two
arguments, or in one with an equals sign if the value is not empty. -/
theorem parseArgs_accepts_iff (stod : String → Option UInt64) (env : Environment)
    (argv : List String) (out result : Options) :
    parseArgs stod env argv out = .ok result ↔
      ∃ settings : List Setting, (∀ setting ∈ settings, setting.Valid stod) ∧
        argv.drop 1 = writtenAs settings ∧
        1 ≤ (settled stod settings out).maxRoundTrips ∧
        result = withDefaults env (settled stod settings out) := by
  rw [parseArgs_eq]
  constructor
  · intro accepted
    split at accepted
    next => cases accepted
    next options parsed =>
      rcases (settingGrammar stod).parse_eq_ok.mp parsed with ⟨settings, valid, written, isResult⟩
      split at accepted
      next => cases accepted
      next enough =>
        have same := Except.ok.inj accepted
        rw [isResult] at enough same
        exact ⟨settings, valid, written, Int.not_lt.mp enough, same.symm⟩
  · intro ⟨settings, valid, written, enough, isResult⟩
    have parsed : (argReader stod).parse 0 out (argv.drop 1) = .ok (settled stod settings out) :=
      (settingGrammar stod).parse_eq_ok.mpr ⟨settings, valid, written, rfl⟩
    rw [parsed, isResult]
    exact if_neg (Int.not_lt.mpr enough)

/-- `ParseArgs` refuses a command line with one of three texts and for one of three
reasons: after some valid settings it meets `-h` or `--help`, and the text is
empty; or it meets another argument that no valid setting begins with, and names
it, also where the argument is an option without its value or with a malformed
number; or all arguments are settings but leave less than one round trip. -/
theorem parseArgs_refuses_iff (stod : String → Option UInt64) (env : Environment)
    (argv : List String) (out : Options) (error : String) :
    parseArgs stod env argv out = .error error ↔
      (∃ (settings : List Setting) (arg : String) (rest : List String),
        (∀ setting ∈ settings, setting.Valid stod) ∧
        argv.drop 1 = writtenAs settings ++ arg :: rest ∧
        ((arg = "-h" ∨ arg = "--help") ∧ error = "" ∨
          ¬(arg = "-h" ∨ arg = "--help") ∧ Unreadable stod arg rest ∧
            error = "unknown argument: " ++ arg)) ∨
      (∃ settings : List Setting, (∀ setting ∈ settings, setting.Valid stod) ∧
        argv.drop 1 = writtenAs settings ∧ (settled stod settings out).maxRoundTrips < 1 ∧
        error = "--max_round_trips must be >= 1") := by
  rw [parseArgs_eq]
  constructor
  · intro refused
    split at refused
    next other parsed =>
      cases refused
      rcases (settingGrammar stod).parse_eq_error.mp parsed with
        ⟨settings, arg, rest, valid, written, failed⟩
      exact .inl ⟨settings, arg, rest, valid, written, parseArgument_eq_error.mp failed⟩
    next options parsed =>
      rcases (settingGrammar stod).parse_eq_ok.mp parsed with ⟨settings, valid, written, isResult⟩
      split at refused
      next tooFew =>
        cases refused
        rw [isResult] at tooFew
        exact .inr ⟨settings, valid, written, tooFew, rfl⟩
      next => cases refused
  · intro reason
    cases reason with
    | inl stopped =>
        rcases stopped with ⟨settings, arg, rest, valid, written, failed⟩
        have parsed : (argReader stod).parse 0 out (argv.drop 1) = .error error :=
          (settingGrammar stod).parse_eq_error.mpr
            ⟨settings, arg, rest, valid, written, parseArgument_eq_error.mpr failed⟩
        rw [parsed]
    | inr tooFew =>
        rcases tooFew with ⟨settings, valid, written, tooFew, isError⟩
        have parsed : (argReader stod).parse 0 out (argv.drop 1) =
            .ok (settled stod settings out) :=
          (settingGrammar stod).parse_eq_ok.mpr ⟨settings, valid, written, rfl⟩
        rw [parsed, isError]
        exact if_pos tooFew

/-- The options of an accepted command line: every text is the last value given
for it, or else the initial one, unless that is empty; then it is what the
environment or else the default says.  So the base URL, the model and the system
prompt are never empty, at least one round trip is allowed, and there is a prompt
to run, a chat to hold or a list to print. -/
theorem parseArgs_values (stod : String → Option UInt64) (env : Environment)
    (argv : List String) (out result : Options) (settings : List Setting)
    (valid : ∀ setting ∈ settings, setting.Valid stod)
    (written : argv.drop 1 = writtenAs settings)
    (accepted : parseArgs stod env argv out = .ok result) :
    (∀ option : TextOption,
      let value := ((given settings option).getLast?).getD (option.read out)
      option.read result = if value = "" then (option.fallback env).getD "" else value) ∧
    result.baseUrl ≠ "" ∧ result.model ≠ "" ∧ result.system ≠ "" ∧ 1 ≤ result.maxRoundTrips ∧
    (result.user ≠ "" ∨ result.interactive ∨ result.listTools) := by
  rw [parseArgs_eq] at accepted
  have parsed : (argReader stod).parse 0 out (argv.drop 1) = .ok (settled stod settings out) :=
    (settingGrammar stod).parse_eq_ok.mpr ⟨settings, valid, written, rfl⟩
  rw [parsed] at accepted
  simp only at accepted
  split at accepted
  next => cases accepted
  next enough =>
    have isResult := (Except.ok.inj accepted).symm
    have required : ∀ option ∈ [TextOption.baseUrl, .model, .system], option.read result ≠ "" := by
      intro option member
      rw [isResult]
      exact required_withDefaults env _ member
    refine ⟨?_, required .baseUrl (by simp), required .model (by simp), required .system (by simp),
      ?_, ?_⟩
    · intro option
      rw [isResult, read_withDefaults, read_settled]
    · rw [isResult, maxRoundTrips_withDefaults]
      exact Int.not_lt.mp enough
    · rw [isResult]
      exact engaged_withDefaults env _

/-- A later value replaces an earlier one; a value may look like an option. -/
def repeatedModel : List String :=
  ["deepseek_demo", "--model", "first", "--model=second", "--user", "--stream"]

theorem parseArgs_values_repeatedModel :
    ∃ result, parseArgs (fun _ => none) (fun _ => none) repeatedModel {} = .ok result ∧
      TextOption.model.read result = "second" ∧ TextOption.user.read result = "--stream" := by
  have ran : (parseArgs (fun _ => none) (fun _ => none) repeatedModel {}).toOption.isSome := by
    decide
  rcases Option.isSome_iff_exists.mp ran with ⟨result, returned⟩
  have accepted := Outcome.ok_of_toOption returned
  have values := parseArgs_values (fun _ => none) (fun _ => none) repeatedModel {} result
    [.valued (.text .model) "first" false, .valued (.text .model) "second" true,
      .valued (.text .user) "--stream" false]
    (by simp [Setting.Valid, Written.Fits, ValueOption.Accepts]) rfl accepted
  exact ⟨result, accepted, values.1 .model, values.1 .user⟩

end Boai.DeepseekDemo
