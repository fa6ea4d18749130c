import Boai.DeepseekDemo.CommandLine

/-!
# What `ParseArgs` makes of a command line

The loop body of `ParseArgs` reads exactly the written settings, so the accepted
command lines are the written sequences of settings; the result does what they
say in order, filled up from the environment and the defaults.  A refused command
line is refused with one of three texts.
-/

namespace Boai.DeepseekDemo

/-! ## Settings -/

/-- What one or two arguments ask for. -/
inductive Setting where
  | flag (flag : Flag)
  | valued (option : ValueOption) (value : String) (joined : Bool)
  deriving DecidableEq, Repr

/-- The value can be converted to the type of the option. -/
def ValueOption.Accepts (stod : String → Option UInt64) (value : String) : ValueOption → Prop
  | text _ => True
  | maxRoundTrips => (stoi value).isSome
  | temperature => (stod value).isSome

namespace Setting

def first : Setting → String
  | .flag which => which.name
  | .valued option value joined => (⟨option.name, value, joined⟩ : Written).first

def values : Setting → List String
  | .flag _ => []
  | .valued option value joined => (⟨option.name, value, joined⟩ : Written).values

def Valid (stod : String → Option UInt64) : Setting → Prop
  | .flag _ => True
  | .valued option value joined =>
      (⟨option.name, value, joined⟩ : Written).Fits ∧ option.Accepts stod value

def apply (stod : String → Option UInt64) : Setting → Options → Options
  | .flag which, options => which.assign options
  | .valued (.text option) value _, options => option.assign options value
  | .valued .maxRoundTrips value _, options =>
      { options with maxRoundTrips := (stoi value).getD options.maxRoundTrips }
  | .valued .temperature value _, options =>
      match stod value with
      | some temperature => { options with temperature, hasTemperature := true }
      | none => options

end Setting

section Loop

variable {stod : String → Option UInt64}

theorem parseArgument_flag (options : Options) (flag : Flag) (rest : List String) :
    parseArgument stod options flag.name rest = .ok (flag.assign options, 0) := by
  have help : ¬(flag.name = "-h" ∨ flag.name = "--help") := by
    intro isHelp
    exact isHelp.elim flag.name_ne_help.1 flag.name_ne_help.2
  rw [parseArgument, if_neg help, flag.find?_name]

/-- An argument that is named like a numeric option is not taken by the text
options. -/
theorem readTextOptions_numeric {option : ValueOption} (numeric : ∀ text, option ≠ .text text)
    {arg : String} (named : optionName arg = option.name.toList) (options : Options)
    (rest : List String) (cursor : Cursor) :
    readTextOptions options rest arg TextOption.all cursor = (none, cursor) := by
  apply readTextOptions_other
  intro text _ same
  have equal : option = .text text :=
    ValueOption.name_injective (String.toList_injective (named.symm.trans same))
  exact numeric text equal

theorem parseArgument_valued (options : Options) {option : ValueOption} {value : String}
    {joined : Bool} (valid : (Setting.valued option value joined).Valid stod)
    (later : List String) :
    parseArgument stod options (Setting.valued option value joined).first
        ((Setting.valued option value joined).values ++ later) =
      .ok ((Setting.valued option value joined).apply stod options,
        (Setting.valued option value joined).values.length) := by
  have named : optionName (⟨option.name, value, joined⟩ : Written).first = option.name.toList :=
    optionName_first option.name_plain
  have others := not_plain_of_optionName named
  have unread : ∀ other : ValueOption, option ≠ other →
      readValueArg ((⟨option.name, value, joined⟩ : Written).values ++ later)
        (⟨option.name, value, joined⟩ : Written).first other.name {} = (none, {}) := by
    intro other different
    apply readValueArg_other other.name_plain
    rw [named]
    intro same
    exact different (ValueOption.name_injective (String.toList_injective same))
  have read := readValueArg_written valid.1 later (rfl : ({} : Cursor).taken = 0)
  simp only [Setting.first, Setting.values]
  rw [parseArgument, if_neg others.1, others.2]
  cases option with
  | text option =>
      have member : option ∈ TextOption.all := by cases option <;> decide
      have text : readTextOptions options
          ((⟨option.name, value, joined⟩ : Written).values ++ later)
          (⟨option.name, value, joined⟩ : Written).first TextOption.all {} =
          (some (option.assign options value),
            { taken := (⟨option.name, value, joined⟩ : Written).values.length }) :=
        readTextOptions_written valid.1 later rfl member rfl
      simp only [ValueOption.name] at text ⊢
      rw [text]
      rfl
  | maxRoundTrips =>
      rcases Option.isSome_iff_exists.mp valid.2 with ⟨number, converted⟩
      rw [readTextOptions_numeric (by simp) named]
      simp only [ValueOption.name] at read ⊢
      simp only [parseIntArg, read, converted, Setting.apply, Option.getD_some]
  | temperature =>
      rcases Option.isSome_iff_exists.mp valid.2 with ⟨number, converted⟩
      have notRounds := unread .maxRoundTrips (by simp)
      rw [readTextOptions_numeric (by simp) named]
      simp only [ValueOption.name] at read notRounds ⊢
      simp only [parseIntArg, parseDoubleArg, notRounds, read, converted, Setting.apply]

theorem written_of_parseIntArg {rest : List String} {arg name : String} {number : Int}
    {cursor after : Cursor} (untaken : cursor.taken = 0)
    (read : parseIntArg rest arg name cursor = (some number, after)) :
    ∃ (written : Written) (later : List String), written.Fits ∧ written.name = name ∧
      stoi written.value = some number ∧ arg = written.first ∧
      rest = written.values ++ later ∧ after.taken = written.values.length := by
  simp only [parseIntArg] at read
  split at read
  next => cases read
  next text moved found =>
    rcases written_of_readValueArg untaken found with
      ⟨written, later, fits, named, isValue, isArg, isRest, isTaken⟩
    split at read
    next converted isNumber =>
      cases read
      exact ⟨written, later, fits, named, isValue ▸ isNumber, isArg, isRest, isTaken⟩
    next => cases read

theorem written_of_parseDoubleArg {rest : List String} {arg name : String} {number : UInt64}
    {cursor after : Cursor} (untaken : cursor.taken = 0)
    (read : parseDoubleArg stod rest arg name cursor = (some number, after)) :
    ∃ (written : Written) (later : List String), written.Fits ∧ written.name = name ∧
      stod written.value = some number ∧ arg = written.first ∧
      rest = written.values ++ later ∧ after.taken = written.values.length := by
  simp only [parseDoubleArg] at read
  split at read
  next => cases read
  next text moved found =>
    rcases written_of_readValueArg untaken found with
      ⟨written, later, fits, named, isValue, isArg, isRest, isTaken⟩
    split at read
    next converted isNumber =>
      cases read
      exact ⟨written, later, fits, named, isValue ▸ isNumber, isArg, isRest, isTaken⟩
    next => cases read

theorem optionName_of_parseDoubleArg {rest : List String} {arg name : String} {number : UInt64}
    {cursor after : Cursor} (plain : '=' ∉ name.toList)
    (read : parseDoubleArg stod rest arg name cursor = (some number, after)) :
    optionName arg = name.toList := by
  by_contra other
  have unread : readValueArg rest arg name cursor = (none, cursor) :=
    readValueArg_other plain other cursor
  simp only [parseDoubleArg, unread] at read
  cases read

theorem setting_of_parseArgument {options next : Options} {arg : String} {rest : List String}
    {taken : Nat} (read : parseArgument stod options arg rest = .ok (next, taken)) :
    ∃ (setting : Setting) (later : List String), setting.Valid stod ∧ arg = setting.first ∧
      rest = setting.values ++ later ∧ taken = setting.values.length ∧
      next = setting.apply stod options := by
  simp only [parseArgument] at read
  split at read
  next => cases read
  next =>
    split at read
    next flag found =>
      have isName : arg = flag.name := by simpa using List.find?_some found
      cases read
      exact ⟨.flag flag, rest, trivial, isName, rfl, rfl, rfl⟩
    next =>
      split at read
      next result cursor text =>
        rcases written_of_readTextOptions rfl text with
          ⟨option, written, later, fits, named, isResult, isArg, isRest, isTaken⟩
        cases read
        rcases written with ⟨name, value, joined⟩
        cases named
        exact ⟨.valued (.text option) value joined, later, ⟨fits, trivial⟩, isArg, isRest, isTaken,
          isResult⟩
      next cursor noText =>
        have untaken : cursor.taken = 0 := taken_of_unread_textOptions noText
        split at read
        next number after rounds =>
          rcases written_of_parseIntArg untaken rounds with
            ⟨written, later, fits, named, isNumber, isArg, isRest, isTaken⟩
          cases read
          rcases written with ⟨name, value, joined⟩
          cases named
          refine ⟨.valued .maxRoundTrips value joined, later,
            ⟨fits, Option.isSome_iff_exists.mpr ⟨_, isNumber⟩⟩, isArg, isRest, isTaken, ?_⟩
          simp only [Setting.apply, isNumber, Option.getD_some]
        next after noRounds =>
          split at read
          next number last temperature =>
            -- The value was not taken for the other numeric option before.
            have isTemperature := optionName_of_parseDoubleArg (by decide) temperature
            have other : parseIntArg rest arg "--max_round_trips" cursor = (none, cursor) := by
              have unread : readValueArg rest arg "--max_round_trips" cursor = (none, cursor) :=
                readValueArg_other (by decide) (by rw [isTemperature]; decide) cursor
              simp only [parseIntArg, unread]
            rw [other, Prod.mk.injEq] at noRounds
            rcases written_of_parseDoubleArg (noRounds.2 ▸ untaken) temperature with
              ⟨written, later, fits, named, isNumber, isArg, isRest, isTaken⟩
            cases read
            rcases written with ⟨name, value, joined⟩
            cases named
            refine ⟨.valued .temperature value joined, later,
              ⟨fits, Option.isSome_iff_exists.mpr ⟨_, isNumber⟩⟩, isArg, isRest, isTaken, ?_⟩
            simp only [Setting.apply, isNumber]
          next => cases read

/-- The settings are the grammar of the loop body of `ParseArgs`. -/
def settingGrammar (stod : String → Option UInt64) : (argReader stod).Grammar Setting where
  first := Setting.first
  values := Setting.values
  apply := Setting.apply stod
  Valid := Setting.Valid stod
  reads setting options later valid := by
    cases setting with
    | flag flag => exact parseArgument_flag options flag later
    | valued option value joined => exact parseArgument_valued options valid later
  readsOnly _ _ _ _ _ read := setting_of_parseArgument read

/-- No setting begins with the argument. -/
def Unreadable (stod : String → Option UInt64) (arg : String) (rest : List String) : Prop :=
  ∀ (setting : Setting) (later : List String), setting.Valid stod →
    ¬(arg = setting.first ∧ rest = setting.values ++ later)

/-- The loop body fails on the two spellings of help, without a text, and on an
argument that no setting begins with, which it names. -/
theorem parseArgument_eq_error {options : Options} {arg : String} {rest : List String}
    {error : String} :
    parseArgument stod options arg rest = .error error ↔
      (arg = "-h" ∨ arg = "--help") ∧ error = "" ∨
        ¬(arg = "-h" ∨ arg = "--help") ∧ Unreadable stod arg rest ∧
          error = "unknown argument: " ++ arg := by
  by_cases help : arg = "-h" ∨ arg = "--help"
  · rw [parseArgument, if_pos help]
    simp [help, eq_comm]
  · have named : ∀ other, parseArgument stod options arg rest = .error other →
        other = "unknown argument: " ++ arg := by
      intro other failed
      simp only [parseArgument, help, if_false] at failed
      split at failed
      · cases failed
      · split at failed
        · cases failed
        · split at failed
          · cases failed
          · split at failed
            · cases failed
            · exact (Except.error.inj failed).symm
    simp only [help, false_and, false_or, not_false_eq_true, true_and]
    constructor
    · intro failed
      refine ⟨?_, named error failed⟩
      intro setting later valid written
      rw [written.1, written.2] at failed
      have reads := (settingGrammar stod).reads setting options later valid
      have same : parseArgument stod options setting.first (setting.values ++ later) =
          .ok (setting.apply stod options, setting.values.length) := reads
      rw [same] at failed
      cases failed
    · intro ⟨unreadable, isError⟩
      cases outcome : parseArgument stod options arg rest with
      | error other => rw [isError, named other outcome]
      | ok result =>
          rcases setting_of_parseArgument outcome with
            ⟨setting, later, valid, isArg, isRest, _, _⟩
          exact absurd ⟨isArg, isRest⟩ (unreadable setting later valid)

end Loop

/-! ## Defaults -/

theorem getEnv_ne_empty {env : Environment} {name value : String}
    (found : getEnv env name = some value) : value ≠ "" := by
  simp only [getEnv] at found
  split at found
  next => cases found
  next text _ =>
    split at found
    next => cases found
    next nonempty =>
      cases found
      exact nonempty

namespace TextOption

theorem read_assign (option other : TextOption) (options : Options) (value : String) :
    other.read (option.assign options value) =
      if option = other then value else other.read options := by
  cases option <;> cases other <;> rfl

/-- Filling in fields touches the fields named, and those only if they are
empty. -/
theorem read_fillIn (env : Environment) (options : Options) {choices : List TextOption}
    (distinct : choices.Nodup) (option : TextOption) :
    option.read (choices.foldl (fillIn env) options) =
      if option ∈ choices ∧ option.read options = "" then (option.fallback env).getD ""
      else option.read options := by
  induction choices generalizing options with
  | nil => simp
  | cons choice choices ih =>
      have nodup := List.nodup_cons.mp distinct
      have here : option.read (fillIn env options choice) =
          if choice = option ∧ option.read options = "" then (option.fallback env).getD ""
          else option.read options := by
        by_cases same : choice = option
        · subst same
          simp only [fillIn, true_and]
          split
          next isEmpty =>
            cases choice.fallback env with
            | none => exact isEmpty
            | some value => simp [read_assign]
          next => rfl
        · simp only [fillIn, same, false_and, if_false]
          split
          · cases choice.fallback env with
            | none => rfl
            | some value => simp [read_assign, same]
          · rfl
      rw [List.foldl_cons, ih (fillIn env options choice) nodup.2, here]
      by_cases same : choice = option
      · subst same
        simp [nodup.1]
      · have reversed : ¬option = choice := fun equal => same equal.symm
        simp [same, reversed]

end TextOption

/-- The fields that are no texts. -/
theorem fillIn_frame (env : Environment) (options : Options) (choices : List TextOption) :
    (choices.foldl (fillIn env) options).maxRoundTrips = options.maxRoundTrips ∧
      (choices.foldl (fillIn env) options).interactive = options.interactive ∧
      (choices.foldl (fillIn env) options).listTools = options.listTools := by
  induction choices generalizing options with
  | nil => exact ⟨rfl, rfl, rfl⟩
  | cons choice choices ih =>
      have here : (fillIn env options choice).maxRoundTrips = options.maxRoundTrips ∧
          (fillIn env options choice).interactive = options.interactive ∧
          (fillIn env options choice).listTools = options.listTools := by
        simp only [fillIn]
        split
        · split
          · cases choice <;> exact ⟨rfl, rfl, rfl⟩
          · exact ⟨rfl, rfl, rfl⟩
        · exact ⟨rfl, rfl, rfl⟩
      rw [List.foldl_cons]
      have later := ih (fillIn env options choice)
      exact ⟨later.1.trans here.1, later.2.1.trans here.2.1, later.2.2.trans here.2.2⟩

/-- Every text is the one of the command line or, if that is empty, its
fallback. -/
theorem read_withDefaults (env : Environment) (options : Options) (option : TextOption) :
    option.read (withDefaults env options) =
      if option.read options = "" then (option.fallback env).getD "" else option.read options := by
  have filled := TextOption.read_fillIn env options (by decide : TextOption.filledIn.Nodup) option
  have unchanged : option.read (withDefaults env options) =
      option.read (TextOption.filledIn.foldl (fillIn env) options) := by
    simp only [withDefaults]
    generalize TextOption.filledIn.foldl (fillIn env) options = result
    split
    · cases option <;> rfl
    · rfl
  rw [unchanged, filled]
  split
  next both => rw [if_pos both.2]
  next neither =>
    split
    next isEmpty =>
      -- Only the fields without fallback are left out.
      have absent : option ∉ TextOption.filledIn := fun member => neither ⟨member, isEmpty⟩
      rw [isEmpty]
      cases option <;> first | rfl | exact absurd (by decide) absent
    next => rfl

theorem maxRoundTrips_withDefaults (env : Environment) (options : Options) :
    (withDefaults env options).maxRoundTrips = options.maxRoundTrips := by
  have kept := (fillIn_frame env options TextOption.filledIn).1
  simp only [withDefaults]
  generalize TextOption.filledIn.foldl (fillIn env) options = result at kept
  split
  · exact kept
  · exact kept

theorem required_withDefaults (env : Environment) (options : Options) {option : TextOption}
    (required : option ∈ [TextOption.baseUrl, .model, .system]) :
    option.read (withDefaults env options) ≠ "" := by
  rw [read_withDefaults]
  split
  next =>
    have nonempty : ∀ name default, default ≠ "" → (getEnv env name).getD default ≠ "" := by
      intro name default isDefault
      cases found : getEnv env name with
      | none => exact isDefault
      | some value => exact getEnv_ne_empty found
    simp only [List.mem_cons, List.not_mem_nil, or_false] at required
    rcases required with rfl | rfl | rfl <;> simp only [TextOption.fallback, Option.getD_some]
    · exact nonempty _ _ (by decide)
    · exact nonempty _ _ (by decide)
    · decide
  next nonempty => exact nonempty

theorem engaged_withDefaults (env : Environment) (options : Options) :
    (withDefaults env options).user ≠ "" ∨ (withDefaults env options).interactive ∨
      (withDefaults env options).listTools := by
  simp only [withDefaults]
  split
  next => exact .inr (.inl rfl)
  next engaged =>
    simp only [not_and, Bool.not_eq_eq_eq_not, Bool.not_true,
      Bool.not_eq_false] at engaged
    by_cases isEmpty : (TextOption.filledIn.foldl (fillIn env) options).user = ""
    · cases interactive : (TextOption.filledIn.foldl (fillIn env) options).interactive with
      | true => exact .inr (.inl rfl)
      | false => exact .inr (.inr (engaged isEmpty interactive))
    · exact .inl isEmpty

end Boai.DeepseekDemo
