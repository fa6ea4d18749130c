import Mathlib.Algebra.Group.Int.Defs
import Boai.Lib.ArgReader

/-!
# Options of the demo

The command line of `demo_options.cc`.  `ParseArgs` tries the options one after
the other on each argument; an option that takes a value reads it from the next
argument or from behind an equals sign.  `std::stod` and the environment are
parameters, `std::stoi` is spelled out.
-/

namespace Boai.DeepseekDemo

/-- `Options`.  The temperature is known by the bits of the double. -/
structure Options where
  baseUrl : String := ""
  apiKey : String := ""
  model : String := ""
  organization : String := ""
  project : String := ""
  system : String := ""
  user : String := ""
  proxyHost : String := ""
  proxyPort : String := ""
  proxyAuth : String := ""
  stream : Bool := false
  interactive : Bool := false
  listTools : Bool := false
  printReasoning : Bool := false
  hasTemperature : Bool := false
  temperature : UInt64 := 0x3FC999999999999A
  maxRoundTrips : Int := 8
  deriving DecidableEq, Repr

/-- `kDefaultBaseUrl`. -/
def defaultBaseUrl : String := "https://api.deepseek.com"

/-- `kDefaultModel`. -/
def defaultModel : String := "deepseek-chat"

/-- `kDefaultSystemPrompt`. -/
def defaultSystemPrompt : String :=
  "You are a DeepSeek tool-calling demo. " ++
  "Use tools whenever they help answer questions about time, arithmetic, " ++
  "random numbers, text inspection, or the local runtime environment. " ++
  "When you receive tool results, ground your answer in those results and " ++
  "keep the final reply concise."

/-- What `std::getenv` returns. -/
abbrev Environment := String → Option String

/-- `GetEnv`: a variable that is set to the empty text counts as unset. -/
def getEnv (env : Environment) (name : String) : Option String :=
  match env name with
  | none => none
  | some value => if value = "" then none else some value

/-! ## Numbers -/

/-- `std::isspace` in the C locale. -/
def isSpace (character : Char) : Bool :=
  character = ' ' || ('\t' ≤ character && character ≤ '\r')

/-- The value of some decimal digits. -/
def decimal (digits : List Char) : Nat :=
  digits.foldl (fun value digit => 10 * value + (digit.toNat - '0'.toNat)) 0

/-- `std::stoi`: white space, a sign and the longest run of digits; whatever
follows is ignored.  It throws without digits and outside the range of `int`. -/
def stoi (text : String) : Option Int :=
  let trimmed := text.toList.dropWhile isSpace
  let negative := trimmed.head? = some '-'
  let digits := (if negative ∨ trimmed.head? = some '+' then trimmed.tail else trimmed).takeWhile
    Char.isDigit
  let value : Int := if negative then -decimal digits else decimal digits
  if digits = [] ∨ value < -2 ^ 31 ∨ 2 ^ 31 ≤ value then none else some value

/-! ## Options with a value -/

/-- What the readers change besides the options: how many of the following
arguments are taken (`++(*index)`) and the error text. -/
structure Cursor where
  taken : Nat := 0
  error : String := ""
  deriving DecidableEq, Repr

/-- `ReadValueArg` at an argument in front of the rest of `argv`. -/
def readValueArg (rest : List String) (arg name : String) (cursor : Cursor) :
    Option String × Cursor :=
  if arg = name then
    match rest[cursor.taken]? with
    | none => (none, { cursor with error := "missing value for " ++ name })
    | some value => (some value, { cursor with taken := cursor.taken + 1 })
  else
    let before := name ++ "="
    if before.length < arg.length ∧ before.toList <+: arg.toList then
      (some (String.ofList (arg.toList.drop before.length)), cursor)
    else (none, cursor)

/-- `ParseIntArg`. -/
def parseIntArg (rest : List String) (arg name : String) (cursor : Cursor) :
    Option Int × Cursor :=
  match readValueArg rest arg name cursor with
  | (none, cursor) => (none, cursor)
  | (some text, cursor) =>
      match stoi text with
      | some value => (some value, cursor)
      | none => (none, { cursor with error := "invalid integer for " ++ name })

/-- `ParseDoubleArg`. -/
def parseDoubleArg (stod : String → Option UInt64) (rest : List String) (arg name : String)
    (cursor : Cursor) : Option UInt64 × Cursor :=
  match readValueArg rest arg name cursor with
  | (none, cursor) => (none, cursor)
  | (some text, cursor) =>
      match stod text with
      | some value => (some value, cursor)
      | none => (none, { cursor with error := "invalid number for " ++ name })

/-- The options whose value is a text. -/
inductive TextOption where
  | baseUrl
  | apiKey
  | model
  | organization
  | project
  | proxyHost
  | proxyPort
  | proxyAuth
  | system
  | user
  deriving DecidableEq, Repr

namespace TextOption

/-- The options in the order in which `ParseArgs` tries them. -/
def all : List TextOption :=
  [baseUrl, apiKey, model, organization, project, proxyHost, proxyPort, proxyAuth, system, user]

def name : TextOption → String
  | baseUrl => "--base_url"
  | apiKey => "--api_key"
  | model => "--model"
  | organization => "--organization"
  | project => "--project"
  | proxyHost => "--proxy_host"
  | proxyPort => "--proxy_port"
  | proxyAuth => "--proxy_auth"
  | system => "--system"
  | user => "--user"

/-- The field given to `ReadValueArg` as `out`. -/
def assign (options : Options) (value : String) : TextOption → Options
  | baseUrl => { options with baseUrl := value }
  | apiKey => { options with apiKey := value }
  | model => { options with model := value }
  | organization => { options with organization := value }
  | project => { options with project := value }
  | proxyHost => { options with proxyHost := value }
  | proxyPort => { options with proxyPort := value }
  | proxyAuth => { options with proxyAuth := value }
  | system => { options with system := value }
  | user => { options with user := value }

end TextOption

/-- The `ReadValueArg` calls of `ParseArgs`, up to the first one that reads. -/
def readTextOptions (options : Options) (rest : List String) (arg : String) :
    List TextOption → Cursor → Option Options × Cursor
  | [], cursor => (none, cursor)
  | option :: others, cursor =>
      match readValueArg rest arg option.name cursor with
      | (some value, cursor) => (some (option.assign options value), cursor)
      | (none, cursor) => readTextOptions options rest arg others cursor

/-- The options without a value. -/
inductive Flag where
  | stream
  | interactive
  | listTools
  | printReasoning
  deriving DecidableEq, Repr

namespace Flag

/-- The flags in the order in which `ParseArgs` tries them. -/
def all : List Flag := [stream, interactive, listTools, printReasoning]

def name : Flag → String
  | stream => "--stream"
  | interactive => "--interactive"
  | listTools => "--list_tools"
  | printReasoning => "--print_reasoning"

def assign (options : Options) : Flag → Options
  | stream => { options with stream := true }
  | interactive => { options with interactive := true }
  | listTools => { options with listTools := true }
  | printReasoning => { options with printReasoning := true }

end Flag

/-- The loop body of `ParseArgs` at one argument: the options afterwards and how
many of the following arguments it has taken, or the error text.  Asking for help
is a failure without text.  An option that reads no value leaves its own error
text behind, but the loop goes on to the end of its body, which replaces it. -/
def parseArgument (stod : String → Option UInt64) (options : Options) (arg : String)
    (rest : List String) : Except String (Options × Nat) :=
  if arg = "-h" ∨ arg = "--help" then .error ""
  else
    match Flag.all.find? fun flag => arg = flag.name with
    | some flag => .ok (flag.assign options, 0)
    | none =>
        match readTextOptions options rest arg TextOption.all {} with
        | (some options, cursor) => .ok (options, cursor.taken)
        | (none, cursor) =>
            match parseIntArg rest arg "--max_round_trips" cursor with
            | (some value, cursor) => .ok ({ options with maxRoundTrips := value }, cursor.taken)
            | (none, cursor) =>
                match parseDoubleArg stod rest arg "--temperature" cursor with
                | (some value, cursor) =>
                    .ok ({ options with temperature := value, hasTemperature := true },
                      cursor.taken)
                | (none, _) => .error ("unknown argument: " ++ arg)

/-- The loop body as a reader of argument vectors. -/
def argReader (stod : String → Option UInt64) : ArgReader Options String String where
  read := parseArgument stod

/-! ## Defaults -/

namespace TextOption

/-- The field of the option. -/
def read (options : Options) : TextOption → String
  | baseUrl => options.baseUrl
  | apiKey => options.apiKey
  | model => options.model
  | organization => options.organization
  | project => options.project
  | proxyHost => options.proxyHost
  | proxyPort => options.proxyPort
  | proxyAuth => options.proxyAuth
  | system => options.system
  | user => options.user

/-- What `ParseArgs` assigns to the field if the command line left it empty. -/
def fallback (env : Environment) : TextOption → Option String
  | baseUrl => some ((getEnv env "DEEPSEEK_BASE_URL").getD defaultBaseUrl)
  | apiKey => (getEnv env "DEEPSEEK_API_KEY").or (getEnv env "OAI_API_KEY")
  | model => some ((getEnv env "DEEPSEEK_MODEL").getD defaultModel)
  | proxyHost => getEnv env "BOAI_PROXY_HOST"
  | proxyPort => getEnv env "BOAI_PROXY_PORT"
  | proxyAuth => getEnv env "BOAI_PROXY_AUTH"
  | system => some defaultSystemPrompt
  | organization | project | user => none

/-- The options that `ParseArgs` fills in, in its order. -/
def filledIn : List TextOption :=
  [baseUrl, model, apiKey, proxyHost, proxyPort, proxyAuth, system]

end TextOption

/-- `if (out->field.empty()) ...` for one field. -/
def fillIn (env : Environment) (options : Options) (option : TextOption) : Options :=
  if option.read options = "" then
    match option.fallback env with
    | some value => option.assign options value
    | none => options
  else options

/-- The part of `ParseArgs` that fills in what the command line left empty. -/
def withDefaults (env : Environment) (options : Options) : Options :=
  let options := TextOption.filledIn.foldl (fillIn env) options
  if options.user = "" ∧ !options.interactive ∧ !options.listTools then
    { options with interactive := true }
  else options

/-- `ParseArgs`: the options, or the error text. -/
def parseArgs (stod : String → Option UInt64) (env : Environment) (argv : List String)
    (out : Options) : Except String Options :=
  match (argReader stod).parse 0 out (argv.drop 1) with
  | .error error => .error error
  | .ok options =>
      let options := withDefaults env options
      if options.maxRoundTrips < 1 then .error "--max_round_trips must be >= 1"
      else if options.baseUrl = "" ∨ options.model = "" then
        .error "--base_url and --model are required"
      else .ok options

end Boai.DeepseekDemo
