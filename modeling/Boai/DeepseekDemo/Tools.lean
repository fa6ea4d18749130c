import Boai.Lib.ExactDouble
import Boai.Completion.Response
import Boai.DeepseekDemo.Options

/-!
# Tools of the demo

The tools of `demo_tools.cc` and the registry that lists and runs them.  A
handler reads its arguments from a JSON object and either builds an output or
leaves an error text.  What a handler asks the machine for (the clock, the random
engine, `std::pow`, the names of the platform) is its `Host`.  Two operations of
the source are undefined for some operands; a computation that reaches one of
them has no result.
-/

namespace Boai.DeepseekDemo

open Boai.Json Boai.Completion

/-- What the handlers find on the machine they run on. -/
structure Host where
  /-- `DetectPlatform`, `DetectArch` and `DetectCompiler`. -/
  platform : String
  architecture : String
  compiler : String
  cppStandard : Int
  pointerWidth : Int
  /-- `to_time_t(system_clock::now())`. -/
  now : Int
  /-- `BuildCalendarTime` and `std::put_time`, for UTC or local time. -/
  calendarTime : (utc : Bool) → (seconds : Int) → Option String
  pow : Float.Model → Float.Model → Float.Model
  /-- The number drawn by `std::uniform_int_distribution` from the two bounds. -/
  uniform : Int → Int → Int

/-! ## Fields of the arguments -/

/-- `std::numeric_limits<std::int64_t>::min()` and `max()`. -/
def int64Min : Int := -2 ^ 63

def int64Max : Int := 2 ^ 63 - 1

/-- `JsonStringField`, which is `JsonStringFromObjectField` again. -/
abbrev jsonStringField (object : Members) (key : String) : Option String :=
  jsonStringFromObjectField object key

/-- `JsonNumberField`.  Integers are converted to the nearest double. -/
def jsonNumberField (object : Members) (key : String) : Option Float.Model :=
  match ifContains object key with
  | some (.int64 value) => some (.ofInt value)
  | some (.uint64 value) => some (.ofNat value)
  | some (.double bits) => some (.ofBits bits)
  | _ => none

/-- The exact value of the double `1e-9`. -/
def nano : Rat := 0x112E0BE826D695 / 2 ^ 82

/-- `static_cast<std::int64_t>` of a double with an integral value, which is
undefined outside the range of the type. -/
def castToInt64 (value : Int) : Option Int :=
  if int64Min ≤ value ∧ value ≤ int64Max then some value else none

/-- `JsonIntField`: no result if the conversion is undefined, else the integer if
the field has one.  The upper bound that the source compares with is the double
nearest to `int64Max`, which is `2 ^ 63`.  The distance to the rounded double is
computed without rounding error, so it is the exact one. -/
def jsonIntField (object : Members) (key : String) : Option (Option Int) :=
  match ifContains object key with
  | some (.int64 value) => some (some value)
  | some (.uint64 raw) => some (if raw ≤ int64Max then some raw else none)
  | some (.double bits) =>
      match ExactDouble.value (.ofBits bits) with
      | none => some none
      | some raw =>
          let rounded := ExactDouble.roundAway raw
          if |raw - rounded| < nano ∧ int64Min ≤ rounded ∧ rounded ≤ 2 ^ 63 then
            (castToInt64 rounded).map some
          else some none
  | _ => some none

/-- What a handler returns and the text it leaves in `*error_out`. -/
structure HandlerResult where
  output : JsonValue
  error : String

/-- `*error_out = text; return nullptr;` -/
def failed (error : String) : HandlerResult := { output := .null, error }

def succeeded (output : JsonObject) : HandlerResult := { output := toValue output, error := "" }

/-- A tool's function on the arguments of a call. -/
abbrev Handler := Host → JsonValue → Option HandlerResult

/-- `RequireObjectArgs`, in front of the handler proper. -/
def withObjectArgs (handler : Host → Members → Option HandlerResult) : Handler :=
  fun host args =>
    match args with
    | .object members => handler host members
    | _ => some (failed "tool arguments must be a JSON object")

/-! ## Handlers -/

/-- `RunCurrentTimeTool`. -/
def runCurrentTimeTool : Handler :=
  withObjectArgs fun host args =>
    let mode := (jsonStringField args "clock").getD "local"
    let utc := decide (mode = "utc")
    if !utc ∧ mode ≠ "local" then
      some (failed "clock must be either \"local\" or \"utc\"")
    else
      match host.calendarTime utc host.now with
      | none => some (failed "failed to format current time")
      | some text =>
          some (succeeded (((((Dict.empty : JsonObject).set
            "clock" (.string (if utc then "utc" else "local"))).set
            "iso8601_like" (.string (if utc then text ++ " UTC" else text))).set
            "unix_seconds" (.int64 host.now)).set
            "platform" (.string host.platform)))

/-- `lhs % rhs` on `std::int64_t`, for a nonzero divisor. -/
def int64Mod (lhs rhs : Int) : Option Int :=
  if lhs = int64Min ∧ rhs = -1 then none else some (lhs.tmod rhs)

/-- The branch of `RunCalculatorTool` for `mod`. -/
def runMod (args : Members) : Option HandlerResult := do
  let lhs ← jsonIntField args "lhs"
  let rhs ← jsonIntField args "rhs"
  match lhs, rhs with
  | some lhs, some rhs =>
      if rhs = 0 then some (failed "mod by zero")
      else
        let value ← int64Mod lhs rhs
        some (succeeded (((Dict.empty : JsonObject).set
          "expression" (.string (toString lhs ++ " % " ++ toString rhs))).set
          "value" (.int64 value)))
  | _, _ => some (failed "mod requires integer lhs and rhs")

/-- The double `1e-12`. -/
def pico : Float.Model := .ofBits 0x3D719799812DEA11

/-- `RunCalculatorTool`. -/
def runCalculatorTool : Handler :=
  withObjectArgs fun host args =>
    match jsonNumberField args "lhs", jsonNumberField args "rhs",
        jsonStringField args "op" with
    | some lhs, some rhs, some op =>
        let finish := fun (value : Float.Model) =>
          some (succeeded (((((Dict.empty : JsonObject).set
            "lhs" (.double lhs.toBits)).set
            "rhs" (.double rhs.toBits)).set
            "op" (.string op)).set
            "value" (.double value.toBits)))
        if op = "add" then finish (lhs + rhs)
        else if op = "subtract" then finish (lhs - rhs)
        else if op = "multiply" then finish (lhs * rhs)
        else if op = "divide" then
          if rhs.abs < pico then some (failed "division by zero") else finish (lhs / rhs)
        else if op = "power" then finish (host.pow lhs rhs)
        else if op = "mod" then runMod args
        else
          some (failed "op must be one of add, subtract, multiply, divide, power, mod")
    | _, _, _ => some (failed "calculate requires numeric lhs, numeric rhs, and string op")

/-- `RunRandomNumberTool`. -/
def runRandomNumberTool : Handler :=
  withObjectArgs fun host args => do
    let minimum ← jsonIntField args "min"
    let maximum ← jsonIntField args "max"
    let minValue := minimum.getD 0
    let maxValue := maximum.getD 100
    if maxValue < minValue then some (failed "min must be <= max")
    else
      some (succeeded ((((Dict.empty : JsonObject).set
        "min" (.int64 minValue)).set
        "max" (.int64 maxValue)).set
        "value" (.int64 (host.uniform minValue maxValue))))

/-- `CountUtf8CodePoints`: the bytes that do not continue a character. -/
def countUtf8CodePoints (text : String) : Nat :=
  text.toList.countP fun byte => byte.toNat &&& 0xC0 ≠ 0x80

/-- The loop of `CountWords`. -/
def countWordsFrom : (inWord : Bool) → List Char → Nat
  | _, [] => 0
  | inWord, byte :: rest =>
      if isSpace byte then countWordsFrom false rest
      else if inWord then countWordsFrom true rest
      else countWordsFrom true rest + 1

/-- `CountWords`. -/
def countWords (text : String) : Nat := countWordsFrom false text.toList

/-- `RunTextStatsTool`. -/
def runTextStatsTool : Handler :=
  withObjectArgs fun _ args =>
    match jsonStringField args "text" with
    | none => some (failed "text_stats requires string text")
    | some text =>
        let lines := if text = "" then 0 else text.toList.count '\n' + 1
        some (succeeded ((((((Dict.empty : JsonObject).set
          "bytes" (.int64 text.length)).set
          "characters" (.int64 (countUtf8CodePoints text))).set
          "words" (.int64 (countWords text))).set
          "lines" (.int64 lines)).set
          "has_non_ascii" (.bool (text.toList.any fun byte => 0x7F < byte.toNat))))

/-- `RunSystemInfoTool`. -/
def runSystemInfoTool : Handler :=
  withObjectArgs fun host _ =>
    some (succeeded ((((((Dict.empty : JsonObject).set
      "platform" (.string host.platform)).set
      "architecture" (.string host.architecture)).set
      "compiler" (.string host.compiler)).set
      "cpp_standard" (.int64 host.cppStandard)).set
      "pointer_width" (.int64 host.pointerWidth)))

/-! ## The registry -/

/-- `ToolEntry`. -/
structure ToolEntry where
  definition : OaiToolDefinition
  handler : Handler

/-- `ToolRegistry`. -/
structure ToolRegistry where
  entries : List ToolEntry

/-- `MakeToolEnvelope`. -/
def makeToolEnvelope (name : String) (input output : JsonValue) : JsonObject :=
  ((((Dict.empty : JsonObject).set "ok" (.bool true)).set
    "tool" (.string name)).set "input" input).set "output" output

/-- `MakeToolError`. -/
def makeToolError (name : String) (input : JsonValue) (message : String) : JsonObject :=
  ((((Dict.empty : JsonObject).set "ok" (.bool false)).set
    "tool" (.string name)).set "input" input).set "error" (.string message)

namespace ToolRegistry

/-- `ToolRegistry::Definitions`. -/
def definitions (registry : ToolRegistry) : List OaiToolDefinition :=
  registry.entries.map ToolEntry.definition

/-- `ToolRegistry::Find`. -/
def find (registry : ToolRegistry) (name : String) : Option ToolEntry :=
  registry.entries.find? fun entry => entry.definition.name = name

/-- `ToolRegistry::Execute`. -/
def execute (registry : ToolRegistry) (host : Host) (call : OaiToolCall) : Option JsonObject :=
  match registry.find call.name with
  | none => some (makeToolError call.name call.arguments
      "unknown tool; ask the assistant to choose one of the declared demo tools")
  | some entry =>
      let input := if call.arguments = .null then .object [] else call.arguments
      (entry.handler host input).map fun result =>
        if result.error ≠ "" then makeToolError call.name input result.error
        else makeToolEnvelope call.name input result.output

/-- `ToolRegistry::PrintList`. -/
def printList (registry : ToolRegistry) : String :=
  "Available tools:\n" ++ String.join (registry.entries.map fun entry =>
    "  - " ++ entry.definition.name ++ ": " ++ entry.definition.description ++ "\n")

end ToolRegistry

/-! ## The tools of the demo -/

/-- A JSON object with the given members. -/
def jsonObject (members : Members) : JsonObject :=
  members.foldl (fun object member => object.set member.1 member.2) Dict.empty

/-- `json::object{{"type", type}}`. -/
def typed (type : String) : JsonValue := .object [("type", .string type)]

/-- `json::object{{"type", "string"}, {"enum", choices}}`. -/
def oneOf (choices : List String) : JsonValue :=
  .object [("type", .string "string"), ("enum", .array (choices.map .string))]

/-- The members of `tool.parameters`, of which `required` is left out where the
source has none. -/
def parameters (properties : Members) (required : List String) : JsonObject :=
  jsonObject ([("type", .string "object"), ("properties", .object properties)] ++
    if required = [] then [] else [("required", .array (required.map .string))])

def currentTimeTool : ToolEntry where
  definition := {
    name := "get_current_time"
    description := "Return the current local or UTC time from this machine."
    parameters := parameters [("clock", oneOf ["local", "utc"])] [] }
  handler := runCurrentTimeTool

def calculatorTool : ToolEntry where
  definition := {
    name := "calculate"
    description :=
      "Calculate two numbers using add, subtract, multiply, divide, power, or mod."
    parameters := parameters
      [("lhs", typed "number"), ("rhs", typed "number"),
        ("op", oneOf ["add", "subtract", "multiply", "divide", "power", "mod"])]
      ["lhs", "rhs", "op"] }
  handler := runCalculatorTool

def randomNumberTool : ToolEntry where
  definition := {
    name := "random_number"
    description := "Pick a random integer in a closed interval [min, max]."
    parameters := parameters [("min", typed "integer"), ("max", typed "integer")] [] }
  handler := runRandomNumberTool

def textStatsTool : ToolEntry where
  definition := {
    name := "text_stats"
    description := "Count UTF-8 characters, words, lines, and bytes for a piece of text."
    parameters := parameters [("text", typed "string")] ["text"] }
  handler := runTextStatsTool

def systemInfoTool : ToolEntry where
  definition := {
    name := "system_info"
    description := "Describe the current runtime platform, CPU architecture, and compiler."
    parameters := parameters [] [] }
  handler := runSystemInfoTool

/-- The entries that `ToolRegistry::ToolRegistry` adds. -/
def demoRegistry : ToolRegistry where
  entries := [currentTimeTool, calculatorTool, randomNumberTool, textStatsTool, systemInfoTool]

end Boai.DeepseekDemo
