import Boai.DeepseekDemo.ParseArgs
import Boai.DeepseekDemo.SessionOutcome

/-!
# The program

`main` of `deepseek_demo.cc`: read the arguments, build the provider and the model
from the options and run a session.  A command line that is accepted always names a
provider and a model, so every request of the session is started.
-/

namespace Boai.DeepseekDemo

open Boai.Json Boai.Completion Outcome

/-! ## `main` -/

/-- What `PrintUsage` writes. -/
def usage (argv0 : String) : String :=
  "Usage: " ++ argv0 ++ " [options]\n\n" ++
  "Common options:\n" ++
  "  --user <text>            Run one prompt and exit\n" ++
  "  --interactive            Start a chat loop (default when --user is omitted)\n" ++
  "  --list_tools             Print available demo tools and exit\n" ++
  "  --stream                 Stream assistant output\n" ++
  "  --print_reasoning        Print reasoning_content to stderr when provided\n" ++
  "  --max_round_trips <n>    Maximum assistant/tool rounds per user turn\n" ++
  "  --temperature <value>    Override model temperature\n\n" ++
  "Provider options:\n" ++
  "  --base_url <url>         Default: DEEPSEEK_BASE_URL or " ++ defaultBaseUrl ++ "\n" ++
  "  --api_key <key>          Default: DEEPSEEK_API_KEY or OAI_API_KEY\n" ++
  "  --model <name>           Default: DEEPSEEK_MODEL or " ++ defaultModel ++ "\n" ++
  "  --system <text>          Override the default system prompt\n" ++
  "  --organization <org>     Optional OpenAI-compatible header\n" ++
  "  --project <proj>         Optional OpenAI-compatible header\n" ++
  "  --proxy_host <host>      HTTP/HTTPS proxy host (env: BOAI_PROXY_HOST)\n" ++
  "  --proxy_port <port>      Proxy port (env: BOAI_PROXY_PORT)\n" ++
  "  --proxy_auth <auth>      Proxy-Authorization value (env: BOAI_PROXY_AUTH)\n" ++
  "  -h, --help               Show this help\n\n" ++
  "Interactive commands:\n" ++
  "  :tools                   Print tool list\n" ++
  "  :reset                   Reset the conversation\n" ++
  "  :quit                    Exit\n"

/-- `info` of `main`. -/
def providerInfo (options : Options) : OaiCompletionInfo where
  apiKey := options.apiKey
  baseUrl := options.baseUrl
  organization := if options.organization = "" then none else some options.organization
  project := if options.project = "" then none else some options.project
  proxy :=
    if options.proxyHost = "" then {}
    else { host := options.proxyHost, port := options.proxyPort, auth := options.proxyAuth }

/-- `model_info` of `main`. -/
def chosenModel (options : Options) : OaiModelInfo where
  model := options.model
  params :=
    let params := (Dict.empty : JsonObject).set "tool_choice" (.string "auto")
    if options.hasTemperature then params.set "temperature" (.double options.temperature)
    else params

/-- What `main` gives to the session. -/
def sessionSetup (options : Options) : Setup where
  factory := ⟨some ⟨0, providerInfo options⟩⟩
  toolRegistry := demoRegistry
  modelInfo := some ⟨1, chosenModel options⟩
  options := options

/-- Where `main` is when it has read its arguments: it returns a code, or runs a
session. -/
inductive Launched where
  | returns (code : Int) (console : List Write)
  | runs (setup : Setup)

/-- `main` up to the session. -/
def launchMain (stod : String → Option UInt64) (env : Environment) (argv : List String) :
    Launched :=
  match parseArgs stod env argv {} with
  | .error error =>
      .returns (if error = "" then 0 else 2)
        ((if error = "" then [] else [.err ("Error: " ++ error ++ "\n\n")]) ++
          [.err (usage (argv.headD ""))])
  | .ok options =>
      if options.listTools then .returns 0 [.out demoRegistry.printList]
      else .runs (sessionSetup options)

/-- The executions of `main` that return: the exit code, what was written and the
calls made. -/
inductive Returned (lib : Libraries) (stod : String → Option UInt64) (env : Environment)
    (argv : List String) : Int → List Write → List (Call lib.sse) → Prop where
  | early {code : Int} {console : List Write}
      (launched : launchMain stod env argv = .returns code console) :
      Returned lib stod env argv code console []
  | oneShot {setup : Setup} {started asked : Int} {rounds : Nat → Round} {code : Int}
      {world : World lib} (launched : launchMain stod env argv = .runs setup)
      (mode : setup.options.interactive = false)
      (ran : runOneShot lib setup started asked rounds {} = .ok (code, world)) :
      Returned lib stod env argv code world.console world.conversation.calls
  | interactive {setup : Setup} {started : Int} {initial : StatePtr} {begun world : World lib}
      {inputs : List Input} {code : Int} (launched : launchMain stod env argv = .runs setup)
      (mode : setup.options.interactive = true)
      (begins : startInteractive setup started {} = .ok (initial, begun))
      (ran : (interactiveMachine lib setup initial).run (.reading initial begun) inputs =
        some (.returned code world)) :
      Returned lib stod env argv code world.console world.conversation.calls

/-! ## Accepted command lines -/

section Accepted

variable {stod : String → Option UInt64} {env : Environment} {argv : List String}
  {options : Options}

/-- What `main` relies on in the options. -/
theorem usable_of_parseArgs (accepted : parseArgs stod env argv {} = .ok options) :
    options.baseUrl ≠ "" ∧ options.model ≠ "" ∧ 1 ≤ options.maxRoundTrips := by
  rw [parseArgs_eq] at accepted
  split at accepted
  next => cases accepted
  next read _ =>
    split at accepted
    next => cases accepted
    next enough =>
      have same := Except.ok.inj accepted
      have baseUrl : TextOption.baseUrl.read (withDefaults env read) ≠ "" :=
        required_withDefaults env read (by simp)
      have model : TextOption.model.read (withDefaults env read) ≠ "" :=
        required_withDefaults env read (by simp)
      have rounds := maxRoundTrips_withDefaults env read
      rw [same] at baseUrl model rounds
      refine ⟨baseUrl, model, ?_⟩
      rw [rounds]
      exact Int.not_lt.mp enough

theorem startable_sessionSetup (accepted : parseArgs stod env argv {} = .ok options) :
    (sessionSetup options).Startable :=
  have usable := usable_of_parseArgs accepted
  ⟨_, _, rfl, rfl, usable.1, usable.2.1⟩

theorem launchMain_runs {setup : Setup} (launched : launchMain stod env argv = .runs setup) :
    ∃ options, parseArgs stod env argv {} = .ok options ∧ setup = sessionSetup options := by
  rw [launchMain] at launched
  split at launched
  next => cases launched
  next options accepted =>
    split at launched
    next => cases launched
    next => exact ⟨options, accepted, (Launched.runs.inj launched).symm⟩

theorem get?_chosenModel (options : Options) (key : String) :
    (chosenModel options).params.get? key =
      if key = "tool_choice" then some (.string "auto")
      else if key = "temperature" ∧ options.hasTemperature then
        some (.double options.temperature)
      else none := by
  simp only [chosenModel]
  cases options.hasTemperature with
  | false => simp [Dict.get?_set]
  | true =>
      simp only [if_true, Dict.get?_set, and_true]
      by_cases isTemperature : key = "temperature"
      · simp [isTemperature]
      · simp [isTemperature]

end Accepted

/-- The requests of the program, in both modes and in every round: they are all
started, and the body of each is an object with the chosen model, the mode, the
dialogue so far, the tools of the registry and the automatic tool choice, with the
temperature if one was given on the command line, and with nothing else. -/
theorem main_requests (lib : Libraries) (frames : lib.http.Frames)
    (stod : String → Option UInt64) (env : Environment) (argv : List String) (options : Options)
    (accepted : parseArgs stod env argv {} = .ok options) (world : World lib)
    (reached : Reached lib (sessionSetup options) world) :
    ∀ call ∈ world.conversation.calls, call.session.accepted = true ∧
      ∀ request, .start request ∈ call.session.issued → ∃ root : JsonObject,
        request.body = lib.json.serialize (toValue root) ∧
        ∀ key, root.get? key =
          if key = "model" then some (.string options.model)
          else if key = "stream" then some (.bool options.stream)
          else if key = "messages" then
            some (.array (buildRequestMessagesArray lib.json
              (collectMessageChain world.conversation.heap call.args.state)))
          else if key = "tools" then
            some (.array (buildRequestToolsArray demoRegistry.definitions))
          else if key = "tool_choice" then some (.string "auto")
          else if key = "temperature" ∧ options.hasTemperature then
            some (.double options.temperature)
          else none := by
  intro call member
  have coherent := reached.coherent
  have requested := coherent.requested call member
  refine ⟨requested.accepted (startable_sessionSetup accepted), ?_⟩
  intro request started
  rcases sent_body frames (coherent.sound call member) started with ⟨modelInfo, isInfo, body⟩
  have sameInfo := requested.modelInfo.symm.trans isInfo
  cases sameInfo
  rw [requested.tools, requested.streamed] at body
  refine ⟨_, body, ?_⟩
  intro key
  rw [get?_requestRoot]
  have hasTools : (sessionSetup options).toolRegistry.definitions ≠ [] := List.cons_ne_nil _ _
  simp only [hasTools, if_false, get?_chosenModel]
  rfl

/-- A question to a provider on the local host. -/
def askSystem : List String :=
  ["deepseek_demo", "--user", "which system?", "--base_url", "http://127.0.0.1:8080"]

theorem askSystem_returns :
    ∃ options world, parseArgs (fun _ => none) (fun _ => none) askSystem {} = .ok options ∧
      runOneShot toolServer (sessionSetup options) 0 0 toolThenAnswer {} = .ok (0, world) ∧
      world.conversation.calls.length = 2 ∧ options.model = "deepseek-chat" ∧
      options.listTools = false ∧ options.interactive = false := by
  have computed : (parseArgs (fun _ => none) (fun _ => none) askSystem {}).toOption.bind
      (fun options =>
        (runOneShot toolServer (sessionSetup options) 0 0 toolThenAnswer {}).toOption.map
          fun result => (result.1, result.2.conversation.calls.length, options.model,
            options.listTools, options.interactive)) =
      some (0, 2, "deepseek-chat", false, false) := by
    decide +kernel
  rcases Option.bind_eq_some_iff.mp computed with ⟨options, parsed, runs⟩
  rcases Option.map_eq_some_iff.mp runs with ⟨⟨code, world⟩, returned, read⟩
  simp only [Prod.mk.injEq] at read
  have ran := ok_of_toOption returned
  rw [read.1] at ran
  exact ⟨options, world, ok_of_toOption parsed, ran, read.2⟩

theorem main_requests_askSystem :
    ∃ options world, Reached toolServer (sessionSetup options) world ∧
      world.conversation.calls.length = 2 ∧
      ∀ call ∈ world.conversation.calls, ∀ request, .start request ∈ call.session.issued →
        ∃ root : JsonObject, request.body = toolServer.json.serialize (toValue root) ∧
          root.get? "model" = some (.string "deepseek-chat") := by
  rcases askSystem_returns with ⟨options, world, accepted, ran, counted, model, _⟩
  have reached : Reached toolServer (sessionSetup options) world := .oneShot ran
  refine ⟨options, world, reached, counted, ?_⟩
  intro call member request started
  rcases (main_requests toolServer Reference.http_frames (fun _ => none) (fun _ => none) askSystem
    options accepted world reached call member).2 request started with ⟨root, body, members⟩
  have named := members "model"
  rw [if_pos rfl, model] at named
  exact ⟨root, body, named⟩

/-! ## The exit code -/

/-- The last reply of the provider is no answer. -/
def Unanswered {lib : Libraries} (calls : List (Call lib.sse)) : Prop :=
  ∃ last, (replies calls).getLast? = some last ∧ ¬IsAnswer last

section Exit

variable {lib : Libraries} {setup : Setup}

theorem TurnEnds.calls_pos {left calls : Nat} {given : List OaiCompletionState} {done : StatePtr}
    (ends : TurnEnds left calls given done) (allowed : 0 < left) : 0 < calls := by
  cases ends with
  | exceeded => exact absurd allowed (Nat.lt_irrefl 0)
  | refused => exact Nat.zero_lt_one
  | ended => exact Nat.zero_lt_one
  | goesOn => exact Nat.succ_pos _

/-- A turn without an answer has a last reply, if every request was started. -/
theorem unanswered_of_turn {calls : List (Call lib.sse)} {left : Nat} {done : StatePtr}
    (ends : TurnEnds left calls.length (replies calls) done) (allowed : 0 < left)
    (settled : ∀ call ∈ calls, ∃ state, call.session.states = [state]) :
    Unanswered calls ↔
      ¬∃ last, (replies calls).getLast? = some last ∧ IsAnswer last := by
  have counted := length_replies settled
  have positive := ends.calls_pos allowed
  rw [← counted] at positive
  have nonempty : replies calls ≠ [] := List.ne_nil_of_length_pos positive
  rw [Unanswered, List.getLast?_eq_some_getLast nonempty]
  simp

/-- Calls of a session that started every request. -/
theorem settled_of_coherent {world : World lib} (coherent : Coherent setup world)
    (startable : setup.Startable) :
    ∀ call ∈ world.conversation.calls, ∃ state, call.session.states = [state] := by
  intro call member
  have requested := coherent.requested call member
  exact (requested.settled (requested.accepted startable)).2

theorem replies_append (calls later : List (Call lib.sse)) :
    replies (calls ++ later) = replies calls ++ replies later := by
  simp only [replies, List.flatMap_append]

/-- As long as the chat goes on, the last reply is an answer. -/
theorem answered_of_goesOn {exchanges : List (Exchange lib)}
    (fits : ∀ exchange ∈ exchanges, exchange.Fits setup)
    (goesOn : ∀ exchange ∈ exchanges, exchange.GoesOn) :
    ¬Unanswered (exchanges.flatMap Exchange.made) := by
  induction exchanges using List.reverseRecOn with
  | nil =>
      intro ⟨last, isLast, _⟩
      cases isLast
  | append_singleton past exchange ih =>
      rw [List.forall_mem_append, List.forall_mem_singleton] at fits goesOn
      intro ⟨last, isLast, noAnswer⟩
      rw [List.flatMap_append, List.flatMap_singleton, replies_append] at isLast
      cases asks : exchange.input.isQuestion with
      | false =>
          have none : replies exchange.made = [] := by
            rw [fits.2.idle asks]
            rfl
          rw [none, List.append_nil] at isLast
          exact ih fits.1 goesOn.1 ⟨last, isLast, noAnswer⟩
      | true =>
          rcases goesOn.2.2 asks with ⟨answer, isAnswer, answers⟩
          rw [List.getLast?_append, isAnswer, Option.some_or] at isLast
          cases isLast
          exact noAnswer answers

theorem isQuestion_of_leaves {input : Input} (leaves : input.leaves = true) :
    input.isQuestion = false := by
  cases input with
  | eof => rfl
  | line text now rounds =>
      rcases of_decide_eq_true leaves with rfl | rfl <;> rfl

theorem code_of_chat {exchanges : List (Exchange lib)} {code : Int} {world : World lib}
    (chat : Chat setup exchanges (.returned code world)) (coherent : Coherent setup world)
    (startable : setup.Startable) (allowed : 0 < setup.options.maxRoundTrips.toNat) :
    code = 0 ∧ ¬Unanswered world.conversation.calls ∨
      code = 1 ∧ Unanswered world.conversation.calls := by
  have settled := settled_of_coherent coherent startable
  cases chat with
  | @left past last _ recorded goesOn leaves =>
      have fits := List.forall_mem_append.mp recorded.fits
      have noTurn : last.made = [] :=
        (fits.2 last List.mem_cons_self).idle (isQuestion_of_leaves leaves)
      refine .inl ⟨rfl, ?_⟩
      rw [recorded.calls, List.flatMap_append, List.flatMap_singleton, noTurn, List.append_nil]
      exact answered_of_goesOn fits.1 goesOn
  | @failed past last _ recorded goesOn asks unanswered =>
      have fits := (List.forall_mem_append.mp recorded.fits).2 last List.mem_cons_self
      rw [recorded.calls, List.flatMap_append, List.flatMap_singleton] at settled ⊢
      rcases fits.turn asks with ⟨done, ends⟩
      rcases (unanswered_of_turn ends allowed (List.forall_mem_append.mp settled).2).mpr unanswered
        with ⟨reply, isLast, noAnswer⟩
      refine .inr ⟨rfl, reply, ?_, noAnswer⟩
      rw [replies_append, List.getLast?_append, isLast, Option.some_or]

theorem code_of_runOneShot {started asked : Int} {rounds : Nat → Round} {code : Int}
    {world : World lib} (ran : runOneShot lib setup started asked rounds {} = .ok (code, world))
    (startable : setup.Startable) (allowed : 0 < setup.options.maxRoundTrips.toNat) :
    code = 0 ∧ ¬Unanswered world.conversation.calls ∨
      code = 1 ∧ Unanswered world.conversation.calls := by
  obtain ⟨done, wrote⟩ := (runOneShot_writes started asked rounds).of_ok ran
  have isCode : code = if succeededWith done then 0 else 1 := wrote.code
  have success := succeededWith_iff wrote.ends
  have unanswered := unanswered_of_turn wrote.ends allowed
    (settled_of_coherent wrote.coherent startable)
  by_cases succeeded : succeededWith done = true
  · rw [if_pos succeeded] at isCode
    exact .inl ⟨isCode, fun none => unanswered.mp none (success.mp succeeded)⟩
  · rw [if_neg succeeded] at isCode
    exact .inr ⟨isCode, unanswered.mpr fun answer => succeeded (success.mpr answer)⟩

theorem launchMain_returns {stod : String → Option UInt64} {env : Environment}
    {argv : List String} {code : Int} {console : List Write}
    (launched : launchMain stod env argv = .returns code console) :
    code = 0 ∧ (¬∃ error, parseArgs stod env argv {} = .error error ∧ error ≠ "") ∨
      code = 2 ∧ ∃ error, parseArgs stod env argv {} = .error error ∧ error ≠ "" := by
  rw [launchMain] at launched
  split at launched
  next error refused =>
    have isCode := (Launched.returns.inj launched).1.symm
    by_cases help : error = ""
    · rw [if_pos help] at isCode
      refine .inl ⟨isCode, ?_⟩
      intro ⟨other, same, nonempty⟩
      cases refused.symm.trans same
      exact nonempty help
    · rw [if_neg help] at isCode
      exact .inr ⟨isCode, error, refused, help⟩
  next options accepted =>
    split at launched
    next =>
      refine .inl ⟨(Launched.returns.inj launched).1.symm, ?_⟩
      intro ⟨error, refused, _⟩
      cases accepted.symm.trans refused
    next => cases launched

end Exit

/-- The exit code of the program, whichever way it goes: two exactly if the command
line is refused with an error text, one exactly if the last reply the provider gave
is no answer, and zero otherwise. -/
theorem main_exit (lib : Libraries) (stod : String → Option UInt64) (env : Environment)
    (argv : List String) (code : Int) (console : List Write) (calls : List (Call lib.sse))
    (returned : Returned lib stod env argv code console calls) :
    (code = 2 ↔ ∃ error, parseArgs stod env argv {} = .error error ∧ error ≠ "") ∧
    (code = 1 ↔ Unanswered calls) ∧ (code = 0 ∨ code = 1 ∨ code = 2) := by
  have fromSession : ∀ {setup : Setup}, launchMain stod env argv = .runs setup →
      (setup.Startable → 0 < setup.options.maxRoundTrips.toNat →
        code = 0 ∧ ¬Unanswered calls ∨ code = 1 ∧ Unanswered calls) →
      (code = 2 ↔ ∃ error, parseArgs stod env argv {} = .error error ∧ error ≠ "") ∧
        (code = 1 ↔ Unanswered calls) ∧ (code = 0 ∨ code = 1 ∨ code = 2) := by
    intro setup launched outcome
    rcases launchMain_runs launched with ⟨options, accepted, rfl⟩
    have startable := startable_sessionSetup accepted
    have allowed : 0 < (sessionSetup options).options.maxRoundTrips.toNat := by
      have usable : 1 ≤ options.maxRoundTrips := (usable_of_parseArgs accepted).2.2
      simp only [sessionSetup]
      omega
    have noError : ¬∃ error, parseArgs stod env argv {} = .error error ∧ error ≠ "" := by
      intro ⟨error, refused, _⟩
      cases accepted.symm.trans refused
    rcases outcome startable allowed with ⟨rfl, answered⟩ | ⟨rfl, unanswered⟩
    · simp [noError, answered]
    · simp [noError, unanswered]
  cases returned with
  | early launched =>
      have none : ¬Unanswered ([] : List (Call lib.sse)) := by
        intro ⟨last, isLast, _⟩
        cases isLast
      rcases launchMain_returns launched with ⟨rfl, noError⟩ | ⟨rfl, refused⟩
      · simp [noError, none]
      · simp [refused, none]
  | oneShot launched _ ran => exact fromSession launched (code_of_runOneShot ran)
  | interactive launched _ begins ran =>
      apply fromSession launched
      intro startable allowed
      rcases chat_of_run begins ran with ⟨exchanges, _, chat⟩
      exact code_of_chat chat (interactiveSound_of_run begins ran).1 startable allowed

theorem main_exit_askSystem :
    ∃ console calls, Returned toolServer (fun _ => none) (fun _ => none) askSystem 0 console calls ∧
      calls.length = 2 ∧ ¬Unanswered calls := by
  rcases askSystem_returns with ⟨options, world, accepted, ran, counted, _, noList, noChat⟩
  have launched : launchMain (fun _ => none) (fun _ => none) askSystem =
      .runs (sessionSetup options) := by
    simp [launchMain, accepted, noList]
  have returned : Returned toolServer (fun _ => none) (fun _ => none) askSystem 0 world.console
      world.conversation.calls := .oneShot launched noChat ran
  refine ⟨_, _, returned, counted, ?_⟩
  intro unanswered
  have isOne := (main_exit toolServer (fun _ => none) (fun _ => none) askSystem 0 world.console
    world.conversation.calls returned).2.1.mpr unanswered
  cases isOne

end Boai.DeepseekDemo
