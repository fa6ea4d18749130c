import Boai.Lib.Outcome
import Boai.Completion.CallPhases
import Boai.DeepseekDemo.Tools

/-!
# Sessions of the demo

The loops of `demo_session.cc` over the facade.  A session appends messages,
waits for one fetch after the other, runs the tools that a reply asks for and
writes to the two standard streams.  What it depends on outside the program is
scripted: the lines the user types, and for each round of a turn the clock, the
answers of the transport and the machine that the tools run on.
-/

namespace Boai.DeepseekDemo

open Boai.Json Boai.Completion Outcome

/-! ## The world of a session -/

/-- A text written to `std::cout` or to `std::cerr`. -/
inductive Write where
  | out (text : String)
  | err (text : String)
  deriving DecidableEq, Repr

/-- Why a computation does not return. -/
inductive Stop where
  /-- The script does not fit: an answer that its call does not accept, or one
  that is missing. -/
  | unscripted
  /-- `future.get()` on a promise that nobody will fulfil. -/
  | blocked
  /-- An operation without a defined result. -/
  | undefined
  deriving DecidableEq, Repr

/-- `StatePtr`: the address of a node and the node. -/
abbrev StatePtr := Option (SharedPtr OaiCompletionState)

/-- The arguments that `main` gives to `RunInteractive` and `RunOneShot`. -/
structure Setup where
  factory : OaiCompletionFactory
  toolRegistry : ToolRegistry
  modelInfo : Option (SharedPtr OaiModelInfo)
  options : Options

/-- What the loops change: the states and calls of the facade and what has been
written so far. -/
structure World (lib : Libraries) where
  conversation : Conversation lib.sse := {}
  console : List Write := []

/-- What happens outside the program during one round of a turn. -/
structure Round where
  /-- The clock when the fetch is started. -/
  now : Int
  /-- The answers to the fetch, until nothing is outstanding. -/
  answers : List FetchAnswer
  /-- The machine each tool call runs on. -/
  hosts : Nat → Host
  /-- The clock when the result of each tool call is appended. -/
  times : Nat → Int

namespace World

variable {lib : Libraries}

def write (world : World lib) (writes : List Write) : World lib :=
  { world with console := world.console ++ writes }

/-- `factory.AppendMessage(message, previous)`. -/
def appendMessage (world : World lib) (factory : OaiCompletionFactory) (message : OaiMessage)
    (previous : StatePtr) (now : Int) : Except Stop (StatePtr × World lib) := do
  let address := previous.map SharedPtr.address
  let conversation ← expect .unscripted
    (world.conversation.perform lib (.append factory message address now))
  return (some {
    address := world.conversation.heap.nodes.length
    value := Completion.appendMessage factory message address now }, { world with conversation })

end World

/-! ## Waiting for a fetch -/

/-- The arguments of every fetch of the demo. -/
def fetchArgs (setup : Setup) (state : StatePtr) : FetchArgs where
  state := state.map SharedPtr.address
  tools := setup.toolRegistry.definitions
  modelInfo := setup.modelInfo

/-- What `WaitForCompletion` and `WaitForStreamCompletion` have in common: start
the fetch, let `ioc.run()` hand over answers until nothing is outstanding, and
take the first state given to the callback from the promise.  That state is the
first node allocated meanwhile.  No state and no callback calls if the fetch was
not started. -/
def fetchAndWait (lib : Libraries) (setup : Setup) (entry : EntryPoint) (state : StatePtr)
    (round : Round) (conversation : Conversation lib.sse) :
    Except Stop (StatePtr × List StreamCallback × Conversation lib.sse) := do
  let index := conversation.calls.length
  let launched ← expect .unscripted
    (conversation.perform lib (.fetch setup.factory (fetchArgs setup state) entry round.now))
  let call ← expect .unscripted launched.calls[index]?
  if call.session.accepted then
    let idle ← expect .unscripted
      ((Conversation.machine lib).run launched (round.answers.map (.answer index)))
    let call ← expect .unscripted idle.calls[index]?
    if call.session.pending = [] then
      let done ← expect .blocked call.session.states.head?
      return (some { address := conversation.heap.nodes.length, value := done },
        call.session.callbacks, idle)
    else throw .unscripted
  else return (none, [], launched)

/-- `PrintReasoning`. -/
def printReasoning (reasoning : String) : List Write :=
  if reasoning = "" then [] else [.err ("reasoning:\n" ++ reasoning ++ "\n")]

/-- `PrintLog`. -/
def printLog (round : Nat) (log : OaiRequestLog) : List Write :=
  [.err ("round=" ++ toString round ++ " status=" ++
    (if log.status = .kSuccess then "success" else "fail") ++
    " http=" ++ toString log.httpStatusCode ++
    (if log.requestId = "" then "" else " request_id=" ++ log.requestId) ++
    (if log.finishReason = "" then "" else " finish_reason=" ++ log.finishReason) ++
    (if log.errorMessage = "" then "" else " error=\"" ++ log.errorMessage ++ "\"") ++
    (if log.isStream then " deltas=" ++ toString log.deltaCount else "") ++ "\n")]

/-- `WaitForCompletion`. -/
def waitForCompletion (lib : Libraries) (setup : Setup) (state : StatePtr) (round : Round)
    (world : World lib) : Except Stop (StatePtr × World lib) := do
  let (done, _, conversation) ←
    fetchAndWait lib setup (.fetchCompletion true) state round world.conversation
  return (done, { world with conversation })

/-- What `on_delta` and `on_reasoning_delta` write, call by call; `sawReasoning` is
the flag of the latter. -/
def printDeltas : (sawReasoning : Bool) → List StreamCallback → List Write
  | _, [] => []
  | sawReasoning, .onDelta delta :: rest =>
      (if delta = "" then [] else [.out delta]) ++ printDeltas sawReasoning rest
  | sawReasoning, .onReasoningDelta delta :: rest =>
      if delta = "" then printDeltas sawReasoning rest
      else (if sawReasoning then [] else [.err "reasoning:\n"]) ++
        .err delta :: printDeltas true rest
  | sawReasoning, .onDone _ :: rest => printDeltas sawReasoning rest

/-- The callbacks that `WaitForStreamCompletion` registers. -/
def streamCallbacks (options : Options) : DeltaCallbacks where
  onDelta := true
  onReasoningDelta := options.printReasoning

/-- What `WaitForStreamCompletion` writes after the event loop. -/
def closeStream (options : Options) (calls : List StreamCallback) (message : OaiMessage) :
    List Write :=
  (if (deltas calls).all (· = "") then [] else [.out "\n"]) ++
    if !(reasoningDeltas calls).all (· = "") then [.err "\n"]
    else if options.printReasoning then printReasoning message.reasoning
    else []

/-- `WaitForStreamCompletion`. -/
def waitForStreamCompletion (lib : Libraries) (setup : Setup) (state : StatePtr)
    (round : Round) (world : World lib) : Except Stop (StatePtr × World lib) := do
  let (done, calls, conversation) ←
    fetchAndWait lib setup (.fetchStreamCompletion true (streamCallbacks setup.options)) state
      round world.conversation
  let world := { world with conversation }.write (printDeltas false calls)
  match done with
  | none => return (none, world)
  | some node => return (done, world.write (closeStream setup.options calls node.value.message))

/-! ## Turns -/

/-- What the loop of `AppendToolResults` writes before it runs a tool. -/
def printToolCall (json : JsonLib) (position : Nat) (call : OaiToolCall) : List Write :=
  [.err ("tool_call[" ++ toString (position + 1) ++ "] name=" ++ call.name ++
    (if call.id = "" then "" else " id=" ++ call.id) ++
    (if call.arguments = .null then "" else " args=" ++ json.serialize call.arguments) ++ "\n")]

/-- What it writes afterwards. -/
def printToolResult (position : Nat) (result : String) : List Write :=
  [.err ("tool_result[" ++ toString (position + 1) ++ "]=" ++ result ++ "\n")]

/-- The loop of `AppendToolResults` from a position on. -/
def appendResultsFrom (lib : Libraries) (setup : Setup) (round : Round) :
    (position : Nat) → List OaiToolCall → StatePtr → World lib →
      Except Stop (StatePtr × World lib)
  | _, [], state, world => return (state, world)
  | position, call :: calls, state, world => do
      let world := world.write (printToolCall lib.json position call)
      let result ← expect .undefined (setup.toolRegistry.execute (round.hosts position) call)
      let text := lib.json.serialize (toValue result)
      let world := world.write (printToolResult position text)
      let (state, world) ← world.appendMessage setup.factory
        { role := "tool", message := text, toolCallId := call.id } state (round.times position)
      appendResultsFrom lib setup round (position + 1) calls state world

/-- `AppendToolResults`: the returned flag and `*state_out`. -/
def appendToolResults (lib : Libraries) (setup : Setup) (round : Round) (state : StatePtr)
    (world : World lib) : Except Stop (Bool × StatePtr × World lib) :=
  match state with
  | none => return (false, none, world)
  | some node => do
      let (state, world) ←
        appendResultsFrom lib setup round 0 node.value.message.toolCalls state world
      return (true, state, world)

/-- The wait that the options ask for. -/
def waitForReply (lib : Libraries) (setup : Setup) (state : StatePtr) (round : Round)
    (world : World lib) : Except Stop (StatePtr × World lib) :=
  if setup.options.stream then waitForStreamCompletion lib setup state round world
  else waitForCompletion lib setup state round world

/-- How the loop body of `RunAssistantTurn` ends: with a return, or with a new
value of `state`. -/
inductive RoundEnd where
  | returns (done : StatePtr)
  | goesOn (state : StatePtr)

/-- The loop body of `RunAssistantTurn`. -/
def runRound (lib : Libraries) (setup : Setup) (number : Nat) (round : Round) (state : StatePtr)
    (world : World lib) : Except Stop (RoundEnd × World lib) := do
  let (done, world) ← waitForReply lib setup state round world
  match done with
  | none => return (.returns none, world.write [.err "failed to start completion request\n"])
  | some node =>
      let world := world.write (printLog number node.value.log)
      let world := world.write
        (if !setup.options.stream && setup.options.printReasoning then
          printReasoning node.value.message.reasoning
        else [])
      if node.value.log.status ≠ .kSuccess then return (.returns done, world)
      else if node.value.message.toolCalls = [] then
        return (.returns done, world.write
          (if setup.options.stream then [] else [.out (node.value.message.message ++ "\n")]))
      else
        let (appended, state, world) ← appendToolResults lib setup round done world
        if appended then return (.goesOn state, world)
        else return (.returns none, world.write [.err "failed to append tool results\n"])

/-- The loop of `RunAssistantTurn` from a round on, with the number of rounds
left. -/
def runRounds (lib : Libraries) (setup : Setup) (rounds : Nat → Round) :
    (left number : Nat) → StatePtr → World lib → Except Stop (StatePtr × World lib)
  | 0, _, _, world => return (none,
      world.write [.err "exceeded max_round_trips without a final assistant answer\n"])
  | left + 1, number, state, world => do
      match ← runRound lib setup number (rounds number) state world with
      | (.returns done, world) => return (done, world)
      | (.goesOn state, world) => runRounds lib setup rounds left (number + 1) state world

/-- `RunAssistantTurn`. -/
def runAssistantTurn (lib : Libraries) (setup : Setup) (rounds : Nat → Round)
    (state : StatePtr) (world : World lib) : Except Stop (StatePtr × World lib) :=
  runRounds lib setup rounds setup.options.maxRoundTrips.toNat 1 state world

/-- `BuildInitialState`. -/
def buildInitialState {lib : Libraries} (setup : Setup) (now : Int) (world : World lib) :
    Except Stop (StatePtr × World lib) :=
  if setup.options.system = "" then return (none, world)
  else world.appendMessage setup.factory
    { role := "system", message := setup.options.system } none now

/-- The end of a turn in both modes: whether it succeeded. -/
def succeededWith (done : StatePtr) : Bool :=
  match done with
  | none => false
  | some node => decide (node.value.log.status = .kSuccess)

/-- `RunOneShot`, started at a time and asking at a later one. -/
def runOneShot (lib : Libraries) (setup : Setup) (started asked : Int) (rounds : Nat → Round)
    (world : World lib) : Except Stop (Int × World lib) := do
  let (state, world) ← buildInitialState setup started world
  let (state, world) ← world.appendMessage setup.factory
    { role := "user", message := setup.options.user } state asked
  let (done, world) ← runAssistantTurn lib setup rounds state world
  return (if succeededWith done then 0 else 1, world)

/-! ## The interactive mode -/

/-- A line read from `std::cin` with the script of the turn it may start, or the
end of the input. -/
inductive Input where
  | line (text : String) (now : Int) (rounds : Nat → Round)
  | eof

/-- Where `RunInteractive` is. -/
inductive Interactive (lib : Libraries) where
  /-- In front of the prompt, with `state`. -/
  | reading (state : StatePtr) (world : World lib)
  /-- Returned with an exit code. -/
  | returned (code : Int) (world : World lib)
  /-- Blocked or without a defined result. -/
  | stopped (stop : Stop)

/-- `RunInteractive` up to its loop. -/
def startInteractive {lib : Libraries} (setup : Setup) (now : Int) (world : World lib) :
    Except Stop (StatePtr × World lib) := do
  let (initial, world) ← buildInitialState setup now world
  return (initial, world.write
    [.err "deepseek-demo interactive mode. type :tools, :reset or :quit\n"])

/-- The loop body of `RunInteractive` for a line that is no command. -/
def answerUser (lib : Libraries) (setup : Setup) (text : String) (now : Int)
    (rounds : Nat → Round) (state : StatePtr) (world : World lib) :
    Except Stop (Interactive lib) := do
  let (state, world) ← world.appendMessage setup.factory
    { role := "user", message := text } state now
  let (done, world) ← runAssistantTurn lib setup rounds state
    (world.write [.out "assistant> "])
  return if succeededWith done then .reading done world else .returned 1 world

/-- The loop body of `RunInteractive`. -/
def readLine (lib : Libraries) (setup : Setup) (initial state : StatePtr) (world : World lib)
    (input : Input) : Except Stop (Interactive lib) :=
  let world := world.write [.out "you> "]
  match input with
  | .eof => return .returned 0 (world.write [.out "\n"])
  | .line text now rounds =>
      if text = ":quit" ∨ text = ":exit" then return .returned 0 world
      else if text = ":tools" then
        return .reading state (world.write [.out setup.toolRegistry.printList])
      else if text = ":reset" then
        return .reading initial (world.write [.err "conversation reset\n"])
      else if text = "" then return .reading state world
      else answerUser lib setup text now rounds state world

/-- The loop of `RunInteractive` as a machine that reads inputs. -/
def interactiveMachine (lib : Libraries) (setup : Setup) (initial : StatePtr) :
    StepMachine (Interactive lib) Input where
  step
    | .reading state world, input =>
        match readLine lib setup initial state world input with
        | .ok next => some next
        | .error .unscripted => none
        | .error stop => some (.stopped stop)
    | _, _ => none

end Boai.DeepseekDemo
