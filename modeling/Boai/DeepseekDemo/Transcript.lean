import Boai.Completion.CallTrace
import Boai.DeepseekDemo.SessionRuns

/-!
# What a session writes

While a reply is streamed its texts are written as they arrive.  In the end the
terminal shows what the delivered state holds: the answer on one stream, the
reasoning on the other, and each of them once.
-/

namespace Boai.DeepseekDemo

open Boai.Json Boai.Completion Outcome

/-! ## The two streams -/

def stdout (console : List Write) : String :=
  String.join (console.filterMap fun
    | .out text => some text
    | .err _ => none)

def stderr (console : List Write) : String :=
  String.join (console.filterMap fun
    | .out _ => none
    | .err text => some text)

@[simp] theorem stdout_nil : stdout [] = "" := rfl

@[simp] theorem stderr_nil : stderr [] = "" := rfl

@[simp] theorem stdout_append (left right : List Write) :
    stdout (left ++ right) = stdout left ++ stdout right := by
  simp only [stdout, List.filterMap_append, String.join_append]

@[simp] theorem stderr_append (left right : List Write) :
    stderr (left ++ right) = stderr left ++ stderr right := by
  simp only [stderr, List.filterMap_append, String.join_append]

theorem stdout_cons (write : Write) (console : List Write) :
    stdout (write :: console) = stdout [write] ++ stdout console := stdout_append [write] console

theorem stderr_cons (write : Write) (console : List Write) :
    stderr (write :: console) = stderr [write] ++ stderr console := stderr_append [write] console

@[simp] theorem stdout_out (text : String) : stdout [.out text] = text := by
  simp [stdout]

@[simp] theorem stderr_err (text : String) : stderr [.err text] = text := by
  simp [stderr]

@[simp] theorem stdout_err (text : String) : stdout [.err text] = "" := rfl

@[simp] theorem stderr_out (text : String) : stderr [.out text] = "" := rfl

@[simp] theorem stdout_write {lib : Libraries} (world : World lib) (writes : List Write) :
    stdout (world.write writes).console = stdout world.console ++ stdout writes :=
  stdout_append world.console writes

/-- An answer as a line of its own, if there is one. -/
def spokenLine (text : String) : String := if text = "" then "" else text ++ "\n"

/-- Reasoning under its heading, if there is any. -/
def reasoningBlock (text : String) : String :=
  if text = "" then "" else "reasoning:\n" ++ text ++ "\n"

/-! ## Streamed replies -/

theorem stdout_printDeltas (sawReasoning : Bool) (calls : List StreamCallback) :
    stdout (printDeltas sawReasoning calls) = String.join (deltas calls) := by
  induction calls generalizing sawReasoning with
  | nil => rfl
  | cons callback calls ih =>
      cases callback with
      | onDone => exact ih sawReasoning
      | onDelta text =>
          have joined : String.join (deltas (.onDelta text :: calls)) =
              text ++ String.join (deltas calls) := by simp [deltas]
          rw [printDeltas, stdout_append, ih, joined]
          split
          next empty => rw [empty]; rfl
          next => rw [stdout_out]
      | onReasoningDelta text =>
          have same : deltas (.onReasoningDelta text :: calls) = deltas calls := rfl
          rw [printDeltas, same]
          split
          next => exact ih sawReasoning
          next =>
            rw [stdout_append, stdout_cons, ih]
            cases sawReasoning <;> simp

theorem stderr_printDeltas (sawReasoning : Bool) {calls : List StreamCallback}
    (nonempty : ∀ text ∈ reasoningDeltas calls, text ≠ "") :
    stderr (printDeltas sawReasoning calls) =
      (if sawReasoning ∨ reasoningDeltas calls = [] then "" else "reasoning:\n") ++
        String.join (reasoningDeltas calls) := by
  induction calls generalizing sawReasoning with
  | nil => simp [printDeltas, reasoningDeltas]
  | cons callback calls ih =>
      cases callback with
      | onDone => exact ih sawReasoning nonempty
      | onDelta text =>
          have same : reasoningDeltas (.onDelta text :: calls) = reasoningDeltas calls := rfl
          rw [same] at nonempty ⊢
          rw [printDeltas, stderr_append, ih sawReasoning nonempty]
          split <;> simp
      | onReasoningDelta text =>
          have more : reasoningDeltas (.onReasoningDelta text :: calls) =
              text :: reasoningDeltas calls := rfl
          rw [more, List.forall_mem_cons] at nonempty
          rw [printDeltas, if_neg nonempty.1, stderr_append, stderr_cons, ih true nonempty.2, more]
          cases sawReasoning <;> simp

theorem join_eq_empty {texts : List String} (nonempty : ∀ text ∈ texts, text ≠ "") :
    String.join texts = "" ↔ texts = [] := by
  cases texts with
  | nil => simp
  | cons text texts =>
      have first := nonempty text List.mem_cons_self
      simp [first]

/-- No text in a list without empty texts is empty. -/
theorem all_empty {texts : List String} (nonempty : ∀ text ∈ texts, text ≠ "") :
    (texts.all fun text => text = "") = decide (texts = []) := by
  cases texts with
  | nil => rfl
  | cons text texts => simp [nonempty text List.mem_cons_self]

@[simp] theorem stdout_printReasoning (reasoning : String) :
    stdout (printReasoning reasoning) = "" := by
  rw [printReasoning]
  split <;> rfl

@[simp] theorem stderr_printReasoning (reasoning : String) :
    stderr (printReasoning reasoning) = reasoningBlock reasoning := by
  rw [printReasoning, reasoningBlock]
  split
  · rfl
  · exact stderr_err _

/-- What a streamed reply leaves on the terminal. -/
theorem shown_of_told {options : Options} {calls : List StreamCallback}
    (node : SharedPtr OaiCompletionState) (streamed : options.stream = true)
    (told : Told (streamCallbacks options) calls node.value) :
    stdout (shown options (some node) calls) = spokenLine node.value.message.message ∧
      stderr (shown options (some node) calls) =
        if options.printReasoning then reasoningBlock node.value.message.reasoning else "" := by
  have content : ∀ text ∈ deltas calls, text ≠ "" :=
    fun text member => told.nonempty text (List.mem_append_left _ member)
  have reasoning : ∀ text ∈ reasoningDeltas calls, text ≠ "" :=
    fun text member => told.nonempty text (List.mem_append_right _ member)
  have message := told.stored.message rfl
  rw [shown, if_pos streamed]
  simp only [stdout_append, stderr_append, stdout_printDeltas, closeStream, all_empty content,
    all_empty reasoning, stderr_printDeltas false reasoning]
  constructor
  · have rest : stdout (if (!decide (reasoningDeltas calls = [])) = true then [.err "\n"]
        else if options.printReasoning = true then printReasoning node.value.message.reasoning
        else []) = "" := by
      split
      · rfl
      · split
        · exact stdout_printReasoning _
        · rfl
    rw [rest, message, spokenLine, String.append_empty]
    by_cases noContent : deltas calls = []
    · simp [noContent]
    · simp [noContent, (join_eq_empty content).not.mpr noContent]
  · have silent : stderr (if decide (deltas calls = []) = true then [] else [.out "\n"]) = "" := by
      split <;> rfl
    rw [silent, String.empty_append]
    cases asked : options.printReasoning with
    | false =>
        have none := told.silent asked
        simp [none]
    | true =>
        rw [told.stored.reasoning asked, reasoningBlock]
        by_cases noReasoning : reasoningDeltas calls = []
        · simp [noReasoning, reasoningBlock]
        · simp [noReasoning, (join_eq_empty reasoning).not.mpr noReasoning, String.append_assoc]

/-! ## Turns -/

section Turns

variable {lib : Libraries} {setup : Setup}

/-- What a reply leaves on the standard output: all of it if it is streamed, else
the answer that ends the turn. -/
def replyOut (options : Options) (reply : OaiCompletionState) : String :=
  if options.stream then spokenLine reply.message.message
  else if reply.log.status = .kSuccess ∧ reply.message.toolCalls = [] then
    reply.message.message ++ "\n"
  else ""

/-- The wait for a fetch, by what the call delivers. -/
inductive WaitWrote (options : Options) (world : World lib) :
    StatePtr × World lib → Prop where
  | refused {next : World lib} {call : Call lib.sse}
      (calls : next.conversation.calls = world.conversation.calls ++ [call])
      (states : call.session.states = []) (out : stdout next.console = stdout world.console) :
      WaitWrote options world (none, next)
  | delivered {next : World lib} {call : Call lib.sse} {node : SharedPtr OaiCompletionState}
      (calls : next.conversation.calls = world.conversation.calls ++ [call])
      (states : call.session.states = [node.value])
      (out : stdout next.console = stdout world.console ++
        if options.stream then spokenLine node.value.message.message else "")
      (err : stderr next.console = stderr world.console ++
        if options.stream ∧ options.printReasoning then
          reasoningBlock node.value.message.reasoning
        else "") :
      WaitWrote options world (some node, next)

theorem waitFor_writes {world : World lib} (sound : ConversationSound lib world.conversation)
    {state : StatePtr} (held : world.conversation.heap.Holds (state.map SharedPtr.address))
    (round : Round) :
    Ensures (· = .unscripted) (WaitWrote setup.options world)
      (waitFor lib setup state round world) := by
  apply (fetchAndWait_ensures sound setup _ held round).bind
  rintro ⟨done, callbacks, conversation⟩ ⟨alone, settled, extended⟩
  have isDone : done = alone.1.map fun value => ⟨world.conversation.heap.nodes.length, value⟩ :=
    extended.done
  have isCallbacks : callbacks = alone.2.callbacks := extended.callbacks
  cases settled with
  | refused refused silent empty =>
      rw [silent] at isCallbacks
      subst isDone isCallbacks
      refine .refused extended.calls empty ?_
      simp only [World.write, stdout_append, shown, Option.map_none]
      split <;> simp [printDeltas]
  | @delivered value idle accepted ran idles states =>
      subst isDone isCallbacks
      refine .delivered extended.calls states ?_ ?_
      all_goals
        simp only [World.write, stdout_append, stderr_append, Option.map_some]
        congr 1
        cases streamed : setup.options.stream with
        | false => simp [shown, streamed]
        | true =>
            rw [sessionEntry, if_pos streamed] at ran
            have told := FetchSession.told_of_run ran
              (by rw [states]; exact List.mem_singleton_self value)
            have shows := shown_of_told ⟨world.conversation.heap.nodes.length, value⟩ streamed told
            simp [shows]

end Turns

/-- However a streamed reply arrives and however it ends, the delivered message has
been written to the standard output, as one line, and its reasoning to the standard
error if it is to be printed, once and under one heading. -/
theorem streamed_reply_shown (lib : Libraries) (setup : Setup) (operations : List Operation)
    (world : World lib)
    (ran : (Conversation.machine lib).run {} operations = some world.conversation)
    (state : StatePtr)
    (held : world.conversation.heap.Holds (state.map SharedPtr.address)) (round : Round)
    (node : SharedPtr OaiCompletionState) (next : World lib)
    (waited : waitForStreamCompletion lib setup state round world = .ok (some node, next)) :
    stdout next.console = stdout world.console ++ spokenLine node.value.message.message ∧
      stderr next.console = stderr world.console ++
        if setup.options.printReasoning then reasoningBlock node.value.message.reasoning
        else "" := by
  have sound : ConversationSound lib world.conversation :=
    StepMachine.run_invariant (ConversationSound lib)
      (fun _ _ _ sound stepped => (performed_of_perform sound stepped).sound)
      (fun call member => absurd member List.not_mem_nil) ran
  -- The wait does not read the option that makes it happen.
  let streaming : Setup := { setup with options := { setup.options with stream := true } }
  have waits : waitFor lib streaming state round world = .ok (some node, next) := by
    rw [← waited, ← waitForReply_eq]
    rfl
  have wrote := (waitFor_writes sound held round).of_ok waits
  cases wrote with
  | delivered _ _ out err =>
      constructor
      · exact out
      · simpa [streaming] using err

/-- A wait that prints reasoning. -/
def printsReasoning : Setup where
  factory := Reference.factory
  toolRegistry := demoRegistry
  modelInfo := some Reference.modelInfo
  options := { printReasoning := true }

/-- A round in which a reply arrives in two pieces. -/
def inTwoPieces : Round where
  now := 0
  answers := (Reference.opened ++ [Reference.chunk 3 (Reference.event "1"),
    Reference.chunk 4 (Reference.event "2" ++ Reference.event "[DONE]")]).map .stream
  hosts := fun _ => plainHost
  times := fun _ => 0

/-- A session with one question in its store. -/
def asking : World Reference.twoPieces where
  conversation := { heap := Reference.heap }

theorem streamed_reply_shown_twoPieces :
    ∃ state node next, waitForStreamCompletion Reference.twoPieces printsReasoning state inTwoPieces
        asking = .ok (some node, next) ∧
      stdout next.console = "Hello\n" ∧ stderr next.console = "reasoning:\nhm\n" := by
  let question : StatePtr := some ⟨0,
    Completion.appendMessage Reference.factory { role := "user", message := "stream me" } none 0⟩
  have ran : (Conversation.machine Reference.twoPieces).run {}
      [.append Reference.factory { role := "user", message := "stream me" } none 0] =
        some asking.conversation := rfl
  have held : asking.conversation.heap.Holds (question.map SharedPtr.address) := by
    intro address isAddress
    cases isAddress
    exact Nat.zero_lt_one
  have computed : (waitForStreamCompletion Reference.twoPieces printsReasoning question inTwoPieces
      asking).toOption.bind (fun result => result.1.map fun node =>
        (node.value.message.message, node.value.message.reasoning)) = some ("Hello", "hm") := by
    decide +kernel
  rcases Option.bind_eq_some_iff.mp computed with ⟨⟨done, next⟩, returned, isDone⟩
  rcases Option.map_eq_some_iff.mp isDone with ⟨node, rfl, texts⟩
  simp only [Prod.mk.injEq] at texts
  have waited := ok_of_toOption returned
  have shows := streamed_reply_shown Reference.twoPieces printsReasoning _ asking ran question held
    inTwoPieces node next waited
  rw [texts.1, texts.2] at shows
  exact ⟨question, node, next, waited, shows⟩

section Turns

variable {lib : Libraries} {setup : Setup}

/-- The loop over the tool calls writes nothing to the standard output. -/
structure Quiet (world : World lib) (result : StatePtr × World lib) : Prop where
  calls : result.2.conversation.calls = world.conversation.calls
  out : stdout result.2.console = stdout world.console

theorem appendResultsFrom_quiet (round : Round) (calls : List OaiToolCall) (position : Nat)
    {state : StatePtr} {world : World lib} (sound : ConversationSound lib world.conversation)
    (held : world.conversation.heap.Holds (state.map SharedPtr.address)) :
    Ensures (fun _ => True) (Quiet world)
      (appendResultsFrom lib setup round position calls state world) := by
  induction calls generalizing position state world with
  | nil => exact ⟨rfl, rfl⟩
  | cons call calls ih =>
      rw [appendResultsFrom]
      have executes : Ensures (fun _ => True) (fun _ => True)
          (expect Stop.undefined (setup.toolRegistry.execute (round.hosts position) call)) :=
        ensures_expect (fun _ _ => trivial) fun _ => trivial
      apply executes.bind
      intro result _
      have written : ConversationSound lib ((world.write
          (printToolCall lib.json position call)).write
          (printToolResult position (lib.json.serialize (toValue result)))).conversation := sound
      have appends := appendMessage_ensures written setup.factory
        { role := "tool", message := lib.json.serialize (toValue result), toolCallId := call.id }
        held (round.times position)
      apply (appends.allow fun _ never => never.elim).bind
      rintro ⟨next, later⟩ appended
      apply (ih (position + 1) appended.sound appended.held).weaken
      rintro ⟨last, final⟩ quiet
      have console : later.console = _ := appended.console
      refine ⟨quiet.calls.trans appended.calls, quiet.out.trans ?_⟩
      rw [console]
      simp only [World.write, stdout_append, printToolCall, printToolResult, stdout_err,
        String.append_empty]

/-- A round, by the reply it got. -/
inductive RoundWrote (options : Options) (world : World lib) :
    RoundEnd × World lib → Prop where
  | refused {next : World lib} {call : Call lib.sse}
      (calls : next.conversation.calls = world.conversation.calls ++ [call])
      (states : call.session.states = []) (out : stdout next.console = stdout world.console) :
      RoundWrote options world (.returns none, next)
  | ended {next : World lib} {call : Call lib.sse} {node : SharedPtr OaiCompletionState}
      (calls : next.conversation.calls = world.conversation.calls ++ [call])
      (states : call.session.states = [node.value]) (noTools : ¬CallsTools node.value)
      (out : stdout next.console = stdout world.console ++ replyOut options node.value) :
      RoundWrote options world (.returns (some node), next)
  | goesOn {next : World lib} {call : Call lib.sse} {reply : OaiCompletionState}
      {state : StatePtr} (calls : next.conversation.calls = world.conversation.calls ++ [call])
      (states : call.session.states = [reply]) (tools : CallsTools reply)
      (out : stdout next.console = stdout world.console ++ replyOut options reply) :
      RoundWrote options world (.goesOn state, next)

theorem stdout_logged (options : Options) (number : Nat) (state : OaiCompletionState) :
    stdout (logged options number state) = "" := by
  rw [logged, stdout_append]
  split <;> simp [printLog]

theorem replyOut_of_tools (options : Options) {reply : OaiCompletionState}
    (tools : CallsTools reply) :
    (if options.stream then spokenLine reply.message.message else "") =
      replyOut options reply := by
  have goesOn : ¬(reply.log.status = .kSuccess ∧ reply.message.toolCalls = []) :=
    fun ends => tools.2 ends.2
  rw [replyOut, if_neg goesOn]

theorem replyOut_of_no_tools (options : Options) {reply : OaiCompletionState}
    (noTools : ¬CallsTools reply) :
    (if options.stream then spokenLine reply.message.message else "") ++
        stdout (answerShown options reply) = replyOut options reply := by
  rw [replyOut, answerShown]
  cases options.stream with
  | true => simp
  | false =>
      by_cases success : reply.log.status = .kSuccess
      · have noCalls : reply.message.toolCalls = [] := by
          by_contra calls
          exact noTools ⟨success, calls⟩
        simp [success, noCalls]
      · simp [success]

theorem runRound_writes (number : Nat) (round : Round) {state : StatePtr} {world : World lib}
    (coherent : Coherent setup world)
    (continues : Continues lib setup .assistant world.conversation.heap state) :
    Ensures (fun _ => True) (RoundWrote setup.options world)
      (runRound lib setup number round state world) := by
  rw [runRound_eq]
  have waits := (waitFor_ensures coherent continues round).and
    (waitFor_writes coherent.sound continues.held round)
  apply (waits.allow fun _ _ => trivial).bind
  rintro ⟨done, waited⟩ ⟨after, wrote⟩
  cases wrote with
  | refused calls states out =>
      refine .refused calls states ?_
      simp [World.write, out]
  | @delivered _ call node calls states out =>
      obtain ⟨-, held, -⟩ := after.reply node rfl
      have heldNode : waited.conversation.heap.Holds
          ((some node : StatePtr).map SharedPtr.address) := held
      by_cases tools : CallsTools node.value
      · simp only [tools, ↓reduceIte]
        have written : ConversationSound lib
            (waited.write (logged setup.options number node.value)).conversation :=
          after.coherent.sound
        apply (appendResultsFrom_quiet round node.value.message.toolCalls 0 written heldNode).bind
        rintro ⟨next, final⟩ quiet
        refine .goesOn (quiet.calls.trans calls) states tools (quiet.out.trans ?_)
        rw [World.write, stdout_append, stdout_logged, out, String.append_empty,
          replyOut_of_tools setup.options tools]
      · simp only [tools, ↓reduceIte]
        refine .ended calls states tools ?_
        simp only [World.write, stdout_append]
        rw [stdout_logged, out, String.append_empty, String.append_assoc,
          replyOut_of_no_tools setup.options tools]

/-- The replies to the calls of a turn with a number of rounds left, and where it
ends. -/
inductive TurnEnds : (left calls : Nat) → List OaiCompletionState → StatePtr → Prop where
  | exceeded : TurnEnds 0 0 [] none
  | refused {left : Nat} : TurnEnds (left + 1) 1 [] none
  | ended {left : Nat} {node : SharedPtr OaiCompletionState} (noTools : ¬CallsTools node.value) :
      TurnEnds (left + 1) 1 [node.value] (some node)
  | goesOn {left calls : Nat} {reply : OaiCompletionState} {replies : List OaiCompletionState}
      {done : StatePtr} (tools : CallsTools reply) (later : TurnEnds left calls replies done) :
      TurnEnds (left + 1) (calls + 1) (reply :: replies) done

/-- All replies but the last call tools; the last does not if the turn ends with a
state, and otherwise the turn used all its rounds or was refused one. -/
theorem TurnEnds.shape {left calls : Nat} {replies : List OaiCompletionState} {done : StatePtr}
    (ends : TurnEnds left calls replies done) :
    (∀ reply ∈ replies.dropLast, CallsTools reply) ∧
      (∀ node, done = some node →
        replies.getLast? = some node.value ∧ ¬CallsTools node.value) ∧
      (done = none → (∀ reply ∈ replies, CallsTools reply) ∧
        (replies.length = calls → calls = left)) := by
  induction ends with
  | exceeded => simp
  | refused => simp
  | @ended left node noTools =>
      refine ⟨by simp, ?_, by simp⟩
      intro other same
      cases same
      exact ⟨rfl, noTools⟩
  | @goesOn left calls reply replies done tools later ih =>
      obtain ⟨all, answered, unanswered⟩ := ih
      refine ⟨?_, ?_, ?_⟩
      · cases replies with
        | nil => simp
        | cons next rest =>
            rw [List.dropLast_cons_of_ne_nil (List.cons_ne_nil _ _)]
            exact List.forall_mem_cons.mpr ⟨tools, all⟩
      · intro node isNode
        obtain ⟨last, noTools⟩ := answered node isNode
        refine ⟨?_, noTools⟩
        rw [List.getLast?_cons, last]
        rfl
      · intro isNone
        obtain ⟨every, used⟩ := unanswered isNone
        refine ⟨List.forall_mem_cons.mpr ⟨tools, every⟩, ?_⟩
        intro counted
        rw [List.length_cons, Nat.add_right_cancel_iff] at counted
        rw [used counted]

/-- The states delivered by some calls. -/
def replies (calls : List (Call lib.sse)) : List OaiCompletionState :=
  calls.flatMap fun call => call.session.states

/-- What a turn adds to the calls and to the standard output. -/
structure TurnWrote (setup : Setup) (world : World lib) (left : Nat)
    (result : StatePtr × World lib) (made : List (Call lib.sse)) : Prop where
  calls : result.2.conversation.calls = world.conversation.calls ++ made
  ends : TurnEnds left made.length (replies made) result.1
  out : stdout result.2.console =
    stdout world.console ++ String.join ((replies made).map (replyOut setup.options))

theorem runRounds_writes (rounds : Nat → Round) (left number : Nat) {state : StatePtr}
    {world : World lib} (coherent : Coherent setup world)
    (continues : Continues lib setup .assistant world.conversation.heap state) :
    Ensures (fun _ => True) (fun result => ∃ made, TurnWrote setup world left result made)
      (runRounds lib setup rounds left number state world) := by
  induction left generalizing number state world with
  | zero =>
      refine ⟨[], (List.append_nil _).symm, .exceeded, ?_⟩
      simp [World.write, replies]
  | succ left ih =>
      rw [runRounds]
      have rounds := (runRound_ensures number (rounds number) coherent continues).and
        (runRound_writes number (rounds number) coherent continues)
      apply (rounds.allow fun _ _ => trivial).bind
      rintro ⟨ending, next⟩ ⟨done, wrote⟩
      cases wrote with
      | @refused _ call calls states out =>
          refine ⟨[call], calls, ?_, ?_⟩
          · simp only [replies, List.flatMap_singleton, states]
            exact .refused
          · simp [replies, states, out]
      | @ended _ call node calls states noTools out =>
          refine ⟨[call], calls, ?_, ?_⟩
          · simp only [replies, List.flatMap_singleton, states]
            exact .ended noTools
          · simp [replies, states, out]
      | @goesOn _ call reply state calls states tools out =>
          apply (ih (number + 1) done.coherent (done.goesOn state rfl)).weaken
          rintro ⟨last, final⟩ ⟨made, turn⟩
          have more : replies (call :: made) = reply :: replies made := by
            rw [replies, List.flatMap_cons, states]
            rfl
          have calls : next.conversation.calls = _ := calls
          have console : stdout next.console = _ := out
          refine ⟨call :: made, ?_, ?_, ?_⟩
          · rw [turn.calls, calls, List.append_assoc, List.singleton_append]
          · rw [more]
            exact .goesOn tools turn.ends
          · rw [more, turn.out, console, List.map_cons, String.join_cons, String.append_assoc]

end Turns

end Boai.DeepseekDemo
