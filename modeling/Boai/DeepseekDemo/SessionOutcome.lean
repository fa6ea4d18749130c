import Boai.DeepseekDemo.Transcript

/-!
# How sessions end

A turn succeeds if its last reply is an answer, that is a success without tool
calls.  The exit code and the whole standard output of a session follow from the
replies it got: of a one-shot session from those of its turn, of a chat from those
to each question the user typed.
-/

namespace Boai.DeepseekDemo

open Boai.Json Boai.Completion Outcome

/-- The answer that ends a turn: a success without tool calls. -/
def IsAnswer (state : OaiCompletionState) : Prop :=
  state.log.status = .kSuccess ∧ state.message.toolCalls = []

theorem succeededWith_iff {left calls : Nat} {given : List OaiCompletionState} {done : StatePtr}
    (ends : TurnEnds left calls given done) :
    succeededWith done = true ↔ ∃ last, given.getLast? = some last ∧ IsAnswer last := by
  obtain ⟨_, answered, unanswered⟩ := ends.shape
  cases done with
  | none =>
      constructor
      · intro success
        cases success
      · rintro ⟨last, isLast, answer⟩
        have tools := (unanswered rfl).1 last (List.mem_of_getLast? isLast)
        exact absurd answer.2 tools.2
  | some node =>
      obtain ⟨isLast, noTools⟩ := answered node rfl
      rw [isLast]
      constructor
      · intro success
        have status : node.value.log.status = .kSuccess := of_decide_eq_true success
        refine ⟨node.value, rfl, status, ?_⟩
        by_contra calls
        exact noTools ⟨status, calls⟩
      · rintro ⟨last, same, answer⟩
        cases same
        exact decide_eq_true answer.1

/-! ## The one-shot mode -/

/-- A message on its own writes nothing. -/
theorem appendMessage_silent {lib : Libraries} (world : World lib) (factory : OaiCompletionFactory)
    (message : OaiMessage) (previous : StatePtr) (now : Int) :
    Ensures (fun _ => True) (fun result => result.2.console = world.console)
      (world.appendMessage factory message previous now) := by
  have performs : Ensures (fun _ => True) (fun _ => True)
      (expect Stop.unscripted (world.conversation.perform lib
        (.append factory message (previous.map SharedPtr.address) now))) :=
    ensures_expect (fun _ _ => trivial) fun _ => trivial
  exact performs.bind fun _ _ => rfl

theorem buildInitialState_silent {lib : Libraries} (setup : Setup) (now : Int)
    (world : World lib) :
    Ensures (fun _ => True) (fun result => result.2.console = world.console)
      (buildInitialState setup now world) := by
  rw [buildInitialState]
  split
  · exact rfl
  · exact appendMessage_silent world setup.factory _ none now

/-- What a one-shot session has done when it returns. -/
structure OneShotWrote {lib : Libraries} (setup : Setup) (result : Int × World lib)
    (done : StatePtr) : Prop where
  coherent : Coherent setup result.2
  ends : TurnEnds setup.options.maxRoundTrips.toNat result.2.conversation.calls.length
    (replies result.2.conversation.calls) done
  code : result.1 = if succeededWith done then 0 else 1
  out : stdout result.2.console =
    String.join ((replies result.2.conversation.calls).map (replyOut setup.options))

theorem runOneShot_writes {lib : Libraries} {setup : Setup} (started asked : Int)
    (rounds : Nat → Round) :
    Ensures (fun _ => True) (fun result => ∃ done, OneShotWrote setup result done)
      (runOneShot lib setup started asked rounds {}) := by
  rw [runOneShot]
  have begins := (buildInitialState_silent setup started ({} : World lib)).and
    (buildInitialState_ensures started)
  apply begins.bind
  rintro ⟨initial, begun⟩ ⟨silent, start⟩
  have asks := (appendMessage_silent begun setup.factory
    { role := "user", message := setup.options.user } initial asked).and
      (ask_ensures start.coherent start.continues setup.options.user asked)
  apply asks.bind
  rintro ⟨state, world⟩ ⟨quiet, ask⟩
  have turns := (runRounds_writes rounds setup.options.maxRoundTrips.toNat 1 ask.coherent
    ask.continues).and
      (runRounds_ensures rounds setup.options.maxRoundTrips.toNat 1 ask.coherent ask.continues)
  apply turns.bind
  rintro ⟨done, final⟩ ⟨⟨made, turn⟩, turned⟩
  have calls : final.conversation.calls = made := by
    have before : world.conversation.calls = [] := ask.calls.trans start.counted
    have after : final.conversation.calls = world.conversation.calls ++ made := turn.calls
    rw [after, before, List.nil_append]
  have console : world.console = [] := by
    have started : begun.console = [] := silent
    have asked : world.console = begun.console := quiet
    rw [asked, started]
  refine ⟨done, turned.coherent, ?_, rfl, ?_⟩
  · simp only [calls]
    exact turn.ends
  · have out : stdout final.console = stdout world.console ++ _ := turn.out
    simp only [calls]
    rw [out, console, stdout_nil, String.empty_append]

/-- If every call was accepted, there are as many replies as calls. -/
theorem length_replies {lib : Libraries} {calls : List (Call lib.sse)}
    (settled : ∀ call ∈ calls, ∃ state, call.session.states = [state]) :
    (replies calls).length = calls.length := by
  induction calls with
  | nil => rfl
  | cons call calls ih =>
      rw [List.forall_mem_cons] at settled
      obtain ⟨state, states⟩ := settled.1
      have more : replies (call :: calls) = state :: replies calls := by
        rw [replies, List.flatMap_cons, states]
        rfl
      rw [more, List.length_cons, List.length_cons, ih settled.2]

/-- A one-shot session by the replies it got: all but the last call tools; it exits
with zero exactly if the last one is an answer, and with one otherwise, where a
setup that permits requests leaves two reasons: the last reply reports a failure,
or the round trips are used up.  The standard output holds the answer, and with
`--stream` the text of every reply, each on lines of its own. -/
theorem runOneShot_outcome (lib : Libraries) (setup : Setup) (started asked : Int)
    (rounds : Nat → Round) (code : Int) (world : World lib)
    (ran : runOneShot lib setup started asked rounds {} = .ok (code, world)) :
    let given := replies world.conversation.calls
    (∀ reply ∈ given.dropLast, CallsTools reply) ∧
    (code = 0 ∧ (∃ last, given.getLast? = some last ∧ IsAnswer last) ∨
      code = 1 ∧ (∀ last, given.getLast? = some last → ¬IsAnswer last) ∧
        (setup.Startable →
          (∃ last, given.getLast? = some last ∧ last.log.status ≠ .kSuccess) ∨
          given.length = setup.options.maxRoundTrips.toNat)) ∧
    stdout world.console = String.join (given.map (replyOut setup.options)) := by
  obtain ⟨done, wrote⟩ := (runOneShot_writes started asked rounds).of_ok ran
  have exits : code = if succeededWith done then 0 else 1 := wrote.code
  obtain ⟨tools, answered, unanswered⟩ := wrote.ends.shape
  have success := succeededWith_iff wrote.ends
  refine ⟨tools, ?_, wrote.out⟩
  by_cases succeeded : succeededWith done = true
  · exact .inl ⟨by rw [exits, if_pos succeeded], success.mp succeeded⟩
  · refine .inr ⟨by rw [exits, if_neg succeeded], ?_, ?_⟩
    · intro last isLast answer
      exact succeeded (success.mpr ⟨last, isLast, answer⟩)
    · intro startable
      cases done with
      | some node =>
          have failed : node.value.log.status ≠ .kSuccess := of_decide_eq_false
            (Bool.eq_false_of_not_eq_true succeeded)
          exact .inl ⟨node.value, (answered node rfl).1, failed⟩
      | none =>
          have counted := length_replies fun call member =>
            have requested := wrote.coherent.requested call member
            (requested.settled (requested.accepted startable)).2
          exact .inr (counted.trans ((unanswered rfl).2 counted))

theorem runOneShot_outcome_toolThenAnswer :
    ∃ world, runOneShot toolServer oneQuestion 0 0 toolThenAnswer {} = .ok (0, world) ∧
      (∃ last, (replies world.conversation.calls).getLast? = some last ∧ IsAnswer last) ∧
      stdout world.console = String.join
        ((replies world.conversation.calls).map (replyOut oneQuestion.options)) := by
  rcases toolThenAnswer_returns with ⟨world, ran, _⟩
  obtain ⟨_, exits, out⟩ :=
    runOneShot_outcome toolServer oneQuestion 0 0 toolThenAnswer 0 world ran
  refine ⟨world, ran, ?_, out⟩
  cases exits with
  | inl success => exact success.2
  | inr failure => cases failure.1

/-! ## The interactive mode -/

/-- An input that ends the chat. -/
def Input.leaves : Input → Bool
  | .line text _ _ => decide (text = ":quit" ∨ text = ":exit")
  | .eof => true

/-- An input of a chat with the calls of the turn it starts. -/
structure Exchange (lib : Libraries) where
  input : Input
  made : List (Call lib.sse)

namespace Exchange

variable {lib : Libraries}

/-- What the standard output shows for an input. -/
def out (setup : Setup) (exchange : Exchange lib) : String :=
  "you> " ++
    match exchange.input with
    | .eof => "\n"
    | .line text _ _ =>
        if exchange.input.isQuestion then
          "assistant> " ++ String.join ((replies exchange.made).map (replyOut setup.options))
        else if text = ":tools" then setup.toolRegistry.printList
        else ""

/-- The last reply is an answer. -/
def Answered (exchange : Exchange lib) : Prop :=
  ∃ last, (replies exchange.made).getLast? = some last ∧ IsAnswer last

/-- Only questions start a turn. -/
structure Fits (setup : Setup) (exchange : Exchange lib) : Prop where
  turn : exchange.input.isQuestion = true → ∃ done,
    TurnEnds setup.options.maxRoundTrips.toNat exchange.made.length (replies exchange.made) done
  idle : exchange.input.isQuestion = false → exchange.made = []

/-- The chat goes on after an exchange. -/
def GoesOn (exchange : Exchange lib) : Prop :=
  exchange.input.leaves = false ∧ (exchange.input.isQuestion = true → exchange.Answered)

end Exchange

/-- A world as the exchanges so far leave it. -/
structure Recorded {lib : Libraries} (setup : Setup) (exchanges : List (Exchange lib))
    (world : World lib) : Prop where
  fits : ∀ exchange ∈ exchanges, exchange.Fits setup
  calls : world.conversation.calls = exchanges.flatMap Exchange.made
  out : stdout world.console = String.join (exchanges.map (Exchange.out setup))

/-- Where a chat is after some exchanges. -/
inductive Chat {lib : Libraries} (setup : Setup) :
    List (Exchange lib) → Interactive lib → Prop where
  | reading {exchanges : List (Exchange lib)} {state : StatePtr} {world : World lib}
      (recorded : Recorded setup exchanges world)
      (goesOn : ∀ exchange ∈ exchanges, exchange.GoesOn) :
      Chat setup exchanges (.reading state world)
  | left {past : List (Exchange lib)} {last : Exchange lib} {world : World lib}
      (recorded : Recorded setup (past ++ [last]) world)
      (goesOn : ∀ exchange ∈ past, exchange.GoesOn) (leaves : last.input.leaves = true) :
      Chat setup (past ++ [last]) (.returned 0 world)
  | failed {past : List (Exchange lib)} {last : Exchange lib} {world : World lib}
      (recorded : Recorded setup (past ++ [last]) world)
      (goesOn : ∀ exchange ∈ past, exchange.GoesOn) (asks : last.input.isQuestion = true)
      (unanswered : ¬last.Answered) : Chat setup (past ++ [last]) (.returned 1 world)
  | stopped {past : List (Exchange lib)} {last : Exchange lib}
      (goesOn : ∀ exchange ∈ past, exchange.GoesOn) (asks : last.input.isQuestion = true) :
      Chat setup (past ++ [last]) (.stopped .undefined)

section Chats

variable {lib : Libraries} {setup : Setup}

theorem Recorded.append {past : List (Exchange lib)} {world later : World lib}
    (recorded : Recorded setup past world) {exchange : Exchange lib}
    (fits : exchange.Fits setup)
    (calls : later.conversation.calls = world.conversation.calls ++ exchange.made)
    (out : stdout later.console = stdout world.console ++ exchange.out setup) :
    Recorded setup (past ++ [exchange]) later where
  fits := List.forall_mem_append.mpr ⟨recorded.fits, List.forall_mem_singleton.mpr fits⟩
  calls := by
    rw [calls, recorded.calls, List.flatMap_append, List.flatMap_singleton]
  out := by
    rw [out, recorded.out, List.map_append, String.join_append, List.map_singleton]
    simp

/-- An exchange without a turn. -/
theorem Recorded.skip {past : List (Exchange lib)} {world later : World lib}
    (recorded : Recorded setup past world) {input : Input} (noQuestion : input.isQuestion = false)
    (calls : later.conversation.calls = world.conversation.calls)
    (out : stdout later.console =
      stdout world.console ++ Exchange.out setup (⟨input, []⟩ : Exchange lib)) :
    Recorded setup (past ++ [⟨input, []⟩]) later := by
  apply recorded.append ⟨?_, fun _ => rfl⟩ _ out
  · intro question
    rw [noQuestion] at question
    cases question
  · rw [calls, List.append_nil]

theorem goesOn_append {past : List (Exchange lib)} {last : Exchange lib}
    (goesOn : ∀ exchange ∈ past, exchange.GoesOn) (goesOnLast : last.GoesOn) :
    ∀ exchange ∈ past ++ [last], exchange.GoesOn :=
  List.forall_mem_append.mpr ⟨goesOn, List.forall_mem_singleton.mpr goesOnLast⟩

/-- A question and its turn, as the exchange that they add. -/
theorem answerUser_tells {past : List (Exchange lib)} {state : StatePtr} {world : World lib}
    (recorded : Recorded setup past world) (goesOn : ∀ exchange ∈ past, exchange.GoesOn)
    (coherent : Coherent setup world)
    (continues : Continues lib setup .user world.conversation.heap state) {text : String}
    {now : Int} {rounds : Nat → Round}
    (isQuestion : (Input.line text now rounds).isQuestion = true)
    (stays : (Input.line text now rounds).leaves = false) :
    Ensures (fun _ => True)
      (fun next => ∃ made, Chat setup (past ++ [⟨.line text now rounds, made⟩]) next)
      (answerUser lib setup text now rounds state (world.write [.out "you> "])) := by
  rw [answerUser]
  have asks := (appendMessage_silent (world.write [.out "you> "]) setup.factory
    { role := "user", message := text } state now).and
      (ask_ensures (coherent.write _) continues text now)
  apply (asks.allow fun _ _ => trivial).bind
  rintro ⟨asking, asked⟩ ⟨silent, ask⟩
  have before : stdout asked.console = stdout world.console ++ "you> " := by
    have kept : asked.console = (world.write [.out "you> "]).console := silent
    rw [kept, stdout_write, stdout_out]
  have same : asked.conversation.calls = world.conversation.calls := ask.calls
  apply (runRounds_writes rounds setup.options.maxRoundTrips.toNat 1
    (ask.coherent.write [.out "assistant> "]) ask.continues).bind
  rintro ⟨done, final⟩ ⟨made, turn⟩
  have calls : final.conversation.calls = world.conversation.calls ++ made := by
    rw [← same]
    exact turn.calls
  have out : stdout final.console = stdout world.console ++
      Exchange.out setup ⟨.line text now rounds, made⟩ := by
    have wrote : stdout final.console = stdout (asked.write [.out "assistant> "]).console ++
        String.join ((replies made).map (replyOut setup.options)) := turn.out
    have shows : Exchange.out setup (⟨.line text now rounds, made⟩ : Exchange lib) =
        "you> " ++ ("assistant> " ++
          String.join ((replies made).map (replyOut setup.options))) := by
      simp only [Exchange.out, isQuestion, ↓reduceIte]
    rw [wrote, stdout_write, before, stdout_out, shows, String.append_assoc,
      String.append_assoc]
  have recordedFinal : Recorded setup (past ++ [⟨.line text now rounds, made⟩]) final := by
    refine recorded.append ⟨fun _ => ⟨done, turn.ends⟩, ?_⟩ calls out
    intro noQuestion
    rw [isQuestion] at noQuestion
    cases noQuestion
  have success : succeededWith done = true ↔
      Exchange.Answered ⟨.line text now rounds, made⟩ := succeededWith_iff turn.ends
  refine ⟨made, ?_⟩
  split
  next succeeded =>
    have last : Exchange.GoesOn ⟨.line text now rounds, made⟩ :=
      ⟨stays, fun _ => success.mp succeeded⟩
    exact .reading recordedFinal (goesOn_append goesOn last)
  next failed =>
    exact .failed recordedFinal goesOn isQuestion fun answered => failed (success.mpr answered)

theorem readLine_tells {past : List (Exchange lib)} {initial state : StatePtr} {world : World lib}
    (recorded : Recorded setup past world) (goesOn : ∀ exchange ∈ past, exchange.GoesOn)
    (coherent : Coherent setup world)
    (continues : Continues lib setup .user world.conversation.heap state) (input : Input) :
    Ensures (fun _ => input.isQuestion = true)
      (fun next => ∃ made, Chat setup (past ++ [⟨input, made⟩]) next)
      (readLine lib setup initial state world input) := by
  cases input with
  | eof =>
      refine ⟨[], .left (recorded.skip rfl rfl ?_) goesOn rfl⟩
      simp [Exchange.out, String.append_assoc]
  | line text now rounds =>
      rw [readLine]
      split
      next quits =>
        have noQuestion : (Input.line text now rounds).isQuestion = false := by
          rcases quits with rfl | rfl <;> rfl
        have noTools : text ≠ ":tools" := by
          rcases quits with rfl | rfl <;> decide
        refine ⟨[], .left (recorded.skip noQuestion rfl ?_) goesOn (decide_eq_true quits)⟩
        simp [Exchange.out, noQuestion, noTools]
      next notQuit =>
      have stays : (Input.line text now rounds).leaves = false := decide_eq_false notQuit
      have idles : (Input.line text now rounds).isQuestion = false →
          ∀ exchange ∈ past ++ [⟨.line text now rounds, []⟩], exchange.GoesOn := fun noQuestion =>
        goesOn_append goesOn
          ⟨stays, fun question => absurd (noQuestion.symm.trans question) Bool.false_ne_true⟩
      split
      next isTools =>
        subst isTools
        have noQuestion : (Input.line ":tools" now rounds).isQuestion = false := rfl
        refine ⟨[], .reading (recorded.skip noQuestion rfl ?_) (idles noQuestion)⟩
        simp [Exchange.out, String.append_assoc, noQuestion]
      next notTools =>
      split
      next isReset =>
        have noQuestion : (Input.line text now rounds).isQuestion = false := by
          rw [isReset]
          rfl
        refine ⟨[], .reading (recorded.skip noQuestion rfl ?_) (idles noQuestion)⟩
        simp [Exchange.out, noQuestion, notTools]
      next notReset =>
      split
      next isEmpty =>
        have noQuestion : (Input.line text now rounds).isQuestion = false := by
          rw [isEmpty]
          rfl
        refine ⟨[], .reading (recorded.skip noQuestion rfl ?_) (idles noQuestion)⟩
        simp [Exchange.out, noQuestion, notTools]
      next notEmpty =>
      have isQuestion : (Input.line text now rounds).isQuestion = true := by
        simp only [not_or] at notQuit
        simp [Input.isQuestion, notQuit, notTools, notReset, notEmpty]
      have tells := answerUser_tells recorded goesOn coherent continues isQuestion stays
      exact tells.allow fun _ _ => isQuestion

theorem chat_of_run {started : Int} {initial : StatePtr} {begun : World lib}
    (begins : startInteractive setup started {} = .ok (initial, begun)) {inputs : List Input}
    {final : Interactive lib}
    (ran : (interactiveMachine lib setup initial).run (.reading initial begun) inputs =
      some final) :
    ∃ exchanges : List (Exchange lib), exchanges.map Exchange.input = inputs ∧
      Chat setup exchanges final := by
  refine StepMachine.run_history (fun past phase => ∃ exchanges : List (Exchange lib),
    exchanges.map Exchange.input = past ∧ Chat setup exchanges phase) ?_ ?_ ran
  · have silent : stdout begun.console = "" := by
      have starts := buildInitialState_silent setup started ({} : World lib)
      have writes : Ensures (fun _ => True)
          (fun result : StatePtr × World lib => stdout result.2.console = "")
          (startInteractive setup started ({} : World lib)) := by
        rw [startInteractive]
        apply starts.bind
        rintro ⟨initial, begun⟩ nothing
        have console : begun.console = [] := nothing
        have written : stdout (begun.write [.err
            "deepseek-demo interactive mode. type :tools, :reset or :quit\n"]).console = "" := by
          rw [stdout_write, console]
          rfl
        exact written
      exact writes.of_ok begins
    have none : begun.conversation.calls = [] :=
      ((startInteractive_ensures started).of_ok begins).counted
    refine ⟨[], rfl, .reading ⟨?_, none, silent⟩ ?_⟩
    · intro exchange member
      cases member
    · intro exchange member
      cases member
  · rintro past phase input next ranPast ⟨exchanges, isPast, chat⟩ stepped
    cases phase with
    | returned | stopped => cases stepped
    | reading state world =>
        have settles := readLine_ensures (interactiveSound_of_run begins ranPast) input
        obtain ⟨coherent, continues, _⟩ := interactiveSound_of_run begins ranPast
        cases chat with
        | reading recorded goesOn =>
            have reads := @readLine_tells _ _ _ initial _ _ recorded goesOn coherent continues input
            simp only [interactiveMachine] at stepped
            split at stepped
            next after read =>
              cases stepped
              rcases reads.of_ok read with ⟨made, told⟩
              exact ⟨_, by rw [List.map_append, isPast]; rfl, told⟩
            next => cases stepped
            next stop scripted read =>
              cases stepped
              have isUndefined : stop = .undefined := by
                cases stop with
                | unscripted => exact absurd rfl scripted
                | blocked => exact absurd rfl (settles.allowed_of_error read)
                | undefined => rfl
              subst isUndefined
              exact ⟨exchanges ++ [⟨input, []⟩], by rw [List.map_append, isPast]; rfl,
                .stopped goesOn (reads.allowed_of_error read)⟩

end Chats

/-- A chat by what the user typed and the replies to it: after each question all
replies but the last call tools; the chat goes on exactly if the last one is an
answer, and else returns one; it returns zero exactly after a line that leaves, or
at the end of the input; and it has no further behaviour only at a question one of
whose tool calls is undefined.  The calls are those of the questions, and the
standard output is the prompts with the answers and the tool lists in between. -/
theorem interactive_outcome (lib : Libraries) (setup : Setup) (started : Int)
    (initial : StatePtr) (begun : World lib)
    (begins : startInteractive setup started {} = .ok (initial, begun)) (inputs : List Input)
    (final : Interactive lib)
    (ran : (interactiveMachine lib setup initial).run (.reading initial begun) inputs =
      some final) :
    ∃ exchanges : List (Exchange lib), exchanges.map Exchange.input = inputs ∧
      Chat setup exchanges final :=
  chat_of_run begins ran

/-- The list of tools, a question and the end of the input. -/
def shortChat : List Input :=
  [.line ":tools" 0 toolThenAnswer, .line "which system?" 0 toolThenAnswer, .eof]

theorem interactive_outcome_shortChat :
    ∃ initial begun world exchanges,
      startInteractive oneQuestion 0 ({} : World toolServer) = .ok (initial, begun) ∧
      (interactiveMachine toolServer oneQuestion initial).run (.reading initial begun) shortChat =
        some (.returned 0 world) ∧
      exchanges.map Exchange.input = shortChat ∧
      Chat oneQuestion exchanges (.returned 0 world) := by
  have computed : (startInteractive oneQuestion 0 ({} : World toolServer)).toOption.bind
      (fun start => ((interactiveMachine toolServer oneQuestion start.1).run
        (.reading start.1 start.2) shortChat).bind Interactive.code) = some 0 := by
    decide +kernel
  rcases Option.bind_eq_some_iff.mp computed with ⟨⟨initial, begun⟩, returned, reads⟩
  rcases Option.bind_eq_some_iff.mp reads with ⟨final, ran, isCode⟩
  have begins := ok_of_toOption returned
  cases final with
  | reading | stopped => cases isCode
  | returned code world =>
      cases isCode
      rcases interactive_outcome toolServer oneQuestion 0 initial begun begins shortChat _ ran with
        ⟨exchanges, isInput, chat⟩
      exact ⟨initial, begun, world, exchanges, begins, ran, isInput, chat⟩

end Boai.DeepseekDemo
