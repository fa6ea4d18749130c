import Boai.Completion.WireMessage

/-!
# A stream against a body

The message delivered for a stream is compared with the one decoded from a body
that carries the same message whole.  Both are functions of the message, and the
functions differ in one place only: an empty arguments text is dropped by the
stream decoder and decoded like any other text by the whole-object decoder.
-/

namespace Boai.Completion

open Boai.Json KeyedFold

/-! ## The payloads of a cut message -/

/-- The loop reads the payloads of all pieces before `[DONE]`. -/
theorem readPayloads_of_pieces {json : JsonLib} {pieces : List DeltaPiece} {texts : List String}
    (payloads : List.Forall₂ (PiecePayload json) pieces texts) (later : List SseEvent) :
    List.Forall₂ PieceRoot pieces
      (readPayloads json (texts.map SseEvent.mk ++ ⟨"[DONE]"⟩ :: later)) := by
  induction payloads with
  | nil =>
      simp only [List.map_nil, List.nil_append, readPayloads]
      exact .nil
  | @cons piece text _ _ here _ ih =>
      rcases here.root with ⟨root, parsed, carries⟩
      rw [List.map_cons, List.cons_append]
      simp only [readPayloads, here.payload.nonempty, here.payload.not_done, if_false, parsed]
      exact .cons carries ih

section Cut

variable {message : WireMessage} {pieces : List DeltaPiece} {roots : List Members}

/-- Pieces of a text without NUL characters are read as they are. -/
theorem map_of_pieces {read : Members → String} {said : DeltaPiece → String}
    (reads : ∀ piece root, PieceRoot piece root → NulFree (said piece) →
      read root = said piece)
    (carries : List.Forall₂ PieceRoot pieces roots)
    (free : NulFree (String.join (pieces.map said))) : roots.map read = pieces.map said := by
  induction carries with
  | nil => rfl
  | cons here _ ih =>
      rw [List.map_cons, String.join_cons, nulFree_append] at free
      rw [List.map_cons, List.map_cons, reads _ _ here free.1, ih free.2]

theorem forall₂_flatMap_toolCalls (carries : List.Forall₂ PieceRoot pieces roots) :
    List.Forall₂ (fun piece element => piece.1 = element.1 ∧ PieceElement piece.2 element.2)
      (pieces.flatMap DeltaPiece.toolCalls) (roots.flatMap payloadToolCalls) :=
  List.rel_flatMap carries fun _ _ here => payloadToolCalls_of_piece here

/-- The accumulators are those of the calls of the message, in order. -/
theorem toList_of_cut (json : JsonLib) (cut : CutMessage message pieces)
    (free : message.NulFree) (carries : List.Forall₂ PieceRoot pieces roots) :
    (writeAll (mergeElement json) ∅ (roots.flatMap payloadToolCalls)).toList.map Prod.snd =
      message.toolCalls.map wholeAccumulator := by
  have tagged := forall₂_flatMap_toolCalls carries
  let slotAt : Nat → ToolCallAccumulator := fun index =>
    (message.toolCalls[index]?.map wholeAccumulator).getD {}
  have empty : ∀ index, (∅ : ToolCallMap)[index]? = none :=
    fun _ => Std.ExtTreeMap.getElem?_empty
  have inside : ∀ index < message.toolCalls.length,
      (writeAll (mergeElement json) ∅ (roots.flatMap payloadToolCalls))[index]? =
        some (slotAt index) := by
    intro index below
    have present := List.getElem?_eq_getElem below
    rw [getElem?_writeAll, empty,
      fillSlot_of_cut json (cut.toolCalls index _ present)
        (free.toolCalls _ (List.getElem_mem below)) (forall₂_carrying tagged index)]
    simp only [slotAt, present, Option.map_some, Option.getD_some]
  have outside : ∀ index, message.toolCalls.length ≤ index →
      (writeAll (mergeElement json) ∅ (roots.flatMap payloadToolCalls))[index]? = none := by
    intro index above
    have noPieces := cut.noOthers index (List.getElem?_eq_none above)
    have noElements := forall₂_carrying tagged index
    rw [noPieces, List.forall₂_nil_left_iff] at noElements
    rw [getElem?_writeAll, empty, noElements]
    rfl
  rw [toList_eq_range inside outside, List.map_map]
  apply List.ext_getElem
  · simp
  · intro index below _
    have inRange : index < message.toolCalls.length := by simpa using below
    simp [slotAt, inRange]

/-- What the stream decoder makes of a call. -/
def streamCall (json : JsonLib) (call : WireCall) : OaiToolCall :=
  toolCallOfAccumulator json (wholeAccumulator call)

theorem buildToolCallsFromAccumulation_of_cut (json : JsonLib) (cut : CutMessage message pieces)
    (free : message.NulFree) (carries : List.Forall₂ PieceRoot pieces roots) :
    buildToolCallsFromAccumulation json
        (writeAll (mergeElement json) ∅ (roots.flatMap payloadToolCalls)) =
      message.toolCalls.filterMap fun call => keepCall (streamCall json call) := by
  have listed := toList_of_cut json cut free carries
  have bySlot : buildToolCallsFromAccumulation json
      (writeAll (mergeElement json) ∅ (roots.flatMap payloadToolCalls)) =
      ((writeAll (mergeElement json) ∅ (roots.flatMap payloadToolCalls)).toList.map
        Prod.snd).filterMap fun acc => keepCall (toolCallOfAccumulator json acc) := by
    rw [List.filterMap_map]
    rfl
  rw [bySlot, listed, List.filterMap_map]
  rfl

/-- A stream of pieces is decoded to the texts and the calls of the message. -/
theorem messageOfPayloads_of_cut (json : JsonLib) (cut : CutMessage message pieces)
    (free : message.NulFree) (carries : List.Forall₂ PieceRoot pieces roots) :
    (messageOfPayloads json roots).message = message.content ∧
      (messageOfPayloads json roots).reasoning = message.reasoning ∧
      (messageOfPayloads json roots).toolCalls =
        message.toolCalls.filterMap fun call => keepCall (streamCall json call) := by
  have content := map_of_pieces (fun _ _ => payloadContent_of_piece) carries
    (cut.content ▸ free.content)
  have reasoning := map_of_pieces (fun _ _ => payloadReasoning_of_piece) carries
    (cut.reasoning ▸ free.reasoning)
  constructor
  · rw [messageOfPayloads, content, cut.content]
  · constructor
    · rw [messageOfPayloads, reasoning, cut.reasoning]
    · exact buildToolCallsFromAccumulation_of_cut json cut free carries

end Cut

/-! ## The two decoders -/

section Decoders

variable {json : JsonLib}

/-- The one difference: the stream decoder drops an empty arguments text. -/
theorem arguments_streamCall (json : JsonLib) (call : WireCall) :
    (streamCall json call).arguments =
      if call.arguments = "" then .null else (wholeCall json call).arguments :=
  arguments_toolCallOfAccumulator json (wholeAccumulator call)

theorem streamCall_eq_wholeCall {call : WireCall}
    (condition : call.arguments = "" → json.parse "" = some .null) :
    streamCall json call = wholeCall json call := by
  have same : (streamCall json call).arguments = (wholeCall json call).arguments := by
    rw [arguments_streamCall]
    by_cases isEmpty : call.arguments = ""
    · rw [if_pos isEmpty, wholeCall]
      simp only [isEmpty, decodeText, condition isEmpty]
    · rw [if_neg isEmpty]
  calc
    streamCall json call =
        { wholeCall json call with arguments := (streamCall json call).arguments } := rfl
    _ = wholeCall json call := by rw [same]

/-- A call whose arguments are not null is never left out. -/
theorem countP_keepCall (decode : WireCall → OaiToolCall) (calls : List WireCall) :
    (calls.filterMap fun call => keepCall (decode call)).countP
        (fun call => decide (call.arguments ≠ .null)) =
      calls.countP fun call => decide ((decode call).arguments ≠ .null) := by
  rw [List.countP_filterMap]
  apply List.countP_congr
  intro call _
  simp only [keepCall]
  split
  next isBlank =>
    have isNull : (decode call).arguments = .null := by
      simp only [OaiToolCall.isBlank, Bool.and_eq_true, decide_eq_true_eq] at isBlank
      exact isBlank.2
    simp [isNull]
  next => rfl

theorem forall_of_countP_eq {α : Type} {weak strong : α → Bool} {items : List α}
    (weaker : ∀ item, strong item = true → weak item = true)
    (same : items.countP strong = items.countP weak) :
    ∀ item ∈ items, weak item = true → strong item = true := by
  induction items with
  | nil => simp
  | cons item rest ih =>
      have fewer : rest.countP strong ≤ rest.countP weak :=
        List.countP_mono_left fun other _ => weaker other
      rw [List.countP_cons, List.countP_cons] at same
      rw [List.forall_mem_cons]
      cases isStrong : strong item with
      | true =>
          simp only [isStrong, weaker item isStrong, if_true, Nat.add_right_cancel_iff] at same
          exact ⟨fun _ => rfl, ih same⟩
      | false =>
          cases isWeak : weak item with
          | true =>
              simp only [isStrong, isWeak, if_true, Bool.false_eq_true, if_false] at same
              omega
          | false =>
              simp only [isStrong, isWeak, Bool.false_eq_true, if_false, Nat.add_zero] at same
              exact ⟨fun absent => absurd absent (by decide), ih same⟩

/-- The decoders list the same calls exactly when no empty arguments text is
decoded to anything but null. -/
theorem filterMap_streamCall_iff (calls : List WireCall) :
    (calls.filterMap fun call => keepCall (streamCall json call)) =
        (calls.filterMap fun call => keepCall (wholeCall json call)) ↔
      ∀ call ∈ calls, call.arguments = "" → json.parse "" = some .null := by
  constructor
  · intro same call member isEmpty
    have counts := congrArg
      (List.countP fun call : OaiToolCall => decide (call.arguments ≠ .null)) same
    rw [countP_keepCall, countP_keepCall] at counts
    have weaker : ∀ other, decide ((streamCall json other).arguments ≠ .null) = true →
        decide ((wholeCall json other).arguments ≠ .null) = true := by
      intro other kept
      rw [arguments_streamCall] at kept
      by_cases noText : other.arguments = ""
      · simp [noText] at kept
      · simpa [noText] using kept
    have nothing : (wholeCall json call).arguments = .null := by
      by_contra hasArguments
      have kept := forall_of_countP_eq weaker counts call member (decide_eq_true hasArguments)
      rw [arguments_streamCall, if_pos isEmpty] at kept
      exact absurd kept (by decide)
    simp only [wholeCall, isEmpty, decodeText] at nothing
    cases parsed : json.parse "" with
    | none => simp [parsed] at nothing
    | some value =>
        simp only [parsed] at nothing
        rw [nothing]
  · intro condition
    apply List.filterMap_congr
    intro call member
    rw [streamCall_eq_wholeCall (condition call member)]

end Decoders

/-- The three parts of a message that a stream and a body both carry. -/
structure SameAnswer (answer other : OaiMessage) : Prop where
  message : answer.message = other.message
  reasoning : answer.reasoning = other.reasoning
  toolCalls : answer.toolCalls = other.toolCalls

/-- However a message without NUL characters is cut into payloads followed by
`[DONE]`, and however these arrive, the message delivered for the stream is the
one decoded from a body that carries it whole if and only if no call has an empty
arguments text, unless the empty text is JSON for null. -/
theorem fetchStreamCompletion_agrees_iff (lib : Libraries) (message : WireMessage)
    (free : message.NulFree) (pieces : List DeltaPiece) (texts : List String)
    (cut : CutMessage message pieces)
    (payloads : List.Forall₂ (PiecePayload lib.json) pieces texts)
    (body : String) (whole : WholeBody lib.json message body)
    (ending : Ending) (bytes : String) (results : List (Timed HttpSseClientResult))
    (carries : Carries ending bytes results) (later : List SseEvent)
    (events : fedEvents lib.sse lib.sse.init (chunks results) =
      texts.map SseEvent.mk ++ ⟨"[DONE]"⟩ :: later)
    (state : OaiCompletionState) (streams : Streams lib results state)
    (base : OaiMessage) (log : OaiRequestLog) (error : String) :
    (parseCompletionResponseBody lib.json body base log error).accepted = true ∧
      (SameAnswer state.message
          (parseCompletionResponseBody lib.json body base log error).message ↔
        ∀ call ∈ message.toolCalls, call.arguments = "" → lib.json.parse "" = some .null) := by
  have roots := readPayloads_of_pieces payloads later
  rw [← events] at roots
  have streamed := messageOfPayloads_of_cut lib.json cut free roots
  have delivered := (streams.result carries).1
  rw [streamPayloads] at delivered
  rw [← delivered] at streamed
  have decoded := parseCompletionResponseBody_of_whole whole free base log error
  constructor
  · exact decoded.1
  · rw [← filterMap_streamCall_iff, ← streamed.2.2, ← decoded.2.2.2]
    constructor
    · intro same
      exact same.toolCalls
    · intro toolCalls
      exact ⟨streamed.1.trans decoded.2.1.symm, streamed.2.1.trans decoded.2.2.1.symm,
        toolCalls⟩

/-! ## Two calls in pieces -/

/-- A text, two calls and a thought. -/
def chattyMessage : WireMessage where
  content := "Hello"
  reasoning := "so"
  toolCalls := [⟨"call_a", "zone", "[1]"⟩, ⟨"call_b", "day", "[2]"⟩]

/-- Every text of the message in two pieces, taking turns. -/
def chattyPieces : List DeltaPiece :=
  [⟨"Hel", "", [(1, ⟨some ("call_b", "day"), "[2"⟩), (0, ⟨some ("call_a", "zone"), "[1"⟩)]⟩,
    ⟨"", "s", [(1, ⟨none, "]"⟩)]⟩,
    ⟨"lo", "o", [(0, ⟨none, "]"⟩)]⟩]

/-- A member that is there for the first piece of a call only. -/
def headerValue : Option String → JsonValue
  | some text => .string text
  | none => .null

/-- A piece of a call as a wire object. -/
def pieceMembers (index : Nat) (piece : CallPiece) : Members :=
  [("index", .int64 index), ("id", headerValue (piece.header.map Prod.fst)),
    ("function", .object [("name", headerValue (piece.header.map Prod.snd)),
      ("arguments", .string piece.fragment)])]

def pieceDelta (piece : DeltaPiece) : Members :=
  [("content", .string piece.content), ("reasoning_content", .string piece.reasoning),
    ("tool_calls", .array ((piece.toolCalls.map fun tagged =>
      pieceMembers tagged.1 tagged.2).map .object))]

def wholeMembers (message : WireMessage) : Members :=
  [("content", .string message.content), ("reasoning_content", .string message.reasoning),
    ("tool_calls", .array ((message.toolCalls.map fun call =>
      [("id", .string call.id), ("function", .object [("name", .string call.name),
        ("arguments", .string call.arguments)])]).map .object))]

/-- Each piece is a payload, and the message is a body. -/
def chattyLibraries : Libraries :=
  Reference.libraries
    ((["1", "2", "3"].zip (chattyPieces.map fun piece => Reference.payload (pieceDelta piece))) ++
      [("4", .object [("choices", .array [.object [("message",
        .object (wholeMembers chattyMessage))]])]),
        ("[1]", .array [.int64 1]), ("[2]", .array [.int64 2])])

theorem carriesHeader_headerValue (header : Option String) :
    CarriesHeader (some (headerValue header)) header := by
  cases header with
  | none => exact .inl rfl
  | some text => exact rfl

/-- Every piece of a message is carried by the object written for it. -/
theorem pieceRoot_pieceDelta (piece : DeltaPiece) {root : Members}
    (written : JsonValue.object root = Reference.payload (pieceDelta piece)) :
    PieceRoot piece root := by
  cases written
  refine .intro rfl rfl (.inl rfl) (.inl rfl) (.inl rfl) ?_
  rw [List.forall₂_map_right_iff, List.forall₂_same]
  intro tagged _
  exact ⟨rfl, carriesHeader_headerValue _, carriesHeader_headerValue _, .inl rfl⟩

theorem wholeBody_wholeMembers {json : JsonLib} {message : WireMessage} {body : String}
    (parsed : json.parse body = some (.object [("choices", .array [.object [("message",
      .object (wholeMembers message))]])])) : WholeBody json message body := by
  refine .intro parsed rfl rfl (.inl rfl) (.inl rfl) (.inl rfl) ?_
  rw [List.forall₂_map_right_iff, List.forall₂_same]
  intro call _
  exact ⟨rfl, rfl, rfl⟩

theorem cut_chatty : CutMessage chattyMessage chattyPieces where
  content := rfl
  reasoning := rfl
  toolCalls := by
    intro index call found
    match index, found with
    | 0, rfl => exact .intro "[1" ["]"] rfl
    | 1, rfl => exact .intro "[2" ["]"] rfl
  noOthers := by
    intro index absent
    match index, absent with
    | _ + 2, _ => rfl

theorem payloads_chatty :
    List.Forall₂ (PiecePayload chattyLibraries.json) chattyPieces ["1", "2", "3"] := by
  have payload : ∀ {piece text root}, IsPayload text →
      chattyLibraries.json.parse text = some (.object root) →
      JsonValue.object root = Reference.payload (pieceDelta piece) →
      PiecePayload chattyLibraries.json piece text := fun isPayload parsed written =>
    ⟨isPayload, _, parsed, pieceRoot_pieceDelta _ written⟩
  exact .cons (payload ⟨by decide, by decide⟩ rfl rfl)
    (.cons (payload ⟨by decide, by decide⟩ rfl rfl)
      (.cons (payload ⟨by decide, by decide⟩ rfl rfl) .nil))

/-- The last chunk of the stream. -/
def chattyLast : Timed HttpSseClientResult where
  now := 4
  answer := {
    chunk := "2\n\n" ++ Reference.event "3" ++ Reference.event "[DONE]"
    eof := true }

/-- The payloads in two chunks, the second event cut in the middle. -/
def chattyResults : List (Timed HttpSseClientResult) :=
  [⟨3, { status := 200, chunk := Reference.event "1" ++ "data: " }⟩, chattyLast]

theorem carries_chatty :
    Carries .eof (Reference.event "1" ++ "data: " ++ chattyLast.answer.chunk) chattyResults :=
  .piece 3 200 _ (@Carries.eof chattyLast rfl rfl)

theorem fetchStreamCompletion_agrees_iff_chatty :
    ∃ state, Streams chattyLibraries chattyResults state ∧
      state.message.toolCalls = [⟨"call_a", "zone", .array [.int64 1]⟩,
        ⟨"call_b", "day", .array [.int64 2]⟩] ∧
      SameAnswer state.message
        (parseCompletionResponseBody chattyLibraries.json "4" {} {} "").message := by
  rcases exists_streams (fun state => state.message.toolCalls)
    (by decide : (handedOver chattyLibraries chattyResults).map
      (List.map fun state => state.message.toolCalls) =
        some [[⟨"call_a", "zone", .array [.int64 1]⟩,
          ⟨"call_b", "day", .array [.int64 2]⟩]]) with ⟨state, streams, calls⟩
  have free : chattyMessage.NulFree := by
    refine ⟨by decide, by decide, ?_⟩
    intro call member
    simp only [chattyMessage, List.mem_cons, List.not_mem_nil, or_false] at member
    rcases member with rfl | rfl <;> exact ⟨by decide, by decide, by decide⟩
  have agrees := fetchStreamCompletion_agrees_iff chattyLibraries chattyMessage free chattyPieces
    ["1", "2", "3"] cut_chatty payloads_chatty "4" (wholeBody_wholeMembers rfl) .eof _ _
    carries_chatty [] (by decide) state streams {} {} ""
  refine ⟨state, streams, calls, agrees.2.mpr ?_⟩
  intro call member isEmpty
  simp only [chattyMessage, List.mem_cons, List.not_mem_nil, or_false] at member
  rcases member with rfl | rfl <;> exact absurd isEmpty (by decide)

/-! ## One call without arguments -/

def pingCall (arguments : String) : WireCall where
  id := "call_1"
  name := "ping"
  arguments := arguments

/-- A message that only makes a call. -/
def pingMessage (arguments : String) : WireMessage where
  content := ""
  reasoning := ""
  toolCalls := [pingCall arguments]

/-- The call as a wire object, less its index. -/
def pingElement (arguments : String) : Members :=
  [("id", .string "call_1"),
    ("function", .object [("name", .string "ping"), ("arguments", .string arguments)])]

/-- A payload text and a body text that carry the call. -/
def pingLibraries (arguments : String) : Libraries :=
  Reference.libraries
    [("1", Reference.payload [("tool_calls", .array
        [.object (("index", .int64 0) :: pingElement arguments)])]),
      ("2", .object [("choices", .array [.object [("message", .object
        [("tool_calls", .array [.object (pingElement arguments)])])]])]),
      ("{}", .object [])]

/-- The call in one piece. -/
def pingPiece (arguments : String) : DeltaPiece where
  content := ""
  reasoning := ""
  toolCalls := [(0, ⟨some ("call_1", "ping"), arguments⟩)]

theorem nulFree_ping {arguments : String} (free : NulFree arguments) :
    (pingMessage arguments).NulFree where
  content := nulFree_empty
  reasoning := nulFree_empty
  toolCalls := by
    intro call member
    rw [pingMessage, List.mem_singleton] at member
    subst member
    have id : NulFree "call_1" := by decide
    have name : NulFree "ping" := by decide
    exact ⟨id, name, free⟩

theorem cut_ping (arguments : String) :
    CutMessage (pingMessage arguments) [pingPiece arguments] where
  content := rfl
  reasoning := rfl
  toolCalls := by
    intro index call found
    cases index with
    | zero =>
        cases found
        exact .intro arguments [] String.append_empty
    | succ _ => cases found
  noOthers := by
    intro index absent
    cases index with
    | zero => cases absent
    | succ _ => rfl

theorem element_ping (arguments : String) :
    PieceElement ⟨some ("call_1", "ping"), arguments⟩
      (("index", .int64 0) :: pingElement arguments) where
  id := by
    simp only [CarriesHeader]
    rfl
  name := by
    simp only [CarriesHeader]
    rfl
  arguments := .inl rfl

theorem payload_ping (arguments : String) :
    PiecePayload (pingLibraries arguments).json (pingPiece arguments) "1" where
  payload := ⟨by decide, by decide⟩
  root := ⟨_, rfl, .intro rfl rfl (.inr ⟨rfl, .inr rfl⟩) (.inr ⟨rfl, .inr rfl⟩) (.inl rfl)
    (.cons ⟨rfl, element_ping arguments⟩ .nil)⟩

theorem body_ping (arguments : String) :
    WholeBody (pingLibraries arguments).json (pingMessage arguments) "2" :=
  .intro rfl rfl rfl (.inr ⟨rfl, .inr rfl⟩) (.inr ⟨rfl, .inr rfl⟩) (.inl rfl)
    (.cons ⟨rfl, rfl, rfl⟩ .nil)

theorem events_ping :
    fedEvents Reference.sse Reference.sse.init (chunks (inOneChunk ["1", "[DONE]"])) =
      ["1"].map SseEvent.mk ++ ⟨"[DONE]"⟩ :: [] := by
  decide

/-- A call with an empty arguments text has null arguments when it comes in a
stream, and an empty string when it comes in a body. -/
theorem emptyArguments_disagree :
    (pingMessage "").NulFree ∧ CutMessage (pingMessage "") [pingPiece ""] ∧
      List.Forall₂ (PiecePayload (pingLibraries "").json) [pingPiece ""] ["1"] ∧
      WholeBody (pingLibraries "").json (pingMessage "") "2" ∧
      fedEvents (pingLibraries "").sse (pingLibraries "").sse.init
          (chunks (inOneChunk ["1", "[DONE]"])) =
        ["1"].map SseEvent.mk ++ ⟨"[DONE]"⟩ :: [] ∧
      ∃ state, Streams (pingLibraries "") (inOneChunk ["1", "[DONE]"]) state ∧
        state.message.toolCalls = [⟨"call_1", "ping", .null⟩] ∧
        (parseCompletionResponseBody (pingLibraries "").json "2" {} {} "").message.toolCalls =
          [⟨"call_1", "ping", .string ""⟩] ∧
        ¬SameAnswer state.message
          (parseCompletionResponseBody (pingLibraries "").json "2" {} {} "").message := by
  rcases exists_streams (fun state => state.message.toolCalls)
    (by decide : (handedOver (pingLibraries "") (inOneChunk ["1", "[DONE]"])).map
      (List.map fun state => state.message.toolCalls) =
        some [[⟨"call_1", "ping", .null⟩]]) with ⟨state, streams, streamed⟩
  have decoded :
      (parseCompletionResponseBody (pingLibraries "").json "2" {} {} "").message.toolCalls =
        [⟨"call_1", "ping", .string ""⟩] := by
    decide
  refine ⟨nulFree_ping (by decide), cut_ping "", .cons (payload_ping "") .nil, body_ping "",
    events_ping, state, streams, streamed, decoded, ?_⟩
  intro same
  have calls := same.toolCalls
  rw [streamed, decoded] at calls
  exact absurd calls (by decide)

end Boai.Completion
