import Mathlib.Data.List.Basic

/-!
# Argument vectors read one option at a time

A reader looks at an argument and at those that follow it, and either fails or
changes its state and says how many of the following arguments it has taken as
values.  Given a grammar of the options, that is, how an option is written, what
it does, and that the reader reads exactly the options, the vectors it accepts
are the written sequences of options, and it fails at the first argument that no
option begins with.
-/

universe u v w x

/-- Reads an argument in front of the rest of the vector. -/
structure ArgReader (σ : Type u) (α : Type v) (ε : Type w) where
  read : σ → α → List α → Except ε (σ × Nat)

namespace ArgReader

variable {σ : Type u} {α : Type v} {ε : Type w}

/-- Read a whole vector of which some arguments are already taken. -/
def parse (reader : ArgReader σ α ε) : Nat → σ → List α → Except ε σ
  | _, state, [] => .ok state
  | taken + 1, state, _ :: rest => reader.parse taken state rest
  | 0, state, argument :: rest =>
      match reader.read state argument rest with
      | .error error => .error error
      | .ok (next, taken) => reader.parse taken next rest

theorem parse_taken (reader : ArgReader σ α ε) (taken : Nat) (state : σ) (arguments : List α) :
    reader.parse taken state arguments = reader.parse 0 state (arguments.drop taken) := by
  induction taken generalizing arguments with
  | zero => rfl
  | succ taken ih =>
      cases arguments with
      | nil => simp only [parse, List.drop_nil]
      | cons argument rest =>
          simp only [parse, List.drop_succ_cons]
          exact ih rest

/-- How options are written and what they do.  An option is written as a first
argument and its values. -/
structure Grammar (reader : ArgReader σ α ε) (κ : Type x) where
  first : κ → α
  values : κ → List α
  apply : κ → σ → σ
  Valid : κ → Prop
  reads : ∀ option state later, Valid option →
    reader.read state (first option) (values option ++ later) =
      .ok (apply option state, (values option).length)
  readsOnly : ∀ state argument rest next taken,
    reader.read state argument rest = .ok (next, taken) →
      ∃ option later, Valid option ∧ argument = first option ∧
        rest = values option ++ later ∧ taken = (values option).length ∧
        next = apply option state

namespace Grammar

variable {reader : ArgReader σ α ε} {κ : Type x} (grammar : Grammar reader κ)

/-- The arguments an option is written as. -/
def words (option : κ) : List α := grammar.first option :: grammar.values option

/-- Do what some options say, in order. -/
def applyAll (options : List κ) (state : σ) : σ :=
  options.foldl (fun state option => grammar.apply option state) state

theorem parse_option {option : κ} (valid : grammar.Valid option) (state : σ)
    (later : List α) :
    reader.parse 0 state (grammar.words option ++ later) =
      reader.parse 0 (grammar.apply option state) later := by
  have read := grammar.reads option state later valid
  rw [words, List.cons_append, parse, read]
  simp only
  rw [parse_taken, List.drop_left]

/-- Written options are read before whatever follows them. -/
theorem parse_words {options : List κ} (valid : ∀ option ∈ options, grammar.Valid option)
    (state : σ) (later : List α) :
    reader.parse 0 state (options.flatMap grammar.words ++ later) =
      reader.parse 0 (grammar.applyAll options state) later := by
  induction options generalizing state with
  | nil => rfl
  | cons option options ih =>
      rcases List.forall_mem_cons.mp valid with ⟨here, others⟩
      rw [List.flatMap_cons, List.append_assoc, grammar.parse_option here, ih others]
      rfl

/-- A vector is the written form of some options, or it begins with some options
and an argument at which the reader fails. -/
theorem parse_cases (state : σ) (arguments : List α) :
    (∃ options, (∀ option ∈ options, grammar.Valid option) ∧
      arguments = options.flatMap grammar.words ∧
      reader.parse 0 state arguments = .ok (grammar.applyAll options state)) ∨
    (∃ options argument rest error, (∀ option ∈ options, grammar.Valid option) ∧
      arguments = options.flatMap grammar.words ++ argument :: rest ∧
      reader.read (grammar.applyAll options state) argument rest = .error error ∧
      reader.parse 0 state arguments = .error error) := by
  induction isSize : arguments.length using Nat.strongRecOn generalizing state arguments with
  | ind size ih =>
    cases arguments with
    | nil => exact .inl ⟨[], by simp, rfl, rfl⟩
    | cons argument rest =>
        cases read : reader.read state argument rest with
        | error error =>
            refine .inr ⟨[], argument, rest, error, by simp, rfl, read, ?_⟩
            simp only [parse, read]
        | ok result =>
            rcases grammar.readsOnly state argument rest result.1 result.2 read with
              ⟨option, later, valid, rfl, rfl, _, _⟩
            have shorter : later.length < size := by
              rw [← isSize, List.length_cons, List.length_append]
              omega
            have goesOn : reader.parse 0 state
                (grammar.first option :: (grammar.values option ++ later)) =
                reader.parse 0 (grammar.apply option state) later :=
              grammar.parse_option valid state later
            rw [goesOn]
            rcases ih later.length shorter (grammar.apply option state) later rfl with
              ⟨options, allValid, rfl, parsed⟩ |
              ⟨options, bad, after, error, allValid, rfl, failed, parsed⟩
            · refine .inl ⟨option :: options, List.forall_mem_cons.mpr ⟨valid, allValid⟩, rfl, ?_⟩
              exact parsed
            · refine .inr ⟨option :: options, bad, after, error,
                List.forall_mem_cons.mpr ⟨valid, allValid⟩, ?_, failed, parsed⟩
              simp only [List.flatMap_cons, words, List.cons_append, List.append_assoc]

/-- The accepted vectors are the written sequences of options. -/
theorem parse_eq_ok {state final : σ} {arguments : List α} :
    reader.parse 0 state arguments = .ok final ↔
      ∃ options, (∀ option ∈ options, grammar.Valid option) ∧
        arguments = options.flatMap grammar.words ∧ final = grammar.applyAll options state := by
  constructor
  · intro accepted
    rcases grammar.parse_cases state arguments with
      ⟨options, valid, written, parsed⟩ | ⟨_, _, _, error, _, _, _, parsed⟩
    · rw [accepted] at parsed
      exact ⟨options, valid, written, Except.ok.inj parsed⟩
    · rw [accepted] at parsed
      cases parsed
  · intro ⟨options, valid, written, isFinal⟩
    rw [written, isFinal, ← List.append_nil (options.flatMap grammar.words),
      grammar.parse_words valid]
    rfl

/-- The refused vectors begin with some options and an argument that is not
read. -/
theorem parse_eq_error {state : σ} {arguments : List α} {error : ε} :
    reader.parse 0 state arguments = .error error ↔
      ∃ options argument rest, (∀ option ∈ options, grammar.Valid option) ∧
        arguments = options.flatMap grammar.words ++ argument :: rest ∧
        reader.read (grammar.applyAll options state) argument rest = .error error := by
  constructor
  · intro refused
    rcases grammar.parse_cases state arguments with
      ⟨_, _, _, parsed⟩ | ⟨options, argument, rest, other, valid, written, failed, parsed⟩
    · rw [refused] at parsed
      cases parsed
    · rw [refused] at parsed
      cases parsed
      exact ⟨options, argument, rest, valid, written, failed⟩
  · intro ⟨options, argument, rest, valid, written, failed⟩
    rw [written, grammar.parse_words valid, parse, failed]

end Grammar

end ArgReader
