import Mathlib.Data.List.Forall2

/-!
# Machines that answer inputs one at a time

A machine refuses an input by stepping to `none`.  A run feeds it a list of
inputs and exists only when every input was accepted.  The rules below lift what
one step preserves to what a whole run preserves: an invariant of one machine,
an invariant that needs a condition on the inputs, and a relation kept between
two machines fed with related inputs.
-/

universe u v

/-- A deterministic step that may refuse its input. -/
structure StepMachine (σ : Type u) (ι : Type v) where
  step : σ → ι → Option σ

namespace StepMachine

variable {σ τ : Type u} {ι κ : Type v}

/-- Feed inputs from left to right. -/
def run (machine : StepMachine σ ι) : σ → List ι → Option σ
  | state, [] => some state
  | state, input :: inputs =>
      match machine.step state input with
      | none => none
      | some next => machine.run next inputs

theorem run_cons (machine : StepMachine σ ι) (state : σ) (input : ι)
    (inputs : List ι) :
    machine.run state (input :: inputs) =
      (machine.step state input).bind fun next => machine.run next inputs := by
  simp only [run]
  cases machine.step state input <;> rfl

theorem run_append (machine : StepMachine σ ι) (state : σ)
    (left right : List ι) :
    machine.run state (left ++ right) =
      (machine.run state left).bind fun next => machine.run next right := by
  induction left generalizing state with
  | nil => rfl
  | cons input inputs ih =>
      simp only [List.cons_append, run_cons, Option.bind_assoc]
      congr 1
      funext next
      exact ih next

/-- A run of a nonempty input list starts with an accepted step. -/
theorem run_cons_eq_some {machine : StepMachine σ ι} {state final : σ}
    {input : ι} {inputs : List ι} :
    machine.run state (input :: inputs) = some final ↔
      ∃ next, machine.step state input = some next ∧
        machine.run next inputs = some final := by
  rw [run_cons]
  exact Option.bind_eq_some_iff

/-- What every step preserves under a condition on its input holds after a run
whose inputs all meet the condition. -/
theorem run_invariant_of {machine : StepMachine σ ι} (good : ι → Prop)
    (invariant : σ → Prop)
    (preserved : ∀ state input next, good input → invariant state →
      machine.step state input = some next → invariant next)
    {state final : σ} {inputs : List ι} (allGood : ∀ input ∈ inputs, good input)
    (initial : invariant state) (ran : machine.run state inputs = some final) :
    invariant final := by
  induction inputs generalizing state with
  | nil =>
      cases ran
      exact initial
  | cons input inputs ih =>
      rcases run_cons_eq_some.mp ran with ⟨next, stepped, rest⟩
      have here : good input := allGood input (by simp)
      have later : ∀ other ∈ inputs, good other := by
        intro other member
        exact allGood other (by simp [member])
      exact ih later (preserved state input next here initial stepped) rest

/-- What every step preserves holds after every run. -/
theorem run_invariant {machine : StepMachine σ ι} (invariant : σ → Prop)
    (preserved : ∀ state input next, invariant state →
      machine.step state input = some next → invariant next)
    {state final : σ} {inputs : List ι} (initial : invariant state)
    (ran : machine.run state inputs = some final) : invariant final :=
  run_invariant_of (fun _ => True) invariant
    (fun state input next _ => preserved state input next) (by simp) initial ran

/-- Two machines whose steps keep a relation, fed with related inputs, accept
the same runs and end in related states. -/
theorem run_related (left : StepMachine σ ι) (right : StepMachine τ κ)
    {related : σ → τ → Prop} {matching : ι → κ → Prop}
    (simulates : ∀ state other input answer next, related state other →
      matching input answer → left.step state input = some next →
      ∃ nextOther, right.step other answer = some nextOther ∧
        related next nextOther)
    {state : σ} {other : τ} {final : σ} {inputs : List ι} {answers : List κ}
    (initial : related state other) (matched : List.Forall₂ matching inputs answers)
    (ran : left.run state inputs = some final) :
    ∃ finalOther, right.run other answers = some finalOther ∧
      related final finalOther := by
  induction matched generalizing state other with
  | nil =>
      cases ran
      exact ⟨other, rfl, initial⟩
  | cons here _ ih =>
      rcases run_cons_eq_some.mp ran with ⟨next, stepped, rest⟩
      rcases simulates state other _ _ next initial here stepped with
        ⟨nextOther, steppedOther, kept⟩
      rcases ih kept rest with ⟨finalOther, ranOther, finalKept⟩
      exact ⟨finalOther, run_cons_eq_some.mpr ⟨nextOther, steppedOther, ranOther⟩,
        finalKept⟩

/-- Two machines that step alike on matching inputs, refusals included, run
alike. -/
theorem run_rel (left : StepMachine σ ι) (right : StepMachine τ κ)
    {related : σ → τ → Prop} {matching : ι → κ → Prop}
    (alike : ∀ state other input answer, related state other → matching input answer →
      Option.Rel related (left.step state input) (right.step other answer))
    {state : σ} {other : τ} {inputs : List ι} {answers : List κ}
    (initial : related state other) (matched : List.Forall₂ matching inputs answers) :
    Option.Rel related (left.run state inputs) (right.run other answers) := by
  induction matched generalizing state other with
  | nil => exact .some initial
  | cons here _ ih =>
      have first := alike state other _ _ initial here
      rw [run_cons, run_cons]
      revert first
      generalize left.step state _ = next
      generalize right.step other _ = nextOther
      intro first
      cases first with
      | none => exact .none
      | some kept => exact ih kept

end StepMachine
