import Mathlib.Data.List.Induction
import Boai.Lib.StepMachine

/-!
# Machines side by side

Copies of one machine run side by side when every input addresses one of them by
its position.  A run of the whole is a run of each copy on the inputs addressed to
it, so two interleavings with the same inputs at each position have the same
runs.  Beside this the module has two rules for runs: one for maps between
machines that every step respects, and one for invariants that mention the
inputs read so far.
-/

universe u v

namespace StepMachine

variable {σ τ : Type u} {ι : Type v}

/-! ## Two rules for runs -/

/-- A map that every step respects is respected by every run. -/
theorem run_map {left : StepMachine σ ι} {right : StepMachine τ ι} {image : σ → τ}
    (respects : ∀ state input,
      right.step (image state) input = (left.step state input).map image)
    (state : σ) (inputs : List ι) :
    right.run (image state) inputs = (left.run state inputs).map image := by
  induction inputs generalizing state with
  | nil => rfl
  | cons input inputs ih =>
      rw [run_cons, run_cons, respects, Option.map_bind, Option.bind_map]
      congr 1
      funext next
      exact ih next

theorem run_concat_eq_some {machine : StepMachine σ ι} {state final : σ} {inputs : List ι}
    {input : ι} :
    machine.run state (inputs ++ [input]) = some final ↔
      ∃ last, machine.run state inputs = some last ∧ machine.step last input = some final := by
  rw [run_append, Option.bind_eq_some_iff]
  constructor
  · intro ⟨last, ran, stepped⟩
    rcases run_cons_eq_some.mp stepped with ⟨next, accepted, same⟩
    cases same
    exact ⟨last, ran, accepted⟩
  · intro ⟨last, ran, accepted⟩
    exact ⟨last, ran, run_cons_eq_some.mpr ⟨final, accepted, rfl⟩⟩

/-- What holds at the start and is kept by every step that follows a run holds of
every run and the inputs it has read. -/
theorem run_history {machine : StepMachine σ ι} {start : σ} (invariant : List ι → σ → Prop)
    (initial : invariant [] start)
    (preserved : ∀ past state input next, machine.run start past = some state →
      invariant past state → machine.step state input = some next →
      invariant (past ++ [input]) next)
    {inputs : List ι} {final : σ} (ran : machine.run start inputs = some final) :
    invariant inputs final := by
  induction inputs using List.reverseRecOn generalizing final with
  | nil =>
      cases ran
      exact initial
  | append_singleton past input ih =>
      rcases run_concat_eq_some.mp ran with ⟨last, ranPast, accepted⟩
      exact preserved past last input final ranPast (ih ranPast) accepted

/-! ## Copies of one machine -/

/-- The inputs addressed to a position. -/
def addressedTo (position : Nat) (inputs : List (Nat × ι)) : List ι :=
  inputs.filterMap fun input => if input.1 = position then some input.2 else none

@[simp] theorem addressedTo_nil (position : Nat) :
    addressedTo position ([] : List (Nat × ι)) = [] := rfl

theorem addressedTo_cons (position : Nat) (input : Nat × ι) (inputs : List (Nat × ι)) :
    addressedTo position (input :: inputs) =
      if input.1 = position then input.2 :: addressedTo position inputs
      else addressedTo position inputs := by
  simp only [addressedTo, List.filterMap_cons]
  split <;> split <;> simp_all

theorem addressedTo_ne_nil {inputs : List (Nat × ι)} {input : Nat × ι}
    (member : input ∈ inputs) : addressedTo input.1 inputs ≠ [] := by
  intro empty
  rw [addressedTo, List.filterMap_eq_nil_iff] at empty
  have kept := empty input member
  simp at kept

/-- Copies of a machine, of which an input addresses one. -/
def sideBySide (machine : StepMachine σ ι) : StepMachine (List σ) (Nat × ι) where
  step states input :=
    (states[input.1]?).bind fun state =>
      (machine.step state input.2).map fun next => states.set input.1 next

theorem sideBySide_step {machine : StepMachine σ ι} {states nexts : List σ}
    {input : Nat × ι} :
    machine.sideBySide.step states input = some nexts ↔
      ∃ state next, states[input.1]? = some state ∧ machine.step state input.2 = some next ∧
        states.set input.1 next = nexts := by
  simp only [sideBySide, Option.bind_eq_some_iff, Option.map_eq_some_iff]
  constructor
  · intro ⟨state, found, next, accepted, same⟩
    exact ⟨state, next, found, accepted, same⟩
  · intro ⟨state, next, found, accepted, same⟩
    exact ⟨state, found, next, accepted, same⟩

/-- A run of machines side by side is a run of each of them on its own inputs. -/
theorem run_sideBySide {machine : StepMachine σ ι} {states finals : List σ}
    {inputs : List (Nat × ι)} :
    machine.sideBySide.run states inputs = some finals ↔
      (∀ input ∈ inputs, input.1 < states.length) ∧ finals.length = states.length ∧
        ∀ position state, states[position]? = some state →
          machine.run state (addressedTo position inputs) = finals[position]? := by
  induction inputs generalizing states with
  | nil =>
      simp only [run, Option.some.injEq, addressedTo_nil]
      constructor
      · intro same
        subst same
        exact ⟨by simp, rfl, fun _ _ found => found.symm⟩
      · rintro ⟨_, lengths, same⟩
        apply List.ext_getElem?
        intro position
        cases found : states[position]? with
        | none =>
            rw [List.getElem?_eq_none_iff] at found
            exact (List.getElem?_eq_none_iff.mpr (lengths ▸ found)).symm
        | some state => exact same position state found
  | cons input inputs ih =>
      rw [run_cons_eq_some]
      constructor
      · rintro ⟨nexts, stepped, ran⟩
        rcases sideBySide_step.mp stepped with ⟨state, next, found, accepted, rfl⟩
        rcases ih.mp ran with ⟨inside, lengths, each⟩
        rw [List.length_set] at inside lengths
        have here : input.1 < states.length := (List.getElem?_eq_some_iff.mp found).1
        refine ⟨List.forall_mem_cons.mpr ⟨here, inside⟩, lengths, ?_⟩
        intro position other foundOther
        rw [addressedTo_cons]
        split
        next addressed =>
          subst addressed
          rw [found, Option.some.injEq] at foundOther
          subst foundOther
          rw [run_cons, accepted, Option.bind_some]
          exact each input.1 next (List.getElem?_set_self here)
        next elsewhere =>
          apply each position other
          rw [List.getElem?_set_ne elsewhere]
          exact foundOther
      · rintro ⟨inside, lengths, each⟩
        rcases List.forall_mem_cons.mp inside with ⟨here, later⟩
        have found : states[input.1]? = some states[input.1] := List.getElem?_eq_getElem here
        have goesOn := each input.1 _ found
        rw [addressedTo_cons, if_pos rfl, run_cons,
          List.getElem?_eq_getElem (lengths ▸ here)] at goesOn
        rcases Option.bind_eq_some_iff.mp goesOn with ⟨next, accepted, rest⟩
        refine ⟨states.set input.1 next,
          sideBySide_step.mpr ⟨_, next, found, accepted, rfl⟩, ih.mpr ⟨?_, ?_, ?_⟩⟩
        · rw [List.length_set]
          exact later
        · rw [List.length_set]
          exact lengths
        · intro position other foundOther
          by_cases addressed : input.1 = position
          · subst addressed
            rw [List.getElem?_set_self here, Option.some.injEq] at foundOther
            subst foundOther
            rw [rest, List.getElem?_eq_getElem (lengths ▸ here)]
          · rw [List.getElem?_set_ne addressed] at foundOther
            have own := each position other foundOther
            rw [addressedTo_cons, if_neg addressed] at own
            exact own

/-- Interleavings with the same inputs at each position have the same runs. -/
theorem run_sideBySide_congr {machine : StepMachine σ ι} {states : List σ}
    {left right : List (Nat × ι)}
    (same : ∀ position, addressedTo position left = addressedTo position right) :
    machine.sideBySide.run states left = machine.sideBySide.run states right := by
  have implied : ∀ {left right : List (Nat × ι)} {finals : List σ},
      (∀ position, addressedTo position left = addressedTo position right) →
      machine.sideBySide.run states left = some finals →
      machine.sideBySide.run states right = some finals := by
    intro left right finals same ran
    rcases run_sideBySide.mp ran with ⟨inside, lengths, each⟩
    refine run_sideBySide.mpr ⟨?_, lengths, ?_⟩
    · intro input member
      have addressed := addressedTo_ne_nil member
      rw [← same] at addressed
      rcases List.exists_mem_of_ne_nil _ addressed with ⟨own, listed⟩
      rcases List.mem_filterMap.mp listed with ⟨other, present, isOwn⟩
      split at isOwn
      next position =>
        rw [← position]
        exact inside other present
      next => cases isOwn
    · intro position state found
      rw [← same]
      exact each position state found
  apply Option.ext
  intro finals
  exact ⟨implied same, implied fun position => (same position).symm⟩

end StepMachine
