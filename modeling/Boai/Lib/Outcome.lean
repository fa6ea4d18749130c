import Mathlib.Data.Option.Basic

/-!
# Postconditions of computations that may stop

A computation in `Except` either returns a value or stops for a reason.  There
are two judgements about it.  `Ensures` says what the returned value satisfies and
which reasons are allowed; `Agree` compares two computations, which have to stop
for the same reason or return related values.  Both come with a rule for
sequencing and one for weakening.
-/

universe u

namespace Outcome

variable {ε : Type u} {α β γ δ : Type u}

/-- The value, or the reason why there is none. -/
def expect (stop : ε) : Option α → Except ε α
  | some value => .ok value
  | none => .error stop

@[simp] theorem expect_some (stop : ε) (value : α) : expect stop (some value) = .ok value := rfl

@[simp] theorem expect_none (stop : ε) : expect stop (none : Option α) = .error stop := rfl

@[simp] theorem bind_ok (value : α) (next : α → Except ε β) :
    ((Except.ok value : Except ε α) >>= next) = next value := rfl

@[simp] theorem bind_error (stop : ε) (next : α → Except ε β) :
    ((Except.error stop : Except ε α) >>= next) = .error stop := rfl

theorem ok_of_toOption {computation : Except ε α} {value : α}
    (returned : computation.toOption = some value) : computation = .ok value := by
  cases computation with
  | ok other =>
      cases returned
      rfl
  | error stop => cases returned

/-! ## One computation -/

/-- The returned value meets the postcondition and no other reason than the
allowed ones stops the computation. -/
def Ensures (allowed : ε → Prop) (post : α → Prop) : Except ε α → Prop
  | .ok value => post value
  | .error stop => allowed stop

section Ensures

variable {allowed : ε → Prop} {post later : α → Prop} {goal : β → Prop}

theorem Ensures.of_ok {computation : Except ε α} (ensures : Ensures allowed post computation)
    {value : α} (returns : computation = .ok value) : post value := by
  rw [returns] at ensures
  exact ensures

theorem Ensures.allowed_of_error {computation : Except ε α}
    (ensures : Ensures allowed post computation) {stop : ε}
    (stops : computation = .error stop) : allowed stop := by
  rw [stops] at ensures
  exact ensures

theorem Ensures.weaken {computation : Except ε α} (ensures : Ensures allowed post computation)
    (implies : ∀ value, post value → later value) : Ensures allowed later computation := by
  cases computation with
  | ok value => exact implies value ensures
  | error stop => exact ensures

theorem Ensures.allow {wider : ε → Prop} {computation : Except ε α}
    (ensures : Ensures allowed post computation) (implies : ∀ stop, allowed stop → wider stop) :
    Ensures wider post computation := by
  cases computation with
  | ok value => exact ensures
  | error stop => exact implies stop ensures

/-- Two judgements about one computation. -/
theorem Ensures.and {computation : Except ε α} (ensures : Ensures allowed post computation)
    {other : ε → Prop} (more : Ensures other later computation) :
    Ensures allowed (fun value => post value ∧ later value) computation := by
  cases computation with
  | ok value => exact ⟨ensures, more⟩
  | error stop => exact ensures

theorem Ensures.bind {computation : Except ε α} {next : α → Except ε β}
    (ensures : Ensures allowed post computation)
    (continues : ∀ value, post value → Ensures allowed goal (next value)) :
    Ensures allowed goal (computation >>= next) := by
  cases computation with
  | ok value => exact continues value ensures
  | error stop => exact ensures

theorem ensures_expect {stop : ε} {found : Option α}
    (present : ∀ value, found = some value → post value) (absent : found = none → allowed stop) :
    Ensures allowed post (expect stop found) := by
  cases found with
  | some value => exact present value rfl
  | none => exact absent rfl

end Ensures

/-! ## Two computations -/

/-- Both stop for the same reason, or both return and the values are related. -/
def Agree (related : α → β → Prop) : Except ε α → Except ε β → Prop
  | .ok left, .ok right => related left right
  | .error left, .error right => left = right
  | _, _ => False

section Agree

variable {related stronger : α → β → Prop} {goal : γ → δ → Prop}

theorem Agree.weaken {left : Except ε α} {right : Except ε β}
    (agree : Agree stronger left right)
    (implies : ∀ value other, stronger value other → related value other) :
    Agree related left right := by
  cases left with
  | ok value =>
      cases right with
      | ok other => exact implies value other agree
      | error stop => exact agree
  | error stop =>
      cases right with
      | ok other => exact agree
      | error stop => exact agree

theorem agree_expect {stop : ε} {found : Option α} {other : Option β}
    (same : Option.Rel related found other) :
    Agree related (expect stop found) (expect stop other) := by
  cases same with
  | some kept => exact kept
  | none => exact rfl

theorem Agree.bind {left : Except ε α} {right : Except ε β} {next : α → Except ε γ}
    {nextRight : β → Except ε δ} (agree : Agree related left right)
    (continues : ∀ value other, related value other →
      Agree goal (next value) (nextRight other)) :
    Agree goal (left >>= next) (right >>= nextRight) := by
  cases left with
  | ok value =>
      cases right with
      | ok other => exact continues value other agree
      | error stop => exact agree.elim
  | error stop =>
      cases right with
      | ok other => exact agree.elim
      | error stop => exact agree

theorem Agree.symm {left : Except ε α} {right : Except ε β} (agree : Agree related left right) :
    Agree (fun other value => related value other) right left := by
  cases left with
  | ok value =>
      cases right with
      | ok other => exact agree
      | error stop => exact agree.elim
  | error stop =>
      cases right with
      | ok other => exact agree.elim
      | error other => exact Eq.symm agree

theorem Agree.trans {left : Except ε α} {middle : Except ε β} {right : Except ε γ}
    {further : β → γ → Prop} (agree : Agree related left middle)
    (onward : Agree further middle right) :
    Agree (fun value last => ∃ other, related value other ∧ further other last) left right := by
  cases middle with
  | ok other =>
      cases left with
      | error stop => exact agree.elim
      | ok value =>
          cases right with
          | ok last => exact ⟨other, agree, onward⟩
          | error stop => exact onward.elim
  | error other =>
      cases left with
      | ok value => exact agree.elim
      | error stop =>
          cases right with
          | ok last => exact onward.elim
          | error last => exact Eq.trans agree onward

/-- Agreement of a computation that meets a postcondition. -/
theorem Agree.keep {left : Except ε α} {right : Except ε β} {allowed : ε → Prop}
    {post : α → Prop} (agree : Agree related left right) (ensures : Ensures allowed post left) :
    Agree (fun value other => post value ∧ related value other) left right := by
  cases left with
  | ok value =>
      cases right with
      | ok other => exact ⟨ensures, agree⟩
      | error stop => exact agree
  | error stop =>
      cases right with
      | ok other => exact agree
      | error other => exact agree

/-- Two computations that never stop. -/
theorem agree_of_ensures {left : Except ε α} {right : Except ε β} {post : α → Prop}
    {postRight : β → Prop} (ensures : Ensures (fun _ => False) post left)
    (ensuresRight : Ensures (fun _ => False) postRight right) :
    Agree (fun value other => post value ∧ postRight other) left right := by
  cases left with
  | ok value =>
      cases right with
      | ok other => exact ⟨ensures, ensuresRight⟩
      | error stop => exact ensuresRight
  | error stop =>
      cases right with
      | ok other => exact ensures
      | error other => exact False.elim ensures

/-- Agreement with a computation that meets a postcondition. -/
theorem Agree.ensures {left : Except ε α} {right : Except ε β} {allowed : ε → Prop}
    {post : α → Prop} (agree : Agree related left right) (ensures : Ensures allowed post left) :
    Ensures allowed (fun other => ∃ value, post value ∧ related value other) right := by
  cases left with
  | ok value =>
      cases right with
      | ok other => exact ⟨value, ensures, agree⟩
      | error stop => exact agree.elim
  | error stop =>
      cases right with
      | ok other => exact agree.elim
      | error other =>
          have same : stop = other := agree
          exact same ▸ ensures

end Agree

end Outcome
