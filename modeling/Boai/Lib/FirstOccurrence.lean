import Mathlib.Data.List.Infix

/-!
# First occurrences of a pattern in a list

`OccursFirst pattern before` says that in a list `before ++ pattern ++ after` the
pattern does not start any earlier than after `before`.  A list that contains a
pattern can be cut at its first occurrence.
-/

universe u

namespace FirstOccurrence

variable {α : Type u} {pattern before after text : List α}

/-- No occurrence of the pattern starts within `before`. -/
def OccursFirst (pattern before : List α) : Prop :=
  ¬pattern <:+: before ++ pattern.dropLast

theorem occursFirst_nil (nonempty : pattern ≠ []) : OccursFirst pattern [] := by
  intro inside
  have short := inside.length_le
  rw [List.nil_append, List.length_dropLast] at short
  have positive := List.length_pos_iff.mpr nonempty
  omega

/-- A single element occurs first after a part without it. -/
theorem occursFirst_singleton {element : α} (absent : element ∉ before) :
    OccursFirst [element] before := by
  intro inside
  rw [List.dropLast_singleton, List.append_nil] at inside
  exact absent (inside.subset (List.mem_singleton_self element))

theorem OccursFirst.tail {head : α} (first : OccursFirst pattern (head :: before)) :
    OccursFirst pattern before := by
  intro inside
  apply first
  rw [List.cons_append]
  exact inside.trans (List.suffix_cons head _).isInfix

/-- The pattern is no prefix of a text in which it first occurs later. -/
theorem OccursFirst.not_prefix {head : α} (first : OccursFirst pattern (head :: before))
    (after : List α) :
    ¬pattern <+: head :: before ++ pattern ++ after := by
  intro isPrefix
  apply first
  have early : head :: before ++ pattern.dropLast <+: head :: before ++ pattern ++ after := by
    apply List.IsPrefix.trans _ (List.prefix_append _ after)
    exact (List.prefix_append_right_inj _).mpr (List.dropLast_prefix pattern)
  have long : pattern.length ≤ (head :: before ++ pattern.dropLast).length := by
    rw [List.length_append, List.length_cons, List.length_dropLast]
    omega
  exact (List.prefix_of_prefix_length_le isPrefix early long).isInfix

/-- A text that contains a pattern is cut at the first occurrence. -/
theorem exists_occursFirst (nonempty : pattern ≠ []) (contains : pattern <:+: text) :
    ∃ before after, text = before ++ pattern ++ after ∧ OccursFirst pattern before := by
  induction text with
  | nil => exact absurd (List.infix_nil.mp contains) nonempty
  | cons head rest ih =>
      by_cases isPrefix : pattern <+: head :: rest
      · rcases isPrefix with ⟨after, isText⟩
        exact ⟨[], after, isText.symm, occursFirst_nil nonempty⟩
      · have later := (List.infix_cons_iff.mp contains).resolve_left isPrefix
        rcases ih later with ⟨before, after, isRest, first⟩
        refine ⟨head :: before, after, by rw [isRest]; rfl, ?_⟩
        intro inside
        rw [List.cons_append, List.infix_cons_iff] at inside
        cases inside with
        | inl early =>
            apply isPrefix
            rw [isRest]
            apply early.trans
            rw [List.append_assoc]
            apply (List.prefix_cons_inj head).mpr
            apply (List.prefix_append_right_inj before).mpr
            exact (List.dropLast_prefix pattern).trans (List.prefix_append pattern after)
        | inr late => exact first late

end FirstOccurrence
