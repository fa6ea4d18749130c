import Mathlib.Data.List.TakeWhile

/-!
# C++ strings

A `std::string` is modelled by `String`, one character for each byte, so that
every byte sequence has a counterpart and the operations used by the source
(concatenation, comparison, search, cutting) are those of the character list.

The one operation without a counterpart in Lean is reading a string through
`c_str()`, which ends at the first NUL.
-/

namespace Boai

/-- `std::string(text.c_str())`: the characters before the first NUL. -/
def cStr (text : String) : String :=
  String.ofList (text.toList.takeWhile (· ≠ '\x00'))

/-- A text without NUL characters. -/
def NulFree (text : String) : Prop := '\x00' ∉ text.toList

instance (text : String) : Decidable (NulFree text) :=
  inferInstanceAs (Decidable (¬_))

@[simp] theorem toList_cStr (text : String) :
    (cStr text).toList = text.toList.takeWhile (· ≠ '\x00') := by
  simp [cStr]

theorem nulFree_cStr (text : String) : NulFree (cStr text) := by
  intro member
  rw [toList_cStr] at member
  have kept := List.mem_takeWhile_imp member
  simp at kept

theorem cStr_of_nulFree {text : String} (free : NulFree text) : cStr text = text := by
  apply String.toList_injective
  rw [toList_cStr, List.takeWhile_eq_self_iff]
  intro character member
  simp only [ne_eq, decide_eq_true_eq]
  intro isNul
  exact free (isNul ▸ member)

theorem cStr_eq_self_iff {text : String} : cStr text = text ↔ NulFree text :=
  ⟨fun equal => equal ▸ nulFree_cStr text, cStr_of_nulFree⟩

theorem length_cStr_le (text : String) : (cStr text).length ≤ text.length := by
  rw [← String.length_toList, ← String.length_toList, toList_cStr]
  exact (List.takeWhile_prefix _).length_le

/-- Reading through `c_str()` loses at least one character of a text with a
NUL. -/
theorem length_cStr_lt {text : String} (hasNul : ¬NulFree text) :
    (cStr text).length < text.length := by
  apply Nat.lt_of_le_of_ne (length_cStr_le text)
  intro equal
  apply hasNul
  rw [← cStr_eq_self_iff]
  apply String.toList_injective
  rw [← String.length_toList, ← String.length_toList, toList_cStr] at equal
  rw [toList_cStr]
  exact (List.takeWhile_prefix _).eq_of_length equal

theorem cStr_cut (text : String) : cStr text = text ∨ (cStr text).length < text.length := by
  by_cases free : NulFree text
  · exact .inl (cStr_of_nulFree free)
  · exact .inr (length_cStr_lt free)

theorem nulFree_empty : NulFree "" := by decide

theorem nulFree_append {left right : String} :
    NulFree (left ++ right) ↔ NulFree left ∧ NulFree right := by
  simp [NulFree, not_or]

section Join

variable {α : Type}

/-- A joined text is empty only if all its pieces are. -/
theorem eq_empty_of_join_eq_empty {pieces : List String} {piece : String}
    (joined : String.join pieces = "") (member : piece ∈ pieces) : piece = "" := by
  have characters := congrArg String.toList joined
  rw [String.toList_join, String.toList_empty, List.flatMap_eq_nil_iff] at characters
  exact String.toList_eq_nil_iff.mp (characters piece member)

theorem join_map_eq_empty {read : α → String} {items : List α}
    (empty : ∀ item ∈ items, read item = "") : String.join (items.map read) = "" := by
  induction items with
  | nil => rfl
  | cons item rest ih =>
      rw [List.forall_mem_cons] at empty
      rw [List.map_cons, String.join_cons, empty.1, ih empty.2, String.empty_append]

/-- Pieces that are each whole or shortened join to less unless all are whole. -/
theorem whole_or_length_join_lt {read whole : α → String}
    (cut : ∀ item, read item = whole item ∨ (read item).length < (whole item).length)
    (items : List α) :
    (∀ item ∈ items, read item = whole item) ∨
      (String.join (items.map read)).length < (String.join (items.map whole)).length := by
  induction items with
  | nil => exact .inl nofun
  | cons item rest ih =>
      simp only [List.map_cons, String.join_cons, String.length_append, List.forall_mem_cons]
      cases cut item with
      | inl same =>
          rw [same]
          exact ih.imp (fun later => ⟨rfl, later⟩) (fun later => Nat.add_lt_add_left later _)
      | inr shorter =>
          right
          cases ih with
          | inl later =>
              rw [List.map_congr_left later]
              exact Nat.add_lt_add_right shorter _
          | inr later => exact Nat.add_lt_add shorter later

theorem join_map_eq_iff {read whole : α → String}
    (cut : ∀ item, read item = whole item ∨ (read item).length < (whole item).length)
    {items : List α} :
    String.join (items.map read) = String.join (items.map whole) ↔
      ∀ item ∈ items, read item = whole item := by
  constructor
  · intro same
    apply (whole_or_length_join_lt cut items).resolve_right
    rw [same]
    exact Nat.lt_irrefl _
  · intro same
    rw [List.map_congr_left same]

theorem nulFree_of_join {pieces : List String} (free : NulFree (String.join pieces))
    {piece : String} (member : piece ∈ pieces) : NulFree piece := by
  intro hasNul
  apply free
  rw [String.toList_join, List.mem_flatMap]
  exact ⟨piece, member, hasNul⟩

theorem length_join_filter_le (read : α → String) (keep : α → Bool) (items : List α) :
    (String.join ((items.filter keep).map read)).length ≤
      (String.join (items.map read)).length := by
  induction items with
  | nil => exact Nat.le_refl _
  | cons item rest ih =>
      rw [List.map_cons, String.join_cons, String.length_append, List.filter_cons]
      split
      · rw [List.map_cons, String.join_cons, String.length_append]
        exact Nat.add_le_add_left ih _
      · exact Nat.le_add_left_of_le ih

/-- Dropping items leaves the joined text as it is exactly when the dropped items
have no text. -/
theorem join_filter_eq_iff {read : α → String} {keep : α → Bool} {items : List α} :
    String.join (items.map read) = String.join ((items.filter keep).map read) ↔
      ∀ item ∈ items, keep item = false → read item = "" := by
  induction items with
  | nil => simp
  | cons item rest ih =>
      rw [List.map_cons, String.join_cons, List.filter_cons, List.forall_mem_cons, ← ih]
      cases kept : keep item with
      | true => simp [String.join_cons]
      | false =>
          simp only [Bool.false_eq_true, if_false, forall_const]
          constructor
          · intro same
            have shorter := length_join_filter_le read keep rest
            have lengths := congrArg String.length same
            rw [String.length_append] at lengths
            have noText : (read item).length = 0 := by omega
            have isEmpty : read item = "" := String.length_eq_zero_iff.mp noText
            rw [isEmpty, String.empty_append] at same
            exact ⟨isEmpty, same⟩
          · intro both
            rw [both.1, String.empty_append]
            exact both.2

end Join

example : cStr "call\x00er" = "call" := by decide

end Boai
