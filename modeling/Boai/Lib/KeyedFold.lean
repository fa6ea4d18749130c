import Std.Data.ExtTreeMap.Lemmas
import Mathlib.Data.List.Sort
import Mathlib.Data.List.Range

/-!
# Folding a tagged sequence into an ordered map

Each element of a sequence carries a key and updates the slot of that key, which
is created on first use.  The slot of a key then depends only on the
subsequence carrying that key, so the fold does not see how the subsequences
are interleaved, and listing the map visits the used keys in increasing order.
-/

universe u v w

namespace KeyedFold

open Std

variable {κ : Type u} [Ord κ] [TransOrd κ] [LawfulEqOrd κ]
variable {α : Type v} {β : Type w} (update : Option β → α → β)

/-- Update the slot of one tagged element. -/
def writeSlot (slots : ExtTreeMap κ β) (element : κ × α) : ExtTreeMap κ β :=
  slots.alter element.1 fun slot => some (update slot element.2)

/-- Update the slots of a tagged sequence from left to right. -/
def writeAll (slots : ExtTreeMap κ β) (elements : List (κ × α)) : ExtTreeMap κ β :=
  elements.foldl (writeSlot update) slots

/-- The elements of a tagged sequence that carry a given key. -/
def carrying [DecidableEq κ] (key : κ) (elements : List (κ × α)) : List α :=
  elements.filterMap fun element => if element.1 = key then some element.2 else none

/-- What a slot becomes after updating it with a sequence. -/
def fillSlot (slot : Option β) (values : List α) : Option β :=
  values.foldl (fun slot value => some (update slot value)) slot

omit [LawfulEqOrd κ] in
theorem writeAll_cons (slots : ExtTreeMap κ β) (element : κ × α) (rest : List (κ × α)) :
    writeAll update slots (element :: rest) =
      writeAll update (writeSlot update slots element) rest := rfl

@[simp] theorem fillSlot_nil (slot : Option β) : fillSlot update slot [] = slot := rfl

@[simp] theorem fillSlot_cons (slot : Option β) (value : α) (rest : List α) :
    fillSlot update slot (value :: rest) = fillSlot update (some (update slot value)) rest := rfl

omit [LawfulEqOrd κ] in
@[simp] theorem writeAll_append (slots : ExtTreeMap κ β) (left right : List (κ × α)) :
    writeAll update slots (left ++ right) =
      writeAll update (writeAll update slots left) right :=
  List.foldl_append

variable [DecidableEq κ]

omit [Ord κ] [TransOrd κ] [LawfulEqOrd κ] in
@[simp] theorem carrying_cons (key other : κ) (value : α) (rest : List (κ × α)) :
    carrying key ((other, value) :: rest) =
      if other = key then value :: carrying key rest else carrying key rest := by
  simp only [carrying]
  by_cases same : other = key <;> simp [same]

omit [Ord κ] [TransOrd κ] [LawfulEqOrd κ] in
theorem mem_carrying {key : κ} {value : α} {elements : List (κ × α)} :
    value ∈ carrying key elements ↔ (key, value) ∈ elements := by
  simp only [carrying, List.mem_filterMap]
  constructor
  · intro found
    rcases found with ⟨element, member, selected⟩
    split at selected
    next same =>
        cases selected
        rw [← same]
        exact member
    next => cases selected
  · intro member
    exact ⟨(key, value), member, if_pos rfl⟩

omit [Ord κ] [TransOrd κ] [LawfulEqOrd κ] in
/-- Sequences related element by element under the same keys have related
subsequences. -/
theorem forall₂_carrying {γ : Type w} {related : α → γ → Prop} {left : List (κ × α)}
    {right : List (κ × γ)}
    (tagged : List.Forall₂ (fun a b => a.1 = b.1 ∧ related a.2 b.2) left right) (key : κ) :
    List.Forall₂ related (carrying key left) (carrying key right) := by
  induction tagged with
  | nil => exact .nil
  | @cons a b _ _ here _ ih =>
      rcases a with ⟨keyLeft, value⟩
      rcases b with ⟨keyRight, other⟩
      rcases here with ⟨sameKey, here⟩
      simp only at sameKey here
      subst sameKey
      rw [carrying_cons, carrying_cons]
      split
      · exact .cons here ih
      · exact ih

/-- The slot of a key is filled by the elements carrying that key alone. -/
theorem getElem?_writeAll (slots : ExtTreeMap κ β) (elements : List (κ × α))
    (key : κ) :
    (writeAll update slots elements)[key]? =
      fillSlot update slots[key]? (carrying key elements) := by
  induction elements generalizing slots with
  | nil => rfl
  | cons element rest ih =>
      rcases element with ⟨other, value⟩
      rw [writeAll_cons, ih, writeSlot, ExtTreeMap.getElem?_alter, carrying_cons]
      by_cases same : other = key
      · subst same
        simp
      · have distinct : ¬compare other key = .eq := by
          intro equal
          exact same (LawfulEqOrd.eq_of_compare equal)
        simp [same, distinct]

/-- Listing a map with some slots left out visits the keys of the others, each
once, in increasing order. -/
theorem exists_keys_of_filter (slots : ExtTreeMap Nat β) (keep : β → Bool) :
    ∃ keys : List Nat, keys.Pairwise (· < ·) ∧
      (∀ key, key ∈ keys ↔ ∃ slot, slots[key]? = some slot ∧ keep slot = true) ∧
      ∀ slotAt : Nat → β, (∀ key slot, slots[key]? = some slot → slotAt key = slot) →
        (slots.toList.filter fun entry => keep entry.2) =
          keys.map fun key => (key, slotAt key) := by
  let kept := slots.toList.filter fun entry => keep entry.2
  have found : ∀ key slot, (key, slot) ∈ kept ↔ slots[key]? = some slot ∧ keep slot = true := by
    intro key slot
    rw [List.mem_filter, ExtTreeMap.mem_toList_iff_getElem?_eq_some]
  apply Exists.intro (kept.map Prod.fst)
  constructor
  · rw [List.pairwise_map]
    apply List.Pairwise.filter
    exact slots.ordered_keys_toList.imp Nat.compare_eq_lt.mp
  constructor
  · intro key
    simp only [List.mem_map, Prod.exists, exists_and_right, exists_eq_right]
    exact exists_congr fun slot => found key slot
  · intro slotAt reads
    rw [List.map_map]
    have pointwise : ∀ entry ∈ kept, (entry.1, slotAt entry.1) = entry := by
      intro entry member
      rw [reads entry.1 entry.2 ((found entry.1 entry.2).mp member).1]
    exact (List.map_id kept).symm.trans
      (List.map_congr_left fun entry member => (pointwise entry member).symm)

/-- A map over the naturals whose used keys are exactly those below a bound is
listed as the positions in order. -/
theorem toList_eq_range {slots : ExtTreeMap Nat β} {size : Nat} {slotAt : Nat → β}
    (inside : ∀ key < size, slots[key]? = some (slotAt key))
    (outside : ∀ key, size ≤ key → slots[key]? = none) :
    slots.toList = (List.range size).map fun key => (key, slotAt key) := by
  let listed := (List.range size).map fun key => (key, slotAt key)
  have sortedSlots : slots.toList.Pairwise fun a b => a.1 < b.1 :=
    slots.ordered_keys_toList.imp Nat.compare_eq_lt.mp
  have sortedListed : listed.Pairwise fun a b => a.1 < b.1 := by
    simp only [listed, List.pairwise_map]
    exact List.pairwise_lt_range
  have sameMembers : ∀ entry, entry ∈ slots.toList ↔ entry ∈ listed := by
    rintro ⟨key, slot⟩
    rw [ExtTreeMap.mem_toList_iff_getElem?_eq_some]
    simp only [listed, List.mem_map, List.mem_range, Prod.mk.injEq]
    constructor
    · intro found
      have below : key < size := by
        by_contra notBelow
        rw [outside key (Nat.le_of_not_lt notBelow)] at found
        cases found
      rw [inside key below] at found
      exact ⟨key, below, rfl, Option.some.inj found⟩
    · rintro ⟨_, below, rfl, rfl⟩
      exact inside _ below
  have distinctSlots : slots.toList.Nodup :=
    sortedSlots.imp fun below equal => absurd (congrArg Prod.fst equal) (Nat.ne_of_lt below)
  have distinctListed : listed.Nodup :=
    sortedListed.imp fun below equal => absurd (congrArg Prod.fst equal) (Nat.ne_of_lt below)
  have permuted : slots.toList.Perm listed :=
    (List.perm_ext_iff_of_nodup distinctSlots distinctListed).mpr sameMembers
  refine permuted.eq_of_pairwise ?_ sortedSlots sortedListed
  intro a b _ _ before after
  exact absurd before (Nat.lt_asymm after)

end KeyedFold
