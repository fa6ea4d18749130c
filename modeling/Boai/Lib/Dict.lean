import Mathlib.Data.List.Nodup

/-!
# Insertion-ordered dictionaries

A dictionary lists its entries in insertion order and holds each key once.
Assigning to a present key replaces its value in place; assigning to an absent
key appends an entry.  This is the behaviour of ordered JSON objects and of the
`operator[]` of most insertion-ordered map types.

Lookup and assignment are defined on bare entry lists first, because decoded
data is only known to be a list of entries; `Dict` adds the uniqueness of keys.
-/

universe u v

variable {κ : Type u} {α : Type v} [DecidableEq κ]

namespace Dict

theorem lookup_cons (other query : κ) (old : α) (rest : List (κ × α)) :
    ((other, old) :: rest).lookup query =
      if query = other then some old else rest.lookup query := by
  by_cases same : query = other
  · simp [same]
  · have test : (query == other) = false := beq_eq_false_iff_ne.mpr same
    simp only [List.lookup_cons, test, same, if_false]

/-- Assign `value` to `key` in a list of entries. -/
def setEntry (entries : List (κ × α)) (key : κ) (value : α) : List (κ × α) :=
  match entries with
  | [] => [(key, value)]
  | (other, old) :: rest =>
      if other = key then (other, value) :: rest
      else (other, old) :: setEntry rest key value

theorem lookup_setEntry (entries : List (κ × α)) (key query : κ) (value : α) :
    (setEntry entries key value).lookup query =
      if query = key then some value else entries.lookup query := by
  induction entries with
  | nil => simp [setEntry, lookup_cons]
  | cons entry rest ih =>
      rcases entry with ⟨other, old⟩
      simp only [setEntry]
      split
      next present =>
        subst present
        by_cases same : query = other <;> simp [lookup_cons, same]
      next absent =>
        by_cases here : query = other
        · subst here
          simp [absent]
        · simp [lookup_cons, here, ih]

/-- Assignment adds at most the assigned key. -/
theorem mem_keys_setEntry (entries : List (κ × α)) (key query : κ) (value : α) :
    query ∈ (setEntry entries key value).map Prod.fst ↔
      query = key ∨ query ∈ entries.map Prod.fst := by
  induction entries with
  | nil => simp [setEntry]
  | cons entry rest ih =>
      rcases entry with ⟨other, old⟩
      simp only [setEntry]
      split
      next present =>
        subst present
        simp
      next absent =>
        simp only [List.map_cons, List.mem_cons, ih]
        exact or_left_comm

theorem setEntry_nodup {entries : List (κ × α)} (key : κ) (value : α)
    (nodup : (entries.map Prod.fst).Nodup) :
    ((setEntry entries key value).map Prod.fst).Nodup := by
  induction entries with
  | nil => simp [setEntry]
  | cons entry rest ih =>
      rcases entry with ⟨other, old⟩
      simp only [List.map_cons, List.nodup_cons] at nodup
      simp only [setEntry]
      split
      next present =>
        simpa using nodup
      next absent =>
        simp only [List.map_cons, List.nodup_cons, mem_keys_setEntry, not_or]
        exact ⟨⟨absent, nodup.1⟩, ih nodup.2⟩

/-- In a list with distinct keys an entry is what lookup of its key finds. -/
theorem lookup_of_mem {entries : List (κ × α)} {key : κ} {value : α}
    (nodup : (entries.map Prod.fst).Nodup) (member : (key, value) ∈ entries) :
    entries.lookup key = some value := by
  induction entries with
  | nil => simp at member
  | cons entry rest ih =>
      rcases entry with ⟨other, old⟩
      simp only [List.map_cons, List.nodup_cons] at nodup
      rcases List.mem_cons.mp member with equal | member
      · cases equal
        simp
      · have different : key ≠ other := by
          intro equal
          exact nodup.1 (List.mem_map.mpr ⟨(key, value), member, equal⟩)
        simp [lookup_cons, different, ih nodup.2 member]

omit [DecidableEq κ] in
theorem mem_of_lookup [BEq κ] [LawfulBEq κ] {entries : List (κ × α)} {key : κ}
    {value : α} (found : entries.lookup key = some value) :
    (key, value) ∈ entries := by
  rcases List.lookup_eq_some_iff.mp found with ⟨before, after, split, _⟩
  simp [split]

end Dict

/-- An insertion-ordered dictionary with distinct keys. -/
structure Dict (κ : Type u) (α : Type v) where
  entries : List (κ × α)
  nodup : (entries.map Prod.fst).Nodup

namespace Dict

omit [DecidableEq κ] in
@[ext] theorem ext {left right : Dict κ α} (equal : left.entries = right.entries) :
    left = right := by
  cases left
  cases right
  cases equal
  rfl

/-- The dictionary without entries. -/
def empty : Dict κ α := ⟨[], List.nodup_nil⟩

instance : Inhabited (Dict κ α) := ⟨empty⟩

instance [DecidableEq α] : DecidableEq (Dict κ α) := fun left right =>
  decidable_of_iff (left.entries = right.entries) ⟨ext, congrArg entries⟩

/-- The value of a key, if it is present. -/
def get? (dict : Dict κ α) (key : κ) : Option α := dict.entries.lookup key

/-- Assign a value to a key. -/
def set (dict : Dict κ α) (key : κ) (value : α) : Dict κ α :=
  ⟨setEntry dict.entries key value, setEntry_nodup key value dict.nodup⟩

@[simp] theorem get?_empty (key : κ) : (empty : Dict κ α).get? key = none := rfl

@[simp] theorem get?_set (dict : Dict κ α) (key query : κ) (value : α) :
    (dict.set key value).get? query =
      if query = key then some value else dict.get? query :=
  lookup_setEntry dict.entries key query value

/-- Assign a list of entries in order. -/
def setAll (dict : Dict κ α) (entries : List (κ × α)) : Dict κ α :=
  entries.foldl (fun dict entry => dict.set entry.1 entry.2) dict

/-- Assigning entries with distinct keys makes each of them readable and leaves
every other key alone. -/
theorem get?_setAll (dict : Dict κ α) {entries : List (κ × α)}
    (nodup : (entries.map Prod.fst).Nodup) (query : κ) :
    (dict.setAll entries).get? query =
      (entries.lookup query).or (dict.get? query) := by
  induction entries generalizing dict with
  | nil => simp [setAll]
  | cons entry rest ih =>
      rcases entry with ⟨key, value⟩
      simp only [List.map_cons, List.nodup_cons] at nodup
      have unfolded : dict.setAll ((key, value) :: rest) =
          (dict.set key value).setAll rest := rfl
      rw [unfolded, ih _ nodup.2, get?_set, lookup_cons]
      by_cases same : query = key
      · subst same
        have absent : rest.lookup query = none := by
          rw [List.lookup_eq_none_iff]
          intro other member
          have different : query ≠ other.1 := by
            intro equal
            exact nodup.1 (List.mem_map.mpr ⟨other, member, equal.symm⟩)
          simpa using different
        simp [absent]
      · simp [same]

end Dict
