import Mathlib.Data.List.Basic

/-!
# Append-only forests of parent pointers

Nodes are stored in the order of their allocation and each may point to a
parent by its address, the position in the store.  When every parent was
allocated before its child, walking parent pointers ends, the walk from a node
never changes while the store grows, and the chain of an ancestor is a prefix of
the chain of each of its descendants.
-/

universe u v

namespace ParentChain

variable {ν : Type u} {β : Type v} (parent : ν → Option Nat) (value : ν → β)

/-- Every parent pointer leads to an earlier address. -/
def Backward (nodes : List ν) : Prop :=
  ∀ (address : Nat) (node : ν), nodes[address]? = some node →
    ∀ target ∈ parent node, target < address

/-- Follow parent pointers, pushing the value of each visited node.  The first
argument bounds the number of visited nodes. -/
def walk (nodes : List ν) : Nat → Option Nat → List β → List β
  | 0, _, visited => visited
  | _ + 1, none, visited => visited
  | bound + 1, some address, visited =>
      match nodes[address]? with
      | none => visited
      | some node => walk nodes bound (parent node) (visited ++ [value node])

/-- The values on the way from a root to a node, the root first. -/
def chain (nodes : List ν) (current : Option Nat) : List β :=
  (walk parent value nodes nodes.length current []).reverse

variable {parent} {value}

theorem walk_visited (nodes : List ν) (bound : Nat) (current : Option Nat)
    (visited : List β) :
    walk parent value nodes bound current visited =
      visited ++ walk parent value nodes bound current [] := by
  induction bound generalizing current visited with
  | zero => simp [walk]
  | succ bound ih =>
      cases current with
      | none => simp [walk]
      | some address =>
          simp only [walk]
          cases nodes[address]? with
          | none => simp
          | some node =>
              simp only [List.nil_append]
              rw [ih, ih _ [value node], List.append_assoc]

/-- A bound above the address is as good as any larger one: the walk from an
address visits strictly smaller addresses afterwards. -/
theorem walk_bound {nodes : List ν} (backward : Backward parent nodes)
    {bound larger : Nat} {current : Option Nat}
    (enough : ∀ address ∈ current, address < bound) (le : bound ≤ larger)
    (visited : List β) :
    walk parent value nodes larger current visited =
      walk parent value nodes bound current visited := by
  induction bound generalizing larger current visited with
  | zero =>
      cases current with
      | none => cases larger <;> rfl
      | some address => exact absurd (enough address rfl) (Nat.not_lt_zero _)
  | succ bound ih =>
      obtain ⟨larger, rfl⟩ : ∃ smaller, larger = smaller + 1 :=
        ⟨larger - 1, by omega⟩
      cases current with
      | none => rfl
      | some address =>
          simp only [walk]
          cases found : nodes[address]? with
          | none => rfl
          | some node =>
              apply ih _ (by omega)
              intro target pointed
              have earlier := backward address node found target pointed
              have below := enough address rfl
              omega

/-- The chain of a node is the chain of its parent followed by its own value. -/
theorem chain_some {nodes : List ν} (backward : Backward parent nodes)
    {address : Nat} {node : ν} (found : nodes[address]? = some node) :
    chain parent value nodes (some address) =
      chain parent value nodes (parent node) ++ [value node] := by
  have inBounds : address < nodes.length := (List.getElem?_eq_some_iff.mp found).1
  obtain ⟨size, sizeEq⟩ : ∃ size, nodes.length = size + 1 :=
    ⟨nodes.length - 1, by omega⟩
  have shorter : walk parent value nodes nodes.length (parent node) [] =
      walk parent value nodes size (parent node) [] := by
    apply walk_bound backward _ (by omega)
    intro target pointed
    have earlier := backward address node found target pointed
    omega
  simp only [chain]
  rw [shorter, sizeEq]
  simp only [walk, found, List.nil_append]
  rw [walk_visited]
  simp

/-- Allocating more nodes changes the chain of no present address. -/
theorem chain_append {nodes more : List ν} (backward : Backward parent (nodes ++ more))
    {current : Option Nat} (present : ∀ address ∈ current, address < nodes.length) :
    chain parent value (nodes ++ more) current = chain parent value nodes current := by
  have same : ∀ (bound : Nat) (current : Option Nat) (visited : List β),
      (∀ address ∈ current, address < nodes.length) →
      walk parent value (nodes ++ more) bound current visited =
        walk parent value nodes bound current visited := by
    intro bound
    induction bound with
    | zero => intro current visited _; rfl
    | succ bound ih =>
        intro current visited present
        cases current with
        | none => rfl
        | some address =>
            have inBounds := present address rfl
            simp only [walk, List.getElem?_append_left inBounds]
            cases found : nodes[address]? with
            | none => rfl
            | some node =>
                apply ih
                intro target pointed
                have earlier := backward address node
                  (by rw [List.getElem?_append_left inBounds, found]) target pointed
                omega
  simp only [chain]
  rw [walk_bound backward present (by simp), same _ _ _ present]

/-- Reaching one address from another through parent pointers, itself included. -/
inductive Ancestor (parent : ν → Option Nat) (nodes : List ν) : Nat → Nat → Prop where
  | self (address : Nat) : Ancestor parent nodes address address
  | parent {ancestor middle address : Nat} {node : ν} :
      Ancestor parent nodes ancestor middle → nodes[address]? = some node →
      parent node = some middle → Ancestor parent nodes ancestor address

theorem chain_prefix_of_ancestor {nodes : List ν} (backward : Backward parent nodes)
    {ancestor address : Nat} (above : Ancestor parent nodes ancestor address) :
    chain parent value nodes (some ancestor) <+: chain parent value nodes (some address) := by
  induction above with
  | self => exact List.prefix_refl _
  | parent _ found pointed ih =>
      rw [chain_some backward found, pointed]
      exact ih.trans (List.prefix_append _ _)

theorem backward_nil : Backward parent ([] : List ν) := by
  intro address node found
  simp at found

/-- A node whose parent is already stored may be allocated. -/
theorem Backward.push {nodes : List ν} (backward : Backward parent nodes) {node : ν}
    (stored : ∀ target ∈ parent node, target < nodes.length) :
    Backward parent (nodes ++ [node]) := by
  intro address found atAddress target pointed
  by_cases old : address < nodes.length
  · rw [List.getElem?_append_left old] at atAddress
    exact backward address found atAddress target pointed
  · have last : address = nodes.length := by
      have inBounds := (List.getElem?_eq_some_iff.mp atAddress).1
      simp only [List.length_append, List.length_singleton] at inBounds
      omega
    subst last
    simp only [List.getElem?_concat_length, Option.some.injEq] at atAddress
    subst atAddress
    exact stored target pointed

end ParentChain
