import Boai.Lib.ParentChain
import Boai.Completion.Types

/-!
# The store of state nodes

State nodes are immutable and linked by `previous`.  The store lists them in the
order of their allocation and keeps that a node's predecessor was allocated
before it, as a node is built from an existing pointer.
-/

namespace Boai.Completion

/-- Every state node allocated so far, at its address. -/
structure StateHeap where
  nodes : List OaiCompletionState
  backward : ParentChain.Backward OaiCompletionState.previous nodes

namespace StateHeap

/-- The store before the first allocation. -/
def empty : StateHeap := ⟨[], ParentChain.backward_nil⟩

/-- A pointer that may be null and, if it is not, leads to an allocated node. -/
def Holds (heap : StateHeap) (state : Option StateRef) : Prop :=
  ∀ address ∈ state, address < heap.nodes.length

instance (heap : StateHeap) : (state : Option StateRef) → Decidable (heap.Holds state)
  | none => isTrue (by simp [Holds])
  | some address => decidable_of_iff (address < heap.nodes.length) (by simp [Holds])

/-- `AllocateShared<OaiCompletionState>`: the new node goes to the next address. -/
def allocate (heap : StateHeap) (node : OaiCompletionState)
    (held : heap.Holds node.previous) : StateHeap :=
  ⟨heap.nodes ++ [node], heap.backward.push held⟩

end StateHeap

/-- `CollectMessageChain`: walk back to the first node, then reverse. -/
def collectMessageChain (heap : StateHeap) (state : Option StateRef) : List OaiMessage :=
  ParentChain.chain OaiCompletionState.previous OaiCompletionState.message
    heap.nodes state

/-- The node `OaiCompletionFactory::AppendMessage` allocates. -/
def appendMessage (factory : OaiCompletionFactory) (message : OaiMessage)
    (previous : Option StateRef) (now : Int) : OaiCompletionState :=
  { info := factory.info
    modelInfo := none
    message
    log := { status := .kLocal, timestamp := now }
    previous }

end Boai.Completion
