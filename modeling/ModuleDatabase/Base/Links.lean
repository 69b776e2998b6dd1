import Mathlib.Logic.Function.Basic
import Mathlib.Data.List.Basic

namespace ModuleDatabase

/-!
# Linked lists in a store

Each node of a store has a link to another node, or none.  A list of nodes is linked from a
head if following the links visits exactly its nodes.  Writing at a node outside keeps the
list, and a node outside can be pushed.
-/

/-- Following the links from the head visits these nodes. -/
def Linked {Node : Type*} (next : Node → Option Node) : Option Node → List Node → Prop
  | head, [] => head = none
  | head, node :: rest => head = some node ∧ Linked next (next node) rest

namespace Linked

variable {Node : Type*} {next after : Node → Option Node} {head : Option Node}
  {node : Node} {nodes : List Node}

theorem of_agree (linked : Linked next head nodes)
    (agree : ∀ node ∈ nodes, after node = next node) : Linked after head nodes := by
  induction nodes generalizing head with
  | nil => exact linked
  | cons first rest ih =>
      refine ⟨linked.1, ?_⟩
      rw [agree first List.mem_cons_self]
      exact ih linked.2 fun node member => agree node (List.mem_cons_of_mem _ member)

theorem push (linked : Linked next head nodes) (link : after node = head)
    (agree : ∀ node ∈ nodes, after node = next node) : Linked after (some node) (node :: nodes) := by
  refine ⟨rfl, ?_⟩
  rw [link]
  exact linked.of_agree agree

theorem pop (linked : Linked next (some node) nodes) :
    ∃ rest, nodes = node :: rest ∧ Linked next (next node) rest := by
  cases nodes with
  | nil => cases linked
  | cons first rest =>
      cases linked.1
      exact ⟨rest, rfl, linked.2⟩

end Linked

end ModuleDatabase
