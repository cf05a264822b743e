import Mathlib.Data.List.Infix
import Mathlib.Data.List.Nodup

/-! # Traversals that change what they traverse

A loop follows links from node to node, and visiting a node may remove nodes. The link to the
next node is read before the visit. Such a loop visits the nodes it would have visited without
any removal, as long as no visit touches what lies behind the visited node.
-/

namespace SignalPurple.Traversal

variable {State Node : Type} [DecidableEq Node]

/-- The node behind `node`, if there is one. -/
def successor (node : Node) : List Node → Option Node
  | [] => none
  | first :: later => if first = node then later.head? else successor node later

theorem successor_append {node : Node} {before : List Node} (after : List Node)
    (new : node ∉ before) : successor node (before ++ node :: after) = after.head? := by
  induction before with
  | nil => simp [successor]
  | cons first later induction =>
      have ⟨differs, notLater⟩ : node ≠ first ∧ node ∉ later := by simpa using new
      simp [successor, Ne.symm differs, induction notLater]

section Loop

variable (order : State → List Node) (visit : State → Node → State)

/-- The loop, from a node on. It has no result if it runs out of fuel. -/
def walk : Nat → State → Option Node → Option State
  | _, state, none => some state
  | 0, _, some _ => none
  | fuel + 1, state, some node =>
      let next := successor node (order state)
      walk fuel (visit state node) next

variable {order visit}

/-- The loop visits the nodes in the order they had when it began. -/
theorem walk_eq_foldl (distinct : ∀ state, (order state).Nodup)
    (leavesRest : ∀ state before node after, order state = before ++ node :: after →
      after <:+ order (visit state node)) {nodes : List Node} {state : State} {fuel : Nat}
    (ahead : nodes <:+ order state) (enough : nodes.length ≤ fuel) :
    walk order visit fuel state nodes.head? = some (nodes.foldl visit state) := by
  induction nodes generalizing state fuel with
  | nil => cases fuel <;> rfl
  | cons node later induction =>
      rcases ahead with ⟨before, split⟩
      cases fuel with
      | zero => simp at enough
      | succ fuel =>
          have new : node ∉ before := by
            have distinctHere := distinct state
            rw [← split] at distinctHere
            exact fun member => List.disjoint_of_nodup_append distinctHere member List.mem_cons_self
          have next : successor node (order state) = later.head? := by
            rw [← split, successor_append later new]
          have rest := leavesRest state before node later split.symm
          simp only [List.head?_cons, walk, next, List.foldl_cons]
          exact induction rest (by simpa using enough)

end Loop

end SignalPurple.Traversal
