import Mathlib.Data.List.Nodup

/-! # Nodes with an identity

A list of records that are told apart by a number, as pointers tell apart the nodes of a
structure in memory. A number is not given out twice.
-/

namespace SignalPurple

theorem forall_mem_nil_lt_zero (Node : Type) (id : Node → Nat) :
    ∀ node ∈ ([] : List Node), id node < 0 :=
  List.forall_mem_nil _

structure Nodes (Node : Type) (id : Node → Nat) where
  nodes : List Node := []
  next : Nat := 0
  distinct : (nodes.map id).Nodup := by exact List.nodup_nil
  fresh : ∀ node ∈ nodes, id node < next := by exact forall_mem_nil_lt_zero _ _

namespace Nodes

variable {Node : Type} {id : Node → Nat}

def update (table : Nodes Node id) (change : Node → Node)
    (sameId : ∀ node, id (change node) = id node) : Nodes Node id where
  nodes := table.nodes.map change
  next := table.next
  distinct := by
    have same : (table.nodes.map change).map id = table.nodes.map id := by
      rw [List.map_map]
      exact List.map_congr_left fun node _ => sameId node
    rw [same]
    exact table.distinct
  fresh := by
    intro node member
    rcases List.mem_map.mp member with ⟨before, known, rfl⟩
    rw [sameId]
    exact table.fresh before known

def filter (table : Nodes Node id) (keep : Node → Bool) : Nodes Node id where
  nodes := table.nodes.filter keep
  next := table.next
  distinct := table.distinct.sublist (List.filter_sublist.map _)
  fresh := fun node member => table.fresh node (List.mem_of_mem_filter member)

def add (table : Nodes Node id) (node : Nat → Node) (sameId : ∀ number, id (node number) = number) :
    Nodes Node id where
  nodes := table.nodes ++ [node table.next]
  next := table.next + 1
  distinct := by
    rw [List.map_append, List.nodup_append]
    refine ⟨table.distinct, by simp, ?_⟩
    intro number member other new same
    rcases List.mem_map.mp member with ⟨earlier, known, rfl⟩
    have below := table.fresh earlier known
    have isNext : other = table.next := by simpa [sameId] using new
    omega
  fresh := by
    intro earlier member
    rcases List.mem_append.mp member with before | new
    · exact Nat.lt_succ_of_lt (table.fresh earlier before)
    · rw [List.mem_singleton.mp new, sameId]
      exact Nat.lt_succ_self _

theorem eq_of_id {table : Nodes Node id} {one other : Node} (oneMember : one ∈ table.nodes)
    (otherMember : other ∈ table.nodes) (same : id one = id other) : one = other :=
  List.inj_on_of_nodup_map table.distinct oneMember otherMember same

end Nodes

end SignalPurple
