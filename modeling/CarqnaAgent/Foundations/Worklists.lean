import Mathlib

/-!
# Walking a tree with a worklist

A walk takes the first pending node, collects its leaves, and arranges its children among
the other pending nodes: in front for a walk in depth, behind for one in breadth. A bound
on the number of steps makes it total.

* **A walk whose nodes get smaller ends, and collects what the nodes have below them**,
  in whatever order it visits them (`walk_complete`). A step replaces a pending node by
  smaller ones, so the pending nodes descend in the multiset order of Dershowitz and Manna.
* A walk with a pending node that always leads to another of its kind never ends
  (`walk_endless`).
-/

set_option autoImplicit false

namespace Foundations
namespace Worklist

variable {Node Leaf : Type} (arrange : List Node → List Node → List Node)
  (children : Node → List Node) (leaves : Node → List Leaf)

/-- Walk from the pending nodes, in at most so many steps. -/
def walk : ℕ → List Node → List Leaf → Option (List Leaf)
  | _, [], met => some met
  | 0, _ :: _, _ => none
  | steps + 1, node :: pending, met =>
      walk steps (arrange (children node) pending) (met ++ leaves node)

/-- Nothing is lost or made up when the new nodes are put among the pending ones. -/
def Arranges : Prop := ∀ fresh pending, (arrange fresh pending).Perm (fresh ++ pending)

variable {arrange children leaves}

/-- A step makes the multiset of the ranks smaller. -/
theorem ranks_arrange_lt (arranges : Arranges arrange) {rank : Node → ℕ} {node : Node}
    (smaller : ∀ child ∈ children node, rank child < rank node) (pending : List Node) :
    Multiset.IsDershowitzMannaLT (((arrange (children node) pending).map rank : Multiset ℕ))
      (((node :: pending).map rank : Multiset ℕ)) := by
  refine ⟨(pending.map rank : Multiset ℕ), ((children node).map rank : Multiset ℕ), {rank node},
    Multiset.singleton_ne_zero _, ?_, ?_, fun height member => ?_⟩
  · rw [Multiset.coe_add, ← List.map_append, Multiset.coe_eq_coe]
    exact ((arranges (children node) pending).trans List.perm_append_comm).map rank
  · rw [List.map_cons, add_comm]
    rfl
  · obtain ⟨child, inside, rfl⟩ := List.mem_map.mp (Multiset.mem_coe.mp member)
    exact ⟨rank node, Multiset.mem_singleton_self _, smaller child inside⟩

/-- **A walk whose nodes get smaller ends**, and what it collects is what the pending nodes have
below them. -/
theorem walk_complete (arranges : Arranges arrange) {rank : Node → ℕ} {below : Node → List Leaf}
    (smaller : ∀ node, ∀ child ∈ children node, rank child < rank node)
    (split : ∀ node, (below node).Perm (leaves node ++ (children node).flatMap below))
    (pending : List Node) (met : List Leaf) :
    ∃ steps found, walk arrange children leaves steps pending met = some (met ++ found) ∧
      found.Perm (pending.flatMap below) := by
  obtain ⟨ranks, measure⟩ : ∃ ranks, ((pending.map rank : List ℕ) : Multiset ℕ) = ranks := ⟨_, rfl⟩
  have descending : WellFounded (Multiset.IsDershowitzMannaLT (α := ℕ)) :=
    Multiset.wellFounded_isDershowitzMannaLT
  induction ranks using descending.induction generalizing pending met with
  | _ ranks ih =>
      subst measure
      cases pending with
      | nil => exact ⟨0, [], by rw [walk, List.append_nil], .nil⟩
      | cons node rest =>
          obtain ⟨steps, found, ended, same⟩ :=
            ih _ (ranks_arrange_lt arranges (smaller node) rest) _ (met ++ leaves node) rfl
          refine ⟨steps + 1, leaves node ++ found, by rw [walk, ended, List.append_assoc], ?_⟩
          have next : found.Perm ((children node).flatMap below ++ rest.flatMap below) := by
            rw [← List.flatMap_append]
            exact same.trans ((arranges _ _).flatMap_right below)
          rw [List.flatMap_cons]
          refine (next.append_left _).trans ?_
          rw [← List.append_assoc]
          exact (split node).symm.append_right _

/-- **A walk with a pending node that always leads to another of its kind never ends.** -/
theorem walk_endless (arranges : Arranges arrange) {endless : Node → Prop}
    (leads : ∀ node, endless node → ∃ child ∈ children node, endless child) (steps : ℕ)
    {pending : List Node} (met : List Leaf) (some_endless : ∃ node ∈ pending, endless node) :
    walk arrange children leaves steps pending met = none := by
  induction steps generalizing pending met with
  | zero =>
      obtain ⟨node, member, -⟩ := some_endless
      cases pending with
      | nil => cases member
      | cons first rest => rfl
  | succ steps ih =>
      obtain ⟨node, member, bad⟩ := some_endless
      cases pending with
      | nil => cases member
      | cons first rest =>
          rw [walk]
          refine ih _ ?_
          rcases List.mem_cons.mp member with rfl | later
          · obtain ⟨child, inside, bad'⟩ := leads node bad
            exact ⟨child, (arranges _ _).mem_iff.mpr (List.mem_append_left _ inside), bad'⟩
          · exact ⟨node, (arranges _ _).mem_iff.mpr (List.mem_append_right _ later), bad⟩

end Worklist
end Foundations
