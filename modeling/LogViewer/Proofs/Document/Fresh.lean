import Mathlib
import LogViewer.Proofs.Document.Steps

/-! The walk through a tree comes upon no container twice. None is shared, so those that are pending
are different and were never entered before, and this stays so when one of them is entered. -/
namespace LogViewer

variable {ν : Type} {c : Containers ν} {maxDepth : Nat}

namespace Containers

theorem map_node_below (p : Pending) {node : Node ν} (h : c.nodes[p.node]? = some node) :
    (c.below p).map (·.node) = node.children.map (·.2) := by
  simp [below_eq h, Function.comp_def]

theorem IsTree.below_nodup (hTree : c.IsTree) (p : Pending) :
    ((c.below p).map (·.node)).Nodup := by
  cases hNode : c.nodes[p.node]? with
  | none => simp [below, hNode]
  | some node =>
      rw [map_node_below p hNode]
      have hMem : node ∈ c.nodes.toList := Array.mem_toList_iff.mpr (Array.mem_of_getElem? hNode)
      exact (List.nodup_flatMap.mp hTree.inner_nodup).1 node hMem

/-- Different containers have nothing inside them in common. -/
theorem IsTree.node_ne (hTree : c.IsTree) {p r : Pending} (hOther : p.node ≠ r.node)
    {q s : Pending} (hq : q ∈ c.below p) (hs : s ∈ c.below r) : q.node ≠ s.node := by
  have hDisjoint := List.pairwise_iff_getElem.mp (List.nodup_flatMap.mp hTree.inner_nodup).2
  have hNode (p : Pending) {q : Pending} (hq : q ∈ c.below p) :
      ∃ h : p.node < c.nodes.toList.length,
        q.node ∈ c.nodes.toList[p.node].children.map (·.2) := by
    cases hNode : c.nodes[p.node]? with
    | none => simp [below, hNode] at hq
    | some node =>
        obtain ⟨h, rfl⟩ := Array.getElem?_eq_some_iff.mp hNode
        refine ⟨by simpa using h, ?_⟩
        rw [Array.getElem_toList, ← map_node_below p hNode]
        exact List.mem_map_of_mem hq
  obtain ⟨hp, hq⟩ := hNode p hq
  obtain ⟨hr, hs⟩ := hNode r hs
  intro hSame
  rcases Nat.lt_or_gt_of_ne hOther with hLt | hLt
  · exact hDisjoint _ _ hp hr hLt hq (hSame ▸ hs)
  · exact hDisjoint _ _ hr hp hLt hs (hSame ▸ hq)

end Containers

namespace Walking

/-- What is known between two steps through a tree: the containers that are pending are different,
and neither they nor those inside others that were not entered have been met before. -/
structure Fresh (w : Walking c) : Prop where
  pending_nodup : (w.pending.map (·.node)).Nodup
  pending_fresh : ∀ p ∈ w.pending, w.entered[p.node]? = some false
  below_fresh : ∀ p : Pending, w.entered[p.node]? = some false → ∀ q ∈ c.below p,
    w.entered[q.node]? = some false ∧ q.node ∉ w.pending.map (·.node)

theorem Fresh.first {entered : Vector Bool c.nodes.size} {p : Pending} {pending : List Pending}
    {seen : Trace} (h : Fresh ⟨entered, p :: pending, seen⟩) (hNode : p.node < c.nodes.size) :
    entered[p.node] = false := by
  have hFresh := h.pending_fresh p List.mem_cons_self
  rw [Vector.getElem?_eq_getElem hNode] at hFresh
  exact Option.some.inj hFresh

/-- Entering a container of a tree leaves the rest fresh. -/
theorem Fresh.rest {entered : Vector Bool c.nodes.size} {p : Pending} {pending : List Pending}
    {seen : Trace} (h : Fresh ⟨entered, p :: pending, seen⟩) (hNode : p.node < c.nodes.size)
    (next : Trace) : Fresh ⟨entered.set p.node true, pending, next⟩ := by
  have hPending := List.nodup_cons.mp h.pending_nodup
  have hOld {n : Nat} (hn : (entered.set p.node true)[n]? = some false) :
      n ≠ p.node ∧ entered[n]? = some false := by
    rw [Vector.getElem?_set] at hn
    split at hn
    · simp at hn
    · rename_i hOther
      exact ⟨fun hSame => hOther hSame.symm, hn⟩
  refine ⟨hPending.2, fun q hq => ?_, fun r hr q hq => ?_⟩
  · have hOther : p.node ≠ q.node :=
      fun hSame => hPending.1 (List.mem_map.mpr ⟨q, hq, hSame.symm⟩)
    rw [Vector.getElem?_set_ne _ hOther]
    exact h.pending_fresh q (List.mem_cons_of_mem p hq)
  · obtain ⟨hFresh, hNotMem⟩ := h.below_fresh r (hOld hr).2 q hq
    rw [List.map_cons, List.mem_cons, not_or] at hNotMem
    rw [Vector.getElem?_set_ne _ (Ne.symm hNotMem.1)]
    exact ⟨hFresh, hNotMem.2⟩

theorem Step.fresh (hTree : c.IsTree) {w x : Walking c} (step : Step maxDepth w x)
    (hw : w.Fresh) : x.Fresh := by
  cases step with
  | again hNode hEntered =>
      rw [hw.first hNode] at hEntered
      cases hEntered
  | deepest hNode hFresh hDepth => exact hw.rest hNode _
  -- Those inside the container come to be pending. What is inside another one is none of them.
  | @enter entered p pending seen hNode hFresh hDepth =>
      have hRest := hw.rest hNode { seen with visits := seen.visits ++ [p] }
      have hBelow (q : Pending) (hq : q ∈ c.below p) :
          q.node ≠ p.node ∧ entered[q.node]? = some false ∧
            q.node ∉ pending.map (·.node) := by
        obtain ⟨hFresh, hNotMem⟩ := hw.below_fresh p (hw.pending_fresh p List.mem_cons_self) q hq
        rw [List.map_cons, List.mem_cons, not_or] at hNotMem
        exact ⟨hNotMem.1, hFresh, hNotMem.2⟩
      refine ⟨?_, ?_, fun r hr q hq => ?_⟩
      · rw [List.map_append, List.nodup_append']
        refine ⟨hTree.below_nodup p, hRest.pending_nodup, ?_⟩
        intro n hn
        obtain ⟨q, hq, rfl⟩ := List.mem_map.mp hn
        exact (hBelow q hq).2.2
      · refine List.forall_mem_append.mpr ⟨fun q hq => ?_, hRest.pending_fresh⟩
        obtain ⟨hOther, hFresh, -⟩ := hBelow q hq
        rw [Vector.getElem?_set_ne _ hOther.symm]
        exact hFresh
      · obtain ⟨hFresh, hNotMem⟩ := hRest.below_fresh r hr q hq
        refine ⟨hFresh, ?_⟩
        rw [List.map_append, List.mem_append, not_or]
        refine ⟨fun hMem => ?_, hNotMem⟩
        have hOther : r.node ≠ p.node := by
          intro hSame
          rw [hSame, Vector.getElem?_set_self hNode] at hr
          cases hr
        obtain ⟨s, hs, hSame⟩ := List.mem_map.mp hMem
        exact hTree.node_ne hOther hq hs hSame.symm

end Walking

end LogViewer
