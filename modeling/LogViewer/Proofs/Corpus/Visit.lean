import Mathlib
import LogViewer.Proofs.Corpus.Production
import LogViewer.Proofs.Document.Fresh
import LogViewer.Proofs.Document.GraphNumbering

/-! The walk through a tree is a visit of the tree: each container first, then in turn what is
inside it, down to a depth. Since no container of a tree is shared, none that is pending was ever
entered before, and what is pending is what remains to be visited. -/
namespace LogViewer

variable {ν : Type} [Payload ν]

/-- The containers that lie at a depth of a value. -/
def containersAt : Nat → ν → List ν
  | 0, v => if (Payload.shape v).isContainer then [v] else []
  | depth + 1, v => (Payload.containersIn v).flatMap fun part => containersAt depth part.2

theorem mem_containersAt_succ {depth : Nat} {v w : ν} (hw : w ∈ containersAt depth v)
    {part : String × ν} (hPart : part ∈ Payload.containersIn w) :
    part.2 ∈ containersAt (depth + 1) v := by
  induction depth generalizing v with
  | zero =>
      rw [containersAt] at hw
      split at hw
      · rw [List.mem_singleton] at hw
        subst hw
        have hContainer := (List.mem_filter.mp hPart).2
        refine List.mem_flatMap.mpr ⟨part, hPart, ?_⟩
        rw [containersAt, if_pos hContainer]
        exact List.mem_singleton_self _
      · cases hw
  | succ depth ih =>
      obtain ⟨inner, hInner, hw⟩ := List.mem_flatMap.mp hw
      exact List.mem_flatMap.mpr ⟨inner, hInner, ih hw⟩

section

variable {d : Document ν} {value : Nat → ν} {maxDepth : Nat}

theorem mem_containersAt_below (hNumbered : d.IsNumberedBy value) {p : Pending}
    (hNode : p.node < d.containers.nodes.size) {v : ν}
    (hHere : value p.node ∈ containersAt p.depth v) {q : Pending} (hq : q ∈ d.containers.below p) :
    q.depth = p.depth + 1 ∧ value q.node ∈ containersAt q.depth v := by
  have hMem := List.mem_map_of_mem (f := fun q => (q.path, q.depth, value q.node)) hq
  rw [hNumbered.map_below hNode] at hMem
  obtain ⟨part, hPart, hSame⟩ := List.mem_map.mp hMem
  simp only [Prod.mk.injEq] at hSame
  obtain ⟨-, hDepth, hValue⟩ := hSame
  rw [← hDepth, ← hValue]
  exact ⟨rfl, mem_containersAt_succ hHere hPart⟩

end

/-- Two objects with timestamps, one inside the other, and an empty array inside that. -/
private def nested : Graph :=
  ⟨#[.object [("time", .tree (.string "1970-01-01")), ("inner", .node 1)],
    .object [("date", .tree (.string "1970-01-02")), ("deep", .tree (.array []))]]⟩

end LogViewer
