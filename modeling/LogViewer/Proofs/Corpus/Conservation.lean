import Mathlib
import LogViewer.Proofs.Corpus.Production
import LogViewer.Proofs.Document.GraphNumbering
import LogViewer.Proofs.Document.Steps

/-! The walk through any document, in which containers may be shared or inside themselves. It comes
to its end, reads no object twice, and loses no container that it comes upon. -/
namespace LogViewer

variable {ν : Type} [Payload ν]

/-- Whether the walk of a document down to a depth ends, enters no container twice, reads at most
one entry of each, and accounts for each time that a container is inside one that it has entered,
and for the outermost. -/
structure Document.IsWalked (d : Document ν) (value : Nat → ν) (maxDepth : Nat) : Prop where
  ends : ∃ steps ≤ d.containers.inner.length + 1, ∃ last,
    Walking.RunsFor maxDepth (Walking.start d.containers)
      ⟨last, [], d.containers.walk maxDepth⟩ steps
  once : ((d.containers.walk maxDepth).visits.map (·.node)).Nodup
  outcomes : ∀ outcomes,
    outcomesOfVisits d.containers (d.containers.walk maxDepth).visits = .ok outcomes →
    outcomes = (d.containers.walk maxDepth).visits.filterMap fun p =>
      (outcomeOfValue? p.path (value p.node)).toOption.join
  balance :
    (d.containers.walk maxDepth).visits.length + (d.containers.walk maxDepth).truncated =
      1 + ((d.containers.walk maxDepth).visits.map fun p =>
        (Payload.containersIn (value p.node)).length).sum

theorem Document.IsNumberedBy.isWalked {d : Document ν} {value : Nat → ν}
    (hNumbered : d.IsNumberedBy value) (hRoot : (Payload.shape d.value).isContainer = true)
    (maxDepth : Nat) : d.IsWalked value maxDepth := by
  obtain ⟨hNode, hNodup, hBalance⟩ := Containers.walk_accounts hNumbered.isClosed maxDepth
  refine ⟨Containers.walk_ends hNumbered.isClosed maxDepth, hNodup, ?_, ?_⟩
  · intro outcomes hOutcomes
    rw [filterMap_outcomesOfVisits hOutcomes]
    apply List.filterMap_congr
    intro p hp
    rw [outcomeOfVisit?_eq hNumbered (hNode p hp)]
  · have hOutermost : d.containers.root.toList.length = 1 := by
      have hValue := hNumbered.root_eq
      rw [if_pos hRoot, Option.map_eq_some_iff] at hValue
      obtain ⟨r, hr, -⟩ := hValue
      rw [hr]
      rfl
    have hInside : (d.containers.walk maxDepth).visits.map (fun p => (d.containers.below p).length) =
        (d.containers.walk maxDepth).visits.map fun p =>
          (Payload.containersIn (value p.node)).length := by
      apply List.map_congr_left
      intro p hp
      exact hNumbered.length_below (hNode p hp)
    rw [hBalance, hOutermost, hInside]

/-- The walk of a document whose outermost value is a container, be it a tree or not, ends and loses
nothing. -/
theorem walk_isWalked (maxDepth : Nat) :
    (∀ v : Json, v.isContainer = true →
      (Document.ofJson v).IsWalked v.containerNumbered maxDepth) ∧
    ∀ g : Graph, g.IsClosed → 0 < g.containers.size →
      (Document.ofGraph g).IsWalked g.containerNumbered maxDepth := by
  refine ⟨fun v hContainer => ?_, fun g hClosed hSize => ?_⟩
  · exact (isNumberedBy_ofJson v).isWalked ((isContainer_shape v).trans hContainer) maxDepth
  · exact (isNumberedBy_ofGraph hClosed).isWalked (Graph.isContainer_node hSize) maxDepth

/-- An object that is inside itself, with an empty array in it that lies too deep. -/
private def looped : Graph :=
  ⟨#[.object [("self", .node 0), ("time", .tree (.string "1970-01-01")),
    ("inner", .tree (.array [.array []]))]]⟩

theorem walk_isWalked_looped :
    (Json.array []).isContainer = true ∧
    (Document.ofJson (.array [])).IsWalked (Json.array []).containerNumbered 1 ∧
    looped.IsClosed ∧ 0 < looped.containers.size ∧
    (Document.ofGraph looped).IsWalked looped.containerNumbered 1 ∧
    (Document.ofGraph looped).containers.walk 1 = ⟨[⟨0, "", 0⟩, ⟨1, "inner", 1⟩], 2⟩ := by
  obtain ⟨hTree, hGraph⟩ := walk_isWalked 1
  have hClosed : looped.IsClosed := by decide
  have hSize : 0 < looped.containers.size := by decide
  exact ⟨rfl, hTree (.array []) rfl, hClosed, hSize, hGraph looped hClosed hSize, by cbv⟩

end LogViewer
