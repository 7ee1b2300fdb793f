import LogViewer.Document.Shape

/-! Documents in memory whose containers may be shared or contain themselves. A document is a row of
containers; a value inside one of them is a tree of its own or one of the row. -/
namespace LogViewer

/-- A value inside a container of a graph. -/
inductive Slot where
  | tree (value : Json)
  /-- The container with this number. -/
  | node (index : Nat)

/-- A container of a graph. -/
inductive Container where
  | array (items : List Slot)
  | object (entries : List (String × Slot))

/-- A row of containers; the document is the first one. -/
structure Graph where
  containers : Array Container

/-- A value of a graph, together with the graph. -/
structure GraphValue where
  graph : Graph
  slot : Slot

namespace GraphValue

/-- A graph's value as a shape; a number that no container has stands for null. -/
def shape (v : GraphValue) : Shape GraphValue :=
  match v.slot with
  | .tree value => match value.shape with
    | .scalar value => .scalar value
    | .array items => .array (items.map fun item => ⟨v.graph, .tree item⟩)
    | .object entries => .object (entries.map fun (key, item) => (key, ⟨v.graph, .tree item⟩))
  | .node index => match v.graph.containers[index]? with
    | none => .scalar .null
    | some (.array items) => .array (items.map (⟨v.graph, ·⟩))
    | some (.object entries) => .object (entries.map fun (key, slot) => (key, ⟨v.graph, slot⟩))

end GraphValue

namespace Graph

/-- Unfolds a value, with the containers that may still be entered in `free`: a container inside
itself is not entered again. -/
def unfold (g : Graph) (free : List Nat) : Slot → Json
  | .tree value => value
  | .node index =>
    match g.containers[index]? with
    | none => .null
    | some container =>
      if _ : index ∈ free then
        match container with
        | .array items => .array (items.map fun slot => unfold g (free.erase index) slot)
        | .object entries =>
          .object (entries.map fun (key, slot) => (key, unfold g (free.erase index) slot))
      else .loop (match container with
        | .array _ => true
        | .object _ => false)
termination_by free.length
decreasing_by
  all_goals
    rw [List.length_erase_of_mem ‹index ∈ free›]
    have := List.length_pos_of_mem ‹index ∈ free›
    omega

/-- The value that a graph stands for. -/
def root (g : Graph) : GraphValue := ⟨g, .node 0⟩

end Graph

instance : Payload GraphValue where
  shape := GraphValue.shape
  tree v := v.graph.unfold (List.range v.graph.containers.size) v.slot

end LogViewer
