import Mathlib
import LogViewer.Proofs.Document.Numbering

/-! The numbers in a graph: those of its own containers come first, and those of the trees inside
them follow as if all these trees were the parts of one tree. -/
namespace LogViewer

/-- Whether a slot has no number but that of one of some containers. -/
def Slot.IsWithin (size : Nat) : Slot → Prop
  | .tree _ => True
  | .node index => index < size

instance (size : Nat) : DecidablePred (Slot.IsWithin size)
  | .tree _ => isTrue trivial
  | .node index => inferInstanceAs (Decidable (index < size))

/-- Whether every number inside a container is that of a container. -/
def Graph.IsClosed (g : Graph) : Prop :=
  ∀ container ∈ g.containers, ∀ part ∈ Graph.parts container, part.2.IsWithin g.containers.size

instance (g : Graph) : Decidable g.IsClosed :=
  inferInstanceAs (Decidable (∀ container ∈ g.containers, ∀ part ∈ Graph.parts container,
    part.2.IsWithin g.containers.size))

/-- A container of a graph as a shape. -/
def Container.shapeIn (g : Graph) : Container → Shape GraphValue
  | .array items => .array (items.map (⟨g, ·⟩))
  | .object entries => .object (entries.map fun (key, slot) => (key, ⟨g, slot⟩))

namespace Graph

variable {g : Graph}

theorem shape_tree (g : Graph) (v : Json) :
    Payload.shape (⟨g, .tree v⟩ : GraphValue) = v.shape.map fun v => ⟨g, .tree v⟩ := by
  cases v <;> rfl

theorem shape_node {index : Nat} {container : Container}
    (h : g.containers[index]? = some container) :
    Payload.shape (⟨g, .node index⟩ : GraphValue) = container.shapeIn g := by
  have hShape : Payload.shape (⟨g, .node index⟩ : GraphValue) = GraphValue.shape ⟨g, .node index⟩ :=
    rfl
  rw [hShape, GraphValue.shape]
  simp only [h]
  cases container <;> rfl

theorem shape_node_beyond {index : Nat} (h : g.containers.size ≤ index) :
    Payload.shape (⟨g, .node index⟩ : GraphValue) = .scalar .null := by
  have hShape : Payload.shape (⟨g, .node index⟩ : GraphValue) = GraphValue.shape ⟨g, .node index⟩ :=
    rfl
  rw [hShape, GraphValue.shape]
  simp only [Array.getElem?_eq_none h]

theorem isContainer_node {index : Nat} (h : index < g.containers.size) :
    (Payload.shape (⟨g, .node index⟩ : GraphValue)).isContainer = true := by
  have hShape := shape_node (Array.getElem?_eq_getElem h)
  generalize g.containers[index] = container at hShape
  rw [hShape]
  cases container <;> rfl

theorem parts_node {index : Nat} {container : Container}
    (h : g.containers[index]? = some container) :
    Payload.parts (⟨g, .node index⟩ : GraphValue) =
      (parts container).map fun part => (part.1, ⟨g, part.2⟩) := by
  rw [Payload.parts, shape_node h]
  cases container with
  | array items => simp [parts, Container.shapeIn, List.zipIdx_map]
  | object entries => rfl

/-- The parts that are trees. -/
def treeParts : List (String × Slot) → List (String × Json)
  | [] => []
  | (name, .tree v) :: parts => (name, v) :: treeParts parts
  | (_, .node _) :: parts => treeParts parts

/-- The trees inside some containers. -/
def trees (containers : List Container) : List (String × Json) :=
  containers.flatMap fun container => treeParts (parts container)

theorem trees_cons (container : Container) (containers : List Container) :
    trees (container :: containers) = treeParts (parts container) ++ trees containers :=
  List.flatMap_cons

theorem next_childNumbers (parts : List (String × Slot)) (base : Nat) :
    (childNumbers base parts).2.2 = base + Json.containerCountEntries (treeParts parts) := by
  induction parts generalizing base with
  | nil => rfl
  | cons part parts ih =>
      obtain ⟨name, slot⟩ := part
      cases slot with
      | node index => exact ih base
      | tree v =>
          have hNext : (childNumbers base ((name, .tree v) :: parts)).2.2 =
              (childNumbers (base + v.containerCount) parts).2.2 := by
            rw [childNumbers]
            cases v.isContainer <;> rfl
          rw [hNext, ih, treeParts, Json.containerCountEntries, Nat.add_assoc]

/-- The nodes of a tree inside a graph. -/
def treeNodes (g : Graph) (trees : List (Nat × Json)) : List (Node GraphValue) :=
  trees.flatMap fun tree => (tree.2.nodes tree.1).map (Node.map fun v => ⟨g, .tree v⟩)

theorem treeNodes_childNumbers (parts : List (String × Slot)) (base : Nat) :
    treeNodes g (childNumbers base parts).2.1 =
      (Json.nodesOfEntries base (treeParts parts)).map (Node.map fun v => ⟨g, .tree v⟩) := by
  induction parts generalizing base with
  | nil => rfl
  | cons part parts ih =>
      obtain ⟨name, slot⟩ := part
      cases slot with
      | node index => exact ih base
      | tree v =>
          rw [treeParts, Json.nodesOfEntries, List.map_append, ← ih, childNumbers]
          cases hContainer : v.isContainer with
          | true => rfl
          | false => simp [Json.nodes_eq, hContainer]

theorem containerCountEntries_append (parts others : List (String × Json)) :
    Json.containerCountEntries (parts ++ others) =
      Json.containerCountEntries parts + Json.containerCountEntries others := by
  simp only [← Json.length_containersWithin.2, Json.containersAmong, List.flatMap_append,
    List.length_append]

theorem nodesOfEntries_append (parts others : List (String × Json)) (base : Nat) :
    Json.nodesOfEntries base (parts ++ others) =
      Json.nodesOfEntries base parts ++
        Json.nodesOfEntries (base + Json.containerCountEntries parts) others := by
  induction parts generalizing base with
  | nil => rfl
  | cons part parts ih =>
      rw [List.cons_append, Json.nodesOfEntries, Json.nodesOfEntries, ih,
        Json.containerCountEntries, List.append_assoc, Nat.add_assoc]

theorem inner_nodes (containers : List Container) (base : Nat) :
    (nodes g containers base).2 =
      (Json.nodesOfEntries base (trees containers)).map (Node.map fun v => ⟨g, .tree v⟩) := by
  induction containers generalizing base with
  | nil => rfl
  | cons container containers ih =>
      have hInner : (nodes g (container :: containers) base).2 =
          treeNodes g (childNumbers base (parts container)).2.1 ++
            (nodes g containers (childNumbers base (parts container)).2.2).2 := rfl
      rw [hInner, ih, treeNodes_childNumbers, next_childNumbers, trees_cons, nodesOfEntries_append,
        List.map_append]

section

variable {value : Nat → GraphValue} {size : Nat}

theorem childNumbers_standFor (hOwn : ∀ i < g.containers.size, value i = ⟨g, .node i⟩)
    (parts : List (String × Slot)) {base : Nat}
    (hClosed : ∀ part ∈ parts, part.2.IsWithin g.containers.size)
    (h : Lists value base ((Json.containersAmong (treeParts parts)).map fun v => ⟨g, .tree v⟩)) :
    (childNumbers base parts).1.map (fun child => (child.1, value child.2)) =
      (parts.map fun part => (part.1, (⟨g, part.2⟩ : GraphValue))).filter
        fun part => (Payload.shape part.2).isContainer := by
  induction parts generalizing base with
  | nil => rfl
  | cons part parts ih =>
      obtain ⟨hHead, hTail⟩ := List.forall_mem_cons.mp hClosed
      obtain ⟨name, slot⟩ := part
      cases slot with
      | node index =>
          rw [List.map_cons, List.filter_cons, if_pos (isContainer_node hHead), ← ih hTail h,
            ← hOwn index hHead]
          rfl
      | tree v =>
          rw [treeParts, Json.containersAmong, List.flatMap_cons, List.map_append, lists_append,
            List.length_map, Json.length_containersWithin.1] at h
          obtain ⟨hTree, hTrees⟩ := h
          have hRest := ih hTail hTrees
          rw [List.map_cons, childNumbers]
          have hShape := isContainer_of_shape_eq_map (shape_tree g) v
          cases hContainer : v.isContainer with
          | false =>
              rw [List.filter_cons_of_neg (by simp [hShape, hContainer]), ← hRest]
              rfl
          | true =>
              rw [Json.containersWithin_eq, if_pos hContainer, List.map_cons, lists_cons] at hTree
              rw [List.filter_cons_of_pos (by simp [hShape, hContainer]), ← hRest, ← hTree.1]
              rfl

theorem childNumbers_lt (hSize : g.containers.size ≤ size) (parts : List (String × Slot))
    {base : Nat}
    (hClosed : ∀ part ∈ parts, part.2.IsWithin g.containers.size)
    (hBase : base + Json.containerCountEntries (treeParts parts) ≤ size) :
    ∀ child ∈ (childNumbers base parts).1, child.2 < size := by
  induction parts generalizing base with
  | nil => intro _ h; cases h
  | cons part parts ih =>
      obtain ⟨hHead, hTail⟩ := List.forall_mem_cons.mp hClosed
      obtain ⟨name, slot⟩ := part
      cases slot with
      | node index =>
          exact List.forall_mem_cons.mpr ⟨Nat.lt_of_lt_of_le hHead hSize, ih hTail hBase⟩
      | tree v =>
          rw [treeParts, Json.containerCountEntries] at hBase
          have hRest := @ih (base + v.containerCount) hTail (by omega)
          rw [childNumbers]
          cases hContainer : v.isContainer with
          | false => exact hRest
          | true =>
              rw [Json.containerCount_eq, if_pos hContainer] at hBase
              exact List.forall_mem_cons.mpr ⟨by omega, hRest⟩

theorem own_nodes_standFor (hOwn : ∀ i < g.containers.size, value i = ⟨g, .node i⟩)
    (hSize : g.containers.size ≤ size) (hClosed : g.IsClosed) (containers : List Container)
    {start base : Nat} (hContainers : ∀ p ∈ containers.zipIdx start, g.containers[p.2]? = some p.1)
    (h : Lists value base ((Json.containersAmong (trees containers)).map fun v => ⟨g, .tree v⟩))
    (hBase : base + Json.containerCountEntries (trees containers) ≤ size) :
    ∀ p ∈ (nodes g containers base).1.zipIdx start, p.1.StandsFor size value (value p.2) := by
  induction containers generalizing start base with
  | nil => intro _ h; cases h
  | cons container containers ih =>
      rw [List.zipIdx_cons, List.forall_mem_cons] at hContainers
      obtain ⟨hContainer, hRest⟩ := hContainers
      have hNodes : (nodes g (container :: containers) base).1 =
          { fields := (container.shapeIn g).entries?
            children := (childNumbers base (parts container)).1 } ::
          (nodes g containers (childNumbers base (parts container)).2.2).1 := by
        cases container <;> rfl
      rw [trees_cons, Json.containersAmong, List.flatMap_append, List.map_append, lists_append,
        List.length_map] at h
      obtain ⟨hHere, hThere⟩ := h
      rw [trees_cons, containerCountEntries_append] at hBase
      rw [hNodes, next_childNumbers, List.zipIdx_cons, List.forall_mem_cons]
      have hPart := hClosed container (Array.mem_of_getElem? hContainer)
      have hStart : start < g.containers.size := (Array.getElem?_eq_some_iff.mp hContainer).1
      refine ⟨?_, ih hRest ?_ (by omega)⟩
      · rw [hOwn start hStart]
        refine ⟨?_, ?_, childNumbers_lt hSize _ hPart (by omega)⟩
        · rw [shape_node hContainer]
        · rw [Payload.containersIn, parts_node hContainer]
          exact childNumbers_standFor hOwn _ hPart hHere
      · rwa [← Json.length_containersWithin.2]

end

theorem length_own_nodes (containers : List Container) (base : Nat) :
    (nodes g containers base).1.length = containers.length := by
  induction containers generalizing base with
  | nil => rfl
  | cons container containers ih =>
      have hOwn : (nodes g (container :: containers) base).1.length =
          (nodes g containers (childNumbers base (parts container)).2.2).1.length + 1 := rfl
      rw [hOwn, ih, List.length_cons]

/-- The container of a graph with a number. -/
def containerNumbered (g : Graph) (i : Nat) : GraphValue :=
  if i < g.containers.size then ⟨g, .node i⟩
  else
    let inner := Json.containersAmong (trees g.containers.toList)
    ⟨g, .tree ((inner[i - g.containers.size]?).getD .null)⟩

theorem lists_containerNumbered (g : Graph) :
    Lists g.containerNumbered g.containers.size
      ((Json.containersAmong (trees g.containers.toList)).map fun v => ⟨g, .tree v⟩) := by
  rintro ⟨w, i⟩ hMem
  obtain ⟨hLe, hAt⟩ := List.mk_mem_zipIdx_iff_le_and_getElem?_sub.mp hMem
  rw [List.getElem?_map, Option.map_eq_some_iff] at hAt
  obtain ⟨v, hv, rfl⟩ := hAt
  rw [containerNumbered, if_neg (Nat.not_lt.mpr hLe)]
  simp [hv]

end Graph

theorem root_ofGraph (g : Graph) :
    (Document.ofGraph g).containers.root = if g.containers.size = 0 then none else some 0 := by
  have hRoot : (Document.ofGraph g).containers.root =
      if g.containers.isEmpty then none else some 0 := rfl
  simp [hRoot]

theorem nodes_ofGraph (g : Graph) :
    (Document.ofGraph g).containers.nodes.toList =
      (Graph.nodes g g.containers.toList g.containers.size).1 ++
        (Json.nodesOfEntries g.containers.size (Graph.trees g.containers.toList)).map
          (Node.map fun v => ⟨g, .tree v⟩) := by
  rw [← Graph.inner_nodes]
  rfl

theorem size_ofGraph (g : Graph) :
    (Document.ofGraph g).containers.nodes.size =
      g.containers.size + Json.containerCountEntries (Graph.trees g.containers.toList) := by
  rw [← Array.length_toList, nodes_ofGraph, List.length_append, Graph.length_own_nodes,
    List.length_map, Json.length_nodes.2, Array.length_toList]

/-- The nodes of a graph's own containers stand for these, and the others for the containers of the
trees inside them. -/
theorem nodes_ofGraph_standFor {g : Graph} (hClosed : g.IsClosed) {node : Node GraphValue} {i : Nat}
    (hNode : (Document.ofGraph g).containers.nodes[i]? = some node) :
    node.StandsFor (Document.ofGraph g).containers.nodes.size g.containerNumbered
      (g.containerNumbered i) := by
  have hSize := size_ofGraph g
  have hOwn : ∀ i < g.containers.size, g.containerNumbered i = ⟨g, .node i⟩ :=
    fun i h => if_pos h
  have hMem : (node, i) ∈ (Document.ofGraph g).containers.nodes.toList.zipIdx := by
    rw [List.mem_zipIdx_iff_getElem?, Array.getElem?_toList]
    exact hNode
  rw [nodes_ofGraph, List.zipIdx_append, List.mem_append, Graph.length_own_nodes, Nat.zero_add,
    Array.length_toList] at hMem
  rcases hMem with hMem | hMem
  · have hContainers : ∀ p ∈ g.containers.toList.zipIdx, g.containers[p.2]? = some p.1 := by
      intro p hp
      rw [← Array.getElem?_toList]
      exact List.mem_zipIdx_iff_getElem?.mp hp
    exact Graph.own_nodes_standFor hOwn (by omega) hClosed _ hContainers
      (Graph.lists_containerNumbered g) (by omega) (node, i) hMem
  · rw [List.zipIdx_map] at hMem
    obtain ⟨⟨inner, k⟩, hInner, hSame⟩ := List.mem_map.mp hMem
    cases hSame
    exact (Json.nodes_standFor (Graph.shape_tree g) (Document.ofGraph g).containers.nodes.size).2
      _ _ (Graph.lists_containerNumbered g) (by omega) (inner, k) hInner

theorem isNumberedBy_ofGraph {g : Graph} (hClosed : g.IsClosed) :
    (Document.ofGraph g).IsNumberedBy g.containerNumbered := by
  have hSize := size_ofGraph g
  refine ⟨fun i node hNode => nodes_ofGraph_standFor hClosed hNode, fun r hr => ?_, ?_⟩
  · rw [root_ofGraph] at hr
    split at hr
    · cases hr
    · cases hr
      omega
  · rw [root_ofGraph, Document.ofGraph, Graph.root]
    split
    · rename_i hEmpty
      rw [Graph.shape_node_beyond (by omega)]
      rfl
    · rename_i hSome
      have hZero : 0 < g.containers.size := Nat.pos_of_ne_zero hSome
      rw [Graph.isContainer_node hZero, Option.map_some, Graph.containerNumbered, if_pos hZero]
      rfl

end LogViewer
