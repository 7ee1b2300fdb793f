import LogViewer.Document.Graph

/-! The containers of a document, numbered, and the containers directly inside each of them. The
containers of a tree are numbered from the outside in and from the front to the back, so that those
inside a container follow it without a gap. -/
namespace LogViewer

/-- A container with the numbers of the containers directly inside it, each with the name of its
place. -/
structure Node (ν : Type) where
  /-- The entries of an object; an array has none. -/
  fields : Option (List (String × ν))
  children : List (String × Nat)

/-- The numbered containers of a document, and the number of the outermost one. -/
structure Containers (ν : Type) where
  nodes : Array (Node ν)
  root : Option Nat

namespace Json

mutual

/-- The count of the containers of a tree. -/
def containerCount : Json → Nat
  | array items => containerCountItems items + 1
  | object entries => containerCountEntries entries + 1
  | _ => 0

def containerCountItems : List Json → Nat
  | [] => 0
  | v :: items => containerCount v + containerCountItems items

def containerCountEntries : List (String × Json) → Nat
  | [] => 0
  | (_, v) :: entries => containerCount v + containerCountEntries entries

end

def isContainer : Json → Bool
  | array _ | object _ => true
  | _ => false

/-- The numbers of the containers among some values, whose first container has number `base`. -/
def childNumbers (base : Nat) : List (String × Json) → List (String × Nat)
  | [] => []
  | (name, v) :: parts =>
    let rest := childNumbers (base + v.containerCount) parts
    if v.isContainer then (name, base) :: rest else rest

mutual

/-- The containers of a tree, the first of which has number `base`. -/
def nodes (base : Nat) : Json → List (Node Json)
  | array items =>
    { fields := none
      children := childNumbers (base + 1) (Payload.parts (array items)) } ::
      nodesOfItems (base + 1) items
  | object entries =>
    { fields := some entries
      children := childNumbers (base + 1) entries } :: nodesOfEntries (base + 1) entries
  | _ => []

def nodesOfItems (base : Nat) : List Json → List (Node Json)
  | [] => []
  | v :: items => nodes base v ++ nodesOfItems (base + v.containerCount) items

def nodesOfEntries (base : Nat) : List (String × Json) → List (Node Json)
  | [] => []
  | (_, v) :: entries => nodes base v ++ nodesOfEntries (base + v.containerCount) entries

end

/-- The containers of a tree. -/
def containers (v : Json) : Containers Json where
  nodes := (v.nodes 0).toArray
  root := if v.isContainer then some 0 else none

end Json

namespace Graph

/-- Numbers the containers among the parts of a container: those of the graph have their numbers,
those of trees are numbered from `base` on. The trees are given with their numbers. -/
def childNumbers (base : Nat) :
    List (String × Slot) → List (String × Nat) × List (Nat × Json) × Nat
  | [] => ([], [], base)
  | (name, .node index) :: parts =>
    let (children, trees, next) := childNumbers base parts
    ((name, index) :: children, trees, next)
  | (name, .tree v) :: parts =>
    let (children, trees, next) := childNumbers (base + v.containerCount) parts
    if v.isContainer then ((name, base) :: children, (base, v) :: trees, next)
    else (children, trees, next)

/-- The parts of a container, each with the name of its place. -/
def parts : Container → List (String × Slot)
  | .array items => items.zipIdx.map fun (slot, i) => (toString i, slot)
  | .object entries => entries

/-- The nodes of the graph's own containers, and the nodes of the trees inside them. -/
def nodes (g : Graph) : List Container → Nat →
    List (Node GraphValue) × List (Node GraphValue)
  | [], _ => ([], [])
  | container :: rest, base =>
    let (children, trees, next) := childNumbers base (parts container)
    let (own, inner) := nodes g rest next
    let fields := match container with
      | .array _ => none
      | .object entries => some (entries.map fun (key, slot) => (key, ⟨g, slot⟩))
    let treeNodes := trees.flatMap fun (base, v) => (v.nodes base).map fun node =>
      { fields := node.fields.map (·.map fun (key, v) => (key, ⟨g, .tree v⟩))
        children := node.children }
    ({ fields, children } :: own, treeNodes ++ inner)

/-- The containers of a graph: first its own ones, then those of the trees inside them. -/
def numbered (g : Graph) : Containers GraphValue :=
  let (own, inner) := nodes g g.containers.toList g.containers.size
  { nodes := (own ++ inner).toArray
    root := if g.containers.isEmpty then none else some 0 }

end Graph

/-- A value together with its numbered containers. -/
structure Document (ν : Type) where
  value : ν
  containers : Containers ν

def Document.ofJson (v : Json) : Document Json := ⟨v, v.containers⟩

def Document.ofGraph (g : Graph) : Document GraphValue := ⟨g.root, g.numbered⟩

end LogViewer
