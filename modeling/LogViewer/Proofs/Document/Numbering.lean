import Mathlib
import LogViewer.Document.Walk

/-! What the numbers of a document's containers stand for. A node says of its container which
containers are directly inside it, and does so for trees as well as for graphs; in a tree every
number but the first is met exactly once inside another container. -/
namespace LogViewer

variable {ν : Type} [Payload ν]

/-- The containers directly inside a value, each with the name of its place. -/
def Payload.containersIn (v : ν) : List (String × ν) :=
  (Payload.parts v).filter fun part => (Payload.shape part.2).isContainer

/-- Whether a node tells what is inside a container, when `size` numbers stand for `value`. -/
structure Node.StandsFor (node : Node ν) (size : Nat) (value : Nat → ν) (v : ν) : Prop where
  fields_eq : node.fields = (Payload.shape v).entries?
  children_eq :
    node.children.map (fun child => (child.1, value child.2)) = Payload.containersIn v
  child_lt : ∀ child ∈ node.children, child.2 < size

/-- Whether the numbers of a document's containers stand for `value`. -/
structure Document.IsNumberedBy (d : Document ν) (value : Nat → ν) : Prop where
  standsFor : ∀ i (node : Node ν), d.containers.nodes[i]? = some node →
    node.StandsFor d.containers.nodes.size value (value i)
  root_lt : ∀ r ∈ d.containers.root, r < d.containers.nodes.size
  root_eq : d.containers.root.map value =
    if (Payload.shape d.value).isContainer then some d.value else none

/-- The numbers of the containers that are inside others, each as often as it is inside one. -/
def Containers.inner (c : Containers ν) : List Nat :=
  c.nodes.toList.flatMap fun node => node.children.map (·.2)

/-- Whether no container is shared: none is inside others twice, and the outermost one never. -/
structure Containers.IsTree (c : Containers ν) : Prop where
  inner_nodup : c.inner.Nodup
  root_notMem : ∀ r ∈ c.root, r ∉ c.inner

/-- Whether the numbers from `base` on stand for the members of a list. -/
def Lists (value : Nat → ν) (base : Nat) (l : List ν) : Prop :=
  ∀ p ∈ l.zipIdx base, value p.2 = p.1

omit [Payload ν] in
theorem lists_cons {value : Nat → ν} {base : Nat} {v : ν} {l : List ν} :
    Lists value base (v :: l) ↔ value base = v ∧ Lists value (base + 1) l := by
  simp [Lists, List.zipIdx_cons]

omit [Payload ν] in
theorem lists_append {value : Nat → ν} {base : Nat} {l m : List ν} :
    Lists value base (l ++ m) ↔ Lists value base l ∧ Lists value (base + l.length) m := by
  simp only [Lists, List.zipIdx_append, List.forall_mem_append]

omit [Payload ν] in
theorem lists_getElem? {value : Nat → ν} {l : List ν} {default : ν}
    (h : ∀ i, value i = (l[i]?).getD default) : Lists value 0 l := by
  intro p hp
  rw [h, List.mem_zipIdx_iff_getElem?.mp hp, Option.getD_some]

/-- A shape with other values in the places of those inside. -/
def Shape.map {μ : Type} (f : ν → μ) : Shape ν → Shape μ
  | scalar value => scalar value
  | array items => array (items.map f)
  | object entries => object (entries.map fun (key, v) => (key, f v))

/-- A node with other values in the entries of its object. -/
def Node.map {μ : Type} (f : ν → μ) (node : Node ν) : Node μ where
  fields := node.fields.map (·.map fun (key, v) => (key, f v))
  children := node.children

theorem parts_of_shape_eq_map {e : Json → ν} (he : ∀ v, Payload.shape (e v) = v.shape.map e)
    (v : Json) : Payload.parts (e v) = (Payload.parts v).map fun part => (part.1, e part.2) := by
  have hv : Payload.shape v = v.shape := rfl
  unfold Payload.parts
  rw [he v, hv]
  cases v.shape with
  | scalar => rfl
  | array items => simp [Shape.map, List.zipIdx_map]
  | object entries => rfl

theorem isContainer_of_shape_eq_map {e : Json → ν}
    (he : ∀ v, Payload.shape (e v) = v.shape.map e) (v : Json) :
    (Payload.shape (e v)).isContainer = v.isContainer := by
  rw [he v]
  cases v <;> rfl

namespace Json

theorem sizeOf_lt_of_mem_parts {v : Json} {part : String × Json} (h : part ∈ Payload.parts v) :
    sizeOf part.2 < sizeOf v := by
  cases v with
  | array items =>
      obtain ⟨⟨item, i⟩, hItem, rfl⟩ := List.mem_map.mp h
      have hSize : sizeOf item < sizeOf items :=
        List.sizeOf_lt_of_mem (List.fst_mem_of_mem_zipIdx hItem)
      simp only [array.sizeOf_spec]
      omega
  | object entries =>
      have hEntry : sizeOf part < sizeOf entries := List.sizeOf_lt_of_mem h
      obtain ⟨key, w⟩ := part
      simp only [Prod.mk.sizeOf_spec] at hEntry
      simp only [object.sizeOf_spec]
      omega
  | _ => cases h

/-- Induction over trees and over the parts of their containers. -/
theorem induction_parts {P : Json → Prop} {Q : List (String × Json) → Prop}
    (value : ∀ v, Q (Payload.parts v) → P v) (nil : Q [])
    (cons : ∀ name v parts, P v → Q parts → Q ((name, v) :: parts)) :
    (∀ v, P v) ∧ ∀ parts, Q parts := by
  have hRow (parts : List (String × Json)) (h : ∀ part ∈ parts, P part.2) : Q parts := by
    induction parts with
    | nil => exact nil
    | cons part parts ih =>
        obtain ⟨hHead, hTail⟩ := List.forall_mem_cons.mp h
        exact cons part.1 part.2 parts hHead (ih hTail)
  have hValue (n : Nat) : ∀ v : Json, sizeOf v < n → P v := by
    induction n with
    | zero => exact fun v h => absurd h (Nat.not_lt_zero _)
    | succ n ih =>
        intro v h
        refine value v (hRow _ fun part hPart => ih part.2 ?_)
        have hSize := sizeOf_lt_of_mem_parts hPart
        omega
  have hAll (v : Json) : P v := hValue (sizeOf v + 1) v (Nat.lt_succ_self _)
  exact ⟨hAll, fun parts => hRow parts fun part _ => hAll part.2⟩

/-- The containers of a tree, in the order of their numbers. -/
def containersWithin (v : Json) : List Json :=
  if v.isContainer then
    v :: (Payload.parts v).attach.flatMap fun part => part.1.2.containersWithin
  else []
termination_by sizeOf v
decreasing_by exact sizeOf_lt_of_mem_parts part.2

/-- The containers among the parts of a container and inside them. -/
def containersAmong (parts : List (String × Json)) : List Json :=
  parts.flatMap (·.2.containersWithin)

theorem containersWithin_eq (v : Json) :
    v.containersWithin =
      if v.isContainer then v :: containersAmong (Payload.parts v) else [] := by
  rw [containersWithin, containersAmong,
    List.flatMap_subtype (g := fun part => part.2.containersWithin) (fun _ _ => rfl),
    List.unattach_attach]

theorem map_parts_array (items : List Json) :
    (Payload.parts (array items)).map (·.2) = items := by
  have hParts : Payload.parts (array items) =
    items.zipIdx.map fun (item, i) => (toString i, item) := rfl
  rw [hParts, List.map_map]
  exact List.zipIdx_map_fst 0 items

theorem containerCountItems_eq (parts : List (String × Json)) :
    containerCountItems (parts.map (·.2)) = containerCountEntries parts := by
  induction parts with
  | nil => rfl
  | cons part parts ih => simp [containerCountItems, containerCountEntries, ih]

theorem nodesOfItems_eq (base : Nat) (parts : List (String × Json)) :
    nodesOfItems base (parts.map (·.2)) = nodesOfEntries base parts := by
  induction parts generalizing base with
  | nil => rfl
  | cons part parts ih => simp [nodesOfItems, nodesOfEntries, ih]

theorem containerCount_eq (v : Json) :
    v.containerCount =
      if v.isContainer then containerCountEntries (Payload.parts v) + 1 else 0 := by
  cases v with
  | array items =>
      have hItems := containerCountItems_eq (Payload.parts (array items))
      rw [map_parts_array] at hItems
      simp [containerCount, isContainer, hItems]
  | object entries => rfl
  | _ => rfl

theorem nodes_eq (base : Nat) (v : Json) :
    v.nodes base =
      if v.isContainer then
        { fields := v.shape.entries?, children := childNumbers (base + 1) (Payload.parts v) } ::
          nodesOfEntries (base + 1) (Payload.parts v)
      else [] := by
  cases v with
  | array items =>
      have hItems := nodesOfItems_eq (base + 1) (Payload.parts (array items))
      rw [map_parts_array] at hItems
      rw [nodes, hItems]
      rfl
  | object entries => rfl
  | _ => rfl

theorem length_containersWithin :
    (∀ v : Json, v.containersWithin.length = v.containerCount) ∧
      ∀ parts, (containersAmong parts).length = containerCountEntries parts := by
  refine induction_parts (fun v ih => ?_) rfl (fun name v parts hHead hTail => ?_)
  · rw [containersWithin_eq, containerCount_eq]
    split
    · rw [List.length_cons, ih]
    · rfl
  · rw [containersAmong, List.flatMap_cons, List.length_append, hHead, containerCountEntries,
      ← hTail, containersAmong]

theorem length_nodes :
    (∀ (v : Json) (base : Nat), (v.nodes base).length = v.containerCount) ∧
      ∀ parts base, (nodesOfEntries base parts).length = containerCountEntries parts := by
  refine induction_parts (fun v ih base => ?_) (fun _ => rfl)
    (fun name v parts hHead hTail base => ?_)
  · rw [nodes_eq, containerCount_eq]
    split
    · rw [List.length_cons, ih]
    · rfl
  · rw [nodesOfEntries, List.length_append, hHead, hTail, containerCountEntries]

/-- The numbers that are met inside the containers of a tree, with that of the tree itself, are all
that the tree has. -/
theorem numbers_perm :
    (∀ (v : Json) (base : Nat), List.Perm
      ((if v.isContainer then [base] else []) ++
        (v.nodes base).flatMap fun node => node.children.map (·.2))
      (List.range' base v.containerCount)) ∧
    ∀ parts base, List.Perm
      ((childNumbers base parts).map (·.2) ++
        (nodesOfEntries base parts).flatMap fun node => node.children.map (·.2))
      (List.range' base (containerCountEntries parts)) := by
  refine induction_parts (fun v ih base => ?_) (fun _ => List.Perm.refl _)
    (fun name v parts hHead hTail base => ?_)
  · rw [nodes_eq, containerCount_eq]
    split
    · rw [List.range'_succ, List.flatMap_cons]
      exact List.Perm.cons base (ih (base + 1))
    · exact List.Perm.refl _
  · have hOwn : (childNumbers base ((name, v) :: parts)).map (·.2) =
        (if v.isContainer then [base] else []) ++
          (childNumbers (base + v.containerCount) parts).map (·.2) := by
      rw [childNumbers]
      split <;> rfl
    rw [hOwn, nodesOfEntries, containerCountEntries, ← List.range'_append_1, List.flatMap_append,
      List.append_assoc]
    refine (List.Perm.append_left _ (List.perm_append_comm_assoc _ _ _)).trans ?_
    rw [← List.append_assoc]
    exact (hHead base).append (hTail _)

section

variable {e : Json → ν} {value : Nat → ν}

theorem childNumbers_lt (parts : List (String × Json)) (base : Nat) :
    ∀ child ∈ childNumbers base parts, child.2 < base + containerCountEntries parts := by
  intro child hChild
  have hMem := (numbers_perm.2 parts base).mem_iff.mp
    (List.mem_append_left _ (List.mem_map_of_mem hChild))
  exact (List.mem_range'_1.mp hMem).2

theorem childNumbers_standFor (he : ∀ v, Payload.shape (e v) = v.shape.map e)
    (parts : List (String × Json)) {base : Nat}
    (h : Lists value base ((containersAmong parts).map e)) :
    (childNumbers base parts).map (fun child => (child.1, value child.2)) =
      (parts.map fun part => (part.1, e part.2)).filter
        fun part => (Payload.shape part.2).isContainer := by
  induction parts generalizing base with
  | nil => rfl
  | cons part parts ih =>
      obtain ⟨name, v⟩ := part
      rw [containersAmong, List.flatMap_cons, List.map_append, lists_append, List.length_map,
        length_containersWithin.1] at h
      obtain ⟨hHead, hTail⟩ := h
      have hRest := ih hTail
      rw [childNumbers, List.map_cons]
      cases hContainer : v.isContainer with
      | false =>
          rw [List.filter_cons_of_neg (by simp [isContainer_of_shape_eq_map he, hContainer])]
          simpa using hRest
      | true =>
          rw [containersWithin_eq, if_pos hContainer, List.map_cons, lists_cons] at hHead
          rw [List.filter_cons_of_pos (by simp [isContainer_of_shape_eq_map he, hContainer])]
          simp [hRest, hHead.1]

theorem nodes_standFor (he : ∀ v, Payload.shape (e v) = v.shape.map e) (size : Nat) :
    (∀ (v : Json) (base : Nat), Lists value base (v.containersWithin.map e) →
      base + v.containerCount ≤ size →
      ∀ p ∈ (v.nodes base).zipIdx base, (p.1.map e).StandsFor size value (value p.2)) ∧
    ∀ parts base, Lists value base ((containersAmong parts).map e) →
      base + containerCountEntries parts ≤ size →
      ∀ p ∈ (nodesOfEntries base parts).zipIdx base,
        (p.1.map e).StandsFor size value (value p.2) := by
  refine induction_parts (fun v ih base h hSize => ?_) (fun _ _ _ => by simp [nodesOfEntries])
    (fun name v parts hHead hTail base h hSize => ?_)
  · rw [nodes_eq]
    rw [containerCount_eq] at hSize
    split
    · rename_i hContainer
      rw [if_pos hContainer] at hSize
      rw [containersWithin_eq, if_pos hContainer, List.map_cons, lists_cons] at h
      obtain ⟨hBase, hInside⟩ := h
      rw [List.zipIdx_cons, List.forall_mem_cons]
      refine ⟨?_, ih (base + 1) hInside (by omega)⟩
      rw [hBase]
      refine ⟨?_, ?_, fun child hChild => ?_⟩
      · rw [he v]
        cases v <;> rfl
      · rw [Payload.containersIn, parts_of_shape_eq_map he]
        exact childNumbers_standFor he _ hInside
      · have hChild := childNumbers_lt _ _ child hChild
        omega
    · simp
  · rw [containersAmong, List.flatMap_cons, List.map_append, lists_append, List.length_map,
      length_containersWithin.1] at h
    rw [containerCountEntries] at hSize
    rw [nodesOfEntries, List.zipIdx_append, List.forall_mem_append, length_nodes.1]
    exact ⟨hHead base h.1 (by omega), hTail _ h.2 (by omega)⟩

end

end Json

/-- The container of a tree with a number. -/
def Json.containerNumbered (v : Json) (i : Nat) : Json := (v.containersWithin[i]?).getD .null

theorem isContainer_shape (v : Json) : (Payload.shape v).isContainer = v.isContainer := by
  cases v <;> rfl

/-- The numbers of a tree are those of the containers inside others and of the outermost one. -/
theorem inner_ofJson_perm (v : Json) :
    List.Perm ((Document.ofJson v).containers.root.toList ++ (Document.ofJson v).containers.inner)
      (List.range (Document.ofJson v).containers.nodes.size) := by
  have hSize : (Document.ofJson v).containers.nodes.size = v.containerCount :=
    Json.length_nodes.1 v 0
  have hRoot : (Document.ofJson v).containers.root.toList =
      if v.isContainer then [0] else [] := by
    rw [Document.ofJson, Json.containers]
    split <;> rfl
  rw [hSize, hRoot, List.range_eq_range']
  exact Json.numbers_perm.1 v 0

theorem isNumberedBy_ofJson (v : Json) :
    (Document.ofJson v).IsNumberedBy v.containerNumbered := by
  have hShape (w : Json) : Payload.shape (id w) = w.shape.map id := by
    cases w <;> simp [Payload.shape, Json.shape, Shape.map]
  have hMap (node : Node Json) : node.map id = node := by
    cases node with
    | mk fields children => cases fields <;> simp [Node.map]
  have hLists : Lists v.containerNumbered 0 (v.containersWithin.map id) := by
    rw [List.map_id]
    exact lists_getElem? fun _ => rfl
  have hSize : (Document.ofJson v).containers.nodes.size = v.containerCount :=
    Json.length_nodes.1 v 0
  refine ⟨fun i node hNode => ?_, fun r hr => ?_, ?_⟩
  · have hMem : (node, i) ∈ (v.nodes 0).zipIdx := by
      rw [List.mem_zipIdx_iff_getElem?]
      simpa [Document.ofJson, Json.containers] using hNode
    have hStands := (Json.nodes_standFor hShape (Document.ofJson v).containers.nodes.size).1 v 0
      hLists (by omega) (node, i) hMem
    rwa [hMap] at hStands
  · have hMem := (inner_ofJson_perm v).mem_iff.mp
      (List.mem_append_left _ (Option.mem_toList.mpr hr))
    exact List.mem_range.mp hMem
  · rw [isContainer_shape, Document.ofJson, Json.containers]
    cases hContainer : v.isContainer with
    | false => rfl
    | true => simp [Json.containerNumbered, Json.containersWithin_eq, hContainer]

end LogViewer
