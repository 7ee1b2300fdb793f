import Mathlib
import LogViewer.Proofs.Corpus.Fields
import LogViewer.Proofs.Corpus.Visit

/-! The paths of records. A path is put together part by part on the way down, and lies with a
pending container until the walk comes to it. It leads back to the container as long as no key is
empty or has a dot, for an empty path is that of the outermost container. -/
namespace LogViewer

/-- The parts of a path; the empty path has none. -/
def pathParts (path : String) : List String :=
  if path = "" then [] else (path.toList.splitOn '.').map String.ofList

/-- Whether a name can be a part of a path. -/
structure IsPathPart (name : String) : Prop where
  ne_empty : name ≠ ""
  undotted : '.' ∉ name.toList

instance : DecidablePred IsPathPart := fun name =>
  decidable_of_iff (name ≠ "" ∧ '.' ∉ name.toList) ⟨fun h => ⟨h.1, h.2⟩, fun h => ⟨h.1, h.2⟩⟩

theorem pathParts_of_isPathPart {name : String} (h : IsPathPart name) : pathParts name = [name] := by
  rw [pathParts, if_neg h.ne_empty, List.splitOn_eq_singleton h.undotted, List.map_singleton,
    String.ofList_toList]

/-- Going down by a part adds it to the parts of the path. -/
theorem pathParts_subpath {name : String} (h : IsPathPart name) (path : String) :
    pathParts (subpath path name) = pathParts path ++ [name] := by
  unfold subpath
  split
  · rename_i hEmpty
    rw [hEmpty, pathParts_of_isPathPart h]
    rfl
  · rename_i hPath
    have hText : (path ++ "." ++ name).toList = path.toList ++ '.' :: name.toList := by
      simp
    have hLonger : path ++ "." ++ name ≠ "" := by
      intro hEmpty
      simp [hEmpty] at hText
    rw [pathParts, if_neg hLonger, hText, List.splitOn_append_cons_self, List.map_append,
      List.splitOn_eq_singleton h.undotted, pathParts, if_neg hPath, List.map_singleton,
      String.ofList_toList]

theorem isPathPart_toString (n : Nat) : IsPathPart (toString n) := by
  have hDigits : (toString n).toList = Nat.toDigits 10 n := String.toList_ofList
  refine ⟨?_, ?_⟩
  · intro hEmpty
    rw [hEmpty] at hDigits
    exact Nat.toDigits_ne_nil hDigits.symm
  · rw [hDigits]
    intro hDot
    have hDigit := Nat.isDigit_of_mem_toDigits (by decide) (by decide) hDot
    exact absurd hDigit (by decide)

theorem toString_injective : Function.Injective (toString : Nat → String) := by
  intro m n hSame
  have hRead := congrArg String.toNat? hSame
  rw [Nat.toString_eq_repr, Nat.toString_eq_repr, Nat.toNat?_repr, Nat.toNat?_repr] at hRead
  exact Option.some.inj hRead

section

variable {ν : Type} [Payload ν]

namespace Payload

/-- What is at a place in a value: what an object has under a key, or an array at an index. -/
def part? (v : ν) (place : String) : Option ν :=
  match shape v with
  | .scalar _ => none
  | .array items => place.toNat?.bind (items[·]?)
  | .object entries => entries.lookup place

/-- Follows the parts of a path from a value. -/
def follow? (v : ν) (places : List String) : Option ν := places.foldlM part? v

theorem follow?_append (v : ν) (places : List String) (place : String) :
    follow? v (places ++ [place]) = (follow? v places).bind (part? · place) := by
  simp [follow?]

/-- Whether the keys of all objects in a value can be parts of paths, and every object has each of its
keys once, as one has that was read or built key by key. -/
def HasPathKeys (v : ν) : Prop :=
  ∀ depth, ∀ w ∈ containersAt depth v, ∀ entries ∈ (shape w).entries?,
    (entries.map (·.1)).Nodup ∧ ∀ entry ∈ entries, IsPathPart entry.1

/-- Whether the names of the places in a container tell them apart and can be parts of paths. -/
structure IsPassable (w : ν) : Prop where
  names_nodup : ((parts w).map (·.1)).Nodup
  isPathPart : ∀ part ∈ parts w, IsPathPart part.1

theorem HasPathKeys.isPassable {v w : ν} {depth : Nat} (h : HasPathKeys v)
    (hw : w ∈ containersAt depth v) : IsPassable w := by
  cases hShape : shape w with
  | scalar value => exact ⟨by simp [parts, hShape], by simp [parts, hShape]⟩
  | array items =>
      have hParts : parts w = items.zipIdx.map fun p => (toString p.2, p.1) := by
        rw [parts, hShape]
      refine ⟨?_, ?_⟩
      · have hNames : (parts w).map (·.1) = (items.zipIdx.map Prod.snd).map toString := by
          rw [hParts, List.map_map, List.map_map]
          rfl
        rw [hNames, List.zipIdx_map_snd]
        exact List.Nodup.map toString_injective List.nodup_range'
      · rw [hParts]
        intro part hPart
        obtain ⟨p, -, rfl⟩ := List.mem_map.mp hPart
        exact isPathPart_toString p.2
  | object entries =>
      have hParts : parts w = entries := by rw [parts, hShape]
      obtain ⟨hNodup, hNames⟩ := h depth w hw entries (by rw [hShape]; rfl)
      exact ⟨hParts ▸ hNodup, hParts ▸ hNames⟩

theorem IsPassable.part?_eq {w : ν} (h : IsPassable w) {part : String × ν}
    (hPart : part ∈ parts w) : part? w part.1 = some part.2 := by
  unfold part?
  cases hShape : shape w with
  | scalar value => simp [parts, hShape] at hPart
  | array items =>
      rw [parts, hShape] at hPart
      obtain ⟨⟨item, i⟩, hItem, rfl⟩ := List.mem_map.mp hPart
      have hIndex : (toString i).toNat? = some i := Nat.toNat?_repr i
      simp only [hIndex, Option.bind_some]
      exact List.mem_zipIdx_iff_getElem?.mp hItem
  | object entries =>
      have hParts : parts w = entries := by rw [parts, hShape]
      rw [hParts] at hPart
      exact lookup_eq_some_of_mem (hParts ▸ h.names_nodup) hPart

end Payload

namespace Containers

omit [Payload ν]

/-- The container directly inside the one with a number that is at a place in it. -/
def child? (c : Containers ν) (n : Nat) (place : String) : Option Nat :=
  c.nodes[n]?.bind (·.children.lookup place)

/-- Follows the parts of a path from the outermost container. -/
def nodeAt? (c : Containers ν) (places : List String) : Option Nat :=
  c.root.bind fun r => places.foldlM c.child? r

theorem nodeAt?_append (c : Containers ν) (places : List String) (place : String) :
    c.nodeAt? (places ++ [place]) = (c.nodeAt? places).bind (c.child? · place) := by
  simp [nodeAt?, Option.bind_assoc]

end Containers

variable {d : Document ν} {value : Nat → ν} {maxDepth : Nat}

/-- Whether the path of a container leads to it, among the numbers as well as in the document, and
has as many parts as the container is deep. -/
structure Document.LeadsTo (d : Document ν) (value : Nat → ν) (maxDepth : Nat) (p : Pending) : Prop
    where
  numbered : d.containers.nodeAt? (pathParts p.path) = some p.node
  follows : Payload.follow? d.value (pathParts p.path) = some (value p.node)
  within : value p.node ∈ containersAt p.depth d.value
  length : (pathParts p.path).length = p.depth
  depth_le : p.depth ≤ maxDepth

theorem Document.IsNumberedBy.leadsTo_root (h : d.IsNumberedBy value) {r : Nat}
    (hr : r ∈ d.containers.root) : d.LeadsTo value maxDepth ⟨r, "", 0⟩ := by
  have hRoot := h.root_eq
  rw [hr] at hRoot
  cases hContainer : (Payload.shape d.value).isContainer with
  | false => simp [hContainer] at hRoot
  | true =>
      have hValue : value r = d.value := by simpa [hContainer] using hRoot
      refine ⟨?_, ?_, ?_, rfl, Nat.zero_le _⟩
      · rw [Containers.nodeAt?, hr]
        rfl
      · rw [hValue]
        rfl
      · rw [hValue, containersAt, if_pos hContainer]
        exact List.mem_singleton_self _

/-- The path of what is inside a container goes on from the path of the container. -/
theorem Document.IsNumberedBy.leadsTo_below (h : d.IsNumberedBy value)
    (hKeys : Payload.HasPathKeys d.value) {p : Pending}
    (hNode : p.node < d.containers.nodes.size) (hDepth : p.depth < maxDepth)
    (hp : d.LeadsTo value maxDepth p) {q : Pending} (hq : q ∈ d.containers.below p) :
    d.LeadsTo value maxDepth q := by
  have hWithin := mem_containersAt_below h hNode hp.within hq
  have hStands := h.standsFor p.node _ (Array.getElem?_eq_getElem hNode)
  have hPassable := hKeys.isPassable hp.within
  rw [Containers.below_eq (Array.getElem?_eq_getElem hNode)] at hq
  obtain ⟨child, hChild, rfl⟩ := List.mem_map.mp hq
  have hSublist : (d.containers.nodes[p.node].children.map fun child =>
      (child.1, value child.2)).Sublist (Payload.parts (value p.node)) := by
    rw [hStands.children_eq]
    exact List.filter_sublist
  have hPart := hSublist.subset (List.mem_map_of_mem hChild)
  have hNames : (d.containers.nodes[p.node].children.map (·.1)).Nodup := by
    have hNames := (hSublist.map (·.1)).nodup hPassable.names_nodup
    rwa [List.map_map] at hNames
  have hParts := pathParts_subpath (hPassable.isPathPart _ hPart) p.path
  refine ⟨?_, ?_, hWithin.2, ?_, hDepth⟩
  · rw [hParts, Containers.nodeAt?_append, hp.numbered, Option.bind_some, Containers.child?,
      Array.getElem?_eq_getElem hNode, Option.bind_some]
    exact lookup_eq_some_of_mem hNames hChild
  · rw [hParts, Payload.follow?_append, hp.follows, Option.bind_some]
    exact hPassable.part?_eq hPart
  · rw [hParts, List.length_append, hp.length]
    rfl

/-- The path of every container that the walk enters leads to it. -/
theorem Document.IsNumberedBy.leadsTo_of_mem_visits (h : d.IsNumberedBy value)
    (hKeys : Payload.HasPathKeys d.value) {p : Pending}
    (hp : p ∈ (d.containers.walk maxDepth).visits) : d.LeadsTo value maxDepth p :=
  Containers.forall_visits h.isClosed (fun _ hr => h.leadsTo_root hr)
    (fun _ hNode hDepth hq _ hr => h.leadsTo_below hKeys hNode hDepth hq hr) p hp

/-- The record of a container that the walk enters, if it has one. -/
def recordOfVisit? (c : Containers ν) (p : Pending) : Option Record :=
  (outcomeOfVisit? c p).toOption.join.bind Outcome.record?

theorem recordOfVisit?_eq_some_iff {c : Containers ν} {p : Pending} {r : Record} :
    recordOfVisit? c p = some r ↔ outcomeOfVisit? c p = .ok (some (.record r)) := by
  have hRecord (outcome : Outcome) : outcome.record? = some r ↔ outcome = .record r := by
    cases outcome <;> simp [Outcome.record?]
  simp only [recordOfVisit?, Option.bind_eq_some_iff, hRecord, exists_eq_right,
    Option.join_eq_some_iff, toOption_eq_some]

/-- Whether the path of a record leads from a value to the object that the record was made of, in
no more parts than a bound. -/
def Record.IsFoundIn (r : Record) (v : ν) (maxDepth : Nat) : Prop :=
  ∃ path w fields, r.attributes .path = some path ∧ (pathParts path).length ≤ maxDepth ∧
    Payload.follow? v (pathParts path) = some w ∧ Payload.shape w = .object fields ∧
      r.fields = fields.map fun (key, v) => (key, Payload.tree v)

/-- Whether the records that a walk down to a depth comes upon are found by their paths, and no two
of them have the same one. The walk may have been broken off by a timestamp that leads out of the
calendar. -/
def Document.FindsRecords (d : Document ν) (maxDepth : Nat) : Prop :=
  ∀ visits outcomes, visits <+: (d.containers.walk maxDepth).visits →
    outcomesOfVisits d.containers visits = .ok outcomes →
      (∀ r ∈ outcomes.filterMap Outcome.record?, r.IsFoundIn d.value maxDepth) ∧
        ((outcomes.filterMap Outcome.record?).map (·.attributes .path)).Nodup

theorem Document.LeadsTo.record (h : d.IsNumberedBy value) {p : Pending}
    (hp : d.LeadsTo value maxDepth p) (hNode : p.node < d.containers.nodes.size) {r : Record}
    (hr : recordOfVisit? d.containers p = some r) :
    r.attributes .path = some p.path ∧ r.IsFoundIn d.value maxDepth := by
  rw [recordOfVisit?_eq_some_iff, outcomeOfVisit?_eq h hNode, outcomeOfValue?] at hr
  split at hr
  · rename_i fields hFields
    obtain ⟨-, -, hPath, hEntries, -⟩ := eq_of_outcomeOfObject? hr
    have hShape : Payload.shape (value p.node) = .object fields := by
      cases hShape : Payload.shape (value p.node) with
      | object entries =>
          rw [hShape] at hFields
          cases hFields
          rfl
      | _ =>
          rw [hShape] at hFields
          cases hFields
    exact ⟨hPath, p.path, _, fields, hPath, hp.length.trans_le hp.depth_le, hp.follows, hShape,
      hEntries⟩
  · cases hr

theorem Document.IsNumberedBy.findsRecords (h : d.IsNumberedBy value)
    (hKeys : Payload.HasPathKeys d.value) (maxDepth : Nat) : d.FindsRecords maxDepth := by
  intro visits outcomes hPrefix hOutcomes
  obtain ⟨hNode, hNodup, -⟩ := Containers.walk_accounts h.isClosed maxDepth
  have hLeads (p : Pending) (hp : p ∈ visits) : d.LeadsTo value maxDepth p :=
    h.leadsTo_of_mem_visits hKeys (hPrefix.subset hp)
  have hRecord (p : Pending) (hp : p ∈ visits) {r : Record}
      (hr : recordOfVisit? d.containers p = some r) :
      r.attributes .path = some p.path ∧ r.IsFoundIn d.value maxDepth :=
    (hLeads p hp).record h (hNode p (hPrefix.subset hp)) hr
  have hRecords : outcomes.filterMap Outcome.record? =
      visits.filterMap (recordOfVisit? d.containers) := by
    rw [filterMap_outcomesOfVisits hOutcomes, List.filterMap_filterMap]
    rfl
  rw [hRecords]
  refine ⟨fun r hr => ?_, ?_⟩
  · obtain ⟨p, hp, hr⟩ := List.mem_filterMap.mp hr
    exact (hRecord p hp hr).2
  · have hOther : visits.Pairwise fun p q => p.node ≠ q.node :=
      List.pairwise_map.mp (hNodup.sublist (hPrefix.sublist.map (·.node)))
    rw [List.nodup_iff_pairwise_ne, List.pairwise_map, List.pairwise_filterMap]
    refine hOther.imp_of_mem ?_
    intro p q hp hq hOther r hr s hs hSame
    rw [(hRecord p hp hr).1, (hRecord q hq hs).1, Option.some_inj] at hSame
    have hNumber := (hLeads p hp).numbered
    rw [hSame, (hLeads q hq).numbered] at hNumber
    exact hOther (Option.some.inj hNumber).symm

end

/-- The paths of records lead to the objects that they were made of, be the document a tree or
not. -/
theorem walk_findsRecords (maxDepth : Nat) :
    (∀ v : Json, Payload.HasPathKeys v → (Document.ofJson v).FindsRecords maxDepth) ∧
    ∀ g : Graph, g.IsClosed → Payload.HasPathKeys g.root →
      (Document.ofGraph g).FindsRecords maxDepth :=
  ⟨fun v hKeys => (isNumberedBy_ofJson v).findsRecords hKeys maxDepth,
    fun _ hClosed hKeys => (isNumberedBy_ofGraph hClosed).findsRecords hKeys maxDepth⟩

/-- A dated object in an array, and another one inside it. -/
private def stepped : Json :=
  .object [("runs", .array [.array [],
    .object [("time", .string "1970-01-01"), ("step", .object [("date", .string "1970-01-02")])]])]

/-- An array and a dated object in it. -/
private def listed : Graph :=
  ⟨#[.array [.tree (.array []), .node 1], .object [("time", .tree (.string "1970-01-01"))]]⟩

theorem walk_findsRecords_stepped :
    Payload.HasPathKeys stepped ∧ (Document.ofJson stepped).FindsRecords 3 ∧
    (outcomesOfVisits stepped.containers (stepped.containers.walk 3).visits).toOption.map
        (·.filterMap Outcome.record? |>.map (·.attributes .path)) =
      some [some "runs.1", some "runs.1.step"] ∧
    listed.IsClosed ∧ Payload.HasPathKeys listed.root ∧
    (Document.ofGraph listed).FindsRecords 1 ∧
    (outcomesOfVisits listed.numbered (listed.numbered.walk 1).visits).toOption.map
        (·.filterMap Outcome.record? |>.map (·.attributes .path)) = some [some "1"] := by
  have hStepped : Payload.HasPathKeys stepped
    | 0 | 1 | 2 | 3 => by decide
    | depth + 4 => by
        have hNone : containersAt (depth + 4) stepped = [] := rfl
        simp [hNone]
  have hListed : Payload.HasPathKeys listed.root
    | 0 | 1 => by decide
    | depth + 2 => by
        have hNone : containersAt (depth + 2) listed.root = [] := rfl
        simp [hNone]
  have hClosed : listed.IsClosed := by decide
  refine ⟨hStepped, (walk_findsRecords 3).1 stepped hStepped, ?_, hClosed, hListed,
    (walk_findsRecords 1).2 listed hClosed hListed, ?_⟩
  · unfold stepped
    cbv
  · unfold listed
    cbv

end LogViewer
