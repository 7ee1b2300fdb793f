import LogViewer.Document.Containers

/-! The walk through the containers of a document, from the outside in and from the front to the
back. It enters each container once, however often it comes upon it, and does not enter what lies
deeper than a bound; the containers that it turns away from are counted. -/
namespace LogViewer

/-- A container that the walk will come upon, with its path and its depth. -/
structure Pending where
  node : Nat
  path : String
  depth : Nat
deriving DecidableEq, Repr

/-- The path of a part of the container with a path; the outermost container has the empty path. -/
def subpath (path name : String) : String := if path = "" then name else path ++ "." ++ name

/-- What a walk has seen. -/
structure Trace where
  /-- The containers entered, in order. -/
  visits : List Pending
  /-- The count of the times that it turned away from a container. -/
  truncated : Nat
deriving DecidableEq, Repr

namespace Trace

/-- The trace of a walk that first enters a container. -/
def enter (p : Pending) (t : Trace) : Trace := { t with visits := p :: t.visits }

/-- The trace of a walk that first turns away from some containers. -/
def turnAway (n : Nat) (t : Trace) : Trace := { t with truncated := n + t.truncated }

end Trace

namespace Containers

variable {ν : Type}

/-- The containers directly inside one that is pending. -/
def below (c : Containers ν) (p : Pending) : List Pending :=
  match c.nodes[p.node]? with
  | none => []
  | some node => node.children.map fun (name, child) =>
    { node := child, path := subpath p.path name, depth := p.depth + 1 }

theorem count_false_set_lt {n : Nat} {entered : Vector Bool n} {i : Nat} (h : i < n)
    (fresh : ¬entered[i] = true) : (entered.set i true).count false < entered.count false := by
  have absent : entered[i] = false := by simpa using fresh
  have pos : 0 < entered.count false := Vector.count_pos_iff.2 (absent ▸ entered.getElem_mem h)
  rw [Vector.count_set, absent, if_pos (by decide), if_neg (by decide)]
  omega

/-- Walks through the containers that are pending, the first of them first. The containers entered
before are marked in `entered`. -/
def walkFrom (c : Containers ν) (maxDepth : Nat) (entered : Vector Bool c.nodes.size) :
    List Pending → Trace
  | [] => ⟨[], 0⟩
  | p :: pending =>
    if h : p.node < c.nodes.size then
      if entered[p.node] then
        (walkFrom c maxDepth entered pending).turnAway 1
      else
        let entered := entered.set p.node true
        let below := c.below p
        if maxDepth ≤ p.depth then
          ((walkFrom c maxDepth entered pending).turnAway below.length).enter p
        else (walkFrom c maxDepth entered (below ++ pending)).enter p
    else walkFrom c maxDepth entered pending
termination_by pending => (entered.count false, pending.length)
decreasing_by
  · exact Prod.Lex.right _ (Nat.lt_succ_self _)
  · exact Prod.Lex.left _ _ (count_false_set_lt h ‹_›)
  · exact Prod.Lex.left _ _ (count_false_set_lt h ‹_›)
  · exact Prod.Lex.right _ (Nat.lt_succ_self _)

/-- Walks through a document down to a depth. -/
def walk (c : Containers ν) (maxDepth : Nat) : Trace :=
  c.walkFrom maxDepth (Vector.replicate c.nodes.size false)
    (c.root.toList.map fun node => { node, path := "", depth := 0 })

end Containers

end LogViewer
