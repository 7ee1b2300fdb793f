import Mathlib
import LogViewer.Proofs.Document.Numbering

/-! The walk step by step. Each step takes up the first container that is pending; what every step
keeps holds when none is pending any more, and this is so after at most one step for each time that
a container is inside another, and one for the outermost. -/
namespace LogViewer

variable {ν : Type} {c : Containers ν} {maxDepth : Nat}

/-- The walk between two steps: which containers it has entered, which are pending, and what it has
seen so far. -/
structure Walking (c : Containers ν) where
  entered : Vector Bool c.nodes.size
  pending : List Pending
  seen : Trace

namespace Trace

/-- The trace of a walk that goes on after it has left a trace. -/
def followedBy (s t : Trace) : Trace := ⟨s.visits ++ t.visits, s.truncated + t.truncated⟩

theorem followedBy_turnAway (s t : Trace) (n : Nat) :
    s.followedBy (t.turnAway n) = { s with truncated := s.truncated + n }.followedBy t := by
  simp [followedBy, turnAway, Nat.add_assoc]

theorem followedBy_enter (s t : Trace) (p : Pending) :
    s.followedBy (t.enter p) = { s with visits := s.visits ++ [p] }.followedBy t := by
  simp [followedBy, enter]

end Trace

namespace Walking

/-- The walk before its first step. -/
def start (c : Containers ν) : Walking c where
  entered := Vector.replicate c.nodes.size false
  pending := c.root.toList.map fun node => { node, path := "", depth := 0 }
  seen := ⟨[], 0⟩

/-- One step of the walk. -/
inductive Step (maxDepth : Nat) : Walking c → Walking c → Prop where
  /-- The container was entered before. -/
  | again {entered : Vector Bool c.nodes.size} {p : Pending} {pending : List Pending}
      {seen : Trace} (hNode : p.node < c.nodes.size) (hEntered : entered[p.node] = true) :
      Step maxDepth ⟨entered, p :: pending, seen⟩
        ⟨entered, pending, { seen with truncated := seen.truncated + 1 }⟩
  /-- The container is entered, but those inside it lie too deep. -/
  | deepest {entered : Vector Bool c.nodes.size} {p : Pending} {pending : List Pending}
      {seen : Trace} (hNode : p.node < c.nodes.size) (hFresh : entered[p.node] = false)
      (hDepth : maxDepth ≤ p.depth) :
      Step maxDepth ⟨entered, p :: pending, seen⟩
        ⟨entered.set p.node true, pending,
          { visits := seen.visits ++ [p], truncated := seen.truncated + (c.below p).length }⟩
  /-- The container is entered, and those inside it come next. -/
  | enter {entered : Vector Bool c.nodes.size} {p : Pending} {pending : List Pending}
      {seen : Trace} (hNode : p.node < c.nodes.size) (hFresh : entered[p.node] = false)
      (hDepth : p.depth < maxDepth) :
      Step maxDepth ⟨entered, p :: pending, seen⟩
        ⟨entered.set p.node true, c.below p ++ pending, { seen with visits := seen.visits ++ [p] }⟩

/-- As many steps of the walk. -/
inductive RunsFor (maxDepth : Nat) : Walking c → Walking c → Nat → Prop where
  | zero (w : Walking c) : RunsFor maxDepth w w 0
  | succ {w x y : Walking c} {steps : Nat} (first : Step maxDepth w x)
      (rest : RunsFor maxDepth x y steps) : RunsFor maxDepth w y (steps + 1)

/-- What every step keeps holds after every run. -/
theorem RunsFor.keeps {P : Walking c → Prop}
    (hStep : ∀ w x, Step maxDepth w x → P w → P x) {w x : Walking c} {steps : Nat}
    (run : RunsFor maxDepth w x steps) (hw : P w) : P x := by
  induction run with
  | zero => exact hw
  | succ first _ ih => exact ih (hStep _ _ first hw)

end Walking

/-- Whether all numbers of containers are those of nodes. -/
structure Containers.IsClosed (c : Containers ν) : Prop where
  root_lt : ∀ r ∈ c.root, r < c.nodes.size
  inner_lt : ∀ n ∈ c.inner, n < c.nodes.size

theorem Containers.below_eq {p : Pending} {node : Node ν} (h : c.nodes[p.node]? = some node) :
    c.below p = node.children.map fun child =>
      { node := child.2, path := subpath p.path child.1, depth := p.depth + 1 } := by
  rw [below, h]

section

variable [Payload ν] {d : Document ν} {value : Nat → ν}

theorem Document.IsNumberedBy.isClosed (h : d.IsNumberedBy value) :
    d.containers.IsClosed := by
  refine ⟨h.root_lt, fun n hn => ?_⟩
  obtain ⟨node, hNode, hChild⟩ := List.mem_flatMap.mp hn
  obtain ⟨child, hMem, rfl⟩ := List.mem_map.mp hChild
  obtain ⟨i, hi⟩ := Array.mem_iff_getElem?.mp (Array.mem_toList_iff.mp hNode)
  exact (h.standsFor i node hi).child_lt child hMem

/-- What is pending below a container is what is inside it. -/
theorem Document.IsNumberedBy.map_below (h : d.IsNumberedBy value) {p : Pending}
    (hNode : p.node < d.containers.nodes.size) :
    (d.containers.below p).map (fun q => (q.path, q.depth, value q.node)) =
      (Payload.containersIn (value p.node)).map fun part =>
        (subpath p.path part.1, p.depth + 1, part.2) := by
  have hStands := h.standsFor p.node _ (Array.getElem?_eq_getElem hNode)
  rw [Containers.below_eq (Array.getElem?_eq_getElem hNode), ← hStands.children_eq]
  simp [Function.comp_def]

theorem Document.IsNumberedBy.length_below (h : d.IsNumberedBy value) {p : Pending}
    (hNode : p.node < d.containers.nodes.size) :
    (d.containers.below p).length = (Payload.containersIn (value p.node)).length := by
  simpa using congrArg List.length (h.map_below hNode)

end

namespace Containers

theorem mem_inner_of_mem_below {p q : Pending} (h : q ∈ c.below p) : q.node ∈ c.inner := by
  rw [below] at h
  split at h
  · cases h
  · rename_i node hNode
    obtain ⟨child, hChild, rfl⟩ := List.mem_map.mp h
    have hMem : node ∈ c.nodes.toList := Array.mem_toList_iff.mpr (Array.mem_of_getElem? hNode)
    exact List.mem_flatMap.mpr ⟨node, hMem, List.mem_map_of_mem hChild⟩

/-- Steps lead from any point of a walk to its end, and see on the way what the walk sees. -/
theorem exists_run_walkFrom (hClosed : c.IsClosed) (maxDepth : Nat)
    (entered : Vector Bool c.nodes.size) (pending : List Pending) (seen : Trace)
    (hPending : ∀ p ∈ pending, p.node < c.nodes.size) :
    ∃ steps last, Walking.RunsFor maxDepth ⟨entered, pending, seen⟩
      ⟨last, [], seen.followedBy (c.walkFrom maxDepth entered pending)⟩ steps := by
  -- What was seen is free: a step of the walk adds to it what the walk puts before the rest.
  fun_induction walkFrom c maxDepth entered pending generalizing seen with
  | case1 entered =>
      have hSeen : seen.followedBy ⟨[], 0⟩ = seen := by simp [Trace.followedBy]
      exact ⟨0, entered, hSeen.symm ▸ Walking.RunsFor.zero _⟩
  | case2 entered p pending hNode hEntered ih =>
      obtain ⟨steps, last, run⟩ := ih { seen with truncated := seen.truncated + 1 }
        (List.forall_mem_cons.mp hPending).2
      rw [Trace.followedBy_turnAway]
      exact ⟨steps + 1, last, Walking.RunsFor.succ (Walking.Step.again hNode hEntered) run⟩
  | case3 entered p pending hNode hFresh _ below hDepth ih =>
      obtain ⟨steps, last, run⟩ := ih
        { visits := seen.visits ++ [p], truncated := seen.truncated + below.length }
        (List.forall_mem_cons.mp hPending).2
      rw [Trace.followedBy_enter, Trace.followedBy_turnAway]
      have hFresh : entered[p.node] = false := by simpa using hFresh
      exact ⟨steps + 1, last, Walking.RunsFor.succ (Walking.Step.deepest hNode hFresh hDepth) run⟩
  | case4 entered p pending hNode hFresh _ below hDepth ih =>
      have hBelow : ∀ q ∈ below ++ pending, q.node < c.nodes.size :=
        List.forall_mem_append.mpr
          ⟨fun q hq => hClosed.inner_lt _ (mem_inner_of_mem_below hq),
            (List.forall_mem_cons.mp hPending).2⟩
      obtain ⟨steps, last, run⟩ := ih { seen with visits := seen.visits ++ [p] } hBelow
      rw [Trace.followedBy_enter]
      have hFresh : entered[p.node] = false := by simpa using hFresh
      exact ⟨steps + 1, last,
        Walking.RunsFor.succ (Walking.Step.enter hNode hFresh (Nat.lt_of_not_le hDepth)) run⟩
  | case5 entered p pending hNode ih =>
      exact absurd (hPending p List.mem_cons_self) hNode

theorem exists_run_walk (hClosed : c.IsClosed) (maxDepth : Nat) :
    ∃ steps last, Walking.RunsFor maxDepth (Walking.start c) ⟨last, [], c.walk maxDepth⟩ steps := by
  have hStart : ∀ p ∈ (Walking.start c).pending, p.node < c.nodes.size := by
    intro p hp
    obtain ⟨r, hr, rfl⟩ := List.mem_map.mp hp
    exact hClosed.root_lt r (Option.mem_toList.mp hr)
  have hSeen (t : Trace) : (⟨[], 0⟩ : Trace).followedBy t = t := by simp [Trace.followedBy]
  obtain ⟨steps, last, run⟩ := exists_run_walkFrom hClosed maxDepth _ _ ⟨[], 0⟩ hStart
  rw [hSeen] at run
  exact ⟨steps, last, run⟩

/-- What holds before the first step of a walk and is kept by every step holds at its end. -/
theorem walk_keeps (hClosed : c.IsClosed) {P : Walking c → Prop} (hStart : P (Walking.start c))
    (hStep : ∀ w x, Walking.Step maxDepth w x → P w → P x) :
    ∃ last, P ⟨last, [], c.walk maxDepth⟩ := by
  obtain ⟨_, last, run⟩ := exists_run_walk hClosed maxDepth
  exact ⟨last, run.keeps hStep hStart⟩

end Containers

namespace Walking

/-- What holds of the containers inside one whenever it holds of that one keeps holding of all that
were entered or are pending. -/
theorem Step.forall_mem {Q : Pending → Prop}
    (hBelow : ∀ p, p.node < c.nodes.size → p.depth < maxDepth → Q p → ∀ q ∈ c.below p, Q q)
    {w x : Walking c} (step : Step maxDepth w x) (hw : ∀ p ∈ w.seen.visits ++ w.pending, Q p) :
    ∀ p ∈ x.seen.visits ++ x.pending, Q p := by
  obtain ⟨hSeen, hPending⟩ := List.forall_mem_append.mp hw
  cases step with
  | again hNode hEntered =>
      exact List.forall_mem_append.mpr ⟨hSeen, (List.forall_mem_cons.mp hPending).2⟩
  | deepest hNode hFresh hDepth => rwa [List.append_assoc]
  | enter hNode hFresh hDepth =>
      obtain ⟨hHere, hRest⟩ := List.forall_mem_cons.mp hPending
      exact List.forall_mem_append.mpr
        ⟨List.forall_mem_append.mpr ⟨hSeen, List.forall_mem_singleton.mpr hHere⟩,
          List.forall_mem_append.mpr ⟨hBelow _ hNode hDepth hHere, hRest⟩⟩

end Walking

/-- What holds of the outermost container, and of the containers inside one whenever it holds of
that one, holds of all that the walk enters. -/
theorem Containers.forall_visits (hClosed : c.IsClosed) {Q : Pending → Prop}
    (hRoot : ∀ r ∈ c.root, Q ⟨r, "", 0⟩)
    (hBelow : ∀ p, p.node < c.nodes.size → p.depth < maxDepth → Q p → ∀ q ∈ c.below p, Q q) :
    ∀ p ∈ (c.walk maxDepth).visits, Q p := by
  have hStart : ∀ p ∈ (Walking.start c).seen.visits ++ (Walking.start c).pending, Q p := by
    intro p hp
    obtain ⟨r, hr, rfl⟩ := List.mem_map.mp hp
    exact hRoot r (Option.mem_toList.mp hr)
  obtain ⟨last, hLast⟩ := walk_keeps hClosed hStart
    fun w x (step : Walking.Step maxDepth w x) hw => step.forall_mem hBelow hw
  simpa using hLast

namespace Walking

/-- What is known of the counts between two steps. Each time that a container is inside one that was
entered, it has been entered, has been turned away from or is pending, and so has the outermost. -/
structure Accounts (w : Walking c) : Prop where
  entered : ∀ p ∈ w.seen.visits, w.entered[p.node]? = some true
  visits_nodup : (w.seen.visits.map (·.node)).Nodup
  balance : w.seen.visits.length + w.seen.truncated + w.pending.length =
    c.root.toList.length + (w.seen.visits.map fun p => (c.below p).length).sum

theorem accounts_start : (start c).Accounts where
  entered := by intro p hp; cases hp
  visits_nodup := List.nodup_nil
  balance := by simp [start]

/-- A container that is entered was not before, and from then on it is known to have been. -/
theorem Accounts.enter {entered : Vector Bool c.nodes.size} {pending : List Pending} {seen : Trace}
    (h : Accounts ⟨entered, pending, seen⟩) {p : Pending} (hNode : p.node < c.nodes.size)
    (hFresh : entered[p.node] = false) :
    (∀ q ∈ seen.visits ++ [p], (entered.set p.node true)[q.node]? = some true) ∧
      ((seen.visits ++ [p]).map (·.node)).Nodup := by
  have hOther (q : Pending) (hq : q ∈ seen.visits) : q.node ≠ p.node := by
    intro hSame
    have hEntered := h.entered q hq
    rw [hSame, Vector.getElem?_eq_getElem hNode, hFresh] at hEntered
    cases hEntered
  refine ⟨fun q hq => ?_, ?_⟩
  · rcases List.mem_append.mp hq with hq | hq
    · rw [Vector.getElem?_set_ne _ (hOther q hq).symm]
      exact h.entered q hq
    · cases List.mem_singleton.mp hq
      simp [hNode]
  · rw [List.map_append, List.nodup_append']
    refine ⟨h.visits_nodup, List.nodup_singleton _, ?_⟩
    intro n hn hp
    obtain ⟨q, hq, rfl⟩ := List.mem_map.mp hn
    exact hOther q hq (List.mem_singleton.mp hp)

theorem Step.accounts {w x : Walking c} (step : Step maxDepth w x) (hw : w.Accounts) :
    x.Accounts := by
  have hBalance := hw.balance
  cases step with
  | again hNode hEntered =>
      refine ⟨hw.entered, hw.visits_nodup, ?_⟩
      simp only [List.length_cons] at hBalance ⊢
      omega
  | deepest hNode hFresh hDepth =>
      obtain ⟨hEntered, hNodup⟩ := hw.enter hNode hFresh
      refine ⟨hEntered, hNodup, ?_⟩
      simp only [List.length_cons, List.length_append, List.map_append, List.sum_append,
        List.length_nil, List.map_cons, List.map_nil, List.sum_cons, List.sum_nil] at hBalance ⊢
      omega
  | enter hNode hFresh hDepth =>
      obtain ⟨hEntered, hNodup⟩ := hw.enter hNode hFresh
      refine ⟨hEntered, hNodup, ?_⟩
      simp only [List.length_cons, List.length_append, List.map_append, List.sum_append,
        List.length_nil, List.map_cons, List.map_nil, List.sum_cons, List.sum_nil] at hBalance ⊢
      omega

/-- Every step enters a container or turns away from one. -/
theorem RunsFor.steps_le {w x : Walking c} {steps : Nat} (run : RunsFor maxDepth w x steps) :
    w.seen.visits.length + w.seen.truncated + steps ≤
      x.seen.visits.length + x.seen.truncated := by
  induction run with
  | zero => exact Nat.le_refl _
  | succ first _ ih =>
      cases first with
      | again => simp only at ih ⊢; omega
      | deepest => simp only [List.length_append, List.length_singleton] at ih ⊢; omega
      | enter => simp only [List.length_append, List.length_singleton] at ih ⊢; omega

end Walking

namespace Containers

/-- The walk enters no container twice, and each time that a container is inside one that was
entered, it is entered or counted as turned away from. -/
theorem walk_accounts (hClosed : c.IsClosed) (maxDepth : Nat) :
    (∀ p ∈ (c.walk maxDepth).visits, p.node < c.nodes.size) ∧
    ((c.walk maxDepth).visits.map (·.node)).Nodup ∧
    (c.walk maxDepth).visits.length + (c.walk maxDepth).truncated =
      c.root.toList.length + ((c.walk maxDepth).visits.map fun p => (c.below p).length).sum := by
  obtain ⟨last, hLast⟩ := walk_keeps hClosed Walking.accounts_start
    fun w x (step : Walking.Step maxDepth w x) hw => step.accounts hw
  refine ⟨fun p hp => ?_, hLast.visits_nodup, hLast.balance⟩
  exact (Vector.getElem?_eq_some_iff.mp (hLast.entered p hp)).1

/-- The count of the containers directly inside the one with a number. -/
def childCount (c : Containers ν) (n : Nat) : Nat := ((c.nodes[n]?).map (·.children.length)).getD 0

theorem length_below (p : Pending) : (c.below p).length = c.childCount p.node := by
  rw [below, childCount]
  cases c.nodes[p.node]? <;> simp

theorem length_inner (c : Containers ν) :
    c.inner.length = ((List.range c.nodes.size).map c.childCount).sum := by
  rw [inner, List.length_flatMap]
  congr 1
  refine List.ext_getElem (by simp) fun i hi hi' => ?_
  have hSize : i < c.nodes.size := by simpa using hi
  simp [childCount, hSize]

theorem sum_below_le {visits : List Pending} (hNode : ∀ p ∈ visits, p.node < c.nodes.size)
    (hNodup : (visits.map (·.node)).Nodup) :
    (visits.map fun p => (c.below p).length).sum ≤ c.inner.length := by
  have hSubset : visits.map (·.node) ⊆ List.range c.nodes.size := by
    intro n hn
    obtain ⟨p, hp, rfl⟩ := List.mem_map.mp hn
    exact List.mem_range.mpr (hNode p hp)
  obtain ⟨nodes, hPerm, hSublist⟩ := hNodup.subperm hSubset
  calc (visits.map fun p => (c.below p).length).sum
      = ((visits.map (·.node)).map c.childCount).sum := by
        simp [length_below, Function.comp_def]
    _ = (nodes.map c.childCount).sum := ((hPerm.map c.childCount).sum_eq).symm
    _ ≤ ((List.range c.nodes.size).map c.childCount).sum :=
        (hSublist.map c.childCount).sum_le_sum fun _ _ => Nat.zero_le _
    _ = c.inner.length := (length_inner c).symm

/-- The walk comes to its end, and takes no more steps than there are containers inside others, and
one for the outermost. -/
theorem walk_ends (hClosed : c.IsClosed) (maxDepth : Nat) :
    ∃ steps ≤ c.inner.length + 1, ∃ last,
      Walking.RunsFor maxDepth (Walking.start c) ⟨last, [], c.walk maxDepth⟩ steps := by
  obtain ⟨steps, last, run⟩ := exists_run_walk hClosed maxDepth
  obtain ⟨hNode, hNodup, hBalance⟩ := walk_accounts hClosed maxDepth
  have hSteps : steps ≤ (c.walk maxDepth).visits.length + (c.walk maxDepth).truncated :=
    Nat.le_trans (Nat.le_add_left steps _) run.steps_le
  have hRoot : c.root.toList.length ≤ 1 := by cases c.root <;> simp
  have hInner := sum_below_le hNode hNodup
  exact ⟨steps, by omega, last, run⟩

end Containers

end LogViewer
