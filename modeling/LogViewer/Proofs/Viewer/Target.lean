import Mathlib
import LogViewer.Proofs.Viewer.Reachable

/-! Where a move to another match scrolls to. The target counts places in the list of all records
or of all matches, but it is used in the records on display. The two agree as long as no filter has
come between the list and the display. -/
namespace LogViewer

/-- In a sorted list an element stands at the place that as many elements come before. -/
theorem getElem?_eq_some_iff_countP {l : List Nat} (hSorted : l.Pairwise (· < ·))
    {place i : Nat} : l[place]? = some i ↔ i ∈ l ∧ l.countP (· < i) = place := by
  induction l generalizing place with
  | nil => simp
  | cons a l ih =>
      obtain ⟨hLess, hRest⟩ := List.pairwise_cons.mp hSorted
      have hBefore : l.countP (· < a) = 0 := by
        rw [List.countP_eq_zero]
        intro b hb
        have hab := hLess b hb
        simp only [decide_eq_true_eq]
        omega
      by_cases hHead : i = a
      · subst hHead
        have hNotMem : i ∉ l := fun hMem => Nat.lt_irrefl i (hLess i hMem)
        cases place with
        | zero => simp [hBefore]
        | succ place => simp [hBefore, ih hRest, hNotMem]
      · cases place with
        | zero =>
            have hLater (hMem : i ∈ l) : a < i := hLess i hMem
            simp only [List.getElem?_cons_zero, Option.some.injEq, List.mem_cons, hHead, false_or,
              List.countP_cons]
            constructor
            · intro hEq
              exact absurd hEq.symm hHead
            · rintro ⟨hMem, hCount⟩
              simp [hLater hMem] at hCount
        | succ place =>
            have hLater (hMem : i ∈ l) : a < i := hLess i hMem
            rw [List.getElem?_cons_succ, ih hRest, List.mem_cons, List.countP_cons]
            constructor
            · rintro ⟨hMem, hCount⟩
              exact ⟨Or.inr hMem, by simp [hLater hMem, hCount]⟩
            · rintro ⟨hMem, hCount⟩
              have hMem : i ∈ l := hMem.resolve_left hHead
              simp only [hLater hMem, decide_true, if_true] at hCount
              exact ⟨hMem, by omega⟩

namespace Viewer

/-- The list in which the target of a move counts. -/
def listed (s : Viewer) : List Nat :=
  if s.found.onlyMatches then s.found.indices else s.corpus.everything

/-- Whether what is to be scrolled to is the place of the current match on display, and that match
is selected. -/
def ShowsCurrent (s : Viewer) : Prop :=
  ∃ place index, s.scrollTarget = some place ∧ s.view[place]? = some index ∧
    s.found.currentRecord? = some index ∧ s.selected = some (.member index)

/-- Whether the display is what the matches ask for, in case there are any. -/
def InStep (s : Viewer) : Prop := s.found.indices = [] ∨ s.view = s.viewOf s.found

/-- With matches at hand, the display that they ask for is the list in which targets count. -/
theorem Consistent.viewOf_eq_listed {s : Viewer} (hs : Consistent s)
    (hSome : s.found.indices ≠ []) : s.viewOf s.found = s.listed := by
  have hQuery : s.found.query ≠ "" := fun hQuery => hSome (hs.found_fits.indices_eq_nil hQuery)
  simp [viewOf, listed, hQuery]

/-- A move to the match of rank `k` has the place of this match in the list as its target. -/
theorem Consistent.target?_eq {s : Viewer} (hs : Consistent s) {k index : Nat}
    (hIndex : s.found.indices[k]? = some index) :
    Matches.target? { s.found with current := some k } =
      some (s.listed.countP (· < index)) ∧ index ∈ s.listed := by
  have hMem : index ∈ s.found.indices := List.mem_of_getElem? hIndex
  unfold Matches.target? listed
  cases hMode : s.found.onlyMatches with
  | true =>
      have hCount := (getElem?_eq_some_iff_countP hs.found_fits.arePlaces.sorted).mp hIndex
      simp [hCount.2, hMem]
  | false =>
      have hSmall : index < s.corpus.size := hs.found_fits.arePlaces.lt_length index hMem
      have hPlace : s.corpus.everything[index]? = some index := by
        simp [Corpus.everything, hSmall]
      have hCount :=
        (getElem?_eq_some_iff_countP (arePlaces_everything s.corpus).sorted).mp hPlace
      simp [Matches.currentRecord?, hIndex, hCount.2, hCount.1]

/-- What a move to the match of rank `k` does. -/
theorem Consistent.focus_eq {s : Viewer} (hs : Consistent s) {k index : Nat}
    (hIndex : s.found.indices[k]? = some index) :
    s.focus { s.found with current := some k } s.view =
      { s with
        found := { s.found with current := some k }
        selected := some (.member index) }.advanceTo (some (s.listed.countP (· < index))) := by
  unfold focus
  rw [(hs.target?_eq hIndex).1]
  simp [Matches.currentRecord?, hIndex]

/-- A move shows the current match exactly if this match is on display and the display has as many
records before it as the list in which targets count. -/
theorem Consistent.showsCurrent_focus_iff {s : Viewer} (hs : Consistent s) {k index : Nat}
    (hIndex : s.found.indices[k]? = some index) :
    (s.focus { s.found with current := some k } s.view).ShowsCurrent ↔
      index ∈ s.view ∧ s.view.countP (· < index) = s.listed.countP (· < index) := by
  rw [hs.focus_eq hIndex, ← getElem?_eq_some_iff_countP hs.view_arePlaces.sorted]
  constructor
  · rintro ⟨place, i, hPlace, hView, hCurrent, -⟩
    have hi : index = i := by simpa [advanceTo, Matches.currentRecord?, hIndex] using hCurrent
    subst hi
    cases hPlace
    exact hView
  · intro hView
    exact ⟨_, index, rfl, hView, by simp [advanceTo, Matches.currentRecord?, hIndex], rfl⟩

/-- In step, a move shows the current match. -/
theorem Consistent.showsCurrent_focus {s : Viewer} (hs : Consistent s) (hStep : s.InStep)
    {k index : Nat} (hIndex : s.found.indices[k]? = some index) :
    (s.focus { s.found with current := some k } s.view).ShowsCurrent := by
  have hMem : index ∈ s.found.indices := List.mem_of_getElem? hIndex
  have hSome : s.found.indices ≠ [] := List.ne_nil_of_mem hMem
  have hView : s.view = s.listed := by
    rw [← hs.viewOf_eq_listed hSome]
    exact hStep.resolve_left hSome
  rw [hs.showsCurrent_focus_iff hIndex, hView]
  exact ⟨(hs.target?_eq hIndex).2, rfl⟩

/-- Only a filter brings display and matches out of step; a load, a search, a change of the mode and
a reset bring them into step again. -/
theorem Change.inStep {s s' : Viewer} {request : Request} (h : Change s request s')
    (hs : Consistent s) :
    match request with
    | .applyFilter .. => True
    | .load _ | .search _ | .toggleOnlyMatches | .resetFilter => s'.InStep
    | _ => s.InStep → s'.InStep := by
  cases h with
  | load corpus => exact Or.inl rfl
  | applyFilter => trivial
  | clear => exact Or.inl rfl
  | find => exact Or.inr rfl
  | toggleNothing hQuery => exact Or.inl (hs.found_fits.indices_eq_nil hQuery)
  | toggle => exact Or.inr rfl
  | reset => exact Or.inl rfl
  | select => exact id
  | stay hMove =>
      cases request with
      | nextMatch => exact id
      | previousMatch => exact id
      | goToMatch => exact id
      | _ => exact absurd hMove id
  | move hMove hRank =>
      cases request with
      | nextMatch => exact id
      | previousMatch => exact id
      | goToMatch => exact id
      | _ => exact absurd hMove id

/-- A move that leads to a new state selects the match that is then current. It scrolls to this
match exactly if the match is on display with as many records before it as in the list of all
records or, if only matches are shown, of the matches; so it always does while no filter has come
since the last load, search, change of the mode or reset. -/
theorem showsCurrent_of_move_iff {s s' : Viewer} {request : Request} (hReachable : Reachable s)
    (hMove : request.IsMove) (hAfter : s.after? request = some s') (hNew : s' ≠ s) :
    ∃ index, s'.found.currentRecord? = some index ∧ s'.selected = some (.member index) ∧
      index < s'.corpus.size ∧
      (s'.ShowsCurrent ↔
        index ∈ s.view ∧ s.view.countP (· < index) =
          (if s.found.onlyMatches then s.found.indices
            else s.corpus.everything).countP (· < index)) ∧
      (s.InStep → s'.ShowsCurrent) := by
  have hs := hReachable.consistent
  have hMoved : ∃ k, k < s.found.indices.length ∧
      s' = s.focus { s.found with current := some k } s.view := by
    cases change_of_after? hAfter with
    | stay => exact absurd rfl hNew
    | move _ hRank => exact ⟨_, hRank, rfl⟩
    | _ => exact absurd hMove id
  obtain ⟨k, hRank, rfl⟩ := hMoved
  have hIndex : s.found.indices[k]? = some s.found.indices[k] := List.getElem?_eq_getElem hRank
  refine ⟨s.found.indices[k], ?_, ?_, ?_, hs.showsCurrent_focus_iff hIndex,
    fun hStep => hs.showsCurrent_focus hStep hIndex⟩
  · exact hIndex
  · rw [hs.focus_eq hIndex]
    rfl
  · exact hs.found_fits.arePlaces.lt_length _ (List.getElem_mem hRank)

namespace Sample

/-- The state after the first entry was filtered out, too. -/
def filtered : Viewer :=
  { searched with
    filter := { range := some { start := some ⟨"1970-01-02", 86400000⟩ } }
    view := [1] }.advance

theorem filter_searched :
    searched.after? (.applyFilter (some "1970-01-02") none (some "")) = some filtered := by
  cbv

theorem reachable_filtered : Reachable filtered := Reachable.step reachable_searched filter_searched

end Sample

theorem showsCurrent_of_move_searched :
    Sample.searched.nextMatch ≠ Sample.searched ∧ Sample.searched.nextMatch.ShowsCurrent := by
  have hNew : Sample.searched.nextMatch ≠ Sample.searched := by
    intro hSame
    exact absurd (congrArg Viewer.version hSame) (by decide)
  have hMove : Request.nextMatch.IsMove := trivial
  obtain ⟨index, -, -, -, -, hShows⟩ :=
    showsCurrent_of_move_iff Sample.reachable_searched hMove rfl hNew
  exact ⟨hNew, hShows (Or.inr rfl)⟩

/-- Out of step a move need not show the match: here a filter has left the match alone on display,
and the move asks for place one in a display that ends at place nought. -/
theorem move_scrolls_past_view :
    (∃ progress, LogViewer.load {} (Document.ofJson Sample.document) "" =
      .ok ⟨Sample.corpus, progress⟩) ∧
    Reachable Sample.filtered ∧ Sample.filtered.nextMatch ≠ Sample.filtered ∧
    Sample.filtered.nextMatch.selected = some (.member 1) ∧
    Sample.filtered.nextMatch.view = [1] ∧ Sample.filtered.nextMatch.scrollTarget = some 1 ∧
    ¬Sample.filtered.nextMatch.ShowsCurrent := by
  refine ⟨⟨_, Sample.load_document⟩, Sample.reachable_filtered, ?_, rfl, rfl, rfl, ?_⟩
  · intro hSame
    exact absurd (congrArg Viewer.version hSame) (by decide)
  · rintro ⟨place, index, hPlace, hView, -, -⟩
    cases hPlace
    cases hView

end Viewer

end LogViewer
