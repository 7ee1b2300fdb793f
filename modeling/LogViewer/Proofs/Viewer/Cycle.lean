import Mathlib
import LogViewer.Proofs.Viewer.Search

/-! Moves from one match to another. The matches stand in a ring: steps forward add up modulo their
number, a step forward and a step back cancel, and a match may be gone to by its number. Only the
current match changes in this, and it is selected after every step. -/
namespace LogViewer

theorem back_after_forward {k n : Nat} (h : k < n) : ((k + 1) % n + (n - 1)) % n = k := by
  have hTurn : k + 1 + (n - 1) = k + n := by omega
  rw [Nat.mod_add_mod, hTurn, Nat.add_mod_right, Nat.mod_eq_of_lt h]

theorem forward_after_back {k n : Nat} (h : k < n) : ((k + (n - 1)) % n + 1) % n = k := by
  have hTurn : k + (n - 1) + 1 = k + n := by omega
  rw [Nat.mod_add_mod, hTurn, Nat.add_mod_right, Nat.mod_eq_of_lt h]

namespace Viewer

variable {s : Viewer} {m : Matches} {k : Nat}

-- The matches are given as those of some `m` with another one current, so that a step may be taken
-- from where the last one has led.
theorem nextMatch_eq (hFound : s.found = { m with current := some k }) (hSome : m.indices ≠ []) :
    s.nextMatch = s.focus { m with current := some ((k + 1) % m.count) } s.view := by
  unfold nextMatch Matches.next?
  rw [hFound]
  simp [hSome, moveTo, Matches.count]

theorem previousMatch_eq (hFound : s.found = { m with current := some k }) (hSome : m.indices ≠ []) :
    s.previousMatch =
      s.focus { m with current := some ((k + (m.count - 1)) % m.count) } s.view := by
  unfold previousMatch Matches.previous?
  rw [hFound]
  simp [hSome, moveTo, Matches.count]

theorem found_nextMatch (hFound : s.found = { m with current := some k }) (hSome : m.indices ≠ []) :
    s.nextMatch.found = { m with current := some ((k + 1) % m.count) } := by
  rw [nextMatch_eq hFound hSome]
  rfl

theorem found_previousMatch (hFound : s.found = { m with current := some k })
    (hSome : m.indices ≠ []) :
    s.previousMatch.found = { m with current := some ((k + (m.count - 1)) % m.count) } := by
  rw [previousMatch_eq hFound hSome]
  rfl

theorem goToMatch_eq {number : Int} (h : 1 ≤ number ∧ number ≤ s.found.count) :
    s.goToMatch number = s.focus { s.found with current := some (number - 1).toNat } s.view := by
  unfold goToMatch Matches.goTo?
  rw [if_pos h, moveTo]

theorem goToMatch_of_outside {number : Int} (h : ¬(1 ≤ number ∧ number ≤ s.found.count)) :
    s.goToMatch number = s := by
  unfold goToMatch Matches.goTo?
  rw [if_neg h, moveTo]

/-- Without matches no move leads anywhere. -/
theorem moves_of_no_matches (hNone : s.found.indices = []) :
    s.nextMatch = s ∧ s.previousMatch = s ∧ ∀ number, s.goToMatch number = s := by
  have hNext : s.found.next? = none := by
    unfold Matches.next?
    simp [hNone]
  have hPrevious : s.found.previous? = none := by
    unfold Matches.previous?
    simp [hNone]
  refine ⟨by rw [nextMatch, hNext, moveTo], by rw [previousMatch, hPrevious, moveTo], ?_⟩
  intro number
  apply goToMatch_of_outside
  have hCount : s.found.count = 0 := congrArg List.length hNone
  rw [hCount]
  omega

/-- Steps forward add up. -/
theorem found_iterate_nextMatch (hFound : s.found = { m with current := some k })
    (hRank : k < m.count) (j : Nat) :
    (nextMatch^[j] s).found = { m with current := some ((k + j) % m.count) } := by
  have hSome : m.indices ≠ [] := List.ne_nil_of_length_pos (Nat.zero_lt_of_lt hRank)
  induction j with
  | zero => rw [Function.iterate_zero_apply, Nat.add_zero, Nat.mod_eq_of_lt hRank, hFound]
  | succ j ih =>
      rw [Function.iterate_succ_apply', found_nextMatch ih hSome, Nat.mod_add_mod, Nat.add_assoc]

theorem found_previousMatch_nextMatch (hFound : s.found = { m with current := some k })
    (hRank : k < m.count) : s.nextMatch.previousMatch.found = s.found := by
  have hSome : m.indices ≠ [] := List.ne_nil_of_length_pos (Nat.zero_lt_of_lt hRank)
  rw [found_previousMatch (found_nextMatch hFound hSome) hSome, back_after_forward hRank, hFound]

theorem found_nextMatch_previousMatch (hFound : s.found = { m with current := some k })
    (hRank : k < m.count) : s.previousMatch.nextMatch.found = s.found := by
  have hSome : m.indices ≠ [] := List.ne_nil_of_length_pos (Nat.zero_lt_of_lt hRank)
  rw [found_nextMatch (found_previousMatch hFound hSome) hSome, forward_after_back hRank, hFound]

/-- Whether the current match is selected. -/
def SelectsCurrent (s : Viewer) : Prop :=
  ∃ position index, s.found.current = some position ∧ s.found.indices[position]? = some index ∧
    index < s.corpus.size ∧ s.selected = some (.member index)

theorem Consistent.selectsCurrent_focus {s : Viewer} (hs : Consistent s) {k : Nat}
    (hRank : k < s.found.count) :
    (s.focus { s.found with current := some k } s.view).SelectsCurrent := by
  obtain ⟨index, hIndex⟩ : ∃ index, s.found.indices[k]? = some index :=
    ⟨_, List.getElem?_eq_getElem hRank⟩
  have hSmall := hs.found_fits.arePlaces.lt_length index (List.mem_of_getElem? hIndex)
  have hCurrent : Matches.currentRecord? { s.found with current := some k } = some index := hIndex
  exact ⟨k, index, rfl, hIndex, hSmall, selected_focus hCurrent⟩

/-- In every state that is reached the matches stand in a ring: after `j` steps forward the match
`j` places further on is current, counted in the ring, and a step in either direction takes back one
in the other. A match is gone to by its number. Each of these moves selects the match that is then
current; other numbers, and moves among no matches, change nothing. -/
theorem cycle_of_reachable {s : Viewer} (hReachable : Reachable s) :
    (s.found.indices = [] →
      s.nextMatch = s ∧ s.previousMatch = s ∧ ∀ number, s.goToMatch number = s) ∧
    (s.found.indices ≠ [] → ∃ k, s.found.current = some k ∧ k < s.found.count ∧
      (∀ j, (nextMatch^[j] s).found =
        { s.found with current := some ((k + j) % s.found.count) }) ∧
      (nextMatch^[s.found.count] s).found = s.found ∧
      s.nextMatch.previousMatch.found = s.found ∧ s.previousMatch.nextMatch.found = s.found ∧
      s.nextMatch.SelectsCurrent ∧ s.previousMatch.SelectsCurrent) ∧
    ∀ number : Int,
      if 1 ≤ number ∧ number ≤ s.found.count then
        (s.goToMatch number).found = { s.found with current := some (number - 1).toNat } ∧
          (s.goToMatch number).SelectsCurrent
      else s.goToMatch number = s := by
  have hs := hReachable.consistent
  refine ⟨moves_of_no_matches, ?_, ?_⟩
  · intro hSome
    have hCurrent : s.found.current ≠ none := mt hs.found_fits.current_eq_none_iff.mp hSome
    obtain ⟨k, hk⟩ := Option.ne_none_iff_exists'.mp hCurrent
    have hRank : k < s.found.count := hs.found_fits.current_lt k hk
    have hPos : 0 < s.found.count := Nat.zero_lt_of_lt hRank
    have hFound : s.found = { s.found with current := some k } := by rw [← hk]
    have hTurn : (nextMatch^[s.found.count] s).found = s.found := by
      rw [found_iterate_nextMatch hFound hRank, Nat.add_mod_right, Nat.mod_eq_of_lt hRank, ← hFound]
    refine ⟨k, hk, hRank, found_iterate_nextMatch hFound hRank, hTurn,
      found_previousMatch_nextMatch hFound hRank, found_nextMatch_previousMatch hFound hRank, ?_, ?_⟩
    · rw [nextMatch_eq hFound hSome]
      exact hs.selectsCurrent_focus (Nat.mod_lt _ hPos)
    · rw [previousMatch_eq hFound hSome]
      exact hs.selectsCurrent_focus (Nat.mod_lt _ hPos)
  · intro number
    split
    · rename_i hInside
      have hRank : (number - 1).toNat < s.found.count := by omega
      rw [goToMatch_eq hInside]
      exact ⟨rfl, hs.selectsCurrent_focus hRank⟩
    · rename_i hOutside
      exact goToMatch_of_outside hOutside

namespace Sample

/-- The state after the document was loaded and searched for an `m`, which both entries have. -/
def searchedBoth : Viewer :=
  { (({} : Viewer).load corpus) with filter := { query := "m" } }.focus
    { indices := [0, 1], current := some 0, query := "m" } [0, 1]

theorem placesOf_m : placesOf corpus.records (·.satisfies "m") = .ok [0, 1] := by
  have hFirst : first.satisfies "m" = .ok true := by
    unfold first
    cbv
  have hSecond : second.satisfies "m" = .ok true := by
    unfold second
    cbv
  simp only [placesOf, corpus, List.zipIdx_cons, List.zipIdx_nil, List.filterM, List.filterAuxM,
    hFirst, hSecond]
  rfl

theorem reachable_searchedBoth : Reachable searchedBoth := by
  have hBlank : Query.isBlank "m" = false := by decide
  have hRecords : (({} : Viewer).load corpus).corpus.records = corpus.records := rfl
  have hSearch : (({} : Viewer).load corpus).search "m" = .ok searchedBoth := by
    rw [search_of_not_blank hBlank, Matches.search_of_not_blank hBlank, hRecords, placesOf_m]
    rfl
  have hAfter : (({} : Viewer).load corpus).after? (.search "m") = some searchedBoth := by
    rw [after?, hSearch]
    rfl
  exact Reachable.step reachable_loaded hAfter

end Sample

theorem cycle_of_reachable_searchedBoth :
    Reachable Sample.searchedBoth ∧ Sample.searchedBoth.found.indices ≠ [] ∧
      (nextMatch^[3] Sample.searchedBoth).found.current = some 1 ∧
      Sample.searchedBoth.previousMatch.nextMatch.found = Sample.searchedBoth.found ∧
      Sample.searchedBoth.nextMatch.SelectsCurrent ∧
      (Sample.searchedBoth.goToMatch 2).found.current = some 1 ∧
      Sample.searchedBoth.goToMatch 3 = Sample.searchedBoth := by
  have hSome : Sample.searchedBoth.found.indices ≠ [] := by decide
  obtain ⟨-, hRing, hNumber⟩ := cycle_of_reachable Sample.reachable_searchedBoth
  obtain ⟨k, hk, -, hSteps, -, -, hBack, hNext, -⟩ := hRing hSome
  cases hk
  exact ⟨Sample.reachable_searchedBoth, hSome, congrArg Matches.current (hSteps 3), hBack, hNext,
    congrArg Matches.current (hNumber 2).1, hNumber 3⟩

end Viewer

end LogViewer
