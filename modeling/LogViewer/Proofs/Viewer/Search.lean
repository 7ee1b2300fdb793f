import Mathlib
import LogViewer.Proofs.Viewer.Target

/-! What is on display after a search, and after a change between all records and the matches alone.
In both cases the display is made anew together with the place that is to be scrolled to, so the two
are in step whatever came before. -/
namespace LogViewer

theorem Query.ne_empty_of_not_blank {query : String} (hBlank : isBlank query = false) :
    query ≠ "" := by
  rintro rfl
  exact absurd hBlank (by decide)

/-- A record can be put to a query that says something exactly if the query has words. -/
theorem Record.exists_satisfies_eq_ok_iff {r : Record} {query : String}
    (hBlank : Query.isBlank query = false) :
    (∃ b, r.satisfies query = .ok b) ↔ ∃ words, Query.tokens query.toList = .ok words := by
  unfold satisfies Query.evaluate
  rw [hBlank]
  cases Query.tokens query.toList with
  | error e => simp
  | ok words => simp

/-- A query that says something finds its matches among the places of the records that satisfy it. -/
theorem Matches.search_of_not_blank {query : String} (hBlank : Query.isBlank query = false)
    (records : List Record) (onlyMatches : Bool) :
    Matches.search query records onlyMatches =
      (fun indices =>
        { indices, current := if indices.isEmpty then none else some 0, onlyMatches, query }) <$>
        placesOf records (·.satisfies query) := by
  unfold Matches.search
  rw [hBlank]
  cases placesOf records (·.satisfies query) <;> rfl

namespace Viewer

/-- A search for something shows what it has found. -/
theorem search_of_not_blank {query : String} (hBlank : Query.isBlank query = false) (s : Viewer) :
    s.search query =
      (fun found => { s with filter := { s.filter with query } }.focus found (s.viewOf found)) <$>
        Matches.search query s.corpus.records s.found.onlyMatches := by
  unfold search
  rw [hBlank]
  cases Matches.search query s.corpus.records s.found.onlyMatches <;> rfl

/-- A search for something succeeds exactly if there are no records or the query has words. -/
theorem exists_search_eq_ok_iff {query : String} (hBlank : Query.isBlank query = false)
    (s : Viewer) :
    (∃ s', s.search query = .ok s') ↔
      s.corpus.records = [] ∨ ∃ words, Query.tokens query.toList = .ok words := by
  have hPlaces : (∃ s', s.search query = .ok s') ↔
      ∃ places, placesOf s.corpus.records (·.satisfies query) = .ok places := by
    rw [search_of_not_blank hBlank, Matches.search_of_not_blank hBlank]
    cases placesOf s.corpus.records (·.satisfies query) with
    | error e => simp
    | ok places => simp
  rw [hPlaces, exists_placesOf_eq_ok_iff]
  simp only [Record.exists_satisfies_eq_ok_iff hBlank]
  cases s.corpus.records with
  | nil => simp
  | cons r records =>
      constructor
      · intro h
        exact Or.inr (h r List.mem_cons_self)
      · intro h _ _
        exact h.resolve_left (List.cons_ne_nil r records)

/-- Whether the display is the list in which targets count, and what is to be scrolled to is the
place of the current match in it, if there are matches. -/
structure ShowsMatches (s : Viewer) : Prop where
  view_eq : s.view = if s.found.onlyMatches then s.found.indices else s.corpus.everything
  scrollTarget_eq_none_iff : s.scrollTarget = none ↔ s.found.indices = []
  getElem?_scrollTarget : ∀ place, s.scrollTarget = some place →
    ∃ index, s.view[place]? = some index ∧ s.found.currentRecord? = some index ∧
      index < s.corpus.size

/-- With a query at hand, the display that some matches ask for is what their mode says. -/
theorem viewOf_of_query_ne {s : Viewer} {found : Matches} (hQuery : found.query ≠ "") :
    s.viewOf found = if found.onlyMatches then found.indices else s.corpus.everything := by
  unfold viewOf
  simp [hQuery]

theorem Consistent.showsMatches {s : Viewer} (hs : Consistent s) (hView : s.view = s.listed)
    (hTarget : s.scrollTarget = s.found.target?) : s.ShowsMatches := by
  cases hCurrent : s.found.current with
  | none =>
      have hNone : s.scrollTarget = none := by
        rw [hTarget, Matches.target?, Matches.currentRecord?, hCurrent]
        simp
      have hNil : s.found.indices = [] := hs.found_fits.current_eq_none_iff.mp hCurrent
      refine ⟨hView, by simp [hNone, hNil], ?_⟩
      intro place hPlace
      rw [hNone] at hPlace
      cases hPlace
  | some k =>
      have hRank : k < s.found.indices.length := hs.found_fits.current_lt k hCurrent
      have hSome : s.found.indices ≠ [] := List.ne_nil_of_length_pos (Nat.zero_lt_of_lt hRank)
      have hIndex : s.found.indices[k]? = some s.found.indices[k] := List.getElem?_eq_getElem hRank
      have hSame : { s.found with current := some k } = s.found := by rw [← hCurrent]
      obtain ⟨hCount, hListed⟩ := hs.target?_eq hIndex
      rw [hSame, ← hTarget] at hCount
      have hMem : s.found.indices[k] ∈ s.found.indices := List.getElem_mem hRank
      have hSmall : s.found.indices[k] < s.corpus.size := hs.found_fits.arePlaces.lt_length _ hMem
      refine ⟨hView, by simp [hCount, hSome], ?_⟩
      intro place hPlace
      have hPlaceEq : s.listed.countP (· < s.found.indices[k]) = place := by
        rw [hCount] at hPlace
        exact Option.some.inj hPlace
      refine ⟨s.found.indices[k], ?_, ?_, hSmall⟩
      · rw [getElem?_eq_some_iff_countP hs.view_arePlaces.sorted, hView]
        exact ⟨hListed, hPlaceEq⟩
      · rw [Matches.currentRecord?, hCurrent]
        exact hIndex

theorem selected_focus {s : Viewer} {found : Matches} {view : List Nat} {index : Nat}
    (h : found.currentRecord? = some index) :
    (s.focus found view).selected = some (.member index) := by
  unfold focus advanceTo
  rw [h]

/-- A search for something that succeeds shows its matches, and selects the first one. -/
theorem Consistent.shows_of_search {s s' : Viewer} (hs : Consistent s) {query : String}
    (hBlank : Query.isBlank query = false) (h : s.search query = .ok s') :
    s'.ShowsMatches ∧ s'.found.query = query ∧ s'.found.onlyMatches = s.found.onlyMatches ∧
      s'.found.Fits s'.corpus.records ∧ (s'.found.indices ≠ [] → s'.ShowsCurrent) := by
  have hConsistent : Consistent s' := (change_of_search h).consistent hs
  rw [search_of_not_blank hBlank, Matches.search_of_not_blank hBlank] at h
  obtain ⟨found, hFound, rfl⟩ := map_eq_ok h
  obtain ⟨indices, -, rfl⟩ := map_eq_ok hFound
  have hQuery : query ≠ "" := Query.ne_empty_of_not_blank hBlank
  have hShows := hConsistent.showsMatches (viewOf_of_query_ne hQuery) rfl
  refine ⟨hShows, rfl, rfl, hConsistent.found_fits, fun hSome => ?_⟩
  obtain ⟨place, hPlace⟩ :=
    Option.ne_none_iff_exists'.mp (mt hShows.scrollTarget_eq_none_iff.mp hSome)
  obtain ⟨index, hView, hCurrent, -⟩ := hShows.getElem?_scrollTarget place hPlace
  exact ⟨place, index, hPlace, hView, hCurrent, selected_focus hCurrent⟩

/-- Every state that is reached shows its matches after a search for something or a change of the
mode. -/
theorem shows_after_search_or_toggle {s : Viewer} (hReachable : Reachable s) :
    (∀ query, Query.isBlank query = false →
      ((∃ s', s.search query = .ok s') ↔
        s.corpus.records = [] ∨ ∃ words, Query.tokens query.toList = .ok words) ∧
      ∀ s', s.search query = .ok s' →
        s'.ShowsMatches ∧ s'.found.query = query ∧ s'.found.onlyMatches = s.found.onlyMatches ∧
          s'.found.Fits s'.corpus.records ∧ (s'.found.indices ≠ [] → s'.ShowsCurrent)) ∧
    (s.found.query ≠ "" → s.toggleOnlyMatches.ShowsMatches) := by
  have hs := hReachable.consistent
  refine ⟨?_, ?_⟩
  · intro query hBlank
    exact ⟨exists_search_eq_ok_iff hBlank s, fun s' h => hs.shows_of_search hBlank h⟩
  · intro hQuery
    have hConsistent := (change_toggleOnlyMatches s).consistent hs
    have hToggle : s.toggleOnlyMatches =
        { s with found := s.found.toggled, view := s.viewOf s.found.toggled }.advanceTo
          s.found.toggled.target? := if_neg hQuery
    apply hConsistent.showsMatches
    · rw [hToggle]
      exact viewOf_of_query_ne hQuery
    · rw [hToggle]
      rfl

theorem shows_after_search_or_toggle_loaded :
    Query.isBlank "b" = false ∧ Sample.searched.ShowsMatches ∧ Sample.searched.ShowsCurrent ∧
      Sample.searched.found.query ≠ "" ∧ Sample.searched.toggleOnlyMatches.ShowsMatches ∧
      Sample.searched.toggleOnlyMatches.view = [1] ∧
      Sample.searched.toggleOnlyMatches.scrollTarget = some 0 := by
  have hBlank : Query.isBlank "b" = false := by decide
  have hQuery : Sample.searched.found.query ≠ "" := by decide
  have hSome : Sample.searched.found.indices ≠ [] := by decide
  have hSearch := (shows_after_search_or_toggle Sample.reachable_loaded).1 "b" hBlank
  obtain ⟨hShows, -, -, -, hCurrent⟩ := hSearch.2 Sample.searched Sample.search_loaded
  have hToggle := (shows_after_search_or_toggle Sample.reachable_searched).2 hQuery
  exact ⟨hBlank, hShows, hCurrent hSome, hQuery, hToggle, rfl, rfl⟩

end Viewer

end LogViewer
