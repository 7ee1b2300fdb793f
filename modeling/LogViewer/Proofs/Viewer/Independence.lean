import Mathlib
import LogViewer.Proofs.Corpus.Limits
import LogViewer.Proofs.Viewer.Cycle

/-! The two ways to the records that satisfy a query, the filter and the search, lead to the same
records. What a search for something shows depends on the corpus and the mode alone, and not on what
was filtered, searched for or gone to before. -/
namespace LogViewer

theorem Matches.indices_search {query : String} (hBlank : Query.isBlank query = false)
    (records : List Record) (onlyMatches : Bool) :
    (·.indices) <$> search query records onlyMatches = placesOf records (·.satisfies query) := by
  rw [search_of_not_blank hBlank]
  cases placesOf records (·.satisfies query) <;> rfl

/-- Searching finds the records that the filter by the same query lets through. -/
theorem Corpus.filter_eq_indices_search {query : String} (hBlank : Query.isBlank query = false)
    (c : Corpus) {range : Option TimeRange} (hOpen : range.all (·.isOpen) = true)
    (onlyMatches : Bool) :
    c.filter { range, query } =
      (·.indices) <$> Matches.search query c.records onlyMatches := by
  rw [Matches.indices_search hBlank, filter_of_isOpen hOpen hBlank]

namespace Viewer

variable {query : String}

/-- In the mode that shows matches alone a search displays the records that satisfy the query. -/
theorem view_search_of_onlyMatches (hBlank : Query.isBlank query = false) {s : Viewer}
    (hMode : s.found.onlyMatches = true) :
    (·.view) <$> s.search query = placesOf s.corpus.records (·.satisfies query) := by
  have hQuery : query ≠ "" := Query.ne_empty_of_not_blank hBlank
  rw [search_of_not_blank hBlank, Matches.search_of_not_blank hBlank, hMode]
  cases placesOf s.corpus.records (·.satisfies query) with
  | error e => rfl
  | ok places => exact congrArg Except.ok (viewOf_of_query_ne hQuery)

theorem view_applyFilter_of_missing (hBlank : Query.isBlank query = false) (s : Viewer)
    {start finish : Option String} (hStart : start.getD "" = "") (hFinish : finish.getD "" = "") :
    (·.view) <$> s.applyFilter start finish (some query) =
      (placesOf s.corpus.records (·.satisfies query)).mapError .query := by
  have hFilter := Corpus.filter_of_isOpen (f := { range := some {}, query }) rfl hBlank s.corpus
  rw [applyFilter, TimeRange.ofTexts?_of_missing hStart hFinish]
  simp only [Except.mapError, bind, Except.bind, Option.getD_some, hFilter]
  cases placesOf s.corpus.records (·.satisfies query) <;> rfl

/-- What a search brings about: the matches, the display and the place to be scrolled to. -/
def shown (s : Viewer) : Matches × List Nat × Option Nat := (s.found, s.view, s.scrollTarget)

/-- Whether two states agree on all that a search for something depends on. -/
structure Agree (s t : Viewer) : Prop where
  corpus_eq : s.corpus = t.corpus
  onlyMatches_eq : s.found.onlyMatches = t.found.onlyMatches

theorem Agree.shown_search {s t : Viewer} (h : Agree s t) (hBlank : Query.isBlank query = false) :
    shown <$> s.search query = shown <$> t.search query := by
  rw [search_of_not_blank hBlank, search_of_not_blank hBlank, h.corpus_eq, h.onlyMatches_eq]
  cases Matches.search query t.corpus.records t.found.onlyMatches with
  | error e => rfl
  | ok found =>
      have hView : s.viewOf found = t.viewOf found := by
        rw [viewOf, viewOf, h.corpus_eq]
      exact congrArg (fun view => Except.ok (found, view, found.target?)) hView

/-- For a query that says something, filter and search agree, also in whether they fail. In the
corpus, the filter with no range or an open one lets through what the search finds. In any two states
over one corpus, whatever led to them, the search in the one that shows matches alone and the filter
without bounds in the other display the same records, and two searches in the same mode bring about
the same matches, the same display and the same place to be scrolled to. -/
theorem search_agrees_with_filter (hBlank : Query.isBlank query = false) :
    (∀ (corpus : Corpus) (range : Option TimeRange) (onlyMatches : Bool),
      range.all (·.isOpen) = true →
        corpus.filter { range, query } =
          (·.indices) <$> Matches.search query corpus.records onlyMatches) ∧
    ∀ s t : Viewer, s.corpus = t.corpus →
      (s.found.onlyMatches = true → ∀ start finish : Option String,
        start.getD "" = "" → finish.getD "" = "" →
          (·.view) <$> t.applyFilter start finish (some query) =
            ((·.view) <$> s.search query).mapError .query) ∧
      (s.found.onlyMatches = t.found.onlyMatches →
        shown <$> s.search query = shown <$> t.search query) := by
  refine ⟨?_, ?_⟩
  · intro corpus range onlyMatches hOpen
    exact corpus.filter_eq_indices_search hBlank hOpen onlyMatches
  · intro s t hCorpus
    refine ⟨?_, ?_⟩
    · intro hMode start finish hStart hFinish
      rw [view_applyFilter_of_missing hBlank t hStart hFinish,
        view_search_of_onlyMatches hBlank hMode, hCorpus]
    · intro hMode
      exact Agree.shown_search ⟨hCorpus, hMode⟩ hBlank

/-- After a search for an `m` the entry with a `b` is found in both ways. -/
theorem search_agrees_with_filter_searchedBoth :
    Query.isBlank "b" = false ∧
      Sample.corpus.filter { range := some {}, query := "b" } = .ok [1] ∧
      Sample.searched.toggleOnlyMatches.found.onlyMatches = true ∧
      (·.view) <$> Sample.searchedBoth.applyFilter none (some "") (some "b") = .ok [1] ∧
      shown <$> Sample.searchedBoth.search "b" = .ok (Sample.found, [0, 1], some 1) := by
  have hBlank : Query.isBlank "b" = false := by decide
  have hMode : Sample.searched.toggleOnlyMatches.found.onlyMatches = true := by decide
  obtain ⟨hFilter, hStates⟩ := search_agrees_with_filter hBlank
  have hAlone := (hStates Sample.searched.toggleOnlyMatches Sample.searchedBoth rfl).1 hMode
  have hSame := (hStates Sample.searchedBoth (({} : Viewer).load Sample.corpus) rfl).2 rfl
  have hPlaces : placesOf Sample.searched.toggleOnlyMatches.corpus.records (·.satisfies "b") =
      .ok [1] := Sample.placesOf_b
  refine ⟨hBlank, ?_, hMode, ?_, ?_⟩
  · rw [hFilter Sample.corpus (some {}) false rfl, Sample.search_corpus]
    rfl
  · rw [hAlone none (some "") rfl rfl, view_search_of_onlyMatches hBlank hMode, hPlaces]
    rfl
  · rw [hSame, Sample.search_loaded]
    rfl

end Viewer

end LogViewer
