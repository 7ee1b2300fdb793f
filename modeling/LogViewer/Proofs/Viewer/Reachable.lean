import Mathlib
import LogViewer.Corpus.Load
import LogViewer.Viewer
import LogViewer.Proofs.Corpus.Places

/-! The states of a viewer that requests lead to, and what holds in each of them: the records on
display and the matches are places in the corpus of that very state, whatever came before. -/
namespace LogViewer

/-- What a viewer can be asked for. -/
inductive Request where
  | load (corpus : Corpus)
  | applyFilter (start finish query : Option String)
  | search (query : String)
  | nextMatch
  | previousMatch
  | goToMatch (number : Int)
  | toggleOnlyMatches
  | resetFilter
  | select (selected : Option Selection)

/-- Whether a request is a move from one match to another. -/
def Request.IsMove : Request → Prop
  | nextMatch | previousMatch | goToMatch _ => True
  | _ => False

/-- Whether a request brings another corpus. -/
def Request.IsLoad : Request → Prop
  | load _ => True
  | _ => False

namespace Viewer

/-- The state after a request, unless the request fails. -/
def after? (s : Viewer) : Request → Option Viewer
  | .load corpus => some (s.load corpus)
  | .applyFilter start finish query => (s.applyFilter start finish query).toOption
  | .search query => (s.search query).toOption
  | .nextMatch => some s.nextMatch
  | .previousMatch => some s.previousMatch
  | .goToMatch number => some (s.goToMatch number)
  | .toggleOnlyMatches => some s.toggleOnlyMatches
  | .resetFilter => some s.resetFilter
  | .select selected => some (s.select selected)

/-- The states that finitely many requests lead to from the first one. -/
inductive Reachable : Viewer → Prop where
  | initial : Reachable {}
  | step {s s' : Viewer} {request : Request}
      (prior : Reachable s) (last : s.after? request = some s') : Reachable s'

end Viewer

/-- No record satisfies a query that says nothing. -/
theorem Record.satisfies_empty (r : Record) : r.satisfies "" = .ok false := by
  have hBlank : Query.isBlank "" = true := by decide
  rw [satisfies, Query.evaluate, hBlank]
  rfl

/-- Matches that are those of their query among some records, with one of them current if there are
any. -/
structure Matches.Fits (m : Matches) (records : List Record) : Prop where
  arePlaces : ArePlaces m.indices records
  mem_iff : ∀ i, i ∈ m.indices ↔
    ∃ r, records[i]? = some r ∧ r.satisfies m.query = .ok true
  current_eq_none_iff : m.current = none ↔ m.indices = []
  current_lt : ∀ k, m.current = some k → k < m.indices.length

namespace Matches

/-- No matches are those of no query, in whichever mode. -/
theorem fits_empty (onlyMatches : Bool) (records : List Record) :
    Fits { onlyMatches } records where
  arePlaces := arePlaces_nil records
  mem_iff i := by simp [Record.satisfies_empty]
  current_eq_none_iff := by simp
  current_lt := by simp

theorem fits_of_search {query : String} {records : List Record} {onlyMatches : Bool} {m : Matches}
    (h : search query records onlyMatches = .ok m) : m.Fits records := by
  unfold search at h
  split at h
  · cases h
    exact fits_empty onlyMatches records
  · obtain ⟨indices, hPlaces, h⟩ := bind_eq_ok h
    cases h
    obtain ⟨hArePlaces, hMem⟩ := placesOf_eq_ok hPlaces
    refine ⟨hArePlaces, hMem, ?_, ?_⟩
    · cases indices <;> simp
    · cases indices <;> simp

/-- Which match is current may change freely among those that there are. -/
theorem Fits.withCurrent {m : Matches} {records : List Record} (h : m.Fits records) {k : Nat}
    (hRank : k < m.indices.length) : Fits { m with current := some k } records where
  arePlaces := h.arePlaces
  mem_iff := h.mem_iff
  current_eq_none_iff := by
    have hNil : m.indices ≠ [] := List.ne_nil_of_length_pos (Nat.zero_lt_of_lt hRank)
    simp [hNil]
  current_lt := by
    intro _ hCurrent
    cases hCurrent
    exact hRank

/-- Without a query there are no matches. -/
theorem Fits.indices_eq_nil {m : Matches} {records : List Record} (h : m.Fits records)
    (hQuery : m.query = "") : m.indices = [] := by
  rw [List.eq_nil_iff_forall_not_mem]
  intro i hi
  obtain ⟨r, -, hPasses⟩ := (h.mem_iff i).mp hi
  rw [hQuery, Record.satisfies_empty] at hPasses
  cases hPasses

theorem Fits.toggled {m : Matches} {records : List Record} (h : m.Fits records) :
    m.toggled.Fits records :=
  ⟨h.arePlaces, h.mem_iff, h.current_eq_none_iff, h.current_lt⟩

/-- Whether one state of the matches comes from another by making some match current. -/
def IsMove (m moved : Matches) : Prop :=
  ∃ k, k < m.indices.length ∧ moved = { m with current := some k }

theorem isMove_next? {m moved : Matches} (h : m.next? = some moved) : m.IsMove moved := by
  unfold next? at h
  split at h
  · cases h
  · rename_i hSome
    have hPos : 0 < m.indices.length := List.length_pos_iff.mpr (by simpa using hSome)
    refine ⟨_, ?_, (Option.some.inj h).symm⟩
    split
    · exact hPos
    · exact Nat.mod_lt _ hPos

theorem isMove_previous? {m moved : Matches} (h : m.previous? = some moved) :
    m.IsMove moved := by
  unfold previous? at h
  split at h
  · cases h
  · rename_i hSome
    have hPos : 0 < m.indices.length := List.length_pos_iff.mpr (by simpa using hSome)
    exact ⟨_, Nat.mod_lt _ hPos, (Option.some.inj h).symm⟩

theorem isMove_goTo? {m moved : Matches} {number : Int} (h : m.goTo? number = some moved) :
    m.IsMove moved := by
  unfold goTo? at h
  split at h
  · rename_i hNumber
    refine ⟨_, ?_, (Option.some.inj h).symm⟩
    have hCount : (m.count : Int) = m.indices.length := rfl
    omega
  · cases h

end Matches

namespace Viewer

/-- What holds in every state: the display and the matches are about the corpus of that state. -/
structure Consistent (s : Viewer) : Prop where
  view_arePlaces : ArePlaces s.view s.corpus.records
  found_fits : s.found.Fits s.corpus.records

theorem consistent_initial : Consistent {} :=
  ⟨arePlaces_nil [], Matches.fits_empty false []⟩

theorem arePlaces_viewOf {s : Viewer} {found : Matches} (h : found.Fits s.corpus.records) :
    ArePlaces (s.viewOf found) s.corpus.records := by
  unfold viewOf
  split
  · exact h.arePlaces
  · exact arePlaces_everything s.corpus

/-- What a request makes of a state when it is answered, with what is known then. -/
inductive Change (s : Viewer) : Request → Viewer → Prop where
  | load (corpus : Corpus) : Change s (.load corpus) (s.load corpus)
  | applyFilter {start finish query : Option String} {range : TimeRange} {view : List Nat}
      (hRange : TimeRange.ofTexts? start finish = .ok range)
      (hView : s.corpus.filter { range := some range, query := query.getD s.filter.query } =
        .ok view) :
      Change s (.applyFilter start finish query)
        { s with
          filter := { range := some range, query := query.getD s.filter.query }, view }.advance
  | clear {query : String} {view : List Nat} (hBlank : Query.isBlank query = true)
      (hView : s.corpus.filter { s.filter with query } = .ok view) :
      Change s (.search query)
        { s with
          filter := { s.filter with query }
          found := { onlyMatches := s.found.onlyMatches }
          view }.advance
  | find {query : String} {found : Matches} (hBlank : Query.isBlank query = false)
      (hFound : Matches.search query s.corpus.records s.found.onlyMatches = .ok found) :
      Change s (.search query)
        ({ s with filter := { s.filter with query } }.focus found (s.viewOf found))
  | stay {request : Request} (hMove : request.IsMove) : Change s request s
  | move {request : Request} {k : Nat} (hMove : request.IsMove)
      (hRank : k < s.found.indices.length) :
      Change s request (s.focus { s.found with current := some k } s.view)
  | toggleNothing (hQuery : s.found.query = "") :
      Change s .toggleOnlyMatches { s with found := s.found.toggled }.advance
  | toggle (hQuery : s.found.query ≠ "") :
      Change s .toggleOnlyMatches
        ({ s with found := s.found.toggled, view := s.viewOf s.found.toggled }.advanceTo
          s.found.toggled.target?)
  | reset : Change s .resetFilter s.resetFilter
  | select (selected : Option Selection) : Change s (.select selected) (s.select selected)

theorem change_of_applyFilter {s s' : Viewer} {start finish query : Option String}
    (h : s.applyFilter start finish query = .ok s') :
    Change s (.applyFilter start finish query) s' := by
  obtain ⟨range, hRange, h⟩ := bind_eq_ok h
  obtain ⟨view, hView, h⟩ := bind_eq_ok h
  cases h
  exact Change.applyFilter (mapError_eq_ok hRange) (mapError_eq_ok hView)

theorem change_of_search {s s' : Viewer} {query : String} (h : s.search query = .ok s') :
    Change s (.search query) s' := by
  unfold search at h
  cases hBlank : Query.isBlank query with
  | true =>
      rw [hBlank] at h
      obtain ⟨view, hView, h⟩ := bind_eq_ok h
      cases h
      exact Change.clear hBlank hView
  | false =>
      rw [hBlank] at h
      obtain ⟨found, hFound, h⟩ := bind_eq_ok h
      cases h
      exact Change.find hBlank hFound

theorem change_moveTo {s : Viewer} {request : Request} {found? : Option Matches}
    (hMove : request.IsMove) (hFound : ∀ found, found? = some found → s.found.IsMove found) :
    Change s request (s.moveTo found?) := by
  cases found? with
  | none => exact Change.stay hMove
  | some found =>
      obtain ⟨k, hRank, rfl⟩ := hFound found rfl
      exact Change.move hMove hRank

theorem change_toggleOnlyMatches (s : Viewer) : Change s .toggleOnlyMatches s.toggleOnlyMatches := by
  unfold toggleOnlyMatches
  by_cases hQuery : s.found.query = ""
  · have hToggled : s.found.toggled.query = "" := hQuery
    simp only [if_pos hToggled]
    exact Change.toggleNothing hQuery
  · have hToggled : ¬s.found.toggled.query = "" := hQuery
    simp only [if_neg hToggled]
    exact Change.toggle hQuery

theorem change_of_after? {s s' : Viewer} {request : Request} (h : s.after? request = some s') :
    Change s request s' := by
  cases request with
  | applyFilter start finish query => exact change_of_applyFilter (toOption_eq_some.mp h)
  | search query => exact change_of_search (toOption_eq_some.mp h)
  | load corpus =>
      cases h
      exact Change.load corpus
  | nextMatch =>
      cases h
      exact change_moveTo trivial fun _ => Matches.isMove_next?
  | previousMatch =>
      cases h
      exact change_moveTo trivial fun _ => Matches.isMove_previous?
  | goToMatch number =>
      cases h
      exact change_moveTo trivial fun _ => Matches.isMove_goTo?
  | toggleOnlyMatches =>
      cases h
      exact change_toggleOnlyMatches s
  | resetFilter =>
      cases h
      exact Change.reset
  | select selected =>
      cases h
      exact Change.select selected

/-- A request that is answered leaves the state as it is or raises the version by one. -/
theorem Change.version {s s' : Viewer} {request : Request} (h : Change s request s') :
    s' = s ∨ s'.version = s.version + 1 := by
  cases h with
  | stay => exact Or.inl rfl
  | _ => exact Or.inr rfl

/-- No request but that for another corpus changes the corpus. -/
theorem Change.corpus {s s' : Viewer} {request : Request} (h : Change s request s')
    (hKeep : ¬request.IsLoad) : s'.corpus = s.corpus := by
  cases h with
  | load => exact absurd trivial hKeep
  | _ => rfl

/-- Every request that is answered keeps display and matches in agreement with the corpus. -/
theorem Change.consistent {s s' : Viewer} {request : Request} (h : Change s request s')
    (hs : Consistent s) : Consistent s' := by
  cases h with
  | load corpus => exact ⟨arePlaces_everything corpus, Matches.fits_empty false corpus.records⟩
  | applyFilter hRange hView => exact ⟨(placesOf_eq_ok hView).1, hs.found_fits⟩
  | clear hBlank hView => exact ⟨(placesOf_eq_ok hView).1, Matches.fits_empty _ _⟩
  | find hBlank hFound =>
      have hFits := Matches.fits_of_search hFound
      exact ⟨arePlaces_viewOf hFits, hFits⟩
  | stay => exact hs
  | move hMove hRank => exact ⟨hs.view_arePlaces, hs.found_fits.withCurrent hRank⟩
  | toggleNothing => exact ⟨hs.view_arePlaces, hs.found_fits.toggled⟩
  | toggle => exact ⟨arePlaces_viewOf hs.found_fits.toggled, hs.found_fits.toggled⟩
  | reset => exact ⟨arePlaces_everything s.corpus, Matches.fits_empty _ _⟩
  | select => exact ⟨hs.view_arePlaces, hs.found_fits⟩

theorem Reachable.consistent {s : Viewer} (h : Reachable s) : Consistent s := by
  induction h with
  | initial => exact consistent_initial
  | step prior last ih => exact (change_of_after? last).consistent ih

/-- After any requests whatever, the display is a part of the corpus in order, the matches are in
order and are those of their query in that corpus, and exactly if there are any one of them is
current. From such a state every answered request goes on to one with the next version, or to none
other, and only a load changes the corpus. -/
theorem invariant_of_reachable {s : Viewer} (hReachable : Reachable s) :
    (s.view.Pairwise (· < ·) ∧ ∀ i ∈ s.view, i < s.corpus.size) ∧
    (s.found.indices.Pairwise (· < ·) ∧
      (∀ i, i ∈ s.found.indices ↔
        ∃ r, s.corpus.records[i]? = some r ∧
          Query.evaluate s.found.query r.searchable = .ok true) ∧
      (s.found.query = "" → s.found.indices = [])) ∧
    ((s.found.current = none ↔ s.found.indices = []) ∧
      ∀ k, s.found.current = some k → k < s.found.indices.length) ∧
    ∀ request s', s.after? request = some s' →
      (s' = s ∨ s'.version = s.version + 1) ∧ (¬request.IsLoad → s'.corpus = s.corpus) := by
  obtain ⟨hView, hFits⟩ := hReachable.consistent
  refine ⟨⟨hView.sorted, hView.lt_length⟩,
    ⟨hFits.arePlaces.sorted, hFits.mem_iff, hFits.indices_eq_nil⟩,
    ⟨hFits.current_eq_none_iff, hFits.current_lt⟩, ?_⟩
  intro request s' h
  have hChange := change_of_after? h
  exact ⟨hChange.version, hChange.corpus⟩

namespace Sample

def document : Json :=
  .array [
    .object [("date", .string "1970-01-01"), ("m", .string "a")],
    .object [("date", .string "1970-01-02"), ("m", .string "b")]]

def first : Record where
  timestamp := "1970-01-01"
  format := .unstructured
  instant := 0
  attributes := fun
    | .path => some "0"
    | _ => none
  fields := [("date", .string "1970-01-01"), ("m", .string "a")]

def second : Record where
  timestamp := "1970-01-02"
  format := .unstructured
  instant := 86400000
  attributes := fun
    | .path => some "1"
    | _ => none
  fields := [("date", .string "1970-01-02"), ("m", .string "b")]

def corpus : Corpus where
  records := [first, second]
  tally := { totalHits := 2, parsed := 2 }

theorem load_document :
    LogViewer.load {} (Document.ofJson document) "" = .ok ⟨corpus, [⟨1, 1⟩]⟩ := by
  unfold corpus first second
  cbv

theorem first_satisfies : first.satisfies "b" = .ok false := by
  unfold first
  cbv

theorem second_satisfies : second.satisfies "b" = .ok true := by
  unfold second
  cbv

def found : Matches where
  indices := [1]
  current := some 0
  query := "b"

/-- The state after the document was loaded and searched for a `b`. -/
def searched : Viewer :=
  { (({} : Viewer).load corpus) with filter := { query := "b" } }.focus found [0, 1]

theorem placesOf_b : placesOf corpus.records (·.satisfies "b") = .ok [1] := by
  simp only [placesOf, corpus, List.zipIdx_cons, List.zipIdx_nil, List.filterM, List.filterAuxM,
    first_satisfies, second_satisfies]
  rfl

theorem search_corpus : Matches.search "b" corpus.records false = .ok found := by
  have hBlank : Query.isBlank "b" = false := by decide
  rw [Matches.search, hBlank, placesOf_b]
  rfl

theorem reachable_loaded : Reachable (({} : Viewer).load corpus) := by
  have hLoad : ({} : Viewer).after? (.load corpus) = some (({} : Viewer).load corpus) := rfl
  exact Reachable.step Reachable.initial hLoad

theorem search_loaded : (({} : Viewer).load corpus).search "b" = .ok searched := by
  have hBlank : Query.isBlank "b" = false := by decide
  have hFound : Matches.search "b" (({} : Viewer).load corpus).corpus.records
      (({} : Viewer).load corpus).found.onlyMatches = .ok found := search_corpus
  unfold Viewer.search
  rw [hBlank]
  simp only [Bool.false_eq_true, if_false, hFound]
  rfl

theorem reachable_searched : Reachable searched := by
  have hAfter : (({} : Viewer).load corpus).after? (.search "b") = some searched := by
    rw [after?, search_loaded]
    rfl
  exact Reachable.step reachable_loaded hAfter

end Sample

theorem invariant_of_reachable_searched :
    Reachable Sample.searched ∧
      ∀ i, i ∈ [1] ↔ ∃ r, [Sample.first, Sample.second][i]? = some r ∧
        Query.evaluate "b" r.searchable = .ok true :=
  ⟨Sample.reachable_searched, (invariant_of_reachable Sample.reachable_searched).2.1.2.1⟩

end Viewer

end LogViewer
