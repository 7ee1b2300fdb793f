import Mathlib
import LogViewer.Proofs.Viewer.Search

/-! The range of the filter and what is on display. A filter displays records in its range alone, but
what a search for something displays, and a change between all records and the matches, is made of
the whole corpus. So a display lies in the range unless it is the one that matches ask for. -/
namespace LogViewer

/-- A filter lets through only records in its range. -/
theorem Filter.contains_of_passes {f : Filter} {r : Record} (h : f.passes r = .ok true)
    {range : TimeRange} (hRange : f.range = some range) : range.contains r.instant = true := by
  cases hInside : range.contains r.instant with
  | true => rfl
  | false =>
      rw [passes, hRange, Option.all_some, hInside, if_neg Bool.false_ne_true] at h
      cases h

namespace Viewer

/-- Whether every record on display lies in the range of the filter, if it has one. -/
def RespectsRange (s : Viewer) : Prop :=
  ∀ range, s.filter.range = some range →
    ∀ r ∈ s.shownRecords, range.contains r.instant = true

/-- Whether the display is the one that the matches of a query ask for: the matches, or the whole
corpus. -/
structure DisplaysFound (s : Viewer) : Prop where
  query_ne : s.found.query ≠ ""
  view_eq : s.view = if s.found.onlyMatches then s.found.indices else s.corpus.everything

/-- What the filter of a state lets through lies in the range. -/
theorem respectsRange_of_filter {s : Viewer} (h : s.corpus.filter s.filter = .ok s.view) :
    s.RespectsRange := by
  intro range hRange r hr
  obtain ⟨i, hi, hRecord⟩ := List.mem_filterMap.mp hr
  obtain ⟨passed, hPassed, hPasses⟩ := ((placesOf_eq_ok h).2 i).mp hi
  obtain rfl := Option.some_inj.mp (hPassed.symm.trans hRecord)
  exact Filter.contains_of_passes hPasses hRange

theorem respectsRange_of_no_range {s : Viewer} (h : s.filter.range = none) : s.RespectsRange := by
  intro range hRange
  rw [h] at hRange
  cases hRange

/-- How a request treats the range on its way from `s` to `s'`. A load, a filter, a search for nothing
and a reset display records in the range alone; a search for something and a change of the mode of a
query display what the matches ask for; all else leaves display and range as they are. -/
def TreatsRange (s : Viewer) (request : Request) (s' : Viewer) : Prop :=
  match request with
  | .load _ | .applyFilter .. | .resetFilter => s'.RespectsRange
  | .search query => if Query.isBlank query then s'.RespectsRange else s'.DisplaysFound
  | .toggleOnlyMatches =>
      if s.found.query = "" then s'.RespectsRange ↔ s.RespectsRange else s'.DisplaysFound
  | .nextMatch | .previousMatch | .goToMatch _ | .select _ =>
      (s'.RespectsRange ↔ s.RespectsRange) ∧ (s'.DisplaysFound ↔ s.DisplaysFound)

theorem treatsRange_of_isMove {s s' : Viewer} {request : Request} (hMove : request.IsMove)
    (hRange : s'.RespectsRange ↔ s.RespectsRange) (hFound : s'.DisplaysFound ↔ s.DisplaysFound) :
    s.TreatsRange request s' := by
  cases request with
  | nextMatch => exact ⟨hRange, hFound⟩
  | previousMatch => exact ⟨hRange, hFound⟩
  | goToMatch number => exact ⟨hRange, hFound⟩
  | _ => exact absurd hMove id

theorem Change.treatsRange {s s' : Viewer} {request : Request} (h : Change s request s') :
    s.TreatsRange request s' := by
  cases h with
  | load corpus => exact respectsRange_of_no_range rfl
  | applyFilter hRange hView => exact respectsRange_of_filter hView
  | reset => exact respectsRange_of_no_range rfl
  | clear hBlank hView =>
      simp only [TreatsRange, hBlank, if_true]
      exact respectsRange_of_filter hView
  | find hBlank hFound =>
      simp only [TreatsRange, hBlank, Bool.false_eq_true, if_false]
      rw [Matches.search_of_not_blank hBlank] at hFound
      obtain ⟨indices, -, rfl⟩ := map_eq_ok hFound
      have hQuery := Query.ne_empty_of_not_blank hBlank
      exact ⟨hQuery, viewOf_of_query_ne hQuery⟩
  | toggleNothing hQuery =>
      simp only [TreatsRange, if_pos hQuery]
      exact Iff.rfl
  | toggle hQuery =>
      simp only [TreatsRange, if_neg hQuery]
      exact ⟨hQuery, viewOf_of_query_ne hQuery⟩
  | select => exact ⟨Iff.rfl, ⟨fun hs => ⟨hs.1, hs.2⟩, fun hs => ⟨hs.1, hs.2⟩⟩⟩
  | stay hMove => exact treatsRange_of_isMove hMove Iff.rfl Iff.rfl
  | move hMove hRank =>
      exact treatsRange_of_isMove hMove Iff.rfl
        ⟨fun hs => ⟨hs.1, hs.2⟩, fun hs => ⟨hs.1, hs.2⟩⟩

/-- A display that lies in the range, or is the one that matches ask for, is followed by another such
one. -/
theorem TreatsRange.keeps {s s' : Viewer} {request : Request} (h : s.TreatsRange request s')
    (hs : s.RespectsRange ∨ s.DisplaysFound) : s'.RespectsRange ∨ s'.DisplaysFound := by
  cases request with
  | load corpus => exact Or.inl h
  | applyFilter start finish query => exact Or.inl h
  | resetFilter => exact Or.inl h
  | search query =>
      simp only [TreatsRange] at h
      split at h
      · exact Or.inl h
      · exact Or.inr h
  | toggleOnlyMatches =>
      simp only [TreatsRange] at h
      split at h
      · rename_i hQuery
        exact Or.inl (h.mpr (hs.resolve_right fun hFound => hFound.query_ne hQuery))
      · exact Or.inr h
  | nextMatch => exact hs.imp h.1.mpr h.2.mpr
  | previousMatch => exact hs.imp h.1.mpr h.2.mpr
  | goToMatch number => exact hs.imp h.1.mpr h.2.mpr
  | select selected => exact hs.imp h.1.mpr h.2.mpr

theorem Reachable.respectsRange_or_displaysFound {s : Viewer} (h : Reachable s) :
    s.RespectsRange ∨ s.DisplaysFound := by
  induction h with
  | initial => exact Or.inl (respectsRange_of_no_range rfl)
  | step prior last ih => exact (change_of_after? last).treatsRange.keeps ih

/-- After any requests whatever, the records on display lie in the range of the filter, unless the
display is the one that the matches of a query ask for, which are found in the whole corpus. It is
this one after a search for something and a change of the mode of a query; a load, a filter, a search
for nothing and a reset make the display lie in the range again, and no other request changes
whether it does. -/
theorem respectsRange_of_reachable {s : Viewer} (hReachable : Reachable s) :
    (¬s.DisplaysFound → s.RespectsRange) ∧
      ∀ request s', s.after? request = some s' → s.TreatsRange request s' := by
  refine ⟨?_, ?_⟩
  · intro hOther
    exact hReachable.respectsRange_or_displaysFound.resolve_right hOther
  · intro request s' hAfter
    exact (change_of_after? hAfter).treatsRange

namespace Sample

/-- The state after the first entry was filtered out by its date. -/
def ranged : Viewer :=
  { (({} : Viewer).load corpus) with
    filter := { range := some { start := some ⟨"1970-01-02", 86400000⟩ } }
    view := [1] }.advance

theorem filter_loaded :
    (({} : Viewer).load corpus).after? (.applyFilter (some "1970-01-02") none none) =
      some ranged := by
  cbv

theorem reachable_ranged : Reachable ranged := Reachable.step reachable_loaded filter_loaded

/-- The state after a search for a `z` as well, which no entry has. -/
def unfound : Viewer :=
  { ranged with filter := { ranged.filter with query := "z" } }.focus { query := "z" } [0, 1]

theorem search_ranged : ranged.after? (.search "z") = some unfound := by
  cbv

theorem reachable_unfound : Reachable unfound := Reachable.step reachable_ranged search_ranged

end Sample

/-- The filter leaves the later entry on display, and selecting it keeps the display in the range. -/
theorem respectsRange_of_reachable_ranged :
    Reachable Sample.ranged ∧ ¬Sample.ranged.DisplaysFound ∧ Sample.ranged.RespectsRange ∧
      Sample.ranged.filter.range ≠ none ∧ Sample.ranged.view = [1] ∧
      (Sample.ranged.select (some (.member 1))).RespectsRange := by
  obtain ⟨hRespects, hTreats⟩ := respectsRange_of_reachable Sample.reachable_ranged
  have hOther : ¬Sample.ranged.DisplaysFound := fun hFound => hFound.query_ne rfl
  have hSelect := hTreats (.select (some (.member 1))) _ rfl
  exact ⟨Sample.reachable_ranged, hOther, hRespects hOther, by decide, rfl,
    hSelect.1.mpr (hRespects hOther)⟩

/-- After a search the display does not respect the range: here the filter has left the later entry
alone on display, and the search, which finds nothing, displays the earlier one again. -/
theorem search_displays_beyond_range :
    (∃ progress, LogViewer.load {} (Document.ofJson Sample.document) "" =
      .ok ⟨Sample.corpus, progress⟩) ∧
    Reachable Sample.unfound ∧
    Sample.unfound.filter.range = some { start := some ⟨"1970-01-02", 86400000⟩ } ∧
    Sample.first ∈ Sample.unfound.shownRecords ∧ ¬Sample.unfound.RespectsRange := by
  have hShown : Sample.first ∈ Sample.unfound.shownRecords := List.mem_cons_self
  refine ⟨⟨_, Sample.load_document⟩, Sample.reachable_unfound, rfl, hShown, ?_⟩
  intro hRespects
  exact absurd (hRespects _ rfl _ hShown) (by decide)

end Viewer

end LogViewer
