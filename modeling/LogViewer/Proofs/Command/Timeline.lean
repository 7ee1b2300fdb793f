import Mathlib
import LogViewer.Command.Timeline
import LogViewer.Proofs.Command.Corpus
import LogViewer.Proofs.Track.Lanes
import LogViewer.Proofs.Track.Rendered
import LogViewer.Proofs.Viewer.Cycle

/-! The command that shows a part of the timeline, in exact arithmetic. A match that it is asked for
is in the table that it shows, and is the only record that is marked there. -/
namespace LogViewer.Command.Timeline

section

variable {κ : Type} {corpus : Corpus} {request : Request κ} {found : List Nat}

/-- Whether a viewer has a record of a corpus on display, has it selected and is to scroll to it. -/
structure Focuses (s : Viewer) (corpus : Corpus) (displayed : List Nat) (index place : Nat) : Prop
    where
  corpus_eq : s.corpus = corpus
  view_eq : s.view = displayed
  getElem?_view : s.view[place]? = some index
  scrollTarget_eq : s.scrollTarget = some place
  selected_eq : s.selected = some (.member index)

/-- The viewer in the mode that is asked for, before the search. -/
def ready (corpus : Corpus) (onlyMatches : Bool) : Viewer :=
  if onlyMatches then (Viewer.load {} corpus).toggleOnlyMatches else Viewer.load {} corpus

theorem ready_spec (corpus : Corpus) (onlyMatches : Bool) :
    (ready corpus onlyMatches).Consistent ∧ (ready corpus onlyMatches).corpus = corpus ∧
      (ready corpus onlyMatches).found.onlyMatches = onlyMatches := by
  have hLoaded : (Viewer.load {} corpus).Consistent :=
    (Viewer.Change.load corpus).consistent Viewer.consistent_initial
  cases onlyMatches with
  | false => exact ⟨hLoaded, rfl, rfl⟩
  | true => exact ⟨(Viewer.change_toggleOnlyMatches _).consistent hLoaded, rfl, rfl⟩

/-- The matches of a query once they are found, the first one current. -/
def firstOf (found : List Nat) (onlyMatches : Bool) (query : String) : Matches :=
  { indices := found, current := if found.isEmpty then none else some 0, onlyMatches, query }

theorem search_eq {t : Viewer} {query : String} (hBlank : Query.isBlank query = false)
    (hFound : placesOf t.corpus.records (·.satisfies query) = .ok found) :
    t.search query =
      .ok ({ t with filter := { t.filter with query } }.focus
        (firstOf found t.found.onlyMatches query)
        (t.viewOf (firstOf found t.found.onlyMatches query))) := by
  rw [Viewer.search_of_not_blank hBlank, Matches.search_of_not_blank hBlank, hFound]
  rfl

theorem search_ready (hBlank : Query.isBlank request.query = false)
    (hFound : placesOf corpus.records (·.satisfies request.query) = .ok found) :
    ∃ s, (ready corpus request.onlyMatches).search request.query = .ok s ∧ s.Consistent ∧
      s.InStep ∧ (s.found.indices ≠ [] → s.ShowsCurrent) ∧ s.corpus = corpus ∧
      s.found = firstOf found request.onlyMatches request.query ∧
      s.view = if request.onlyMatches then found else corpus.everything := by
  obtain ⟨hReady, hCorpus, hMode⟩ := ready_spec corpus request.onlyMatches
  have hQuery : request.query ≠ "" := Query.ne_empty_of_not_blank hBlank
  have hSearch := search_eq hBlank (hCorpus.symm ▸ hFound)
  have hChange := Viewer.change_of_search hSearch
  obtain ⟨-, -, -, -, hShows⟩ := hReady.shows_of_search hBlank hSearch
  refine ⟨_, hSearch, hChange.consistent hReady, hChange.inStep hReady, hShows, hCorpus, ?_, ?_⟩
  · have hMatches := congrArg (firstOf found · request.query) hMode
    exact hMatches
  · refine (Viewer.viewOf_of_query_ne hQuery).trans ?_
    rw [firstOf, hMode, hCorpus]

/-- The viewer has the match with the number that is asked for in focus, or the first one. -/
theorem exists_viewer_focuses (hBlank : Query.isBlank request.query = false)
    (hFound : placesOf corpus.records (·.satisfies request.query) = .ok found)
    (hSome : found ≠ [])
    (hNumber : ∀ number, request.number = some number → 1 ≤ number ∧ number ≤ found.length) :
    ∃ s index place, viewer corpus request = .ok s ∧
      found[(request.number.getD 1 - 1).toNat]? = some index ∧
      Focuses s corpus (if request.onlyMatches then found else corpus.everything) index place := by
  have hQuery : request.query ≠ "" := Query.ne_empty_of_not_blank hBlank
  obtain ⟨s, hSearch, hConsistent, hStep, hShows, hCorpus, hMatches, hView⟩ :=
    search_ready hBlank hFound
  have hIndices : s.found.indices = found := congrArg Matches.indices hMatches
  have hViewer : viewer corpus request = .ok (request.number.elim s s.goToMatch) := by
    unfold viewer
    rw [if_neg hQuery]
    change (ready corpus request.onlyMatches).search request.query >>= _ = _
    rw [hSearch]
    cases request.number <;> rfl
  rw [hViewer]
  cases hAsked : request.number with
  | none =>
      obtain ⟨place, index, hScroll, hPlace, hCurrent, hSelected⟩ := hShows (hIndices ▸ hSome)
      refine ⟨s, index, place, rfl, ?_, hCorpus, hView, hPlace, hScroll, hSelected⟩
      have hFirst : s.found.current = some 0 := by
        rw [hMatches, firstOf, List.isEmpty_eq_false_iff.mpr hSome]
        rfl
      rwa [Matches.currentRecord?, hFirst, hIndices] at hCurrent
  | some number =>
      obtain ⟨hFrom, hTo⟩ := hNumber number hAsked
      have hCount : s.found.count = found.length := congrArg List.length hIndices
      have hRank : (number - 1).toNat < s.found.indices.length := by
        rw [hIndices]
        omega
      have hIndex := List.getElem?_eq_getElem hRank
      obtain ⟨place, index, hScroll, hPlace, hCurrent, hSelected⟩ :=
        hConsistent.showsCurrent_focus hStep hIndex
      refine ⟨s.goToMatch number, index, place, rfl, ?_, ?_⟩
      · rw [← hIndices]
        exact hCurrent
      · rw [Viewer.goToMatch_eq ⟨hFrom, hCount ▸ hTo⟩]
        exact ⟨hCorpus, hView, hPlace, hScroll, hSelected⟩

end

theorem getElem?_filterMap_of_isSome {α β : Type} {f : α → Option β} {l : List α}
    (h : ∀ a ∈ l, (f a).isSome = true) (t : Nat) : (l.filterMap f)[t]? = l[t]?.bind f := by
  induction l generalizing t with
  | nil => rfl
  | cons a l ih =>
      obtain ⟨hHead, hTail⟩ := List.forall_mem_cons.mp h
      obtain ⟨b, hb⟩ := Option.isSome_iff_exists.mp hHead
      rw [List.filterMap_cons_some hb]
      cases t with
      | zero => exact hb.symm
      | succ t => exact ih hTail t

/-- The records on display stand there as their places stand in the view. -/
theorem getElem?_shownRecords {s : Viewer} (hView : ArePlaces s.view s.corpus.records) (t : Nat) :
    s.shownRecords[t]? = s.view[t]?.bind (s.corpus.records[·]?) := by
  apply getElem?_filterMap_of_isSome
  intro i hi
  rw [List.getElem?_eq_getElem (hView.lt_length i hi)]
  rfl

theorem selectedPlace?_eq {s : Viewer} (hView : ArePlaces s.view s.corpus.records)
    {index place : Nat} (hPlace : s.view[place]? = some index)
    (hSelected : s.selected = some (.member index)) : s.selectedPlace? = some place := by
  obtain ⟨hLength, hIndex⟩ := List.getElem?_eq_some_iff.mp hPlace
  unfold Viewer.selectedPlace?
  rw [hSelected]
  refine List.idxOf?_eq_some_iff.mpr ⟨hLength, hIndex, ?_⟩
  intro j hj hSame
  have hLess := List.pairwise_iff_getElem.mp hView.sorted j place (by omega) hLength hj
  omega

/-- Whether a row of the table is marked. -/
def isMarked (cells : List String) : Bool :=
  cells.head?.any fun index => index.toList.head? == some '*'

/-- The row of a record that is marked, with its lane and its position on the track. -/
def markedRow (place : Nat) (r : Record) (lane position : String) : List String :=
  ["*" ++ toString place, lane, position, r.category.name, Markup.visible r.label,
    Markup.visible r.timestamp]

theorem head?_toDigits_ne (n : Nat) : (Nat.toDigits 10 n).head? ≠ some '*' := by
  intro h
  have hDigit := Nat.isDigit_of_mem_toDigits (by omega) (by omega) (List.mem_of_head? h)
  exact absurd hDigit (by decide)

theorem exists_row_eq (b : RenderedBox Rat) :
    ∃ cells, row b = .ok cells ∧ isMarked cells = b.selected ∧
      ∃ lane position, cells = [(if b.selected then "*" else "") ++ toString b.index, lane,
        position, b.category.name, Markup.visible b.label, Markup.visible b.timestamp] := by
  refine ⟨_, rfl, ?_, _, _, rfl⟩
  cases b.selected with
  | true => simp [isMarked]
  | false => simp [isMarked, head?_toDigits_ne]

/-- The table of a window with a selected record has one marked row, which shows that record. -/
theorem exists_rows_eq {l : Layout Rat} (hSettings : l.settings.LaysOut) {t : Nat} {r : Record}
    (hr : l.records[t]? = some r) {w : Window} (hStart : w.start ≤ t) (hStop : t < w.stop) :
    ∃ table lane position, rows l w (some t) = .ok table ∧
      table.filter isMarked = [markedRow t r lane position] := by
  have hSome : l.records ≠ [] := List.ne_nil_of_mem (List.mem_of_getElem? hr)
  obtain ⟨width, hWidth, hPos⟩ := Layout.exists_trackWidth_pos hSettings hSome
  obtain ⟨lanes, hLanes⟩ := exists_placeBoxes_eq_ok hSettings.maxLanes_pos.ne' [] 0 l.boxes
  obtain ⟨pixel, hBox⟩ := filter_boxOf_eq hr hStart hStop width lanes
  choose cellsOf hCells hMarked hShown using exists_row_eq
  obtain ⟨lane, position, hRow⟩ := hShown (boxOf width lanes (some t) ((r, pixel), t))
  have hRows : rows l w (some t) =
      .ok (((w.of (l.records.zip l.pixels)).map (boxOf width lanes (some t))).map cellsOf) := by
    unfold rows
    rw [Layout.render_eq hWidth hPos hLanes]
    exact mapM_eq_ok_map fun b _ => hCells b
  have hSame : isMarked ∘ cellsOf = fun b : RenderedBox Rat => b.selected := funext hMarked
  refine ⟨_, lane, position, hRows, ?_⟩
  rw [List.filter_map, hSame, hBox, List.map_singleton, hRow]
  simp [boxOf, markedRow]

section

variable {request : Request Rat} {s : Viewer} {settings : Settings} {corpus : Corpus}
  {displayed : List Nat} {index place : Nat}

/-- Whether a report shows a table with one marked row, which shows a record. -/
def Marks (report : Report) (place : Nat) (r : Record) : Prop :=
  ∃ line table lane position,
    report = { shown := [.line line, .table "Visible Timeline"
      ["Index", "Lane", "Position", "Category", "Label", "Time"] table []] } ∧
    table.filter isMarked = [markedRow place r lane position]

/-- What is shown of a viewer with a record in focus marks this record. -/
theorem marks_windowReport (hSettings : settings.problems = [])
    (hBuffer : 0 ≤ settings.bufferSlots)
    (hViewport : ∀ width, request.viewport = some width → 0 ≤ width)
    (hQuery : request.query ≠ "") (hDisplayed : ArePlaces displayed corpus.records)
    (hFocus : Focuses s corpus displayed index place) {r : Record}
    (hr : corpus.records[index]? = some r) :
    Marks (windowReport settings s request) place r := by
  obtain ⟨rfl, rfl, hPlace, hScroll, hSelected⟩ := hFocus
  have hLaysOut := Settings.laysOut hSettings
  have hRecord : (layout settings s request).records[place]? = some r := by
    change s.shownRecords[place]? = some r
    rw [getElem?_shownRecords hDisplayed, hPlace]
    exact hr
  have hWidth : 0 ≤ (layout settings s request).viewportWidth := by
    change 0 ≤ request.viewport.getD (settings.viewportWidth : Rat)
    cases hAsked : request.viewport with
    | none => exact Int.cast_nonneg hLaysOut.viewportWidth_pos.le
    | some width => exact hViewport width hAsked
  obtain ⟨hLength, -⟩ := List.getElem?_eq_some_iff.mp hRecord
  obtain ⟨start, window, hOffset, hWindow, hFrom, hTo⟩ :=
    Layout.exists_scrollOffset?_visibleWindow hLaysOut hBuffer hLength hWidth
  obtain ⟨width, hTrack, -⟩ := Layout.exists_trackWidth_pos (l := layout settings s request)
    hLaysOut (List.ne_nil_of_mem (List.mem_of_getElem? hRecord))
  have hStart : offset (layout settings s request) s request = .ok start := by
    unfold offset
    rw [if_neg hQuery, hScroll]
    simp only [hOffset, bind, Except.bind]
    rfl
  obtain ⟨line, hHeader⟩ : ∃ line, header (layout settings s request) s request =
      .ok (window, line) := by
    unfold header
    rw [hStart]
    simp only [bind, Except.bind, hWindow, hTrack]
    exact ⟨_, rfl⟩
  obtain ⟨table, lane, position, hTable, hMarked⟩ :=
    exists_rows_eq (l := layout settings s request) hLaysOut hRecord hFrom hTo
  refine ⟨line, table, lane, position, ?_, hMarked⟩
  unfold windowReport
  simp only [hHeader, selectedPlace?_eq hDisplayed hPlace hSelected, hTable]

end

/-- Only a query that says something has matches. -/
theorem not_blank_of_found {records : List Record} {query : String} {found : List Nat}
    (hFound : placesOf records (·.satisfies query) = .ok found) (hSome : found ≠ []) :
    Query.isBlank query = false := by
  obtain ⟨i, hi⟩ := List.exists_mem_of_ne_nil _ hSome
  obtain ⟨r, -, hr⟩ := ((placesOf_eq_ok hFound).2 i).mp hi
  cases hBlank : Query.isBlank query with
  | false => rfl
  | true =>
      rw [Record.satisfies, Query.evaluate, hBlank] at hr
      cases hr

section

variable [Text.StandIns]

/-- The command in exact arithmetic, with offsets that are any rational numbers. -/
def runExactly (s : Surroundings) (path : String) (request : Request Rat) : Report :=
  runWith s path request

/-- The match that is asked for by its number, or the first match where no number is given, is the
one record that is marked in the table, whether all records are laid out or the matches alone, and
wherever the viewport would have begun. -/
theorem runExactly_marks_match (s : Surroundings) {path : String} {settings : Settings}
    {corpus : Corpus} (hFinds : s.Finds path settings corpus)
    (hBuffer : 0 ≤ settings.bufferSlots) {request : Request Rat}
    (hViewport : ∀ width, request.viewport = some width → 0 ≤ width) {found : List Nat}
    (hFound : placesOf corpus.records (·.satisfies request.query) = .ok found)
    (hSome : found ≠ [])
    (hNumber : ∀ number, request.number = some number → 1 ≤ number ∧ number ≤ found.length) :
    ∃ index r place, found[(request.number.getD 1 - 1).toNat]? = some index ∧
      corpus.records[index]? = some r ∧
      (if request.onlyMatches then found else corpus.everything)[place]? = some index ∧
      Marks (runExactly s path request) place r := by
  have hBlank := not_blank_of_found hFound hSome
  obtain ⟨hPlaces, -⟩ := placesOf_eq_ok hFound
  obtain ⟨v, index, place, hViewer, hIndex, hFocus⟩ :=
    exists_viewer_focuses hBlank hFound hSome hNumber
  have hLength : index < corpus.records.length :=
    hPlaces.lt_length index (List.mem_of_getElem? hIndex)
  have hRecord := List.getElem?_eq_getElem hLength
  have hDisplayed : ArePlaces (if request.onlyMatches then found else corpus.everything)
      corpus.records := by
    split
    · exact hPlaces
    · exact arePlaces_everything corpus
  refine ⟨index, corpus.records[index], place, hIndex, hRecord, ?_, ?_⟩
  · rw [← hFocus.view_eq]
    exact hFocus.getElem?_view
  · unfold runExactly runWith
    rw [hFinds.withCorpus_eq, report, hViewer]
    exact marks_windowReport hFinds.problems_eq hBuffer hViewport
      (Query.ne_empty_of_not_blank hBlank) hDisplayed hFocus hRecord

end

/-- The text of two objects, the second one of which holds a `b`. -/
private def lettersText : String :=
  "[\x7b\"date\": \"1970-01-01\", \"m\": \"a\"\x7d, \x7b\"date\": \"1970-01-02\", \"m\": \"b\"\x7d]"

/-- A file with that text, and nothing else. -/
private def letters : Surroundings where
  files := .single (.ofText "a.json") (lettersText.toList.map Char.toNat)
  environment := []
  clock := Surroundings.sampleSecond

/-- The request for the first match of `b` in a narrow viewport. -/
private def forLetter (onlyMatches : Bool) : Request Rat where
  scroll := 0
  viewport := some 10
  query := "b"
  number := some 1
  onlyMatches := onlyMatches

theorem runExactly_marks_match_letter :
    ∃ corpus, letters.Finds "a.json" {} corpus ∧ 0 ≤ ({} : Settings).bufferSlots ∧
      (∀ width, (forLetter false).viewport = some width → 0 ≤ width) ∧
      placesOf corpus.records (·.satisfies "b") = .ok [1] ∧ [1] ≠ [] ∧
      (∀ number, (forLetter false).number = some number → 1 ≤ number ∧ number ≤ [1].length) ∧
      (∃ r, corpus.records[1]? = some r ∧
        Marks (runExactly letters "a.json" (forLetter false)) 1 r) ∧
      ∃ r, corpus.records[1]? = some r ∧
        Marks (runExactly letters "a.json" (forLetter true)) 0 r := by
  have hRead : letters.files.read? (.ofText "a.json") =
      .ok (some (lettersText.toList.map Char.toNat)) := by
    unfold letters lettersText
    cbv
  have hFound : (loadText {} (textOfFile (lettersText.toList.map Char.toNat))
      (Path.ofText "a.json").name).toOption.map (fun loaded =>
        placesOf loaded.corpus.records (·.satisfies "b")) = some (.ok [1]) := by
    unfold lettersText
    cbv
  obtain ⟨loaded, hLoad, hFound⟩ := toOption_map_eq_some hFound
  have hFinds : letters.Finds "a.json" {} loaded.corpus :=
    ⟨rfl, by decide, _, loaded, hRead, hLoad, rfl⟩
  have hBuffer : 0 ≤ ({} : Settings).bufferSlots := by decide
  have hViewport (onlyMatches : Bool) (width : Rat)
      (h : (forLetter onlyMatches).viewport = some width) : 0 ≤ width := by
    cases h
    norm_num
  have hNumber (onlyMatches : Bool) (number : Int)
      (h : (forLetter onlyMatches).number = some number) : 1 ≤ number ∧ number ≤ [1].length := by
    cases h
    decide
  refine ⟨loaded.corpus, hFinds, hBuffer, hViewport false, hFound, by decide, hNumber false, ?_, ?_⟩
  · obtain ⟨index, r, place, hIndex, hRecord, hPlace, hMarks⟩ :=
      runExactly_marks_match letters hFinds hBuffer (hViewport false) hFound (by decide)
        (hNumber false)
    cases hIndex
    have hSame : place = 1 := by
      obtain ⟨hLess, hOne⟩ := List.getElem?_eq_some_iff.mp hPlace
      exact (List.getElem_range hLess).symm.trans hOne
    rw [hSame] at hMarks
    exact ⟨r, hRecord, hMarks⟩
  · obtain ⟨index, r, place, hIndex, hRecord, hPlace, hMarks⟩ :=
      runExactly_marks_match letters hFinds hBuffer (hViewport true) hFound (by decide)
        (hNumber true)
    cases hIndex
    have hSame : place = 0 := by
      have hMatches : [1][place]? = some 1 := hPlace
      simpa using (List.getElem?_eq_some_iff.mp hMatches).1
    rw [hSame] at hMarks
    exact ⟨r, hRecord, hMarks⟩

end LogViewer.Command.Timeline
