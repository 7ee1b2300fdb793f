import LogViewer.Matches

/-! What a viewer shows: a corpus, the records of it on display, the matches of a query, a selected
record, and the place in the display that is to be scrolled to. Every step that changes something
raises the version by one; a step that fails changes nothing. -/
namespace LogViewer

/-- A selected record: one of the corpus, by its place, or one of an earlier corpus. -/
inductive Selection where
  | member (index : Nat)
  | foreign
deriving DecidableEq, Repr

structure Viewer where
  version : Nat := 0
  corpus : Corpus := {}
  filter : Filter := {}
  /-- The records on display, by their places in the corpus. -/
  view : List Nat := []
  found : Matches := {}
  selected : Option Selection := none
  /-- The place in the view that is to be scrolled to, if the last step asked for it. -/
  scrollTarget : Option Nat := none

/-- Why a corpus could not be filtered. -/
inductive FilterError where
  | range (error : RangeError)
  | query (number : OverlongNumber)
deriving DecidableEq, Repr

def FilterError.message : FilterError → String
  | range error => error.message
  | query number => number.message

namespace Viewer

/-- The state after a step that led to `s` and asks for scrolling to a place, or for none. -/
def advanceTo (s : Viewer) (scrollTarget : Option Nat) : Viewer :=
  { s with version := s.version + 1, scrollTarget }

/-- The state after a step that led to `s` and asks for no scrolling. -/
def advance (s : Viewer) : Viewer := s.advanceTo none

/-- A new corpus replaces everything. -/
def load (s : Viewer) (corpus : Corpus) : Viewer :=
  { s with corpus, filter := {}, view := corpus.everything, found := {}, selected := none }.advance

/-- The corpus is filtered anew by a range and, on demand, by another query. -/
def applyFilter (s : Viewer) (start finish query : Option String) : Except FilterError Viewer := do
  let range ← (TimeRange.ofTexts? start finish).mapError .range
  let filter : Filter := { range := some range, query := query.getD s.filter.query }
  let view ← (s.corpus.filter filter).mapError .query
  return { s with filter, view }.advance

/-- The records to show for some matches: the matches themselves, or the whole corpus. -/
def viewOf (s : Viewer) (found : Matches) : List Nat :=
  if found.onlyMatches && found.query != "" then found.indices else s.corpus.everything

/-- The current match is selected and scrolled to. -/
def focus (s : Viewer) (found : Matches) (view : List Nat) : Viewer :=
  let selected := match found.currentRecord? with
    | some index => some (.member index)
    | none => s.selected
  { s with found, view, selected }.advanceTo found.target?

/-- The matches of a query are found in the whole corpus; a query that says nothing only clears
them. -/
def search (s : Viewer) (query : String) : Except OverlongNumber Viewer := do
  let filter := { s.filter with query }
  if Query.isBlank query then
    let view ← s.corpus.filter filter
    return { s with filter, found := { onlyMatches := s.found.onlyMatches }, view }.advance
  else
    let found ← Matches.search query s.corpus.records s.found.onlyMatches
    return { s with filter }.focus found (s.viewOf found)

/-- The state after a move to some matches, unless there is no such move. -/
def moveTo (s : Viewer) : Option Matches → Viewer
  | some found => s.focus found s.view
  | none => s

def nextMatch (s : Viewer) : Viewer := s.moveTo s.found.next?

def previousMatch (s : Viewer) : Viewer := s.moveTo s.found.previous?

def goToMatch (s : Viewer) (number : Int) : Viewer := s.moveTo (s.found.goTo? number)

/-- Matches alone are shown if all records were, and the other way round. -/
def toggleOnlyMatches (s : Viewer) : Viewer :=
  let found := s.found.toggled
  if found.query = "" then { s with found }.advance
  else { s with found, view := s.viewOf found }.advanceTo found.target?

/-- Range, query and matches are cleared and the whole corpus is shown. -/
def resetFilter (s : Viewer) : Viewer :=
  { s with
    filter := {}, found := { onlyMatches := s.found.onlyMatches }
    view := s.corpus.everything }.advance

def select (s : Viewer) (selected : Option Selection) : Viewer := { s with selected }.advance

/-- The records on display. -/
def shownRecords (s : Viewer) : List Record := s.view.filterMap (s.corpus.records[·]?)

/-- The place in the view of the selected record. -/
def selectedPlace? (s : Viewer) : Option Nat :=
  match s.selected with
  | some (.member index) => s.view.idxOf? index
  | _ => none

end Viewer

end LogViewer
