import LogViewer.Command.Call
import LogViewer.Command.Corpus
import LogViewer.Track.Rendered
import LogViewer.Viewer

/-! The command that shows the part of the timeline in a viewport. -/
namespace LogViewer.Command.Timeline

/-- The part of the timeline that is asked for. -/
structure Request (κ : Type) where
  scroll : κ
  viewport : Option κ
  query : String
  /-- The number of the match that is to be in the middle. -/
  number : Option Int
  onlyMatches : Bool

def signature : Signature where
  arity := 1
  options := [("--scroll", .valued), ("--viewport", .valued), ("--query", .valued),
    ("--match", .valued), ("--only-matches", .switch "--only-matches" true),
    ("--no-only-matches", .switch "--only-matches" false)]

/-- The path and the request of a call. -/
def request? (call : Call) : Option (String × Request Number) := do
  let [path] := call.positional | none
  let scroll ← call.decimal? "--scroll"
  let viewport ← call.decimal? "--viewport"
  let number ← call.whole? "--match"
  return (path, {
    scroll := .double (scroll.getD (.zero false))
    viewport := viewport.map .double
    query := call.text "--query" ""
    number
    onlyMatches := call.isOn "--only-matches" })

variable {κ : Type}

/-- The viewer after the search, if something is searched for. -/
def viewer (corpus : Corpus) (r : Request κ) : Except OverlongNumber Viewer := do
  let loaded := Viewer.load {} corpus
  let ready := if r.onlyMatches then loaded.toggleOnlyMatches else loaded
  if r.query = "" then return ready
  let found ← ready.search r.query
  return match r.number with
    | some number => found.goToMatch number
    | none => found

variable [Coordinate κ]

/-- The layout of the records on display. -/
def layout (settings : Settings) (s : Viewer) (r : Request κ) : Layout κ :=
  .make settings s.shownRecords r.viewport

/-- The offset of the viewport: where the current match is in the middle, else the one asked for. -/
def offset (l : Layout κ) (s : Viewer) (r : Request κ) : Except ArithmeticError κ := do
  if r.query = "" then return r.scroll
  let some target := s.scrollTarget | return r.scroll
  return (← l.scrollOffset? target l.viewportWidth).getD r.scroll

/-- The length of a part of the track, in whole pixels. -/
def pixelsText (x : κ) : Except ArithmeticError String :=
  return String.ofList (← Coordinate.fixed 0 true x) ++ "px"

/-- The window to show, and the line about it. -/
def header (l : Layout κ) (s : Viewer) (r : Request κ) :
    Except ArithmeticError (Window × String) := do
  let offset ← offset l s r
  let window ← l.visibleWindow offset l.viewportWidth
  let line := "Track " ++ (← pixelsText (← l.trackWidth)) ++ ", " ++ toString l.slotCount ++
    " slots, scroll " ++ (← pixelsText offset) ++ ": rendering " ++ toString window.size ++
    " of " ++ toString l.records.length ++ " records"
  return (window, line)

/-- The row of a box, which is marked if its record is selected. -/
def row (b : RenderedBox κ) : Except ArithmeticError (List String) := do
  let percent ← Coordinate.fixed 2 false (← Coordinate.mul b.position (Coordinate.ofInt 100))
  return [(if b.selected then "*" else "") ++ toString b.index, toString b.lane,
    String.ofList percent ++ "%", b.category.name, Markup.visible b.label,
    Markup.visible b.timestamp]

def rows (l : Layout κ) (w : Window) (selected : Option Nat) :
    Except ArithmeticError (List (List String)) := do
  (← l.render w selected).mapM row

/-- What is shown of the records on display. -/
def windowReport (settings : Settings) (s : Viewer) (r : Request κ) : Report :=
  let l := layout settings s r
  match header l s r with
  | .error error => .fail [] (.arithmetic error)
  | .ok (window, line) => match rows l window s.selectedPlace? with
    | .error error => .fail [.line line] (.arithmetic error)
    | .ok rows =>
      { shown := [.line line, .table "Visible Timeline"
          ["Index", "Lane", "Position", "Category", "Label", "Time"] rows []] }

def report (settings : Settings) (corpus : Corpus) (r : Request κ) : Report :=
  match viewer corpus r with
  | .error number => .fail [] (.query number)
  | .ok s => windowReport settings s r

variable [Text.StandIns]

/-- Shows the part of the timeline of the file at a path that is asked for. -/
def runWith (s : Surroundings) (path : String) (r : Request κ) : Report :=
  s.withCorpus path fun settings corpus => report settings corpus r

def run (s : Surroundings) (call : Call) : Report :=
  match request? call with
  | some (path, r) => runWith s path r
  | none => { ending := .misused }

end LogViewer.Command.Timeline
