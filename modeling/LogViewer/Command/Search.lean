import LogViewer.Command.Call
import LogViewer.Command.Corpus
import LogViewer.Json.Embedded
import LogViewer.Message.Condensed
import LogViewer.Record.Category
import LogViewer.Record.Label
import LogViewer.Viewer

/-! The command that lists the matches of a query. -/
namespace LogViewer.Command.Search

/-- What is searched for, and how the matches are shown. -/
structure Request where
  query : String
  onlyMatches : Bool
  /-- The number of the match that is to be current. -/
  number : Option Int
  /-- The most matches to list; below nought, the count of matches to leave out at the end. -/
  limit : Int
deriving DecidableEq, Repr

def signature : Signature where
  arity := 2
  options := [("--only-matches", .switch "--only-matches" true),
    ("--no-only-matches", .switch "--only-matches" false), ("--goto", .valued),
    ("--limit", .valued)]

/-- The path and the request of a call. -/
def request? (call : Call) : Option (String × Request) := do
  let [path, query] := call.positional | none
  let number ← call.whole? "--goto"
  let limit ← call.whole? "--limit"
  return (path,
    { query, onlyMatches := call.isOn "--only-matches", number, limit := limit.getD 50 })

/-- The viewer after the search. -/
def viewer (corpus : Corpus) (r : Request) : Except OverlongNumber Viewer := do
  let loaded := Viewer.load {} corpus
  let ready := if r.onlyMatches then loaded.toggleOnlyMatches else loaded
  let found ← ready.search r.query
  return match r.number with
    | some number => found.goToMatch number
    | none => found

/-- The first items of a list, or all but some at its end. -/
def within {α : Type} (limit : Int) (l : List α) : List α :=
  if 0 ≤ limit then l.take limit.toNat else l.take (l.length - (-limit).toNat)

def optionText : Option Nat → String
  | some n => toString n
  | none => "None"

/-- The row of a match with a rank, which is marked if it is the current one. -/
def row (corpus : Corpus) (current : Nat) (rank index : Nat) : Option (List String) := do
  let r ← corpus.records[index]?
  let mark := if rank = current then "*" else ""
  let message := Message.condensed (r.rawMessage.getD "").toList
  return [mark ++ toString (rank + 1), toString index, Markup.visible r.timestamp,
    r.category.name, Markup.visible r.label, Markup.visible (String.ofList message)]

variable [Text.StandIns]

/-- The document in some data, if there is one. -/
def documentIn? : Option String → Except Json.ReadError (Option Json)
  | some data => Json.embedded? data.toList
  | none => .ok none

/-- What was shown, and then the document in the data of the current match, if there is one. The
line above it is shown before the documents inside the document are read. -/
def withData (shown : List Block) (corpus : Corpus) (current index : Nat) : Report :=
  match documentIn? (corpus.records[index]? >>= (·.attributes .data)) with
  | .error error => .fail shown (.embedded error)
  | .ok none => { shown }
  | .ok (some v) =>
    let shown := shown ++
      [.ofMarkup ("[bold]Data of match " ++ toString (current + 1) ++ "[/bold]")]
    match v.expanded with
    | .error error => .fail shown (.embedded error)
    | .ok v => { shown := shown ++ [.data (Markup.visible (String.ofList (v.indented 0)))] }

/-- The line about the matches that are not listed, if there are any. -/
def moreBlocks? (count : Nat) (limit : Int) : Option (List Block) :=
  if limit < count then
    (textWithinLimit? (count - limit)).map fun more => [.line ("... " ++ more ++ " more")]
  else some []

/-- What is shown of the matches, of which there is a current one with an index. -/
def matchReport (s : Viewer) (r : Request) (current index : Nat) : Report :=
  let count := s.found.count
  let header := toString count ++ " matches, current " ++ toString (current + 1) ++ " of " ++
    toString count ++ " (record #" ++ toString index ++ ", scroll target " ++
    optionText s.scrollTarget ++ ")"
  let rows := (within r.limit s.found.indices).zipIdx.filterMap fun (index, rank) =>
    row s.corpus current rank index
  let title := Markup.plain ("Matches for \"" ++ Markup.escaped r.query ++ "\"")
  let columns := ["#", "Record", "Timestamp", "Category", "Label", "Message"]
  let table := Block.table title columns rows []
  match moreBlocks? count r.limit with
  | some more => withData ([.line header, table] ++ more) s.corpus current index
  | none => .fail [.line header, table] .unwritable

def report (corpus : Corpus) (r : Request) : Report :=
  match viewer corpus r with
  | .error number => .fail [] (.query number)
  | .ok s => match s.found.current, s.found.currentRecord? with
    | some current, some index => matchReport s r current index
    | _, _ =>
      .refuse [.ofMarkup
        ("[yellow]No matches for \"" ++ Markup.escaped r.query ++ "\"[/yellow]")]

def run (s : Surroundings) (call : Call) : Report :=
  match request? call with
  | some (path, r) => s.withCorpus path fun _ corpus => report corpus r
  | none => { ending := .misused }

end LogViewer.Command.Search
