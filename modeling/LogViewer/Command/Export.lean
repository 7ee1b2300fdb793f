import LogViewer.Command.Call
import LogViewer.Command.Corpus
import LogViewer.Viewer

/-! The command that writes the records in a range of time, or those that satisfy a query, into a
file. The text is turned into bytes when the file has been made; a surrogate in it then breaks the
command off. That a file which is made takes the bytes, and that the line about it can be printed, is
taken for granted. -/
namespace LogViewer.Command.Export

/-- What is written, and where; an empty end leaves the range open, and an empty query says
nothing. -/
structure Request where
  start : String
  finish : String
  query : String
  directory : String
deriving DecidableEq, Repr

def signature : Signature where
  arity := 1
  options := [("--start", .valued), ("--end", .valued), ("--query", .valued), ("--out", .valued)]

/-- The path and the request of a call. -/
def request? (call : Call) : Option (String × Request) := do
  let [path] := call.positional | none
  return (path, {
    start := call.text "--start" ""
    finish := call.text "--end" ""
    query := call.text "--query" ""
    directory := call.text "--out" "." })

/-- The file with the records on display. The directory is made before the text, and the file after
it. -/
def file (surroundings : Surroundings) (s : Viewer) (directory : Path) (name : String) :
    Except Fault Written := do
  let files ← (surroundings.files.makeDirectory directory).mapError .file
  let some text := LogViewer.Export.text? s.shownRecords | throw .loop
  let place ← (files.placeOf directory name).mapError .file
  return { place, text }

variable [Text.StandIns]

/-- Writes the records on display. The file is made before its text is turned into bytes. -/
def write (surroundings : Surroundings) (s : Viewer) (directory : Path) : Report :=
  let name := LogViewer.Export.fileName surroundings.clock
  match file surroundings s directory name with
  | .error fault => .fail [] fault
  | .ok written => match Text.encodingFault? written.text.toList with
    | some fault => { written := some { written with text := "" }, ending := .brokenOff fault }
    | none =>
      let line := "Exported [bold]" ++ toString s.view.length ++ "[/bold] of " ++
        toString s.corpus.size ++ " logs to " ++ Markup.escaped (directory.file name).text
      { shown := [.ofMarkup line], written := some written }

def report (surroundings : Surroundings) (corpus : Corpus) (r : Request) : Report :=
  let filtered := (Viewer.load {} corpus).applyFilter (some r.start) (some r.finish) (some r.query)
  match filtered with
  | .error (.range (.calendar error)) => .fail [] (.calendar error)
  | .error error => .refuse [Surroundings.warning (Markup.escaped error.message)]
  | .ok s => write surroundings s (.ofText r.directory)

def run (s : Surroundings) (call : Call) : Report :=
  match request? call with
  | some (path, r) => s.withCorpus path fun _ corpus => report s corpus r
  | none => { ending := .misused }

end LogViewer.Command.Export
