import LogViewer.Command.Call
import LogViewer.Command.Corpus

/-! The command that shows what a file holds: what was read and skipped, and the span of time. -/
namespace LogViewer.Command.Summary

def signature : Signature := { arity := 1, options := [] }

/-- A count with its digits in groups of three. -/
def countText (n : Nat) : String := String.ofList (grouped (digitsOf n))

/-- The seconds of a span of milliseconds, with two places. -/
def secondsText (milliseconds : Int) : Except ArithmeticError String := do
  let seconds ← Double.ofRatio milliseconds 1000
  return String.ofList (seconds.fixed 2 false) ++ "s"

/-- The rows about what was read. -/
def readingRows (corpus : Corpus) (summary : LogViewer.Summary) : List (List String) :=
  let tally := corpus.tally
  [["Input", if tally.envelope then "search export" else "nested JSON"],
    ["Entries seen", countText tally.totalHits],
    ["Records loaded", countText summary.count]] ++
    (if tally.envelope then
      [["Skipped (no source/message)", countText tally.skippedNoSource]] else []) ++
    [["Skipped (no timestamp)", countText tally.skippedNoTimestamp]] ++
    (if tally.truncated = 0 then [] else [["Objects not visited", countText tally.truncated]])

/-- The rows about the records, if there are any. -/
def recordRows (summary : LogViewer.Summary) : Except ArithmeticError (List (List String)) := do
  let formats := summary.formats.mergeSort fun a b => a.1.name ≤ b.1.name
  return [["Start", Markup.visible (summary.first.getD "")],
    ["End", Markup.visible (summary.last.getD "")],
    ["Duration", ← secondsText summary.duration]] ++
    formats.map fun (format, n) => ["Format " ++ format.name, countText n]

def report (corpus : Corpus) : Report :=
  let summary := LogViewer.Summary.ofRecords corpus.records
  let title := Markup.plain ("Load Summary: " ++ Markup.escaped corpus.sourceName)
  let rows := readingRows corpus summary
  let table := Block.table title ["Metric", "Value"]
  if summary.count = 0 then { shown := [table rows []] }
  else match recordRows summary with
    | .error error => .fail [] (.arithmetic error)
    | .ok more => { shown := [table (rows ++ more) [rows.length - 1]] }

def run [Text.StandIns] (s : Surroundings) (call : Call) : Report :=
  match call.positional with
  | [path] => s.withCorpus path fun _ corpus => report corpus
  | _ => { ending := .misused }

end LogViewer.Command.Summary
