import LogViewer.Command.Run
import LogViewer.Command.Screen
import Std.Time.DateTime

/-! The program: it gathers what surrounds a command, runs it, shows what it shows and writes what
it writes. -/
namespace LogViewer.Program

/-- The bytes of a file, if it can be read. -/
def bytesOfFile? (path : String) : IO (Option (List Nat)) := do
  try
    let bytes ← IO.FS.readBinFile path
    return some (bytes.toList.map (·.toNat))
  catch _ => return none

/-- The file that a command reads, if there is one. -/
def filesFor (arguments : List String) : IO Files := do
  let some path := Command.inputPath? arguments | return ⟨[], []⟩
  let some bytes ← bytesOfFile? path.text | return ⟨[], []⟩
  return .single path bytes

/-- The present second in universal time. -/
def presentSecond : IO (Option Second) := do
  let now ← Std.Time.Timestamp.now
  return Second.ofEpoch? now.toSecondsSinceUnixEpoch.val

end LogViewer.Program

open LogViewer LogViewer.Program

def main (arguments : List String) : IO UInt32 := do
  let some clock ← presentSecond | throw (IO.userError "the clock is beyond the calendar")
  let environment ← Command.variableNames.filterMapM fun name => do
    return (← IO.getEnv name).map (name, ·)
  let report := Command.runApart { files := ← filesFor arguments, environment, clock } arguments
  for block in report.shown do
    for line in block.lines do
      IO.println line
  if let some written := report.written then
    IO.FS.createDirAll written.place.outer.text
    IO.FS.writeFile written.place.text written.text
  if let .failed fault := report.ending then
    IO.eprintln (fault.message?.getD "The command failed.")
  if let .brokenOff fault := report.ending then
    IO.eprintln fault.message
  if report.ending == .misused then
    IO.eprintln "The arguments were not understood."
  return report.ending.exitCode.toUInt32
