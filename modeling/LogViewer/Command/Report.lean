import LogViewer.Command.Files
import LogViewer.Command.Markup
import LogViewer.Corpus.Load
import LogViewer.Export
import LogViewer.Numeric.Number
import LogViewer.Text.Numeral
import LogViewer.Text.Surrogate

/-! What a command leaves behind: what it shows, the file that it writes, and how it ends. -/
namespace LogViewer

/-- A piece of what a command shows. -/
inductive Block where
  | line (text : String)
  /-- A table, with the places of the rows after which a section ends. -/
  | table (title : String) (columns : List String) (rows : List (List String))
    (sections : List Nat)
  /-- A document on several lines. -/
  | data (text : String)
deriving DecidableEq, Repr

/-- The line that some markup stands for. -/
def Block.ofMarkup (markup : String) : Block := .line (Markup.plain markup)

/-- A fault that a command does not answer with a message of its own. -/
inductive Fault where
  /-- There is no such level of diagnostic messages. -/
  | unknownLevel (name : String)
  | numeral (error : Text.NumeralError)
  /-- A query has no words. -/
  | query (number : OverlongNumber)
  | load (error : LoadError)
  | embedded (error : Json.ReadError)
  | calendar (error : CalendarError)
  | arithmetic (error : ArithmeticError)
  /-- A number has more digits than are written. -/
  | unwritable
  /-- A record contains itself. -/
  | loop
  | file (error : FileError)
deriving DecidableEq, Repr

/-- The message about a fault; most faults of arithmetic and of files are told apart by their kind
alone. -/
def Fault.message? : Fault → Option String
  | unknownLevel name => some ("Unknown level: " ++ String.ofList (Text.quoted name.toList))
  | numeral error => some error.message
  | query number => some number.message
  | load error => error.message?
  | embedded error => some error.message
  | calendar error => some error.message
  | arithmetic .divisionByZero => none
  | arithmetic error => some error.message
  | unwritable => some unwritableMessage
  | loop => some Export.loopMessage
  | file .nullCharacter => some "embedded null byte"
  | file _ => none

inductive Ending where
  | finished
  /-- The command has said why it does nothing. -/
  | refused
  /-- The arguments were not understood. -/
  | misused
  | failed (fault : Fault)
  /-- The file has been made, and is left empty because its text has no bytes. -/
  | brokenOff (fault : Text.EncodingFault)
deriving DecidableEq, Repr

def Ending.exitCode : Ending → Nat
  | finished => 0
  | refused | failed _ | brokenOff _ => 1
  | misused => 2

/-- A file that is written. -/
structure Written where
  place : Place
  text : String
deriving DecidableEq, Repr

structure Report where
  shown : List Block := []
  written : Option Written := none
  ending : Ending := .finished
deriving DecidableEq, Repr

namespace Report

/-- Nothing is done but to say why. -/
def refuse (reasons : List Block) : Report := { shown := reasons, ending := .refused }

def fail (shown : List Block) (fault : Fault) : Report := { shown, ending := .failed fault }

/-- The file that is written, if it is new and lies in the working directory. -/
def newFile? (r : Report) (files : Files) : Option Written :=
  r.written.filter fun w => w.place.isInside && (files.content? w.place).isNone

end Report

end LogViewer
