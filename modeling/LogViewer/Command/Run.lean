import LogViewer.Command.Export
import LogViewer.Command.Search
import LogViewer.Command.Summary
import LogViewer.Command.Timeline

/-! Running a command. The options in front of the command's name are read first, then the level of
diagnostic messages, and only then the arguments of the command. What stands in the place of the
name after a pair of hyphens but is no name is read as an option all the same, so that it may ask
for help. Left out are: a console that cannot encode what is printed, so that printing always
succeeds; the end of the stack under deep nesting; the diagnostic messages, of which the level alone
is checked; the borders, styles and widths of tables and the text of the help; files that may not be
read or written, and a disk that fails once a file is made; and the escape of a surrogate inside a
container that is shown as a whole. -/
namespace LogViewer.Command

variable [Text.StandIns]

/-- The commands, each with the arguments that it takes and what it does. -/
def all : List (String × Signature × (Surroundings → Call → Report)) :=
  [("summary", Summary.signature, Summary.run), ("search", Search.signature, Search.run),
    ("timeline", Timeline.signature, Timeline.run), ("export", Export.signature, Export.run)]

/-- The options in front of a command's name. -/
structure Leading where
  verbose : Bool := false
  help : Bool := false
deriving DecidableEq, Repr

/-- Reads the options in front of a command's name, and gives back the arguments from the name on.
-/
def leading? (options : Leading) : List String → Option (Leading × List String)
  | [] => some (options, [])
  | argument :: rest =>
    if argument = "--" then some (options, rest)
    else if argument = "--verbose" then leading? { options with verbose := true } rest
    else if argument = Signature.helpName then leading? { options with help := true } rest
    else if isOption argument then
      if argument.toList.tail.all (· == 'v') then leading? { options with verbose := true } rest
      else none
    else some (options, argument :: rest)

/-- The levels of diagnostic messages. -/
def levels : List String :=
  ["CRITICAL", "FATAL", "ERROR", "WARN", "WARNING", "INFO", "DEBUG", "NOTSET"]

/-- The variable that sets the level of diagnostic messages. -/
def levelVariable : String := "LOG_LEVEL"

/-- The variables that commands look at. -/
def variableNames : List String := levelVariable :: Settings.variableNames

/-- The level that is set, in capital letters, if there is no such level. -/
def unknownLevel? (environment : Settings.Environment) : Option String :=
  let level := (environment.lookup levelVariable).getD "WARNING"
  let level := String.ofList (Text.upper level.toList)
  if level ∈ levels then none else some level

/-- Whether some arguments ask for help in front of a command's name. -/
def asksForHelp (arguments : List String) : Bool := (leading? {} arguments).any (·.1.help)

/-- Runs the command that some arguments name. -/
def run (s : Surroundings) (arguments : List String) : Report :=
  match leading? {} arguments with
  | none | some (⟨_, false⟩, []) => { ending := .misused }
  | some (⟨_, true⟩, _) => {}
  | some (⟨verbose, false⟩, name :: rest) =>
    match all.lookup name, unknownLevel? s.environment with
    | none, _ => if asksForHelp (name :: rest) then {} else { ending := .misused }
    | some (signature, command), level =>
      match if verbose then none else level with
      | some level => .fail [] (.unknownLevel level)
      | none => match signature.call? rest with
        | none => { ending := .misused }
        | some call => if call.isOn Signature.helpName then {} else command s call

/-- The characters of a run: those of the arguments, the variables and the files, and those that the
documents in the files name by escapes. -/
def charactersOf (s : Surroundings) (arguments : List String) : List Char :=
  arguments.flatMap String.toList ++ s.environment.flatMap (·.2.toList) ++
    s.files.contents.flatMap fun (_, bytes) =>
      let text := textOfFile bytes
      text ++ ((Json.read text).toOption.map Json.compact).getD []

/-- Runs the command that some arguments name, where surrogates are given by characters that the run
does not have. -/
def runApart (s : Surroundings) (arguments : List String) : Report :=
  @run (.awayFrom (charactersOf s arguments)) s arguments

/-- The path of the file that a command reads. -/
def inputPath? (arguments : List String) : Option Path := do
  let (_, name :: rest) ← leading? {} arguments | none
  let (signature, _) ← all.lookup name
  (← signature.call? rest).positional.head?.map Path.ofText

end LogViewer.Command
