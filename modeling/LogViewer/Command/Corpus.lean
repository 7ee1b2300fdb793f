import LogViewer.Command.Report
import LogViewer.Settings

/-! Where every command begins: the settings, and the corpus in a file. -/
namespace LogViewer

/-- What surrounds a command. -/
structure Surroundings where
  files : Files
  environment : Settings.Environment
  /-- The present second, in universal time. -/
  clock : Second

variable [Text.StandIns]

/-- The text of a file's bytes: what is no text is replaced, and line breaks are unified. -/
def textOfFile (bytes : List Nat) : List Char := Text.unifyBreaks (Text.decodeReplacing bytes)

/-- The message on red ground that some markup is part of. -/
def Surroundings.warning (markup : String) : Block := .ofMarkup ("[red]" ++ markup ++ "[/red]")

/-- The corpus in the file at a path, or what is said if there is none. -/
def Files.corpusAt (files : Files) (settings : Settings) (path : String) : Except Report Corpus :=
  match files.read? (.ofText path) with
  | .error error => .error (.fail [] (.file error))
  | .ok none =>
    .error (.refuse [Surroundings.warning ("File not found: " ++ Markup.escaped path)])
  | .ok (some bytes) =>
    match loadText settings (textOfFile bytes) (Path.ofText path).name with
    | .ok loaded => .ok loaded.corpus
    | .error error =>
      .error (if error.isRefusal then
        .refuse [Surroundings.warning (Markup.escaped (error.message?.getD ""))]
      else .fail [] (.load error))

namespace Surroundings

/-- Goes on with the corpus in the file at a path, unless the settings have problems or the file
holds no document. -/
def withCorpus (s : Surroundings) (path : String) (next : Settings → Corpus → Report) : Report :=
  match Settings.ofEnvironment s.environment with
  | .error error => .fail [] (.numeral error)
  | .ok settings =>
    if settings.problems ≠ [] then
      .refuse (settings.problems.map fun p => warning ("Config error: " ++ p.message))
    else match s.files.corpusAt settings path with
      | .error report => report
      | .ok corpus => next settings corpus

end Surroundings

end LogViewer
