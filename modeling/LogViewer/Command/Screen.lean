import LogViewer.Command.Report

/-! The lines in which what a command shows is drawn. -/
namespace LogViewer

/-- A cell with spaces after its text up to a width. -/
def cellText (width : Nat) (text : String) : String :=
  text ++ String.ofList (List.replicate (width - text.length) ' ')

/-- The widths of the columns of a table: that of the longest cell in each. -/
def columnWidths : List (List String) → List Nat
  | [] => []
  | [row] => row.map String.length
  | row :: rows => (row.map String.length).zipWith max (columnWidths rows)

/-- A row of a table as a line. -/
def rowText (widths : List Nat) (row : List String) : String :=
  String.intercalate "  " (widths.zipWith cellText row)

/-- A rule below a row of a table. -/
def ruleText (widths : List Nat) : String :=
  rowText widths (widths.map fun n => String.ofList (List.replicate n '-'))

namespace Block

/-- The lines of a piece of what a command shows. -/
def lines : Block → List String
  | line text => [text]
  | data text => [text]
  | table title columns rows sections =>
    let widths := columnWidths (columns :: rows)
    title :: rowText widths columns :: ruleText widths ::
      rows.zipIdx.flatMap fun (row, i) =>
        rowText widths row :: (if i ∈ sections then [ruleText widths] else [])

end Block

end LogViewer
