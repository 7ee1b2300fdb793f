import LogViewer.Record.Category
import LogViewer.Record.Label
import LogViewer.Track.Layout

/-! What is drawn of a track: a box for each record in a window. -/
namespace LogViewer

/-- What is drawn for a record of a track. -/
structure RenderedBox (κ : Type) where
  /-- The place of the record in the row. -/
  index : Nat
  /-- The record's offset as a share of the track. -/
  position : κ
  lane : Int
  category : Category
  label : String
  timestamp : String
  selected : Bool

/-- What is drawn for the records in a window, one of which may be selected. Nothing is computed for
an empty window. -/
def Layout.render {κ : Type} [Coordinate κ] (l : Layout κ) (w : Window) (selected : Option Nat) :
    Except ArithmeticError (List (RenderedBox κ)) :=
  let width := l.trackWidth
  let lanes := l.lanes
  let rows := (l.records.zip l.pixels).zipIdx.drop w.start |>.take w.size
  rows.mapM fun ((r, pixel), index) => do
    let position ← Layout.shareOf width pixel
    let lane := (← lanes)[index]?.getD 0
    return {
      index, position, lane
      category := r.category
      label := r.label
      timestamp := r.timestamp
      selected := selected == some index }

end LogViewer
