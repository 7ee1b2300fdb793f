import LogViewer.Record.Basic
import LogViewer.Track.Coordinate
import LogViewer.Track.Lanes

/-! The layout of a row of records on a track. Records with one timestamp share a slot, slots are
equally far apart, and the track is at least twice as wide as the viewport. -/
namespace LogViewer

/-- The distinct timestamps of some records in the order of first occurrence, each with its slot: a
new one takes the count of those that have one. -/
def slotMap (records : List Record) : List (String × Nat) :=
  records.foldl (fun slots r => Json.putNew slots r.timestamp slots.length) []

/-- The distinct timestamps of some records in the order of first occurrence. -/
def slotNames (records : List Record) : List String := (slotMap records).map (·.1)

/-- The slot that a row of records gives to a timestamp, if it is that of a record. -/
def slotIn? (records : List Record) (timestamp : String) : Option Nat :=
  (slotMap records).lookup timestamp

structure Layout (κ : Type) where
  settings : Settings
  records : List Record
  viewportWidth : κ

/-- The places of the records to render, from `start` to before `stop`. -/
structure Window where
  start : Nat
  stop : Nat
deriving DecidableEq, Repr

def Window.size (w : Window) : Nat := w.stop - w.start

namespace Layout

variable {κ : Type}

/-- A layout in a viewport of a width, or of the width that is set. -/
def make [Coordinate κ] (settings : Settings) (records : List Record)
    (viewportWidth : Option κ) : Layout κ where
  settings := settings
  records := records
  viewportWidth := viewportWidth.getD (Coordinate.ofInt settings.viewportWidth)

def slotCount (l : Layout κ) : Nat := (slotMap l.records).length

/-- The slot of a timestamp, the first one if it has none. -/
def slotOf (l : Layout κ) (timestamp : String) : Nat := (slotIn? l.records timestamp).getD 0

/-- The slots of the records. -/
def slots (l : Layout κ) : List Nat :=
  let slots := slotMap l.records
  l.records.map fun r => (slots.lookup r.timestamp).getD 0

/-- The offset of a slot on the track. -/
def pixelOfSlot (l : Layout κ) (slot : Nat) : Int :=
  l.settings.leftPadding + slot * l.settings.slotSpacing

/-- The offsets of the records on the track. -/
def pixels (l : Layout κ) : List Int := l.slots.map l.pixelOfSlot

/-- The boxes of the records. -/
def boxes (l : Layout κ) : List Box :=
  l.records.zipWith
    (fun r (slot : Nat) => ⟨r.timestamp, (slot : Int) * l.settings.slotSpacing⟩) l.slots

/-- The lanes of the records. -/
def lanes (l : Layout κ) : Except ArithmeticError (List Int) := assignLanes l.settings l.boxes

variable [Coordinate κ]

open Coordinate

def trackWidth (l : Layout κ) : Except ArithmeticError κ := do
  let content := ofInt (l.slotCount * l.settings.slotSpacing + l.settings.leftPadding)
  return greater content (← mul l.viewportWidth (ofInt 2))

/-- An offset as a share of a track with a width. -/
def shareOf (width : Except ArithmeticError κ) (pixel : Int) : Except ArithmeticError κ := do
  div (ofInt pixel) (← width)

/-- The offsets of the records as shares of the track. -/
def positions (l : Layout κ) : Except ArithmeticError (List κ) :=
  let width := l.trackWidth
  l.pixels.mapM (shareOf width)

/-- The width by which rendering reaches beyond the viewport. -/
def buffer (l : Layout κ) : Int := l.settings.bufferSlots * l.settings.slotSpacing

/-- The records to render when a viewport of a width begins at an offset: from the first one that
lies behind the start of the buffered viewport to the last one that lies before its end. -/
def visibleWindow (l : Layout κ) (scroll width : κ) : Except ArithmeticError Window := do
  if l.records.isEmpty then return ⟨0, 0⟩
  let reach := ofInt l.buffer
  let first := greater (ofInt 0) (← sub scroll reach)
  let last ← add (← add scroll width) reach
  let pixels := l.pixels
  let start := (pixels.findIdx? fun pixel => le first (ofInt pixel)).getD 0
  let stop := match pixels.reverse.findIdx? fun pixel => le (ofInt pixel) last with
    | some k => pixels.length - k
    | none => pixels.length
  return ⟨start, max start stop⟩

/-- The offset at which a viewport of a width has a record in its middle, or the start of the track;
none if there is no such record. -/
def scrollOffset? (l : Layout κ) (index : Int) (width : κ) :
    Except ArithmeticError (Option κ) := do
  if index < 0 then return none
  let some pixel := l.pixels[index.toNat]? | return none
  return some (greater origin (← sub (ofInt pixel) (← div width (ofInt 2))))

end Layout

end LogViewer
