import LogViewer.Numeric.Number
import LogViewer.Settings

/-! The lanes of a track. The boxes are placed one after the other, each in the lowest lane in which
no box among the last ones placed is too near to it. A box for which every lane is taken goes to the
lane that its place in the row gives, and may overlap. -/
namespace LogViewer

/-- A box of a track: the timestamp of its record and its offset on the track. -/
structure Box where
  timestamp : String
  offset : Int
deriving DecidableEq, Repr

/-- A box and its lane. -/
structure Placement where
  box : Box
  lane : Int
deriving DecidableEq, Repr

namespace Box

/-- Whether two boxes cannot share a lane: they have one timestamp or are too near to each other. -/
def conflicts (minDistance : Int) (a b : Box) : Bool :=
  a.timestamp == b.timestamp || (a.offset - b.offset).natAbs < minDistance

end Box

/-- Whether a lane is taken for a box by one of some placements. -/
def laneTaken (minDistance : Int) (nearby : List Placement) (b : Box) (lane : Nat) : Bool :=
  nearby.any fun p => p.lane == (lane : Int) && p.box.conflicts minDistance b

/-- The lowest lane from `lane` on, and below `limit`, that is not taken. -/
def lowestFree? (taken : Nat → Bool) (lane limit : Nat) : Option Nat :=
  if lane < limit then
    if taken lane then lowestFree? taken (lane + 1) limit else some lane
  else none
termination_by limit - lane

/-- The lane of a box with a place in the row. The first lane is tried in any case; with no lanes at
all there is none to fall back on. -/
def laneOf (settings : Settings) (nearby : List Placement) (b : Box) (place : Nat) :
    Except ArithmeticError Int :=
  match lowestFree? (laneTaken settings.minLaneDistance nearby b) 0
      (max 1 settings.maxLanes.toNat) with
  | some lane => .ok lane
  | none =>
    if settings.maxLanes = 0 then .error .divisionByZero
    else .ok (Int.fmod place settings.maxLanes)

/-- Places the boxes from a place in the row on; those placed before stand in `placed`, the last of
them first. -/
def placeBoxes (settings : Settings) (placed : List Placement) (place : Nat) :
    List Box → Except ArithmeticError (List Int)
  | [] => .ok []
  | b :: boxes => do
    let nearby := placed.take settings.laneLookback.toNat
    let lane ← laneOf settings nearby b place
    return lane :: (← placeBoxes settings (⟨b, lane⟩ :: placed) (place + 1) boxes)

/-- The lanes of a row of boxes. -/
def assignLanes (settings : Settings) (boxes : List Box) : Except ArithmeticError (List Int) :=
  placeBoxes settings [] 0 boxes

end LogViewer
