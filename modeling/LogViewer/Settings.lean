import LogViewer.Text.Numeral

/-! What can be set: how documents are read and how a track is laid out. -/
namespace LogViewer

structure Settings where
  /-- The distance between two neighbouring slots. -/
  slotSpacing : Int := 200
  /-- The distance of the first slot from the start of the track. -/
  leftPadding : Int := 200
  /-- The least distance of two boxes in one lane. -/
  minLaneDistance : Int := 140
  maxLanes : Int := 5
  /-- The count of records before one that can keep it from a lane. -/
  laneLookback : Int := 50
  /-- The slots that are rendered beyond either side of the viewport. -/
  bufferSlots : Int := 50
  /-- The hits that are read between two reports of progress. -/
  chunkSize : Int := 500
  viewportWidth : Int := 1280
  /-- The depth below which containers are not entered. -/
  maxWalkDepth : Int := 64
deriving DecidableEq, Repr

namespace Settings

/-- The variables of the environment, as far as they are set. -/
abbrev Environment := List (String × String)

/-- The whole number in a variable, or a default if the variable is not set. -/
def wholeNumberIn (environment : Environment) (name : String) (default : Int) :
    Except Text.NumeralError Int :=
  match environment.lookup ("LOG_TL_" ++ name) with
  | some text => Text.wholeNumber text
  | none => .ok default

/-- The variables that the settings are read from. -/
def variableNames : List String :=
  ["SLOT_SPACING", "LEFT_PADDING", "MIN_LANE_DISTANCE", "MAX_LANES", "LANE_LOOKBACK",
    "BUFFER_SLOTS", "CHUNK_SIZE", "VIEWPORT_WIDTH", "MAX_WALK_DEPTH"].map ("LOG_TL_" ++ ·)

/-- The settings in the environment. -/
def ofEnvironment (environment : Environment) : Except Text.NumeralError Settings := do
  let default : Settings := {}
  return {
    slotSpacing := ← wholeNumberIn environment "SLOT_SPACING" default.slotSpacing
    leftPadding := ← wholeNumberIn environment "LEFT_PADDING" default.leftPadding
    minLaneDistance := ← wholeNumberIn environment "MIN_LANE_DISTANCE" default.minLaneDistance
    maxLanes := ← wholeNumberIn environment "MAX_LANES" default.maxLanes
    laneLookback := ← wholeNumberIn environment "LANE_LOOKBACK" default.laneLookback
    bufferSlots := ← wholeNumberIn environment "BUFFER_SLOTS" default.bufferSlots
    chunkSize := ← wholeNumberIn environment "CHUNK_SIZE" default.chunkSize
    viewportWidth := ← wholeNumberIn environment "VIEWPORT_WIDTH" default.viewportWidth
    maxWalkDepth := ← wholeNumberIn environment "MAX_WALK_DEPTH" default.maxWalkDepth }

/-- What is wrong with a setting. -/
inductive Problem where
  | slotSpacingNotPositive
  | leftPaddingNegative
  | noLane
  | laneLookbackNegative
  | chunkSizeNotPositive
  | viewportWidthNotPositive
  | noDepth
deriving DecidableEq, Repr

def Problem.message : Problem → String
  | slotSpacingNotPositive => "LOG_TL_SLOT_SPACING must be positive"
  | leftPaddingNegative => "LOG_TL_LEFT_PADDING must not be negative"
  | noLane => "LOG_TL_MAX_LANES must be at least 1"
  | laneLookbackNegative => "LOG_TL_LANE_LOOKBACK must not be negative"
  | chunkSizeNotPositive => "LOG_TL_CHUNK_SIZE must be positive"
  | viewportWidthNotPositive => "LOG_TL_VIEWPORT_WIDTH must be positive"
  | noDepth => "LOG_TL_MAX_WALK_DEPTH must be at least 1"

/-- Whether some settings have a problem. -/
def has (s : Settings) : Problem → Bool
  | .slotSpacingNotPositive => s.slotSpacing ≤ 0
  | .leftPaddingNegative => s.leftPadding < 0
  | .noLane => s.maxLanes < 1
  | .laneLookbackNegative => s.laneLookback < 0
  | .chunkSizeNotPositive => s.chunkSize ≤ 0
  | .viewportWidthNotPositive => s.viewportWidth ≤ 0
  | .noDepth => s.maxWalkDepth < 1

/-- All problems of some settings. -/
def problems (s : Settings) : List Problem :=
  [.slotSpacingNotPositive, .leftPaddingNegative, .noLane, .laneLookbackNegative,
    .chunkSizeNotPositive, .viewportWidthNotPositive, .noDepth].filter s.has

end Settings

end LogViewer
