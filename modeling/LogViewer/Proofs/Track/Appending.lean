import Mathlib
import LogViewer.Proofs.Track.Lanes

/-! Tracks that grow at their end. The records that come behind others take no slot away from an
earlier timestamp and move no earlier record to another lane, so whatever was laid out stays where
it is. -/
namespace LogViewer

/-- A timestamp that some records have keeps the slot that they give to it when more come behind
them. -/
theorem slotIn?_append {records : List Record} {t : String} (h : t ∈ slotNames records)
    (more : List Record) : slotIn? (records ++ more) t = slotIn? records t := by
  obtain ⟨slot, hSlot⟩ := Option.isSome_iff_exists.mp (isSome_slotIn?_iff.mpr h)
  obtain ⟨hLt, hName⟩ := List.getElem?_eq_some_iff.mp (slotIn?_eq_some_iff.mp hSlot)
  rw [hSlot, slotIn?_eq_some_iff, ← hName]
  exact List.prefix_iff_getElem?.mp (slotNames_isPrefix_append records more) slot hLt

/-- The boxes that are placed first have the lanes that they have without those behind them. -/
theorem placeBoxes_append {settings : Settings} {placed : List Placement} {place : Nat}
    {boxes more : List Box} {lanes : List Int}
    (h : placeBoxes settings placed place (boxes ++ more) = .ok lanes) :
    ∃ front back, placeBoxes settings placed place boxes = .ok front ∧ lanes = front ++ back := by
  induction boxes generalizing placed place lanes with
  | nil => exact ⟨[], lanes, rfl, rfl⟩
  | cons b boxes ih =>
      obtain ⟨lane, hLane, h⟩ := bind_eq_ok h
      obtain ⟨rest, hRest, h⟩ := bind_eq_ok h
      cases h
      obtain ⟨front, back, hFront, rfl⟩ := ih hRest
      refine ⟨lane :: front, back, ?_, rfl⟩
      rw [placeBoxes, hLane]
      simp only [bind, Except.bind, hFront]
      rfl

namespace Layout

variable {κ : Type}

/-- A layout with more records behind those that it has. -/
def extended (l : Layout κ) (more : List Record) : Layout κ :=
  { l with records := l.records ++ more }

theorem boxes_eq (l : Layout κ) :
    l.boxes = l.records.map fun r =>
      ⟨r.timestamp, l.slotOf r.timestamp * l.settings.slotSpacing⟩ := by
  have hSlots : l.slots = l.records.map fun r => l.slotOf r.timestamp := rfl
  rw [boxes, hSlots, List.zipWith_map_right, List.zipWith_self]

/-- The boxes of the first records are those that they have alone. -/
theorem boxes_isPrefix_extended (l : Layout κ) (more : List Record) :
    l.boxes <+: (l.extended more).boxes := by
  have hSlot (r : Record) (hr : r ∈ l.records) :
      (l.extended more).slotOf r.timestamp = l.slotOf r.timestamp :=
    congrArg (·.getD 0) (slotIn?_append (mem_slotNames.mpr ⟨r, hr, rfl⟩) more)
  have hOwn : l.boxes = l.records.map fun r =>
      ⟨r.timestamp, (l.extended more).slotOf r.timestamp * l.settings.slotSpacing⟩ := by
    rw [boxes_eq]
    refine List.map_congr_left fun r hr => ?_
    rw [hSlot r hr]
  rw [hOwn, boxes_eq]
  exact (List.prefix_append l.records more).map _

theorem slotIn?_eq_ite (records more : List Record) (t : String) :
    slotIn? records t =
      if ∃ r ∈ records, r.timestamp = t then slotIn? (records ++ more) t else none := by
  split
  · rename_i hKnown
    exact (slotIn?_append (mem_slotNames.mpr hKnown) more).symm
  · rename_i hNew
    rw [← Option.not_isSome_iff_eq_none, isSome_slotIn?_iff, mem_slotNames]
    exact hNew

/-- Where there are lanes the first records have those that they have alone. -/
theorem exists_lanes_extended {l : Layout κ} (hLanes : l.settings.maxLanes ≠ 0)
    (more : List Record) :
    ∃ front back, l.lanes = .ok front ∧ (l.extended more).lanes = .ok (front ++ back) ∧
      front.length = l.records.length ∧ back.length = more.length := by
  obtain ⟨others, hBoxes⟩ := l.boxes_isPrefix_extended more
  obtain ⟨lanes, hAll⟩ := exists_placeBoxes_eq_ok hLanes [] 0 (l.extended more).boxes
  obtain ⟨front, back, hFront, rfl⟩ := placeBoxes_append (hBoxes.symm ▸ hAll)
  have hOwn : front.length = l.records.length := by
    rw [(laneOf_of_placeBoxes hFront).1, boxes_eq, List.length_map]
  have hLength : (front ++ back).length = (l.records ++ more).length := by
    rw [(laneOf_of_placeBoxes hAll).1, boxes_eq, List.length_map]
    rfl
  refine ⟨front, back, hFront, hAll, hOwn, ?_⟩
  rw [List.length_append, List.length_append, hOwn] at hLength
  exact Nat.add_left_cancel hLength

/-- Whether a layout is kept when records come behind its own: the timestamps that it has have the
same slots as before, and its records the same lanes. -/
structure IsKept (l : Layout κ) (more : List Record) : Prop where
  slots : ∀ t, slotIn? l.records t =
    if ∃ r ∈ l.records, r.timestamp = t then slotIn? (l.extended more).records t else none
  lanes : ∃ front back, l.lanes = .ok front ∧ (l.extended more).lanes = .ok (front ++ back) ∧
    front.length = l.records.length ∧ back.length = more.length

/-- Where there are lanes a layout is kept, whatever records come behind its own. -/
theorem isKept_extended {l : Layout κ} (hLanes : l.settings.maxLanes ≠ 0) (more : List Record) :
    l.IsKept more :=
  ⟨slotIn?_eq_ite l.records more, exists_lanes_extended hLanes more⟩

private def datedRecord (timestamp : String) : Record :=
  { timestamp, format := .unstructured, instant := 0 }

/-- Two records in neighbouring slots, which are too near to each other for one lane. -/
private def neighbours : Layout Number :=
  .make { slotSpacing := 100, maxLanes := 2 } (["1970-01-02", "1970-01-01"].map datedRecord) none

theorem isKept_extended_neighbours :
    let more := ["1970-01-01", "1970-01-03", "1970-01-02"].map datedRecord
    neighbours.settings.maxLanes ≠ 0 ∧ neighbours.IsKept more ∧
      neighbours.lanes = .ok [0, 1] ∧
      (neighbours.extended more).lanes = .ok [0, 1, 0, 1, 0] ∧
      slotIn? neighbours.records "1970-01-01" = some 1 ∧
      slotIn? (neighbours.extended more).records "1970-01-01" = some 1 ∧
      slotIn? neighbours.records "1970-01-03" = none := by
  intro more
  have hLanes : neighbours.settings.maxLanes ≠ 0 := by decide
  have hOwn : neighbours.lanes = .ok [0, 1] := by
    unfold neighbours datedRecord
    cbv
  have hAll : (neighbours.extended more).lanes = .ok [0, 1, 0, 1, 0] := by
    unfold more neighbours datedRecord
    cbv
  exact ⟨hLanes, isKept_extended hLanes more, hOwn, hAll, by decide, by decide, by decide⟩

end Layout

end LogViewer
