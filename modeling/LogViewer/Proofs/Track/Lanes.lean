import Mathlib
import LogViewer.Proofs.Success
import LogViewer.Proofs.Track.Slots

/-! The lanes of a track as they are given away. A record gets the lowest lane that none of the last
records before it keeps it from, and where there is no such lane the one that its place gives. -/
namespace LogViewer

section

variable {taken : Nat → Bool} {lane limit : Nat}

/-- A lane that is found is free, and those before it are taken. -/
theorem lowestFree?_eq_some {k : Nat} (h : lowestFree? taken lane limit = some k) :
    k < limit ∧ taken k = false ∧ ∀ m, lane ≤ m → m < k → taken m = true := by
  fun_induction lowestFree? taken lane limit with
  | case1 lane hLimit hTaken ih =>
      obtain ⟨hk, hFree, hBelow⟩ := ih h
      refine ⟨hk, hFree, fun m hm hmk => ?_⟩
      rcases Nat.eq_or_lt_of_le hm with rfl | hm
      · exact hTaken
      · exact hBelow m hm hmk
  | case2 lane hLimit hFree =>
      cases h
      exact ⟨hLimit, Bool.eq_false_iff.mpr hFree, fun m hm hmk => by omega⟩
  | case3 => cases h

/-- Where no lane is found all of them are taken. -/
theorem lowestFree?_eq_none (h : lowestFree? taken lane limit = none) {m : Nat} (hm : lane ≤ m)
    (hLimit : m < limit) : taken m = true := by
  fun_induction lowestFree? taken lane limit with
  | case1 lane _ hTaken ih =>
      rcases Nat.eq_or_lt_of_le hm with rfl | hm
      · exact hTaken
      · exact ih h hm
  | case2 => cases h
  | case3 => omega

end

/-- Boxes and their lanes. -/
def placements (boxes : List Box) (lanes : List Int) : List Placement :=
  boxes.zipWith Placement.mk lanes

theorem getElem?_placements {boxes : List Box} {lanes : List Int} {j : Nat} {p : Placement} :
    (placements boxes lanes)[j]? = some p ↔ boxes[j]? = some p.box ∧ lanes[j]? = some p.lane := by
  obtain ⟨b, lane⟩ := p
  rw [placements, List.getElem?_zipWith]
  cases boxes[j]? <;> cases lanes[j]? <;> simp

theorem exists_laneOf_eq_ok {settings : Settings} (h : settings.maxLanes ≠ 0)
    (nearby : List Placement) (b : Box) (place : Nat) :
    ∃ lane, laneOf settings nearby b place = .ok lane := by
  unfold laneOf
  split
  · exact ⟨_, rfl⟩
  · rw [if_neg h]
    exact ⟨_, rfl⟩

/-- Where there are lanes every box has one. -/
theorem exists_placeBoxes_eq_ok {settings : Settings} (h : settings.maxLanes ≠ 0)
    (placed : List Placement) (place : Nat) (boxes : List Box) :
    ∃ lanes, placeBoxes settings placed place boxes = .ok lanes := by
  induction boxes generalizing placed place with
  | nil => exact ⟨[], rfl⟩
  | cons b boxes ih =>
      obtain ⟨lane, hLane⟩ :=
        exists_laneOf_eq_ok h (placed.take settings.laneLookback.toNat) b place
      obtain ⟨lanes, hLanes⟩ := ih (⟨b, lane⟩ :: placed) (place + 1)
      refine ⟨lane :: lanes, ?_⟩
      rw [placeBoxes, hLane]
      simp only [bind, Except.bind, hLanes]
      rfl

/-- Every box has the lane that those placed before it leave to it. -/
theorem laneOf_of_placeBoxes {settings : Settings} {boxes : List Box} {placed : List Placement}
    {place : Nat} {lanes : List Int} (h : placeBoxes settings placed place boxes = .ok lanes) :
    lanes.length = boxes.length ∧ ∀ i b, boxes[i]? = some b → ∃ lane, lanes[i]? = some lane ∧
      laneOf settings ((((placements boxes lanes).take i).reverse ++ placed).take
        settings.laneLookback.toNat) b (place + i) = .ok lane := by
  -- Each step moves the first box over to those that are placed, which stand last one first.
  induction boxes generalizing placed place lanes with
  | nil =>
      cases h
      exact ⟨rfl, by simp⟩
  | cons first boxes ih =>
      obtain ⟨lane, hLane, h⟩ := bind_eq_ok h
      obtain ⟨rest, hRest, h⟩ := bind_eq_ok h
      cases h
      obtain ⟨hLength, hOthers⟩ := ih hRest
      refine ⟨congrArg Nat.succ hLength, fun i b hb => ?_⟩
      cases i with
      | zero =>
          cases hb
          exact ⟨lane, rfl, hLane⟩
      | succ i =>
          obtain ⟨other, hOther, hOtherLane⟩ := hOthers i b hb
          refine ⟨other, hOther, ?_⟩
          have hNext : place + (i + 1) = place + 1 + i := by omega
          have hPlaced : ((placements (first :: boxes) (lane :: rest)).take (i + 1)).reverse ++
              placed = ((placements boxes rest).take i).reverse ++ ⟨first, lane⟩ :: placed := by
            simp [placements]
          rw [hNext, hPlaced, hOtherLane]

/-- The last members before a place, the last one first. -/
theorem mem_take_reverse_take {α : Type} {l : List α} {i w : Nat} (hi : i ≤ l.length) {a : α} :
    a ∈ (l.take i).reverse.take w ↔ ∃ j, j < i ∧ i ≤ j + w ∧ l[j]? = some a := by
  rw [List.take_reverse, List.mem_reverse, List.length_take_of_le hi, List.mem_iff_getElem?]
  simp only [List.getElem?_drop, List.getElem?_take]
  constructor
  · rintro ⟨k, hk⟩
    split at hk
    · exact ⟨i - w + k, by omega, by omega, hk⟩
    · cases hk
  · rintro ⟨j, hLt, hNear, hj⟩
    refine ⟨j - (i - w), ?_⟩
    have hSame : i - w + (j - (i - w)) = j := by omega
    rw [hSame, if_pos hLt, hj]

namespace Layout

variable {κ : Type}

/-- The distance on the track of the slots of two timestamps. -/
def slotDistance (l : Layout κ) (t u : String) : Int :=
  |(l.slotOf t : Int) - l.slotOf u| * |l.settings.slotSpacing|

/-- Whether the record at a place `j` keeps that at a later place `i` from a lane: it is one of the
last records before it, is in that lane, and has the same timestamp or is too near to it. -/
structure Blocks (l : Layout κ) (lanes : List Int) (i j : Nat) (lane : Int) : Prop where
  before : j < i
  near : (i : Int) - l.settings.laneLookback ≤ j
  inLane : lanes[j]? = some lane
  conflicts : ∃ t u, l.timestampAt? i = some t ∧ l.timestampAt? j = some u ∧
    (u = t ∨ l.slotDistance u t < l.settings.minLaneDistance)

/-- Whether there is a lane and no record keeps that at a place from it. -/
structure IsFree (l : Layout κ) (lanes : List Int) (i : Nat) (lane : Int) : Prop where
  nonneg : 0 ≤ lane
  lt : lane < l.settings.maxLanes
  notBlocked : ∀ j, ¬l.Blocks lanes i j lane

/-- The lane that the record at a place has to get. -/
inductive Gets (l : Layout κ) (lanes : List Int) (i : Nat) : Int → Prop where
  | lowest {lane : Int} (h : IsLeast {k | l.IsFree lanes i k} lane) : Gets l lanes i lane
  | fallback (h : ∀ k, ¬l.IsFree lanes i k) : Gets l lanes i (i % l.settings.maxLanes)

/-- Whether lanes are given away greedily: every record has one, there is this lane, and it is the
one that the record has to get. -/
structure IsPacked (l : Layout κ) (lanes : List Int) : Prop where
  length_eq : lanes.length = l.records.length
  mem_Ico : ∀ lane ∈ lanes, lane ∈ Set.Ico 0 l.settings.maxLanes
  gets : ∀ i < l.records.length, ∃ lane, lanes[i]? = some lane ∧ l.Gets lanes i lane

variable {l : Layout κ} {lanes : List Int} {i j : Nat}

theorem Gets.mem_Ico (hLanes : 1 ≤ l.settings.maxLanes) {lane : Int} (h : l.Gets lanes i lane) :
    lane ∈ Set.Ico 0 l.settings.maxLanes := by
  cases h with
  | lowest h => exact ⟨h.1.nonneg, h.1.lt⟩
  | fallback => exact ⟨Int.emod_nonneg _ (by omega), Int.emod_lt_of_pos _ (by omega)⟩

theorem getElem?_boxes (l : Layout κ) (i : Nat) :
    l.boxes[i]? = (l.timestampAt? i).map fun t => ⟨t, l.slotOf t * l.settings.slotSpacing⟩ := by
  have hSlots : l.slots = l.records.map fun r => l.slotOf r.timestamp := rfl
  rw [boxes, hSlots, List.getElem?_zipWith, List.getElem?_map, timestampAt?]
  cases l.records[i]? <;> rfl

theorem conflicts_iff {t u : String} :
    (Box.mk u (l.slotOf u * l.settings.slotSpacing)).conflicts l.settings.minLaneDistance
        ⟨t, l.slotOf t * l.settings.slotSpacing⟩ = true ↔
      u = t ∨ l.slotDistance u t < l.settings.minLaneDistance := by
  have hDistance : (((l.slotOf u : Int) * l.settings.slotSpacing -
      l.slotOf t * l.settings.slotSpacing).natAbs : Int) = l.slotDistance u t := by
    rw [Int.natCast_natAbs, ← sub_mul, abs_mul]
    rfl
  simp only [Box.conflicts, Bool.or_eq_true, beq_iff_eq, decide_eq_true_iff, hDistance]

/-- A lane is taken for a record exactly if some record keeps it from that lane. -/
theorem laneTaken_iff (hLength : lanes.length = l.records.length) {t : String}
    (ht : l.timestampAt? i = some t) {lane : Nat} :
    laneTaken l.settings.minLaneDistance
        (((placements l.boxes lanes).take i).reverse.take l.settings.laneLookback.toNat)
        ⟨t, l.slotOf t * l.settings.slotSpacing⟩ lane = true ↔
      ∃ j, l.Blocks lanes i j lane := by
  have hi : i < l.records.length := exists_timestampAt?_iff.mp ⟨t, ht⟩
  have hPlacements : i ≤ (placements l.boxes lanes).length := by
    simp [placements, boxes, slots, hLength]
    omega
  simp only [laneTaken, List.any_eq_true, mem_take_reverse_take hPlacements, getElem?_placements,
    Bool.and_eq_true, beq_iff_eq]
  constructor
  · rintro ⟨⟨b, own⟩, ⟨j, hBefore, hNear, hBox, hLane⟩, rfl, hConflicts⟩
    rw [getElem?_boxes] at hBox
    obtain ⟨u, hu, rfl⟩ := Option.map_eq_some_iff.mp hBox
    exact ⟨j, hBefore, by omega, hLane, t, u, ht, hu, conflicts_iff.mp hConflicts⟩
  · rintro ⟨j, hBefore, hNear, hLane, t', u, ht', hu, hConflicts⟩
    obtain rfl := Option.some_inj.mp (ht.symm.trans ht')
    refine ⟨⟨_, lane⟩, ⟨j, hBefore, by omega, ?_, hLane⟩, rfl, conflicts_iff.mpr hConflicts⟩
    rw [getElem?_boxes, hu, Option.map_some]

theorem gets_of_laneOf (hLanes : 1 ≤ l.settings.maxLanes)
    (hLength : lanes.length = l.records.length) {t : String} (ht : l.timestampAt? i = some t)
    {lane : Int}
    (h : laneOf l.settings
        (((placements l.boxes lanes).take i).reverse.take l.settings.laneLookback.toNat)
        ⟨t, l.slotOf t * l.settings.slotSpacing⟩ i = .ok lane) : l.Gets lanes i lane := by
  have hLimit : max 1 l.settings.maxLanes.toNat = l.settings.maxLanes.toNat := by omega
  unfold laneOf at h
  rw [hLimit] at h
  split at h
  · rename_i k hk
    cases h
    obtain ⟨hLt, hFree, hBelow⟩ := lowestFree?_eq_some hk
    refine Gets.lowest ⟨⟨Int.natCast_nonneg k, by omega, fun j hj => ?_⟩, fun m hm => ?_⟩
    · exact Bool.eq_false_iff.mp hFree ((laneTaken_iff hLength ht).mpr ⟨j, hj⟩)
    · by_contra hLower
      obtain ⟨m, rfl⟩ := Int.eq_ofNat_of_zero_le hm.nonneg
      obtain ⟨j, hj⟩ := (laneTaken_iff hLength ht).mp (hBelow m (Nat.zero_le m) (by omega))
      exact hm.notBlocked j hj
  · rename_i hNone
    rw [if_neg (by omega)] at h
    cases h
    rw [Int.fmod_eq_emod_of_nonneg _ (by omega)]
    refine Gets.fallback fun m hm => ?_
    have hLt := hm.lt
    obtain ⟨m, rfl⟩ := Int.eq_ofNat_of_zero_le hm.nonneg
    obtain ⟨j, hj⟩ := (laneTaken_iff hLength ht).mp
      (lowestFree?_eq_none hNone (Nat.zero_le m) (by omega))
    exact hm.notBlocked j hj

/-- Where there are lanes they are given away greedily. -/
theorem exists_isPacked (hLanes : 1 ≤ l.settings.maxLanes) :
    ∃ lanes, l.lanes = .ok lanes ∧ l.IsPacked lanes := by
  have hSome : l.settings.maxLanes ≠ 0 := by omega
  obtain ⟨lanes, h⟩ := exists_placeBoxes_eq_ok hSome [] 0 l.boxes
  obtain ⟨hBoxes, hEach⟩ := laneOf_of_placeBoxes h
  have hLength : lanes.length = l.records.length := by
    rw [hBoxes]
    simp [boxes, slots]
  have hGets (i : Nat) (hi : i < l.records.length) :
      ∃ lane, lanes[i]? = some lane ∧ l.Gets lanes i lane := by
    obtain ⟨t, ht⟩ := exists_timestampAt?_iff.mpr hi
    obtain ⟨lane, hLane, hOf⟩ := hEach i _ (by rw [getElem?_boxes, ht, Option.map_some])
    rw [List.append_nil, Nat.zero_add] at hOf
    exact ⟨lane, hLane, gets_of_laneOf hLanes hLength ht hOf⟩
  refine ⟨lanes, h, hLength, fun lane hLane => ?_, hGets⟩
  obtain ⟨i, hi⟩ := List.mem_iff_getElem?.mp hLane
  obtain ⟨hLt, -⟩ := List.getElem?_eq_some_iff.mp hi
  obtain ⟨own, hOwn, hGet⟩ := hGets i (hLength ▸ hLt)
  obtain rfl := Option.some_inj.mp (hi.symm.trans hOwn)
  exact hGet.mem_Ico hLanes

/-- Of two records with one timestamp that are near each other the later one has the lane of the
earlier one only if it was left no lane. -/
theorem IsPacked.fallback_of_shared (h : l.IsPacked lanes) (hBefore : j < i)
    (hNear : (i : Int) - l.settings.laneLookback ≤ j) {t : String} (hi : l.timestampAt? i = some t)
    (hj : l.timestampAt? j = some t) (hShared : lanes[i]? = lanes[j]?) :
    (∀ k, ¬l.IsFree lanes i k) ∧ lanes[i]? = some ((i : Int) % l.settings.maxLanes) := by
  obtain ⟨lane, hLane, hGets⟩ := h.gets i (exists_timestampAt?_iff.mp ⟨t, hi⟩)
  cases hGets with
  | lowest hLeast =>
      have hBlocks : l.Blocks lanes i j lane :=
        ⟨hBefore, hNear, hShared.symm.trans hLane, t, t, hi, hj, Or.inl rfl⟩
      exact absurd hBlocks (hLeast.1.notBlocked j)
  | fallback hNone => exact ⟨hNone, hLane⟩

/-- Lanes are given away greedily whatever the records are. In particular two records with one
timestamp that are near each other share a lane only if the later one was left none. -/
theorem lanes_isPacked (l : Layout κ) (hLanes : 1 ≤ l.settings.maxLanes) :
    ∃ lanes, l.lanes = .ok lanes ∧ l.IsPacked lanes ∧
      ∀ (i j : Nat) (t : String), j < i → (i : Int) - l.settings.laneLookback ≤ j →
        l.timestampAt? i = some t → l.timestampAt? j = some t → lanes[i]? = lanes[j]? →
          (∀ k, ¬l.IsFree lanes i k) ∧ lanes[i]? = some ((i : Int) % l.settings.maxLanes) := by
  obtain ⟨lanes, h, hPacked⟩ := exists_isPacked hLanes
  refine ⟨lanes, h, hPacked, fun i j t hBefore hNear hi hj hShared => ?_⟩
  exact hPacked.fallback_of_shared hBefore hNear hi hj hShared

/-- Seven records with one timestamp, and one with another. -/
private def crowded : Layout Number :=
  let crowd : Record := { timestamp := "1970-01-01", format := .unstructured, instant := 0 }
  let last : Record := { timestamp := "1970-01-02", format := .unstructured, instant := 86400000 }
  .make {} (List.replicate 7 crowd ++ [last]) none

theorem lanes_isPacked_crowded :
    1 ≤ crowded.settings.maxLanes ∧ crowded.IsPacked [0, 1, 2, 3, 4, 0, 1, 0] ∧
      ∀ k, ¬crowded.IsFree [0, 1, 2, 3, 4, 0, 1, 0] 5 k := by
  have hLanes : 1 ≤ crowded.settings.maxLanes := by decide
  have hCrowded : crowded.lanes = .ok [0, 1, 2, 3, 4, 0, 1, 0] := by
    unfold crowded
    cbv
  obtain ⟨lanes, h, hPacked, hShared⟩ := lanes_isPacked crowded hLanes
  obtain rfl := Except.ok.inj (hCrowded.symm.trans h)
  exact ⟨hLanes, hPacked, (hShared 5 0 "1970-01-01" (by decide) (by decide) rfl rfl rfl).1⟩

end Layout

/-- Whether boxes of different slots are never too near to each other to share a lane. -/
structure Settings.SpacesSlots (settings : Settings) : Prop where
  slotSpacing_pos : 0 < settings.slotSpacing
  minLaneDistance_le : settings.minLaneDistance ≤ settings.slotSpacing

namespace Layout

variable {κ : Type} {l : Layout κ}

theorem minLaneDistance_le_slotDistance (hSpaces : l.settings.SpacesSlots) {t u : String}
    (ht : t ∈ slotNames l.records) (hu : u ∈ slotNames l.records) (hOther : u ≠ t) :
    l.settings.minLaneDistance ≤ l.slotDistance u t := by
  have hSlots : (l.slotOf u : Int) - l.slotOf t ≠ 0 := by
    rw [sub_ne_zero, Ne, Nat.cast_inj, slotOf_inj hu ht]
    exact hOther
  calc l.settings.minLaneDistance
      ≤ |l.settings.slotSpacing| := hSpaces.minLaneDistance_le.trans (le_abs_self _)
    _ ≤ l.slotDistance u t := le_mul_of_one_le_left (abs_nonneg _) (Int.one_le_abs hSlots)

/-- Where slots are far apart only a record with the same timestamp keeps another one from its
lane. -/
theorem blocks_iff (hSpaces : l.settings.SpacesSlots) {i j : Nat} {t : String}
    (ht : l.timestampAt? i = some t) {lanes : List Int} {lane : Int} :
    l.Blocks lanes i j lane ↔ j < i ∧ (i : Int) - l.settings.laneLookback ≤ j ∧
      lanes[j]? = some lane ∧ l.timestampAt? j = some t := by
  constructor
  · rintro ⟨hBefore, hNear, hLane, t', u, ht', hu, hConflicts⟩
    obtain rfl := Option.some_inj.mp (ht.symm.trans ht')
    refine ⟨hBefore, hNear, hLane, ?_⟩
    rcases hConflicts with rfl | hNearSlot
    · exact hu
    · by_contra hOther
      rw [hu, Option.some_inj] at hOther
      have hFar := minLaneDistance_le_slotDistance hSpaces (mem_slotNames_of_timestampAt? ht)
        (mem_slotNames_of_timestampAt? hu) hOther
      omega
  · rintro ⟨hBefore, hNear, hLane, hj⟩
    exact ⟨hBefore, hNear, hLane, t, t, ht, hj, Or.inl rfl⟩

end Layout

end LogViewer
