import Mathlib
import LogViewer.Proofs.Track.Lanes

/-! The lanes of groups. Where the records of each timestamp stand next to each other and slots are
far apart, the lane of a record follows from its place in its group: the first records of a group
get the lanes in order, and once these are used up the place in the row gives the lane. -/
namespace LogViewer

/-- What holds from some number on holds of the last numbers, as many as it is counted of. -/
theorem iff_sub_count_le {p : Nat → Prop} [DecidablePred p] {i : Nat}
    (h : ∀ a b, a < b → b < i → p a → p b) {j : Nat} (hj : j < i) :
    p j ↔ i - Nat.count p i ≤ j := by
  induction i generalizing j with
  | zero => omega
  | succ i ih =>
      have hBelow (j : Nat) (hj : j < i) := ih (fun a b hab hb => h a b hab (by omega)) hj
      have hCount : Nat.count p i ≤ i := Nat.count_le p
      rw [Nat.count_succ]
      by_cases hLast : p i
      · rw [if_pos hLast]
        rcases Nat.lt_or_eq_of_le (Nat.le_of_lt_succ hj) with hLt | rfl
        · rw [hBelow j hLt]
          omega
        · exact iff_of_true hLast (by omega)
      · have hNone : ∀ a < i, ¬p a := fun a ha hpa => hLast (h a i ha (by omega) hpa)
        rw [if_neg hLast, Nat.count_of_forall_not hNone]
        refine iff_of_false ?_ (by omega)
        rcases Nat.lt_or_eq_of_le (Nat.le_of_lt_succ hj) with hLt | rfl
        · exact hNone j hLt
        · exact hLast

/-- Among as many numbers in a row as there are remainders each remainder occurs. -/
theorem exists_mod_eq {n m i : Nat} (hm : m < n) (hi : n ≤ i) :
    ∃ j, i - n ≤ j ∧ j < i ∧ j % n = m := by
  have hRest : (i - 1 - m) % n < n := Nat.mod_lt _ (by omega)
  have hSplit := Nat.div_add_mod (i - 1 - m) n
  refine ⟨m + n * ((i - 1 - m) / n), by omega, by omega, ?_⟩
  rw [Nat.add_mul_mod_self_left, Nat.mod_eq_of_lt hm]

namespace Layout

variable {κ : Type}

/-- Whether the records of each timestamp stand next to each other. -/
def IsGrouped (l : Layout κ) : Prop :=
  ∀ k < l.records.length, ∀ j < k, ∀ i < j,
    l.timestampAt? i = l.timestampAt? k → l.timestampAt? j = l.timestampAt? k

/-- The place of a record in its group: the count of the records before it with its timestamp. -/
def groupPlace (l : Layout κ) (i : Nat) : Nat :=
  Nat.count (fun j => l.timestampAt? j = l.timestampAt? i) i

/-- The lane of a record by its place in its group. -/
def laneInGroup (l : Layout κ) (i : Nat) : Int :=
  if l.groupPlace i < l.settings.maxLanes then l.groupPlace i else i % l.settings.maxLanes

variable {l : Layout κ} {lanes : List Int} {i j : Nat}

theorem groupPlace_le (l : Layout κ) (i : Nat) : l.groupPlace i ≤ i := Nat.count_le _

/-- The records of a group before one of them are the last ones before it. -/
theorem IsGrouped.timestampAt?_eq_iff (h : l.IsGrouped) (hi : i < l.records.length) (hj : j < i) :
    l.timestampAt? j = l.timestampAt? i ↔ i - l.groupPlace i ≤ j :=
  iff_sub_count_le (p := fun j => l.timestampAt? j = l.timestampAt? i)
    (fun a b hab hb => h i hi b hb a hab) hj

/-- Within a group the places grow one by one. -/
theorem IsGrouped.groupPlace_eq (h : l.IsGrouped) (hi : i < l.records.length) (hj : j < i)
    (hSame : i - l.groupPlace i ≤ j) : l.groupPlace j = j - (i - l.groupPlace i) := by
  have hAlike := (h.timestampAt?_eq_iff hi hj).mpr hSame
  have hRest : Nat.count (fun k => l.timestampAt? (j + k) = l.timestampAt? i) (i - j) = i - j := by
    refine Nat.count_of_forall fun k hk => ?_
    exact (h.timestampAt?_eq_iff hi (by omega)).mpr (by omega)
  have hSplit := Nat.count_add (fun k => l.timestampAt? k = l.timestampAt? i) j (i - j)
  have hPlace : l.groupPlace j = Nat.count (fun k => l.timestampAt? k = l.timestampAt? i) j := by
    rw [groupPlace, hAlike]
  have hWhole : Nat.count (fun k => l.timestampAt? k = l.timestampAt? i) (j + (i - j)) =
      l.groupPlace i := by
    rw [Nat.add_sub_cancel' hj.le, groupPlace]
  have hLe := l.groupPlace_le i
  omega

section

variable (hSpaces : l.settings.SpacesSlots) (hGrouped : l.IsGrouped) (hi : i < l.records.length)
  (hBefore : ∀ j < i, lanes[j]? = some (l.laneInGroup j))

include hSpaces hGrouped hi hBefore

/-- A record is kept from the lanes of those of its group that are near. -/
theorem blocks_laneInGroup (hj : j < i) (hSame : i - l.groupPlace i ≤ j)
    (hNear : (i : Int) - l.settings.laneLookback ≤ j) : l.Blocks lanes i j (l.laneInGroup j) := by
  obtain ⟨t, ht⟩ := exists_timestampAt?_iff.mpr hi
  refine (blocks_iff hSpaces ht).mpr ⟨hj, hNear, hBefore j hj, ?_⟩
  rw [(hGrouped.timestampAt?_eq_iff hi hj).mpr hSame, ht]

/-- A record is kept from the lanes of the first ones of its group, as long as these are near. -/
theorem exists_blocks_of_lt_groupPlace {m : Nat} (hm : m < l.groupPlace i)
    (hLanes : m < l.settings.maxLanes) (hNear : l.groupPlace i ≤ l.settings.laneLookback) :
    ∃ j, l.Blocks lanes i j m := by
  have hLe := l.groupPlace_le i
  have hPlace := hGrouped.groupPlace_eq hi (j := i - l.groupPlace i + m) (by omega) (by omega)
  have hLane : l.laneInGroup (i - l.groupPlace i + m) = m := by
    rw [laneInGroup, hPlace, Nat.add_sub_cancel_left, if_pos hLanes]
  refine ⟨i - l.groupPlace i + m, ?_⟩
  rw [← hLane]
  exact blocks_laneInGroup hSpaces hGrouped hi hBefore (by omega) (by omega) (by omega)

/-- Far behind in its group a record is kept from all lanes, since the last ones before it have them
in turn. -/
theorem exists_blocks_of_le_groupPlace {m : Nat} (hLanes : m < l.settings.maxLanes)
    (hFar : 2 * l.settings.maxLanes ≤ l.groupPlace i)
    (hNear : l.settings.maxLanes ≤ l.settings.laneLookback) : ∃ j, l.Blocks lanes i j m := by
  have hLe := l.groupPlace_le i
  obtain ⟨n, hn⟩ := Int.eq_ofNat_of_zero_le (a := l.settings.maxLanes) (by omega)
  obtain ⟨j, hFrom, hj, hMod⟩ := exists_mod_eq (n := n) (m := m) (i := i) (by omega) (by omega)
  have hPlace := hGrouped.groupPlace_eq hi hj (by omega)
  have hLane : l.laneInGroup j = m := by
    rw [laneInGroup, if_neg (by omega), hn, ← hMod]
    exact (Int.natCast_mod j n).symm
  refine ⟨j, ?_⟩
  rw [← hLane]
  exact blocks_laneInGroup hSpaces hGrouped hi hBefore hj (by omega) (by omega)

/-- Once all lanes are used up in a group each further record of it is kept from all of them. -/
theorem exists_blocks_of_maxLanes_le {m : Nat} (hLanes : m < l.settings.maxLanes)
    (hFull : l.settings.maxLanes ≤ l.groupPlace i)
    (hNear : 2 * l.settings.maxLanes - 1 ≤ l.settings.laneLookback) :
    ∃ j, l.Blocks lanes i j m := by
  rcases Int.lt_or_le (l.groupPlace i) (2 * l.settings.maxLanes) with hFirst | hFar
  · exact exists_blocks_of_lt_groupPlace hSpaces hGrouped hi hBefore (by omega) hLanes (by omega)
  · exact exists_blocks_of_le_groupPlace hSpaces hGrouped hi hBefore hLanes hFar (by omega)

/-- A record that is among the first ones of its group is not kept from the lane of its place. -/
theorem isFree_groupPlace (hFirst : l.groupPlace i < l.settings.maxLanes) :
    l.IsFree lanes i (l.groupPlace i) := by
  refine ⟨Int.natCast_nonneg _, hFirst, fun j hj => ?_⟩
  obtain ⟨t, ht⟩ := exists_timestampAt?_iff.mpr hi
  obtain ⟨hLt, -, hLane, hAlike⟩ := (blocks_iff hSpaces ht).mp hj
  have hSame := (hGrouped.timestampAt?_eq_iff hi hLt).mp (hAlike.trans ht.symm)
  have hPlace := hGrouped.groupPlace_eq hi hLt hSame
  have hLe := l.groupPlace_le i
  rw [hBefore j hLt, Option.some_inj, laneInGroup, if_pos (by omega)] at hLane
  omega

/-- If all records before one have the lanes of their groups, so has this one. -/
theorem Gets.eq_laneInGroup (hNear : 2 * l.settings.maxLanes - 1 ≤ l.settings.laneLookback)
    {lane : Int} (h : l.Gets lanes i lane) : lane = l.laneInGroup i := by
  -- As long as the group has lanes left the next one is free and those below it are not.
  rw [laneInGroup]
  split
  · rename_i hFirst
    have hFree := isFree_groupPlace hSpaces hGrouped hi hBefore hFirst
    cases h with
    | lowest hLeast =>
        refine le_antisymm (hLeast.2 hFree) (not_lt.mp fun hLower => ?_)
        obtain ⟨m, rfl⟩ := Int.eq_ofNat_of_zero_le hLeast.1.nonneg
        obtain ⟨j, hj⟩ := exists_blocks_of_lt_groupPlace hSpaces hGrouped hi hBefore
          (Int.ofNat_lt.mp hLower) hLeast.1.lt (by omega)
        exact hLeast.1.notBlocked j hj
    | fallback hNone => exact absurd hFree (hNone _)
  · rename_i hFull
    cases h with
    | lowest hLeast =>
        have hLt := hLeast.1.lt
        obtain ⟨m, rfl⟩ := Int.eq_ofNat_of_zero_le hLeast.1.nonneg
        obtain ⟨j, hj⟩ := exists_blocks_of_maxLanes_le hSpaces hGrouped hi hBefore hLt
          (not_lt.mp hFull) hNear
        exact absurd hj (hLeast.1.notBlocked j)
    | fallback => rfl

end

/-- In a row of groups every record has the lane of its group. -/
theorem IsPacked.eq_laneInGroup (h : l.IsPacked lanes) (hSpaces : l.settings.SpacesSlots)
    (hGrouped : l.IsGrouped) (hNear : 2 * l.settings.maxLanes - 1 ≤ l.settings.laneLookback)
    (hi : i < l.records.length) : lanes[i]? = some (l.laneInGroup i) := by
  induction i using Nat.strong_induction_on with
  | _ i ih =>
      obtain ⟨lane, hLane, hGets⟩ := h.gets i hi
      have hBefore (j : Nat) (hj : j < i) := ih j hj (by omega)
      rw [hLane, hGets.eq_laneInGroup hSpaces hGrouped hi hBefore hNear]

/-- Where the records of each timestamp stand next to each other, slots are far apart and enough
records are looked back at, the lanes are those of the groups. -/
theorem lanes_eq_laneInGroup (hGrouped : l.IsGrouped) (hSpacing : 0 < l.settings.slotSpacing)
    (hLanes : 1 ≤ l.settings.maxLanes)
    (hDistance : l.settings.minLaneDistance ≤ l.settings.slotSpacing)
    (hNear : 2 * l.settings.maxLanes - 1 ≤ l.settings.laneLookback) :
    l.lanes = .ok ((List.range l.records.length).map l.laneInGroup) := by
  obtain ⟨lanes, h, hPacked⟩ := exists_isPacked hLanes
  rw [h]
  refine congrArg Except.ok (List.ext_getElem? fun i => ?_)
  rw [List.getElem?_map]
  rcases Nat.lt_or_ge i l.records.length with hi | hi
  · rw [hPacked.eq_laneInGroup ⟨hSpacing, hDistance⟩ hGrouped hNear hi, List.getElem?_range hi,
      Option.map_some]
  · rw [List.getElem?_eq_none (by rwa [hPacked.length_eq]),
      List.getElem?_eq_none (by rwa [List.length_range]), Option.map_none]

/-- A group of five records behind another record on a track with two lanes. -/
private def grouped : Layout Number :=
  let recordOf (timestamp : String) : Record := { timestamp, format := .unstructured, instant := 0 }
  .make { maxLanes := 2, laneLookback := 3 }
    (recordOf "1970-01-01Z" :: List.replicate 5 (recordOf "1970-01-01") ++
      [recordOf "1970-01-01T00:00"]) none

theorem lanes_eq_laneInGroup_grouped :
    grouped.IsGrouped ∧ 0 < grouped.settings.slotSpacing ∧ 1 ≤ grouped.settings.maxLanes ∧
      grouped.settings.minLaneDistance ≤ grouped.settings.slotSpacing ∧
      2 * grouped.settings.maxLanes - 1 ≤ grouped.settings.laneLookback ∧
      grouped.lanes = .ok [0, 0, 1, 1, 0, 1, 0] := by
  have hGrouped : grouped.IsGrouped := by
    unfold IsGrouped
    decide
  refine ⟨hGrouped, by decide, by decide, by decide, by decide, ?_⟩
  rw [lanes_eq_laneInGroup hGrouped (by decide) (by decide) (by decide) (by decide)]
  rfl

end Layout

end LogViewer
