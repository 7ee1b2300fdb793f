import Mathlib
import LogViewer.Proofs.Track.Window

/-! Tracks whose slots follow the row. Where no record has a slot before that of a record in front
of it, the records in the buffered viewport stand next to each other, and the window of the viewport
has these and no others. -/
namespace LogViewer

section

variable {α : Type} {behind before : α → Bool} {l : List α} {t : Nat}

theorem behind_of_start_le (hBehind : l.Pairwise fun a b => behind a = true → behind b = true)
    (hSome : ∃ a ∈ l, behind a = true) (h : t < l.length)
    (hStart : (windowOf behind before l).start ≤ t) : behind l[t] = true := by
  obtain ⟨a, ha, hHolds⟩ := hSome
  obtain ⟨i, hi, rfl⟩ := List.mem_iff_getElem.mp ha
  obtain ⟨first, hFirst, -⟩ := exists_findIdx?_le hi hHolds
  obtain ⟨hLength, hAt, -⟩ := List.findIdx?_eq_some_iff_getElem.mp hFirst
  have hLe : first ≤ t := by simpa [windowOf, hFirst] using hStart
  rcases Nat.eq_or_lt_of_le hLe with rfl | hLt
  · exact hAt
  · exact List.pairwise_iff_getElem.mp hBehind first t hLength h hLt hAt

theorem before_of_lt_stop (hBefore : l.Pairwise fun a b => before b = true → before a = true)
    (hSome : ∃ a ∈ l, behind a = true ∧ before a = true) (h : t < l.length)
    (hStop : t < (windowOf behind before l).stop) : before l[t] = true := by
  obtain ⟨a, ha, hHolds, hLast⟩ := hSome
  obtain ⟨i, hi, rfl⟩ := List.mem_iff_getElem.mp ha
  obtain ⟨k, hk, hTo⟩ := exists_findIdx?_reverse_lt hi hLast
  obtain ⟨hLength, hAt, -⟩ := List.findIdx?_eq_some_iff_getElem.mp hk
  have hFrom : (windowOf behind before l).start ≤ i := start_windowOf_le hi (Or.inl hHolds)
  -- The place where both hold is in front of the end, so that the start does not move the end.
  have hEnd : (windowOf behind before l).stop =
      max (windowOf behind before l).start (l.length - k) := by
    simp [windowOf, hk]
  have hLe : t ≤ l.length - 1 - k := by omega
  rw [List.getElem_reverse] at hAt
  rcases Nat.eq_or_lt_of_le hLe with rfl | hLt
  · exact hAt
  · exact List.pairwise_iff_getElem.mp hBefore t (l.length - 1 - k) h (by omega) hLt hAt

/-- If there is a place where both hold, the window has all these places and no others. -/
theorem mem_windowOf_iff (hBehind : l.Pairwise fun a b => behind a = true → behind b = true)
    (hBefore : l.Pairwise fun a b => before b = true → before a = true)
    (hSome : ∃ a ∈ l, behind a = true ∧ before a = true) :
    (windowOf behind before l).start ≤ t ∧ t < (windowOf behind before l).stop ↔
      ∃ a, l[t]? = some a ∧ behind a = true ∧ before a = true := by
  constructor
  · rintro ⟨hStart, hStop⟩
    have h : t < l.length := hStop.trans_le stop_windowOf_le
    refine ⟨l[t], List.getElem?_eq_getElem h, ?_, before_of_lt_stop hBefore hSome h hStop⟩
    apply behind_of_start_le hBehind _ h hStart
    obtain ⟨a, ha, hHolds, -⟩ := hSome
    exact ⟨a, ha, hHolds⟩
  · rintro ⟨a, ha, hHolds, hLast⟩
    obtain ⟨h, rfl⟩ := List.getElem?_eq_some_iff.mp ha
    exact mem_windowOf h hHolds hLast

end

namespace Layout

/-- Slots that follow the row have pixels that do. -/
theorem pairwise_pixels {κ : Type} {l : Layout κ} (hSpacing : 0 < l.settings.slotSpacing)
    (hSlots : l.slots.Pairwise (· ≤ ·)) : l.pixels.Pairwise (· ≤ ·) := by
  rw [pixels, List.pairwise_map]
  apply hSlots.imp
  intro slot next hNext
  have hRow := Int.mul_le_mul_of_nonneg_right (Int.ofNat_le.mpr hNext) hSpacing.le
  unfold pixelOfSlot
  omega

/-- The part of the track that a viewport takes up together with the buffer on either side of it,
both ends included. -/
def buffered (l : Layout Rat) (scroll width : Rat) : Set Rat :=
  Set.Icc (max 0 (scroll - l.buffer)) (scroll + width + l.buffer)

variable {l : Layout Rat}

/-- Where the slots follow the row, the window of a viewport has exactly the records that lie in the
buffered viewport, provided that there is one. The viewport may begin anywhere and have any width,
and the buffer may be negative. -/
theorem visibleWindow_isTight (hSpacing : 0 < l.settings.slotSpacing)
    (hSlots : l.slots.Pairwise (· ≤ ·)) {scroll width : Rat}
    (hSome : ∃ pixel ∈ l.pixels, (pixel : Rat) ∈ l.buffered scroll width) :
    ∃ window, l.visibleWindow scroll width = .ok window ∧
      ∀ t, window.start ≤ t ∧ t < window.stop ↔
        ∃ pixel : Int, l.pixels[t]? = some pixel ∧ (pixel : Rat) ∈ l.buffered scroll width := by
  have hRecords : l.records ≠ [] := by
    obtain ⟨pixel, hPixel, -⟩ := hSome
    rw [← List.length_pos_iff, ← length_pixels]
    exact List.length_pos_of_mem hPixel
  have hPixels := pairwise_pixels hSpacing hSlots
  refine ⟨_, visibleWindow_eq hRecords scroll width, fun t => ?_⟩
  rw [mem_windowOf_iff]
  · simp only [decide_eq_true_iff, buffered, Set.mem_Icc]
  · apply hPixels.imp
    simp only [decide_eq_true_iff]
    intro pixel next hNext hBehind
    exact hBehind.trans (Int.cast_le.mpr hNext)
  · apply hPixels.imp
    simp only [decide_eq_true_iff]
    intro pixel next hNext hBefore
    exact (Int.cast_le.mpr hNext).trans hBefore
  · simpa only [decide_eq_true_iff, buffered, Set.mem_Icc] using hSome

/-- Six records in four slots, at 200, 200, 400, 600, 600 and 800. -/
private def followed : Layout Rat :=
  let recordOf (timestamp : String) : Record := { timestamp, format := .unstructured, instant := 0 }
  .make { bufferSlots := 1 }
    (["1970-01-01", "1970-01-01", "1970-01-02", "1970-01-03", "1970-01-03", "1970-01-04"].map
      recordOf) none

/-- The buffered viewport begins half a pixel behind the first group and ends at the third one. -/
theorem visibleWindow_isTight_followed :
    0 < followed.settings.slotSpacing ∧ followed.slots.Pairwise (· ≤ ·) ∧
      (∃ pixel ∈ followed.pixels, (pixel : Rat) ∈ followed.buffered (801 / 2) (-1 / 2)) ∧
      followed.visibleWindow (801 / 2) (-1 / 2) = .ok ⟨2, 5⟩ ∧
      ∀ t, 2 ≤ t ∧ t < 5 ↔ ∃ pixel : Int, followed.pixels[t]? = some pixel ∧
        (pixel : Rat) ∈ followed.buffered (801 / 2) (-1 / 2) := by
  have hSpacing : 0 < followed.settings.slotSpacing := by decide
  have hSlots : followed.slots.Pairwise (· ≤ ·) := by decide
  have hPixels : followed.pixels = [200, 200, 400, 600, 600, 800] := by decide
  have hBuffer : followed.buffer = 200 := by decide
  have hSome : ∃ pixel ∈ followed.pixels, (pixel : Rat) ∈ followed.buffered (801 / 2) (-1 / 2) := by
    refine ⟨400, by simp [hPixels], ?_⟩
    norm_num [buffered, hBuffer]
  have hWindow : followed.visibleWindow (801 / 2) (-1 / 2) = .ok ⟨2, 5⟩ := by
    unfold followed
    cbv
  obtain ⟨window, hEq, hTight⟩ := visibleWindow_isTight hSpacing hSlots hSome
  obtain rfl := Except.ok.inj (hWindow.symm.trans hEq)
  exact ⟨hSpacing, hSlots, hSome, hWindow, hTight⟩

end Layout

end LogViewer
