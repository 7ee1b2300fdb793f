import Mathlib
import LogViewer.Proofs.Track.Window

/-! The middle of a viewport. The record that lies nearest to it is in the window of the viewport,
also where the viewport lies so far outside the track that it shows nothing: a nearest record that
is not within the buffered viewport is at an end of the track, and then no other one is. -/
namespace LogViewer.Layout

section

variable {κ : Type} {l : Layout κ}

theorem pixelOfSlot_succ (l : Layout κ) (slot : Nat) :
    l.pixelOfSlot (slot + 1) = l.pixelOfSlot slot + l.settings.slotSpacing := by
  unfold pixelOfSlot
  push_cast
  ring

/-- Between two pixels there is no gap: next to either one, on the side of the other one, is another
pixel. -/
theorem mem_pixels_between (hSpacing : 0 < l.settings.slotSpacing) {p q : Int} (hp : p ∈ l.pixels)
    (hq : q ∈ l.pixels) (hLt : p < q) :
    p + l.settings.slotSpacing ∈ l.pixels ∧ q - l.settings.slotSpacing ∈ l.pixels := by
  obtain ⟨first, hFirst, rfl⟩ := mem_pixels_iff.mp hp
  obtain ⟨last, hLast, rfl⟩ := mem_pixels_iff.mp hq
  have hSlots : first < last := by
    by_contra hNot
    have hRow := Int.mul_le_mul_of_nonneg_right (Int.ofNat_le.mpr (not_lt.mp hNot)) hSpacing.le
    unfold pixelOfSlot at hLt
    omega
  constructor
  · exact mem_pixels_iff.mpr ⟨first + 1, by omega, l.pixelOfSlot_succ first⟩
  · refine mem_pixels_iff.mpr ⟨last - 1, by omega, ?_⟩
    have hSucc := l.pixelOfSlot_succ (last - 1)
    rw [Nat.sub_add_cancel (by omega)] at hSucc
    omega

end

variable {l : Layout Rat}

/-- Whether the record at a place is one of those that lie nearest to a point of the track. -/
def IsNearest (l : Layout Rat) (point : Rat) (t : Nat) : Prop :=
  ∃ pixel, l.pixels[t]? = some pixel ∧
    ∀ other ∈ l.pixels, |(pixel : Rat) - point| ≤ |(other : Rat) - point|

/-- Of some records one is nearest to a point. -/
theorem exists_isNearest (hSome : l.records ≠ []) (point : Rat) : ∃ t, l.IsNearest point t := by
  have hPixels : l.pixels.toFinset.Nonempty := by
    rw [List.toFinset_nonempty_iff, ← List.length_pos_iff, length_pixels]
    exact List.length_pos_iff.mpr hSome
  obtain ⟨pixel, hPixel, hNearest⟩ :=
    Finset.exists_min_image _ (fun pixel : Int => |(pixel : Rat) - point|) hPixels
  obtain ⟨t, ht⟩ := List.mem_iff_getElem?.mp (List.mem_toFinset.mp hPixel)
  exact ⟨t, pixel, ht, fun other hOther => hNearest other (List.mem_toFinset.mpr hOther)⟩

section

variable (hSpacing : 0 < l.settings.slotSpacing) {point : Rat} {pixel : Int}
  (hPixel : pixel ∈ l.pixels)
  (hNearest : ∀ other ∈ l.pixels, |(pixel : Rat) - point| ≤ |(other : Rat) - point|)

include hSpacing hPixel hNearest

/-- A nearest record that is a slot or more before the point is at the end of the track. -/
theorem le_of_nearest (hFar : (pixel : Rat) + l.settings.slotSpacing ≤ point) :
    ∀ other ∈ l.pixels, other ≤ pixel := by
  intro other hOther
  by_contra hBehind
  have hNext := hNearest _ (mem_pixels_between hSpacing hPixel hOther (not_le.mp hBehind)).1
  have hPos : (0 : Rat) < l.settings.slotSpacing := Int.cast_pos.mpr hSpacing
  rw [Int.cast_add, abs_of_nonpos (by linarith), abs_of_nonpos (by linarith)] at hNext
  linarith

/-- A nearest record that is a slot or more behind the point is at the start of the track. -/
theorem ge_of_nearest (hFar : point ≤ (pixel : Rat) - l.settings.slotSpacing) :
    ∀ other ∈ l.pixels, pixel ≤ other := by
  intro other hOther
  by_contra hBefore
  have hNext := hNearest _ (mem_pixels_between hSpacing hOther hPixel (not_le.mp hBefore)).2
  have hPos : (0 : Rat) < l.settings.slotSpacing := Int.cast_pos.mpr hSpacing
  rw [Int.cast_sub, abs_of_nonneg (by linarith), abs_of_nonneg (by linarith)] at hNext
  linarith

variable {scroll width reach : Rat} (hCenter : point = scroll + width / 2) (hWidth : 0 ≤ width)
  (hReach : (l.settings.slotSpacing : Rat) ≤ reach)

include hCenter hWidth hReach

/-- A nearest record lies behind the start of the buffered viewport, or none does. -/
theorem behind_or_none (hNonneg : 0 ≤ pixel) :
    max 0 (scroll - reach) ≤ (pixel : Rat) ∨
      ∀ other ∈ l.pixels, (other : Rat) < max 0 (scroll - reach) := by
  refine or_iff_not_imp_left.mpr fun hNot other hOther => ?_
  have hBefore : (pixel : Rat) < scroll - reach :=
    (lt_max_iff.mp (not_le.mp hNot)).resolve_left (not_lt.mpr (Int.cast_nonneg hNonneg))
  have hLast := le_of_nearest hSpacing hPixel hNearest (by linarith) other hOther
  exact lt_max_of_lt_right ((Int.cast_le.mpr hLast).trans_lt hBefore)

/-- A nearest record lies before the end of the buffered viewport, or none does. -/
theorem before_or_none :
    (pixel : Rat) ≤ scroll + width + reach ∨
      ∀ other ∈ l.pixels, scroll + width + reach < (other : Rat) := by
  refine or_iff_not_imp_left.mpr fun hNot other hOther => ?_
  have hBehind := not_le.mp hNot
  have hFirst := ge_of_nearest hSpacing hPixel hNearest (by linarith) other hOther
  exact hBehind.trans_le (Int.cast_le.mpr hFirst)

end

/-- The window of a viewport holds a record that lies nearest to its middle. -/
theorem mem_windowOf_of_isNearest (hSpacing : 0 < l.settings.slotSpacing)
    (hPadding : 0 ≤ l.settings.leftPadding) {scroll width reach : Rat} (hWidth : 0 ≤ width)
    (hReach : (l.settings.slotSpacing : Rat) ≤ reach) {t : Nat}
    (h : l.IsNearest (scroll + width / 2) t) :
    let window := windowOf (fun pixel : Int => decide (max 0 (scroll - reach) ≤ (pixel : Rat)))
      (fun pixel : Int => decide ((pixel : Rat) ≤ scroll + width + reach)) l.pixels
    window.start ≤ t ∧ t < window.stop := by
  obtain ⟨pixel, hPixel, hNearest⟩ := h
  obtain ⟨hLength, rfl⟩ := List.getElem?_eq_some_iff.mp hPixel
  have hMem := List.getElem_mem hLength
  have hNonneg := nonneg_of_mem_pixels hSpacing hPadding hMem
  refine ⟨start_windowOf_le hLength ?_, lt_stop_windowOf hLength ?_⟩
  · simp only [decide_eq_true_iff, decide_eq_false_iff_not, not_le]
    exact behind_or_none hSpacing hMem hNearest rfl hWidth hReach hNonneg
  · simp only [decide_eq_true_iff, decide_eq_false_iff_not, not_le]
    exact before_or_none hSpacing hMem hNearest rfl hWidth hReach

/-- Wherever a viewport begins, be it before or behind the track, its window holds some of the
records, and among them all that lie nearest to its middle. -/
theorem visibleWindow_holds_nearest (hSome : l.records ≠ [])
    (hSpacing : 0 < l.settings.slotSpacing) (hPadding : 0 ≤ l.settings.leftPadding)
    (hBuffer : 1 ≤ l.settings.bufferSlots) (scroll : Rat) {width : Rat} (hWidth : 0 ≤ width) :
    ∃ window, l.visibleWindow scroll width = .ok window ∧
      window.start < window.stop ∧ window.stop ≤ l.records.length ∧
      ∀ t, l.IsNearest (scroll + width / 2) t → window.start ≤ t ∧ t < window.stop := by
  have hReach : (l.settings.slotSpacing : Rat) ≤ l.buffer :=
    Int.cast_le.mpr (le_mul_of_one_le_left hSpacing.le hBuffer)
  have hHolds (t : Nat) (ht : l.IsNearest (scroll + width / 2) t) :=
    mem_windowOf_of_isNearest hSpacing hPadding hWidth hReach ht
  obtain ⟨t, ht⟩ := exists_isNearest hSome (scroll + width / 2)
  refine ⟨_, visibleWindow_eq hSome scroll width, ?_, ?_, hHolds⟩
  · exact (hHolds t ht).1.trans_lt (hHolds t ht).2
  · rw [← length_pixels]
    exact stop_windowOf_le

/-- Three records in two slots. -/
private def unordered : Layout Rat :=
  let recordOf (timestamp : String) : Record := { timestamp, format := .unstructured, instant := 0 }
  .make { bufferSlots := 1 }
    [recordOf "1970-01-02", recordOf "1970-01-01", recordOf "1970-01-02"] none

theorem visibleWindow_holds_nearest_unordered :
    unordered.records ≠ [] ∧ 0 < unordered.settings.slotSpacing ∧
      0 ≤ unordered.settings.leftPadding ∧ 1 ≤ unordered.settings.bufferSlots ∧ (0 : Rat) ≤ 100 ∧
      unordered.visibleWindow (-1000) 100 = .ok ⟨0, 3⟩ ∧
      unordered.IsNearest (-1000 + 100 / 2) 2 ∧ (0 : Nat) ≤ 2 ∧ (2 : Nat) < 3 := by
  have hSome : unordered.records ≠ [] := List.cons_ne_nil _ _
  have hPixels : unordered.pixels = [200, 400, 200] := by decide
  have hWindow : unordered.visibleWindow (-1000) 100 = .ok ⟨0, 3⟩ := by
    unfold unordered
    cbv
  have hNearest : unordered.IsNearest (-1000 + 100 / 2) 2 := by
    refine ⟨200, congrArg (·[2]?) hPixels, ?_⟩
    rw [hPixels]
    simp only [List.forall_mem_cons]
    norm_num [abs_of_pos]
  have hWidth : (0 : Rat) ≤ 100 := by norm_num
  obtain ⟨window, hEq, -, -, hHolds⟩ := visibleWindow_holds_nearest hSome (by decide) (by decide)
    (by decide) (-1000) hWidth
  obtain rfl := Except.ok.inj (hWindow.symm.trans hEq)
  obtain ⟨hStart, hStop⟩ := hHolds 2 hNearest
  exact ⟨hSome, by decide, by decide, by decide, hWidth, hWindow, hNearest, hStart, hStop⟩

end LogViewer.Layout
