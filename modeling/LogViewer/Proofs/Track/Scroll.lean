import Mathlib
import LogViewer.Proofs.Track.Window

/-! Bringing a record into view. The viewport is to have the record in its middle, and where this
would take it before the start of the track it begins there. Either way it shows the record, and the
record is rendered. -/
namespace LogViewer.Layout

/-- Whether a viewport of a width brings the record at a place into view when it begins at an
offset: the record is in its middle, or it is in front of that and the viewport is at the start of
the track. -/
structure BringsIntoView (l : Layout Rat) (width : Rat) (t : Nat) (offset : Rat) : Prop where
  offset_nonneg : 0 ≤ offset
  shown : ∃ pixel : Int, l.pixels[t]? = some pixel ∧
    (pixel : Rat) ∈ Set.Icc offset (offset + width) ∧
    (pixel = offset + width / 2 ∨ offset = 0 ∧ pixel < width / 2)
  rendered : ∃ window, l.visibleWindow offset width = .ok window ∧
    window.start ≤ t ∧ t < window.stop

variable {l : Layout Rat}

/-- There is an offset for the records of the track alone. -/
theorem scrollOffset?_eq_none_iff {index : Int} (width : Rat) :
    l.scrollOffset? index width = .ok none ↔ index ∉ Set.Ico 0 (l.records.length : Int) := by
  constructor
  · rintro hNone ⟨hStart, hStop⟩
    obtain ⟨t, rfl⟩ := Int.eq_ofNat_of_zero_le hStart
    have h : t < l.pixels.length := by
      rw [length_pixels]
      exact Int.ofNat_lt.mp hStop
    rw [scrollOffset?_eq h] at hNone
    cases hNone
  · intro hOutside
    rw [Set.mem_Ico, ← length_pixels] at hOutside
    unfold scrollOffset?
    split
    · rfl
    · rename_i hStart
      have hPixel : l.pixels[index.toNat]? = none := by
        rw [List.getElem?_eq_none_iff]
        omega
      rw [hPixel]
      rfl

/-- A viewport that begins where it is told to for a record brings this record into view. -/
theorem bringsIntoView_centered (hSpacing : 0 < l.settings.slotSpacing)
    (hPadding : 0 ≤ l.settings.leftPadding) (hBuffer : 0 ≤ l.settings.bufferSlots) {width : Rat}
    (hWidth : 0 ≤ width) {t : Nat} (h : t < l.pixels.length) :
    l.BringsIntoView width t (max 0 ((l.pixels[t] : Rat) - width / 2)) := by
  have hNonneg : (0 : Rat) ≤ l.pixels[t] :=
    Int.cast_nonneg (nonneg_of_mem_pixels hSpacing hPadding (List.getElem_mem h))
  have hShown := mem_Icc_centered hNonneg hWidth
  refine ⟨le_max_left _ _, ⟨_, List.getElem?_eq_getElem h, hShown, ?_⟩, ?_⟩
  · rcases lt_or_ge ((l.pixels[t] : Rat) - width / 2) 0 with hBefore | hBehind
    · exact Or.inr ⟨max_eq_left hBefore.le, sub_neg.mp hBefore⟩
    · left
      rw [max_eq_right hBehind, sub_add_cancel]
  · exact exists_visibleWindow_of_shown hSpacing hPadding hBuffer h hShown

/-- For every record of a track, whatever the order of its slots, and for no other index there is an
offset, and a viewport that begins there brings the record into view. -/
theorem scrollOffset?_bringsIntoView (hSpacing : 0 < l.settings.slotSpacing)
    (hPadding : 0 ≤ l.settings.leftPadding) (hBuffer : 0 ≤ l.settings.bufferSlots) {width : Rat}
    (hWidth : 0 ≤ width) (index : Int) :
    (l.scrollOffset? index width = .ok none ↔ index ∉ Set.Ico 0 (l.records.length : Int)) ∧
      ∀ t : Nat, index = t → t < l.records.length → ∃ offset,
        l.scrollOffset? index width = .ok (some offset) ∧ l.BringsIntoView width t offset := by
  refine ⟨scrollOffset?_eq_none_iff width, ?_⟩
  rintro t rfl h
  rw [← length_pixels] at h
  exact ⟨_, scrollOffset?_eq h width,
    bringsIntoView_centered hSpacing hPadding hBuffer hWidth h⟩

/-- Three records in two slots, at 0, 200 and 0, on a track that is rendered without a buffer. -/
private def unbuffered : Layout Rat :=
  let recordOf (timestamp : String) : Record := { timestamp, format := .unstructured, instant := 0 }
  .make { leftPadding := 0, bufferSlots := 0 }
    (["1970-01-02", "1970-01-01", "1970-01-02"].map recordOf) none

theorem scrollOffset?_bringsIntoView_unbuffered :
    0 < unbuffered.settings.slotSpacing ∧ 0 ≤ unbuffered.settings.leftPadding ∧
      0 ≤ unbuffered.settings.bufferSlots ∧ (0 : Rat) ≤ 300 ∧
      unbuffered.scrollOffset? 1 300 = .ok (some 50) ∧ unbuffered.BringsIntoView 300 1 50 ∧
      unbuffered.scrollOffset? 2 300 = .ok (some 0) ∧ unbuffered.BringsIntoView 300 2 0 ∧
      unbuffered.scrollOffset? 3 300 = .ok none := by
  have hWidth : (0 : Rat) ≤ 300 := by norm_num
  have hBrings := scrollOffset?_bringsIntoView (l := unbuffered) (by decide) (by decide)
    (by decide) hWidth
  have hMiddle : unbuffered.scrollOffset? 1 300 = .ok (some 50) := by
    unfold unbuffered
    cbv
  have hStart : unbuffered.scrollOffset? 2 300 = .ok (some 0) := by
    unfold unbuffered
    cbv
  obtain ⟨offset, hOffset, hFirst⟩ := (hBrings 1).2 1 rfl (by decide)
  obtain rfl := Option.some_inj.mp (Except.ok.inj (hMiddle.symm.trans hOffset))
  obtain ⟨offset, hOffset, hSecond⟩ := (hBrings 2).2 2 rfl (by decide)
  obtain rfl := Option.some_inj.mp (Except.ok.inj (hStart.symm.trans hOffset))
  exact ⟨by decide, by decide, by decide, hWidth, hMiddle, hFirst, hStart, hSecond,
    (hBrings 3).1.mpr (by decide)⟩

end LogViewer.Layout
