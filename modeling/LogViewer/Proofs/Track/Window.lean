import Mathlib
import LogViewer.Proofs.Track.Slots

/-! Layouts in exact arithmetic. With settings that have no problem no step of them fails, and a
viewport that begins where it has some record in its middle has this record in its window. -/
namespace LogViewer

theorem Settings.has_eq_false {settings : Settings} (h : settings.problems = []) (p : Problem) :
    settings.has p = false := by
  unfold problems at h
  rw [List.filter_eq_nil_iff] at h
  have hAll := h p (by cases p <;> simp)
  simpa using hAll

/-- What a track needs of its settings. -/
structure Settings.LaysOut (settings : Settings) : Prop where
  slotSpacing_pos : 0 < settings.slotSpacing
  leftPadding_nonneg : 0 ≤ settings.leftPadding
  maxLanes_pos : 0 < settings.maxLanes
  viewportWidth_pos : 0 < settings.viewportWidth

theorem Settings.laysOut {settings : Settings} (h : settings.problems = []) :
    settings.LaysOut where
  slotSpacing_pos := by simpa [has] using has_eq_false h .slotSpacingNotPositive
  leftPadding_nonneg := by simpa [has] using has_eq_false h .leftPaddingNegative
  maxLanes_pos := by simpa [has, Int.lt_iff_add_one_le] using has_eq_false h .noLane
  viewportWidth_pos := by simpa [has] using has_eq_false h .viewportWidthNotPositive

section

variable {α : Type} {p : α → Bool} {l : List α} {t : Nat}

theorem exists_findIdx?_le (h : t < l.length) (hp : p l[t] = true) :
    ∃ k, l.findIdx? p = some k ∧ k ≤ t := by
  have hSome : (l.findIdx? p).isSome = true := by
    rw [List.findIdx?_isSome, List.any_eq_true]
    exact ⟨l[t], List.getElem_mem h, hp⟩
  obtain ⟨k, hk⟩ := Option.isSome_iff_exists.mp hSome
  obtain ⟨hLength, _, hBefore⟩ := List.findIdx?_eq_some_iff_getElem.mp hk
  refine ⟨k, hk, ?_⟩
  by_contra hLater
  exact hBefore t (Nat.lt_of_not_le hLater) hp

theorem exists_findIdx?_reverse_lt (h : t < l.length) (hp : p l[t] = true) :
    ∃ k, l.reverse.findIdx? p = some k ∧ t < l.length - k := by
  have hReverse : l.length - 1 - t < l.reverse.length := by
    rw [List.length_reverse]
    omega
  have hSame : l.reverse[l.length - 1 - t] = l[t] := by
    rw [List.getElem_reverse]
    congr 1
    omega
  obtain ⟨k, hk, hLe⟩ := exists_findIdx?_le hReverse (hSame ▸ hp)
  exact ⟨k, hk, by omega⟩

/-- The places from the first one where `behind` holds to the last one where `before` holds. -/
def windowOf (behind before : α → Bool) (l : List α) : Window :=
  let start := (l.findIdx? behind).getD 0
  let stop := match l.reverse.findIdx? before with
    | some k => l.length - k
    | none => l.length
  ⟨start, max start stop⟩

section

variable {behind before : α → Bool}

/-- They begin no later than where the first holds, and with the list if it holds nowhere. -/
theorem start_windowOf_le (h : t < l.length)
    (hBehind : behind l[t] = true ∨ ∀ a ∈ l, behind a = false) :
    (windowOf behind before l).start ≤ t := by
  unfold windowOf
  dsimp only
  rcases hBehind with hHolds | hNone
  · obtain ⟨start, hStart, hFrom⟩ := exists_findIdx?_le h hHolds
    rwa [hStart, Option.getD_some]
  · rw [List.findIdx?_eq_none_iff.mpr hNone]
    exact Nat.zero_le t

/-- They end no sooner than where the second holds, and with the list if it holds nowhere. -/
theorem lt_stop_windowOf (h : t < l.length)
    (hBefore : before l[t] = true ∨ ∀ a ∈ l, before a = false) :
    t < (windowOf behind before l).stop := by
  unfold windowOf
  dsimp only
  rcases hBefore with hHolds | hNone
  · obtain ⟨k, hk, hTo⟩ := exists_findIdx?_reverse_lt h hHolds
    rw [hk]
    exact lt_max_of_lt_right hTo
  · rw [List.findIdx?_eq_none_iff.mpr fun a ha => hNone a (List.mem_reverse.mp ha)]
    exact lt_max_of_lt_right h

theorem stop_windowOf_le : (windowOf behind before l).stop ≤ l.length := by
  unfold windowOf
  refine max_le ?_ ?_
  · cases hStart : l.findIdx? behind with
    | none => exact Nat.zero_le _
    | some start => exact (List.findIdx?_eq_some_iff_getElem.mp hStart).1.le
  · split
    · exact Nat.sub_le _ _
    · exact le_refl _

/-- A place where both hold is among them. -/
theorem mem_windowOf (h : t < l.length) (hBehind : behind l[t] = true)
    (hBefore : before l[t] = true) :
    (windowOf behind before l).start ≤ t ∧ t < (windowOf behind before l).stop :=
  ⟨start_windowOf_le h (Or.inl hBehind), lt_stop_windowOf h (Or.inl hBefore)⟩

end

end

namespace Layout

section

variable {κ : Type} {l : Layout κ}

theorem length_pixels (l : Layout κ) : l.pixels.length = l.records.length := by
  simp [pixels, slots]

/-- No record lies before the start of the track. -/
theorem nonneg_of_mem_pixels (hSpacing : 0 < l.settings.slotSpacing)
    (hPadding : 0 ≤ l.settings.leftPadding) {pixel : Int} (h : pixel ∈ l.pixels) : 0 ≤ pixel := by
  obtain ⟨slot, -, rfl⟩ := mem_pixels_iff.mp h
  have hRow := Int.mul_nonneg (Int.natCast_nonneg slot) hSpacing.le
  unfold pixelOfSlot
  omega

/-- Where the ends of the buffered viewport are numbers, the window lies between them. -/
theorem visibleWindow_eq_windowOf [Coordinate κ] (hSome : l.records ≠ [])
    {scroll width first stop last : κ}
    (hFirst : Coordinate.sub scroll (Coordinate.ofInt l.buffer) = .ok first)
    (hStop : Coordinate.add scroll width = .ok stop)
    (hLast : Coordinate.add stop (Coordinate.ofInt l.buffer) = .ok last) :
    l.visibleWindow scroll width =
      .ok (windowOf
        (fun pixel => Coordinate.le (Coordinate.greater (Coordinate.ofInt 0) first)
          (Coordinate.ofInt pixel))
        (fun pixel => Coordinate.le (Coordinate.ofInt pixel) last) l.pixels) := by
  unfold visibleWindow
  rw [List.isEmpty_eq_false_iff.mpr hSome, if_neg Bool.false_ne_true]
  simp only [hFirst, hStop, hLast, bind, Except.bind]
  rfl

end

theorem greater_eq_max (a b : Rat) : Coordinate.greater a b = max a b := by
  have hGreater : Coordinate.greater a b = if a < b then b else a := by
    simp [Coordinate.greater, Coordinate.lt]
  rw [hGreater]
  split
  · rename_i hLt
    exact (max_eq_right hLt.le).symm
  · rename_i hLe
    exact (max_eq_left (not_lt.mp hLe)).symm

variable {l : Layout Rat}

/-- The track of some records has a width. -/
theorem exists_trackWidth_pos (hSettings : l.settings.LaysOut) (hSome : l.records ≠ []) :
    ∃ width : Rat, l.trackWidth = .ok width ∧ 0 < width := by
  have hSlots : 0 < l.slotCount := slotCount_pos hSome
  have hContent : 0 < l.slotCount * l.settings.slotSpacing + l.settings.leftPadding := by
    have hRow := Int.mul_pos (Int.natCast_pos.mpr hSlots) hSettings.slotSpacing_pos
    have hPadding := hSettings.leftPadding_nonneg
    omega
  refine ⟨_, rfl, ?_⟩
  rw [greater_eq_max]
  exact lt_max_of_lt_left (Int.cast_pos.mpr hContent)

theorem scrollOffset?_eq {t : Nat} (h : t < l.pixels.length) (width : Rat) :
    l.scrollOffset? t width = .ok (some (max 0 ((l.pixels[t] : Rat) - width / 2))) := by
  have hPixel : l.pixels[(t : Int).toNat]? = some l.pixels[t] := by
    rw [Int.toNat_natCast, List.getElem?_eq_getElem h]
  have hHalf : Coordinate.div width (Coordinate.ofInt 2) = .ok (width / 2) :=
    if_neg (by norm_num [Coordinate.ofInt])
  unfold scrollOffset?
  rw [if_neg (by omega), hPixel, hHalf]
  exact congrArg (Except.ok ∘ some) (greater_eq_max _ _)

theorem visibleWindow_eq (hSome : l.records ≠ []) (scroll width : Rat) :
    l.visibleWindow scroll width =
      .ok (windowOf (fun pixel : Int => decide (max 0 (scroll - l.buffer) ≤ (pixel : Rat)))
        (fun pixel : Int => decide ((pixel : Rat) ≤ scroll + width + l.buffer)) l.pixels) := by
  have hFirst : Coordinate.greater (Coordinate.ofInt 0) (scroll - (l.buffer : Rat)) =
      max 0 (scroll - l.buffer) := by
    rw [greater_eq_max, Coordinate.ofInt]
    rfl
  rw [visibleWindow_eq_windowOf hSome rfl rfl rfl, ← hFirst]
  rfl

/-- A record that a viewport shows is in its window, since the buffer only widens it. -/
theorem exists_visibleWindow_of_shown (hSpacing : 0 < l.settings.slotSpacing)
    (hPadding : 0 ≤ l.settings.leftPadding) (hBuffer : 0 ≤ l.settings.bufferSlots) {t : Nat}
    (h : t < l.pixels.length) {scroll width : Rat}
    (hShown : (l.pixels[t] : Rat) ∈ Set.Icc scroll (scroll + width)) :
    ∃ window, l.visibleWindow scroll width = .ok window ∧ window.start ≤ t ∧ t < window.stop := by
  have hSome : l.records ≠ [] := by
    rw [← List.length_pos_iff, ← length_pixels]
    exact Nat.zero_lt_of_lt h
  have hNonneg : (0 : Rat) ≤ l.pixels[t] :=
    Int.cast_nonneg (nonneg_of_mem_pixels hSpacing hPadding (List.getElem_mem h))
  have hReach : (0 : Rat) ≤ l.buffer := Int.cast_nonneg (Int.mul_nonneg hBuffer hSpacing.le)
  obtain ⟨hStart, hStop⟩ := hShown
  refine ⟨_, visibleWindow_eq hSome scroll width, ?_⟩
  apply mem_windowOf h
  · exact decide_eq_true (max_le hNonneg (by linarith))
  · exact decide_eq_true (by linarith)

/-- A viewport with a point of the track in its middle shows this point, also if it is moved up to
the start of the track. -/
theorem mem_Icc_centered {point width : Rat} (hPoint : 0 ≤ point) (hWidth : 0 ≤ width) :
    point ∈ Set.Icc (max 0 (point - width / 2)) (max 0 (point - width / 2) + width) := by
  have hOffset : point - width / 2 ≤ max 0 (point - width / 2) := le_max_right _ _
  exact ⟨max_le hPoint (by linarith), by linarith⟩

/-- A viewport that has a record in its middle, or begins at the start of the track, has this record
in its window. -/
theorem exists_scrollOffset?_visibleWindow (hSettings : l.settings.LaysOut)
    (hBuffer : 0 ≤ l.settings.bufferSlots) {t : Nat} (h : t < l.records.length) {width : Rat}
    (hWidth : 0 ≤ width) :
    ∃ offset window, l.scrollOffset? t width = .ok (some offset) ∧
      l.visibleWindow offset width = .ok window ∧ window.start ≤ t ∧ t < window.stop := by
  have hSpacing := hSettings.slotSpacing_pos
  have hPadding := hSettings.leftPadding_nonneg
  have hPixel : t < l.pixels.length := by rwa [length_pixels]
  have hNonneg : (0 : Rat) ≤ l.pixels[t] :=
    Int.cast_nonneg (nonneg_of_mem_pixels hSpacing hPadding (List.getElem_mem hPixel))
  obtain ⟨window, hWindow, hHolds⟩ := exists_visibleWindow_of_shown hSpacing hPadding hBuffer
    hPixel (mem_Icc_centered hNonneg hWidth)
  exact ⟨_, window, scrollOffset?_eq hPixel width, hWindow, hHolds⟩

end Layout

end LogViewer
