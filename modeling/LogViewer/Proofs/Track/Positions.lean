import Mathlib
import LogViewer.Proofs.Numeric.Part
import LogViewer.Proofs.Track.Slots

/-! Where records stand on a track. The slots number the timestamps in the order in which they occur
first, so records stand at one pixel only if they have one timestamp, and all of them stand before
the end of the track, whatever the width of the viewport. The share of the track that lies before a
record is therefore less than the whole, though it may be rounded to the whole. -/
namespace LogViewer

/-- Whether the different members of a row, and nothing else, are numbered from nought on in the
order of first occurrence. -/
structure NumbersFirsts (row : List String) (number? : String → Option Nat) : Prop where
  isSome_iff : ∀ t, (number? t).isSome = true ↔ t ∈ row
  number_iff : ∀ k, (∃ t, number? t = some k) ↔ k < row.toFinset.card
  eq_of_number_eq : ∀ t u k, number? t = some k → number? u = some k → t = u
  lt_iff : ∀ t u j k, number? t = some j → number? u = some k →
    (j < k ↔ row.idxOf t < row.idxOf u)

variable {records : List Record}

theorem mem_slotNames_iff_mem_map {t : String} :
    t ∈ slotNames records ↔ t ∈ records.map (·.timestamp) := by
  rw [mem_slotNames, List.mem_map]

theorem length_slotNames (records : List Record) :
    (slotNames records).length = (records.map (·.timestamp)).toFinset.card := by
  rw [← List.toFinset_card_of_nodup (nodup_slotNames records)]
  congr 1
  ext t
  rw [List.mem_toFinset, List.mem_toFinset, mem_slotNames_iff_mem_map]

/-- A name comes behind those of the records that are there before its first one. -/
theorem pairwise_idxOf_slotNames (records : List Record) :
    (slotNames records).Pairwise fun t u =>
      (records.map (·.timestamp)).idxOf t < (records.map (·.timestamp)).idxOf u := by
  induction records using List.reverseRecOn with
  | nil => exact List.Pairwise.nil
  | append_singleton records r ih =>
      have hKept (t : String) (ht : t ∈ slotNames records) :
          ((records ++ [r]).map (·.timestamp)).idxOf t = (records.map (·.timestamp)).idxOf t := by
        rw [List.map_append, List.idxOf_append_of_mem (mem_slotNames_iff_mem_map.mp ht)]
      have hOld : (slotNames records).Pairwise fun t u =>
          ((records ++ [r]).map (·.timestamp)).idxOf t <
            ((records ++ [r]).map (·.timestamp)).idxOf u := by
        refine ih.imp_of_mem fun ht hu hLt => ?_
        rwa [hKept _ ht, hKept _ hu]
      rw [slotNames_concat]
      split
      · exact hOld
      · rename_i hNew
        refine List.pairwise_append.mpr ⟨hOld, List.pairwise_singleton _ _, fun t ht u hu => ?_⟩
        obtain rfl := List.mem_singleton.mp hu
        rw [hKept t ht, List.map_append,
          List.idxOf_append_of_notMem (fun h => hNew (mem_slotNames_iff_mem_map.mpr h))]
        exact Nat.lt_add_right _
          (List.idxOf_lt_length_iff.mpr (mem_slotNames_iff_mem_map.mp ht))

/-- The slots number the timestamps of the records. -/
theorem numbersFirsts_slotIn? (records : List Record) :
    NumbersFirsts (records.map (·.timestamp)) (slotIn? records) := by
  have hBefore (t u : String) (j k : Nat) (ht : slotIn? records t = some j)
      (hu : slotIn? records u = some k) (hLt : j < k) :
      (records.map (·.timestamp)).idxOf t < (records.map (·.timestamp)).idxOf u := by
    obtain ⟨hj, rfl⟩ := List.getElem?_eq_some_iff.mp (slotIn?_eq_some_iff.mp ht)
    obtain ⟨hk, rfl⟩ := List.getElem?_eq_some_iff.mp (slotIn?_eq_some_iff.mp hu)
    exact List.pairwise_iff_getElem.mp (pairwise_idxOf_slotNames records) j k hj hk hLt
  have hSame (t u : String) (k : Nat) (ht : slotIn? records t = some k)
      (hu : slotIn? records u = some k) : t = u :=
    Option.some_inj.mp ((slotIn?_eq_some_iff.mp ht).symm.trans (slotIn?_eq_some_iff.mp hu))
  refine ⟨fun t => ?_, fun k => ?_, hSame, fun t u j k ht hu => ⟨hBefore t u j k ht hu, ?_⟩⟩
  · rw [isSome_slotIn?_iff, mem_slotNames_iff_mem_map]
  · simp only [slotIn?_eq_some_iff, ← length_slotNames]
    rw [← Option.isSome_iff_exists, isSome_getElem?]
  · intro hLt
    rcases lt_trichotomy j k with h | rfl | h
    · exact h
    · exact absurd (hSame t u j ht hu ▸ hLt) (lt_irrefl _)
    · exact absurd (hBefore u t k j hu ht h) hLt.asymm

namespace Layout

open Coordinate

variable {κ : Type}

/-- The offset of a record on the track. -/
def pixelOf (l : Layout κ) (r : Record) : Int := l.pixelOfSlot (l.slotOf r.timestamp)

/-- The share of the track that lies before a record. -/
def positionOf [Coordinate κ] (l : Layout κ) (r : Record) : Except ArithmeticError κ :=
  shareOf l.trackWidth (l.pixelOf r)

theorem positions_eq [Coordinate κ] (l : Layout κ) :
    l.positions = l.records.mapM l.positionOf := by
  rw [positions, pixels_eq, List.mapM_map]
  rfl

/-- The width that the slots and the padding take. -/
def contentWidth (l : Layout κ) : Int :=
  l.slotCount * l.settings.slotSpacing + l.settings.leftPadding

/-- Whether the records of a layout stand at one pixel only if they have one timestamp, and all
before the end of the track. -/
structure IsSpread [Coordinate κ] (l : Layout κ) : Prop where
  pixels : l.pixels = l.records.map l.pixelOf
  positions : l.positions = l.records.mapM l.positionOf
  pixelOf_eq_iff : ∀ r ∈ l.records, ∀ s ∈ l.records,
    l.pixelOf r = l.pixelOf s ↔ r.timestamp = s.timestamp
  onTrack : ∃ width, l.trackWidth = .ok width ∧
    ∀ r ∈ l.records, 0 ≤ l.pixelOf r ∧ lt (ofInt (l.pixelOf r)) width = true

section

variable {l : Layout κ} {r s : Record} (hSpacing : 0 < l.settings.slotSpacing)

include hSpacing

theorem pixelOf_eq_iff (hr : r ∈ l.records) (hs : s ∈ l.records) :
    l.pixelOf r = l.pixelOf s ↔ r.timestamp = s.timestamp := by
  rw [← slotOf_inj (mem_slotNames.mpr ⟨r, hr, rfl⟩) (mem_slotNames.mpr ⟨s, hs, rfl⟩)]
  unfold pixelOf pixelOfSlot
  rw [Int.add_right_inj, Int.mul_eq_mul_right_iff hSpacing.ne', Nat.cast_inj]

/-- A record has a slot's width at least between itself and the end of the slots. -/
theorem pixelOf_lt_contentWidth (hr : r ∈ l.records) : l.pixelOf r < l.contentWidth := by
  have hSlot : (l.slotOf r.timestamp : Int) + 1 ≤ l.slotCount := by
    exact_mod_cast slotOf_lt (mem_slotNames.mpr ⟨r, hr, rfl⟩)
  have hWidths := Int.mul_le_mul_of_nonneg_right hSlot hSpacing.le
  rw [Int.add_mul, Int.one_mul] at hWidths
  unfold pixelOf pixelOfSlot contentWidth
  omega

theorem pixelOf_nonneg (hPadding : 0 ≤ l.settings.leftPadding) (r : Record) :
    0 ≤ l.pixelOf r :=
  Int.add_nonneg hPadding (Int.mul_nonneg (Int.natCast_nonneg _) hSpacing.le)

end

theorem trackWidth_eq [Coordinate κ] {l : Layout κ} {twice : κ}
    (h : mul l.viewportWidth (ofInt 2) = .ok twice) :
    l.trackWidth = .ok (greater (ofInt l.contentWidth) twice) := by
  unfold trackWidth
  rw [h]
  rfl

/-- Whatever the width of the viewport, the track reaches to the end of the slots. -/
theorem exists_trackWidth_ratio (l : Layout ℚ) :
    ∃ width : ℚ, l.trackWidth = .ok width ∧ l.contentWidth ≤ width := by
  refine ⟨_, trackWidth_eq rfl, ?_⟩
  unfold greater
  split
  · rename_i hLt
    exact (of_decide_eq_true hLt).le
  · exact le_rfl

theorem exists_trackWidth_number (l : Layout Number) :
    ∃ width : Number, l.trackWidth = .ok width ∧ width.IsFrom l.contentWidth := by
  rcases hViewport : l.viewportWidth with w | x
  · refine ⟨greater (.int l.contentWidth) (.int (w * 2)),
      trackWidth_eq (hViewport ▸ rfl), ?_⟩
    unfold greater
    split
    · rename_i hLt
      exact (of_decide_eq_true hLt).le
    · exact le_refl l.contentWidth
  · obtain ⟨two, hTwo⟩ : ∃ two, Double.ofInt? 2 = .ok two := ⟨_, rfl⟩
    have hTwice : Number.mul (.double x) (.int 2) = .ok (.double (x * two)) := by
      simp only [Number.mul, Number.toDouble, hTwo]
      rfl
    refine ⟨greater (.int l.contentWidth) (.double (x * two)),
      trackWidth_eq (hViewport ▸ hTwice), ?_⟩
    unfold greater
    split
    · rename_i hLt
      exact ⟨Double.isRepresentable_mul x two, hLt⟩
    · exact le_refl l.contentWidth

/-- Whether a layout in exact numbers is spread, and each of its records stands at a part of the
track that is less than the whole. -/
structure IsDivided (l : Layout ℚ) : Prop extends l.IsSpread where
  positionOf : ∀ r ∈ l.records, ∃ q : ℚ, l.positionOf r = .ok q ∧ 0 ≤ q ∧ q < 1

/-- Whether a layout is spread, and each of its records stands at a part of the track, which rounding
leaves less than the whole if the offset is less than the greatest number of 54 bits. There is no part
only where a record has an offset beyond the floating-point range on a track without end. -/
structure IsRoughlyDivided (l : Layout Number) : Prop extends l.IsSpread where
  positionOf : ∀ r ∈ l.records, Number.IsPart (l.pixelOf r) (l.positionOf r) ∨
    l.trackWidth = .ok (.double (.infinite false)) ∧
      Double.ofInt? (l.pixelOf r) = .error .operandTooLarge ∧
      l.positionOf r = .error .operandTooLarge

theorem isSpread_of_trackWidth [Coordinate κ] {l : Layout κ} {width : κ}
    (hSpacing : 0 < l.settings.slotSpacing) (hPadding : 0 ≤ l.settings.leftPadding)
    (hWidth : l.trackWidth = .ok width)
    (hBefore : ∀ r ∈ l.records, lt (ofInt (l.pixelOf r)) width = true) : l.IsSpread where
  pixels := pixels_eq l
  positions := positions_eq l
  pixelOf_eq_iff _ hr _ hs := Layout.pixelOf_eq_iff hSpacing hr hs
  onTrack := ⟨width, hWidth, fun r hr => ⟨pixelOf_nonneg hSpacing hPadding r, hBefore r hr⟩⟩

theorem isDivided_of_spacing_pos {l : Layout ℚ} (hSpacing : 0 < l.settings.slotSpacing)
    (hPadding : 0 ≤ l.settings.leftPadding) : l.IsDivided := by
  obtain ⟨width, hWidth, hReaches⟩ := exists_trackWidth_ratio l
  have hBefore (r : Record) (hr : r ∈ l.records) : (l.pixelOf r : ℚ) < width :=
    (Int.cast_lt.mpr (pixelOf_lt_contentWidth hSpacing hr)).trans_le hReaches
  have hFrom (r : Record) : 0 ≤ (l.pixelOf r : ℚ) :=
    Int.cast_nonneg (pixelOf_nonneg hSpacing hPadding r)
  refine ⟨isSpread_of_trackWidth hSpacing hPadding hWidth fun r hr => ?_, fun r hr => ?_⟩
  · exact decide_eq_true (hBefore r hr)
  · have hPos : 0 < width := (hFrom r).trans_lt (hBefore r hr)
    refine ⟨l.pixelOf r / width, ?_, div_nonneg (hFrom r) hPos.le,
      (div_lt_one hPos).mpr (hBefore r hr)⟩
    rw [Layout.positionOf, hWidth]
    exact if_neg hPos.ne'

theorem isRoughlyDivided_of_spacing_pos {l : Layout Number}
    (hSpacing : 0 < l.settings.slotSpacing) (hPadding : 0 ≤ l.settings.leftPadding) :
    l.IsRoughlyDivided := by
  obtain ⟨width, hWidth, hReaches⟩ := exists_trackWidth_number l
  have hFrom (r : Record) : 0 ≤ l.pixelOf r := pixelOf_nonneg hSpacing hPadding r
  have hBefore (r : Record) (hr : r ∈ l.records) : l.pixelOf r < l.contentWidth :=
    pixelOf_lt_contentWidth hSpacing hr
  refine ⟨isSpread_of_trackWidth hSpacing hPadding hWidth fun r hr => ?_, fun r hr => ?_⟩
  · exact hReaches.lt (hBefore r hr)
  · rw [Layout.positionOf, hWidth]
    refine (hReaches.isPart_div (hFrom r) (hBefore r hr)).imp_right fun ⟨hEndless, hLarge⟩ => ?_
    exact ⟨congrArg _ hEndless, hLarge⟩

/-- The slots number the timestamps of records in the order of first occurrence, and at a positive
distance the slots spread the records over the track, whatever the width of the viewport. -/
theorem numbersFirsts_and_isDivided (records : List Record) :
    NumbersFirsts (records.map (·.timestamp)) (slotIn? records) ∧
    ∀ settings : Settings, 0 < settings.slotSpacing → 0 ≤ settings.leftPadding →
      (∀ viewportWidth : ℚ, IsDivided ⟨settings, records, viewportWidth⟩) ∧
      ∀ viewportWidth : Number, IsRoughlyDivided ⟨settings, records, viewportWidth⟩ :=
  ⟨numbersFirsts_slotIn? records, fun _ hSpacing hPadding =>
    ⟨fun _ => isDivided_of_spacing_pos hSpacing hPadding,
      fun _ => isRoughlyDivided_of_spacing_pos hSpacing hPadding⟩⟩

private def recordOn (timestamp : String) : Record :=
  { timestamp, format := .unstructured, instant := 0 }

theorem numbersFirsts_and_isDivided_interleaved :
    let records := ["1970-01-02", "1970-01-01", "1970-01-02", "1970-01-03"].map recordOn
    let settings : Settings := { slotSpacing := 7, leftPadding := 0 }
    NumbersFirsts (records.map (·.timestamp)) (slotIn? records) ∧
      0 < settings.slotSpacing ∧ 0 ≤ settings.leftPadding ∧
      IsDivided ⟨settings, records, -640⟩ ∧ IsRoughlyDivided ⟨settings, records, .int 0⟩ ∧
      (⟨settings, records, -640⟩ : Layout ℚ).positions = .ok [0, 1 / 3, 0, 2 / 3] := by
  intro records settings
  obtain ⟨hSlots, hTracks⟩ := numbersFirsts_and_isDivided records
  have hSpacing : 0 < settings.slotSpacing := by decide
  have hPadding : 0 ≤ settings.leftPadding := by decide
  obtain ⟨hExact, hRounded⟩ := hTracks settings hSpacing hPadding
  exact ⟨hSlots, hSpacing, hPadding, hExact _, hRounded _, by decide +kernel⟩

/-- One record behind a padding that takes 54 bits. -/
private def farPadded : Layout Number :=
  .make { slotSpacing := 1, leftPadding := 2 ^ 54 - 1 } [recordOn "1970-01-01"] none

/-- One record behind a padding beyond the floating-point range, on a track without end. -/
private def endless : Layout Number :=
  .make { leftPadding := 10 ^ 400 } [recordOn "1970-01-01"]
    (some (.double (.ofRat (10 ^ 308) false)))

/-- A record may stand at the whole of the track by rounding, and may have no position at all. -/
theorem positionOf_leaves_range :
    (0 < farPadded.settings.slotSpacing ∧ 0 ≤ farPadded.settings.leftPadding ∧
      ∃ r ∈ farPadded.records, ∃ x, farPadded.positionOf r = .ok (.double x) ∧
        x.toRat? = some 1) ∧
    0 < endless.settings.slotSpacing ∧ 0 ≤ endless.settings.leftPadding ∧
      ∃ r ∈ endless.records, endless.positionOf r = .error .operandTooLarge := by
  refine ⟨⟨by decide, by decide, recordOn "1970-01-01", List.mem_cons_self,
    .finite false (2 ^ 52) (-52), by decide +kernel, by decide +kernel⟩, by decide,
    by decide +kernel, recordOn "1970-01-01", List.mem_cons_self, by decide +kernel⟩

end Layout

end LogViewer
