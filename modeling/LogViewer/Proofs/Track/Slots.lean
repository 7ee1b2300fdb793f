import Mathlib
import LogViewer.Track.Layout

/-! The slots of a track. Every timestamp of a record has a slot of its own, and there is no slot
that is not that of a record, so that the pixels of a track follow each other without a gap. -/
namespace LogViewer

theorem slotMap_concat (records : List Record) (r : Record) :
    slotMap (records ++ [r]) =
      Json.putNew (slotMap records) r.timestamp (slotMap records).length := by
  rw [slotMap, List.foldl_append]
  rfl

/-- A timestamp has a slot if it is one of the names. -/
theorem isSome_slotIn?_iff {records : List Record} {t : String} :
    (slotIn? records t).isSome = true ↔ t ∈ slotNames records := by
  simp only [slotIn?, slotNames, List.lookup_isSome_iff, List.mem_map, beq_iff_eq, @eq_comm _ t]

/-- One more record adds its timestamp, unless an earlier one has it. -/
theorem slotNames_concat (records : List Record) (r : Record) :
    slotNames (records ++ [r]) =
      if r.timestamp ∈ slotNames records then slotNames records
      else slotNames records ++ [r.timestamp] := by
  rw [slotNames, slotMap_concat, Json.putNew, apply_ite (List.map Prod.fst), List.map_append]
  exact if_congr isSome_slotIn?_iff rfl rfl

/-- A timestamp that takes the count of those before it has its place among the names. -/
theorem slotMap_eq_zipIdx (records : List Record) :
    slotMap records = (slotNames records).zipIdx := by
  induction records using List.reverseRecOn with
  | nil => rfl
  | append_singleton records r ih =>
      have hLength : (slotMap records).length = (slotNames records).length :=
        (List.length_map _).symm
      have hTaken : ((slotMap records).lookup r.timestamp).isSome = true ↔
          r.timestamp ∈ slotNames records := isSome_slotIn?_iff
      rw [slotMap_concat, slotNames_concat, Json.putNew, hLength]
      split
      · rename_i hKnown
        rw [if_pos (hTaken.mp hKnown), ih]
      · rename_i hNew
        rw [if_neg (mt hTaken.mpr hNew), ih, List.zipIdx_append, List.zipIdx_singleton,
          Nat.zero_add]

theorem mem_slotNames {records : List Record} {t : String} :
    t ∈ slotNames records ↔ ∃ r ∈ records, r.timestamp = t := by
  induction records using List.reverseRecOn with
  | nil => simp [slotNames, slotMap]
  | append_singleton records r ih =>
      simp only [List.mem_append, List.mem_singleton, or_and_right, exists_or, exists_eq_left,
        ← ih, slotNames_concat]
      split
      · rename_i hKnown
        constructor
        · exact Or.inl
        · rintro (hMem | rfl)
          · exact hMem
          · exact hKnown
      · rw [List.mem_append, List.mem_singleton, @eq_comm _ t]

theorem nodup_slotNames (records : List Record) : (slotNames records).Nodup := by
  induction records using List.reverseRecOn with
  | nil => exact List.nodup_nil
  | append_singleton records r ih =>
      rw [slotNames_concat]
      split
      · exact ih
      · rename_i hNew
        exact List.nodup_append_comm.mp (List.nodup_cons.mpr ⟨hNew, ih⟩)

/-- More records add names behind those that are there. -/
theorem slotNames_isPrefix_append (records more : List Record) :
    slotNames records <+: slotNames (records ++ more) := by
  induction more using List.reverseRecOn with
  | nil => rw [List.append_nil]
  | append_singleton more r ih =>
      rw [← List.append_assoc, slotNames_concat]
      split
      · exact ih
      · exact ih.trans (List.prefix_append _ _)

theorem lookup_zipIdx (names : List String) (k : Nat) (t : String) :
    (names.zipIdx k).lookup t = (names.idxOf? t).map (· + k) := by
  induction names generalizing k with
  | nil => rfl
  | cons name names ih =>
      rw [List.zipIdx_cons, List.lookup_cons, List.idxOf?_cons, ih]
      by_cases hName : name = t
      · simp [hName]
      · simp [hName, beq_false_of_ne (Ne.symm hName), Function.comp_def, Nat.add_assoc,
          Nat.add_comm 1]

theorem slotIn?_eq_idxOf? (records : List Record) (t : String) :
    slotIn? records t = (slotNames records).idxOf? t := by
  rw [slotIn?, slotMap_eq_zipIdx, lookup_zipIdx]
  exact congrFun Option.map_id _

theorem slotIn?_eq_some_iff {records : List Record} {t : String} {slot : Nat} :
    slotIn? records t = some slot ↔ (slotNames records)[slot]? = some t := by
  rw [slotIn?_eq_idxOf?, List.idxOf?_eq_some_iff, List.getElem?_eq_some_iff]
  constructor
  · rintro ⟨hSlot, hName, -⟩
    exact ⟨hSlot, hName⟩
  · rintro ⟨hSlot, rfl⟩
    refine ⟨hSlot, rfl, fun j hj hSame => ?_⟩
    exact hj.ne ((nodup_slotNames records).getElem_inj_iff.mp hSame)

namespace Layout

variable {κ : Type} {l : Layout κ} {t u : String}

/-- The timestamp of the record at a place, if there is a record. -/
def timestampAt? (l : Layout κ) (i : Nat) : Option String := (l.records[i]?).map (·.timestamp)

theorem exists_timestampAt?_iff {i : Nat} :
    (∃ t, l.timestampAt? i = some t) ↔ i < l.records.length := by
  rw [timestampAt?, ← Option.isSome_iff_exists, Option.isSome_map, isSome_getElem?]

theorem mem_slotNames_of_timestampAt? {i : Nat} (h : l.timestampAt? i = some t) :
    t ∈ slotNames l.records := by
  obtain ⟨r, hr, rfl⟩ := Option.map_eq_some_iff.mp h
  exact mem_slotNames.mpr ⟨r, List.mem_of_getElem? hr, rfl⟩

theorem slotCount_eq (l : Layout κ) : l.slotCount = (slotNames l.records).length :=
  (List.length_map _).symm

theorem slotOf_eq_idxOf (h : t ∈ slotNames l.records) :
    l.slotOf t = (slotNames l.records).idxOf t := by
  obtain ⟨slot, hSlot⟩ := Option.isSome_iff_exists.mp (List.isSome_idxOf?.mpr h)
  rw [slotOf, slotIn?_eq_idxOf?, List.idxOf_eq_getD_idxOf?, hSlot]
  rfl

theorem slotOf_lt (h : t ∈ slotNames l.records) : l.slotOf t < l.slotCount := by
  rw [slotOf_eq_idxOf h, slotCount_eq]
  exact List.idxOf_lt_length_iff.mpr h

theorem slotCount_pos (h : l.records ≠ []) : 0 < l.slotCount := by
  obtain ⟨r, hr⟩ := List.exists_mem_of_ne_nil l.records h
  exact Nat.zero_lt_of_lt (slotOf_lt (mem_slotNames.mpr ⟨r, hr, rfl⟩))

/-- Different timestamps have different slots. -/
theorem slotOf_inj (ht : t ∈ slotNames l.records) (hu : u ∈ slotNames l.records) :
    l.slotOf t = l.slotOf u ↔ t = u := by
  rw [slotOf_eq_idxOf ht, slotOf_eq_idxOf hu, List.idxOf_inj ht]

theorem exists_slotOf_eq {slot : Nat} (h : slot < l.slotCount) :
    ∃ t ∈ slotNames l.records, l.slotOf t = slot := by
  rw [slotCount_eq] at h
  refine ⟨(slotNames l.records)[slot], List.getElem_mem h, ?_⟩
  rw [slotOf_eq_idxOf (List.getElem_mem h)]
  exact (nodup_slotNames l.records).idxOf_getElem slot h

theorem pixels_eq (l : Layout κ) :
    l.pixels = l.records.map fun r => l.pixelOfSlot (l.slotOf r.timestamp) := by
  rw [pixels, slots, List.map_map]
  rfl

/-- The pixels are those of all slots. -/
theorem mem_pixels_iff {pixel : Int} :
    pixel ∈ l.pixels ↔ ∃ slot < l.slotCount, l.pixelOfSlot slot = pixel := by
  rw [pixels_eq, List.mem_map]
  constructor
  · rintro ⟨r, hr, rfl⟩
    exact ⟨_, slotOf_lt (mem_slotNames.mpr ⟨r, hr, rfl⟩), rfl⟩
  · rintro ⟨slot, hSlot, rfl⟩
    obtain ⟨t, ht, rfl⟩ := exists_slotOf_eq hSlot
    obtain ⟨r, hr, rfl⟩ := mem_slotNames.mp ht
    exact ⟨r, hr, rfl⟩

end Layout

end LogViewer
