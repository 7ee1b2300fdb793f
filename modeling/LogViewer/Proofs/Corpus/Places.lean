import Mathlib
import LogViewer.Corpus.Filter
import LogViewer.Proofs.Success

/-! The places of the records that pass a test. They are found only if the test fails for no record,
and then they are in order and there is no other record that passes. -/
namespace LogViewer

variable {ε : Type}

/-- Places of records: in order, and none beyond the last record. -/
structure ArePlaces (places : List Nat) (records : List Record) : Prop where
  sorted : places.Pairwise (· < ·)
  lt_length : ∀ i ∈ places, i < records.length

theorem arePlaces_nil (records : List Record) : ArePlaces [] records :=
  ⟨List.Pairwise.nil, by simp⟩

theorem arePlaces_everything (c : Corpus) : ArePlaces c.everything c.records :=
  ⟨List.pairwise_lt_range, fun _ h => List.mem_range.mp h⟩

theorem arePlaces_of_sublist_zipIdx {records : List Record} {l : List (Record × Nat)}
    (h : l.Sublist records.zipIdx) : ArePlaces (l.map (·.2)) records := by
  have hSublist : (l.map (·.2)).Sublist (List.range' 0 records.length) :=
    List.zipIdx_map_snd 0 records ▸ h.map (·.2)
  refine ⟨List.Pairwise.sublist hSublist (List.pairwise_lt_range' 1), fun i hi => ?_⟩
  have hRange := hSublist.subset hi
  rw [List.mem_range'_1] at hRange
  omega

/-- The places that are found are in order, and they are those of the records that pass. -/
theorem placesOf_eq_ok {records : List Record} {test : Record → Except ε Bool}
    {places : List Nat} (h : placesOf records test = .ok places) :
    ArePlaces places records ∧
      ∀ i, i ∈ places ↔ ∃ r, records[i]? = some r ∧ test r = .ok true := by
  obtain ⟨kept, hFilter, rfl⟩ := map_eq_ok h
  obtain ⟨-, rfl⟩ := filterM_eq_ok hFilter
  refine ⟨arePlaces_of_sublist_zipIdx List.filter_sublist, fun i => ?_⟩
  simp [holdsUnder_iff, List.mem_zipIdx_iff_getElem?]

/-- The records at the places that are found are those that pass, in their order. -/
theorem filterMap_placesOf {records : List Record} {test : Record → Except ε Bool}
    {places : List Nat} (h : placesOf records test = .ok places) :
    places.filterMap (records[·]?) = records.filter (holdsUnder test) := by
  obtain ⟨kept, hFilter, rfl⟩ := map_eq_ok h
  obtain ⟨-, rfl⟩ := filterM_eq_ok hFilter
  have hTest : (holdsUnder fun p : Record × Nat => test p.1) = holdsUnder test ∘ Prod.fst := rfl
  have hKept : (records.zipIdx.filter (holdsUnder fun p => test p.1)).filterMap
      (fun p => records[p.2]?) =
        (records.zipIdx.filter (holdsUnder fun p => test p.1)).map (·.1) := by
    rw [← List.filterMap_eq_map]
    apply List.filterMap_congr
    intro p hp
    exact List.mem_zipIdx_iff_getElem?.mp (List.mem_of_mem_filter hp)
  rw [List.filterMap_map]
  refine hKept.trans ?_
  rw [hTest, ← List.filter_map, List.zipIdx_map_fst]

/-- Places are found exactly if the test fails for no record. -/
theorem exists_placesOf_eq_ok_iff {records : List Record} {test : Record → Except ε Bool} :
    (∃ places, placesOf records test = .ok places) ↔ ∀ r ∈ records, ∃ b, test r = .ok b := by
  unfold placesOf
  constructor
  · rintro ⟨places, h⟩ r hr
    obtain ⟨kept, hFilter, -⟩ := map_eq_ok h
    obtain ⟨i, hi, rfl⟩ := List.getElem_of_mem hr
    exact (filterM_eq_ok hFilter).1 (records[i], i) (List.mem_zipIdx_iff_getElem?.mpr (by simp))
  · intro h
    have hTests : ∀ p ∈ records.zipIdx, ∃ b, test p.1 = .ok b :=
      fun p hp => h p.1 (List.fst_mem_of_mem_zipIdx hp)
    obtain ⟨kept, hKept⟩ := exists_filterM_eq_ok hTests
    exact ⟨kept.map (·.2), by rw [hKept]; rfl⟩

/-- Where a test fails for one reason alone, it is the reason that no places are found. -/
theorem placesOf_eq_error {records : List Record} {test : Record → Except ε Bool} {e : ε}
    (hReason : ∀ r ∈ records, ∀ e', test r = .error e' → e' = e)
    (hFails : ∃ r ∈ records, test r = .error e) : placesOf records test = .error e := by
  cases hPlaces : placesOf records test with
  | ok places =>
      obtain ⟨r, hr, hFails⟩ := hFails
      obtain ⟨b, hb⟩ := exists_placesOf_eq_ok_iff.mp ⟨places, hPlaces⟩ r hr
      cases hFails.symm.trans hb
  | error e' =>
      unfold placesOf at hPlaces
      cases hFilter : records.zipIdx.filterM (fun p => test p.1) with
      | ok kept =>
          rw [hFilter] at hPlaces
          cases hPlaces
      | error e'' =>
          rw [hFilter] at hPlaces
          cases hPlaces
          obtain ⟨p, hp, hError⟩ := exists_of_filterM_eq_error hFilter
          rw [hReason p.1 (List.fst_mem_of_mem_zipIdx hp) e' hError]

end LogViewer
