import Mathlib
import LogViewer.Proofs.Corpus.Instants
import LogViewer.Proofs.Track.Groups

/-! Records with one timestamp on a track. As long as there are lanes enough for all of them, two
that are near each other have different lanes. The look back is bounded, though: beyond it an
earlier record with the timestamp is not seen, and its lane is given away once more. -/
namespace LogViewer

namespace Layout

variable {κ : Type}

/-- Whether the records with a timestamp have different lanes. -/
def Separates (l : Layout κ) (lanes : List Int) (t : String) : Prop :=
  ∀ i j : Nat, j < i → l.timestampAt? i = some t → l.timestampAt? j = some t →
    lanes[i]? ≠ lanes[j]?

/-- Whether the records with a timestamp are so near each other that each can see all those before
it. -/
def StayNear (l : Layout κ) (t : String) : Prop :=
  ∀ i j : Nat, j < i → l.timestampAt? i = some t → l.timestampAt? j = some t →
    (i : Int) - l.settings.laneLookback ≤ j

/-- Whether the records with a timestamp have different lanes as far as they are near each other,
and all of them have different lanes exactly if all are near each other. -/
structure SeparatesNear (l : Layout κ) (lanes : List Int) (t : String) : Prop where
  near : ∀ i j : Nat, j < i → (i : Int) - l.settings.laneLookback ≤ j →
    l.timestampAt? i = some t → l.timestampAt? j = some t → lanes[i]? ≠ lanes[j]?
  separates_iff : l.Separates lanes t ↔ l.StayNear t

variable {l : Layout κ} {lanes : List Int} {i j : Nat} {t : String}

theorem count_timestampAt? (l : Layout κ) (t : String) (i : Nat) :
    Nat.count (fun j => l.timestampAt? j = some t) i =
      (l.records.take i).countP (·.timestamp == t) := by
  induction i with
  | zero => rfl
  | succ i ih =>
      rw [Nat.count_succ, ih, List.take_add_one, List.countP_append, timestampAt?]
      cases l.records[i]? with
      | none => rfl
      | some r => simp [List.countP_singleton]

/-- The place of a record in its group is less than the count of all records with its timestamp. -/
theorem groupPlace_lt_countP (ht : l.timestampAt? i = some t) :
    l.groupPlace i < l.records.countP (·.timestamp == t) := by
  have hNext : Nat.count (fun j => l.timestampAt? j = some t) (i + 1) = l.groupPlace i + 1 := by
    rw [Nat.count_succ, if_pos ht, groupPlace, ht]
  calc l.groupPlace i + 1
      = (l.records.take (i + 1)).countP (·.timestamp == t) := by rw [← hNext, count_timestampAt?]
    _ ≤ l.records.countP (·.timestamp == t) := (List.take_sublist _ _).countP_le

section

variable (hSpaces : l.settings.SpacesSlots) (ht : l.timestampAt? i = some t)

include hSpaces ht

/-- A record that is kept from all lanes has as many records with its timestamp before it. -/
theorem maxLanes_le_groupPlace (hNone : ∀ k, ¬l.IsFree lanes i k) :
    l.settings.maxLanes ≤ l.groupPlace i := by
  have hBlocked (m : Nat) (hm : m < l.settings.maxLanes) : ∃ j, l.Blocks lanes i j m := by
    by_contra hFree
    exact hNone m ⟨Int.natCast_nonneg m, hm, fun j hj => hFree ⟨j, hj⟩⟩
  -- The lanes that the group before the record has are all lanes, so it is as large.
  let group := (Finset.range i).filter fun j => l.timestampAt? j = l.timestampAt? i
  have hLanes : Set.SurjOn (fun j : Nat => (lanes[j]?.getD 0).toNat) group
      (Finset.range l.settings.maxLanes.toNat) := by
    intro m hm
    obtain ⟨j, hj⟩ := hBlocked m (Int.lt_toNat.mp (Finset.mem_range.mp hm))
    obtain ⟨hBefore, -, hLane, hAlike⟩ := (blocks_iff hSpaces ht).mp hj
    refine ⟨j, ?_, ?_⟩
    · exact Finset.mem_filter.mpr ⟨Finset.mem_range.mpr hBefore, hAlike.trans ht.symm⟩
    · simp [hLane]
  have hCard := Finset.card_le_card_of_surjOn _ hLanes
  rw [Finset.card_range, ← Nat.count_eq_card_filter_range] at hCard
  exact Int.toNat_le.mp hCard

theorem exists_isFree (hFew : l.records.countP (·.timestamp == t) ≤ l.settings.maxLanes) :
    ∃ k, l.IsFree lanes i k := by
  by_contra! hNone
  have hFull := maxLanes_le_groupPlace hSpaces ht hNone
  have hPlace := groupPlace_lt_countP ht
  omega

/-- A record gets the lowest lane if that is in no use by those with its timestamp near it. -/
theorem IsPacked.lane_eq_zero (h : l.IsPacked lanes) (hLanes : 1 ≤ l.settings.maxLanes)
    (hOthers : ∀ j < i, (i : Int) - l.settings.laneLookback ≤ j → l.timestampAt? j = some t →
      lanes[j]? ≠ some 0) : lanes[i]? = some 0 := by
  have hFree : l.IsFree lanes i 0 := by
    refine ⟨le_rfl, by omega, fun j hj => ?_⟩
    obtain ⟨hBefore, hNear, hLane, hAlike⟩ := (blocks_iff hSpaces ht).mp hj
    exact hOthers j hBefore hNear hAlike hLane
  obtain ⟨lane, hLane, hGets⟩ := h.gets i (exists_timestampAt?_iff.mp ⟨t, ht⟩)
  cases hGets with
  | lowest hLeast => rw [hLane, le_antisymm (hLeast.2 hFree) hLeast.1.nonneg]
  | fallback hNone => exact absurd hFree (hNone 0)

end

/-- A record that cannot see the first one with its timestamp gets the lane of that one, unless
others with the timestamp share it already. -/
theorem IsPacked.stayNear_of_separates (h : l.IsPacked lanes) (hSpaces : l.settings.SpacesSlots)
    (hLanes : 1 ≤ l.settings.maxLanes) (hSeparates : l.Separates lanes t) : l.StayNear t := by
  intro i j hBefore hi hj
  by_contra hFar
  have hSome : ∃ k, l.timestampAt? k = some t := ⟨j, hj⟩
  have hFirst := Nat.find_spec hSome
  have hLe : Nat.find hSome ≤ j := Nat.find_min' hSome hj
  have hFirstLane : lanes[Nat.find hSome]? = some 0 := by
    refine h.lane_eq_zero hSpaces hFirst hLanes fun k hk _ hAlike => ?_
    exact absurd hAlike (Nat.find_min hSome hk)
  have hLane : lanes[i]? = some 0 := by
    -- All records in reach stand behind the first one, so none of them has its lane.
    refine h.lane_eq_zero hSpaces hi hLanes fun k hk hNear hAlike hZero => ?_
    exact hSeparates k (Nat.find hSome) (by omega) hAlike hFirst (hZero.trans hFirstLane.symm)
  exact hSeparates i (Nat.find hSome) (by omega) hi hFirst (hLane.trans hFirstLane.symm)

theorem IsPacked.separatesNear (h : l.IsPacked lanes) (hSpaces : l.settings.SpacesSlots)
    (hLanes : 1 ≤ l.settings.maxLanes)
    (hFew : l.records.countP (·.timestamp == t) ≤ l.settings.maxLanes) :
    l.SeparatesNear lanes t := by
  have hNear (i j : Nat) (hBefore : j < i) (hNear : (i : Int) - l.settings.laneLookback ≤ j)
      (hi : l.timestampAt? i = some t) (hj : l.timestampAt? j = some t) :
      lanes[i]? ≠ lanes[j]? := by
    intro hShared
    have hFree : ∃ k, l.IsFree lanes i k := exists_isFree hSpaces hi hFew
    obtain ⟨k, hk⟩ := hFree
    exact (h.fallback_of_shared hBefore hNear hi hj hShared).1 k hk
  refine ⟨hNear, fun hSeparates => ?_, fun hStay i j hBefore hi hj => ?_⟩
  · exact h.stayNear_of_separates hSpaces hLanes hSeparates
  · exact hNear i j hBefore (hStay i j hBefore hi hj) hi hj

end Layout

/-- The track of all records of a corpus. -/
def Corpus.track (corpus : Corpus) : Layout Number := .make {} corpus.records none

@[simp]
theorem Corpus.track_settings (corpus : Corpus) : corpus.track.settings = {} := rfl

/-- Whether the records of a corpus with a timestamp have different lanes as far as they are near
each other, provided that there are lanes enough for them; and whether all of them have if the
corpus has no more records of their instant than the last of these can see, itself among them. -/
def Corpus.SeparatesTimestamps (corpus : Corpus) : Prop :=
  ∃ lanes, corpus.track.lanes = .ok lanes ∧ lanes.length = corpus.records.length ∧ ∀ t,
    corpus.records.countP (·.timestamp == t) ≤ corpus.track.settings.maxLanes →
      corpus.track.SeparatesNear lanes t ∧
      ∀ r ∈ corpus.records, r.timestamp = t →
        corpus.records.countP (·.instant == r.instant) ≤ corpus.track.settings.laneLookback + 1 →
          corpus.track.Separates lanes t

variable {ν : Type} [Payload ν]

/-- Where few records have an instant those with a timestamp of that instant are near each other. -/
theorem Corpus.IsInOrder.stayNear {corpus : Corpus} {settings : Settings} {document : Document ν}
    (h : corpus.IsInOrder settings document) {r : Record} (hr : r ∈ corpus.records)
    (hFew : corpus.records.countP (·.instant == r.instant) ≤
      corpus.track.settings.laneLookback + 1) : corpus.track.StayNear r.timestamp := by
  intro i j hBefore hi hj
  obtain ⟨p, hp, hpSame⟩ := Option.map_eq_some_iff.mp hi
  obtain ⟨q, hq, hqSame⟩ := Option.map_eq_some_iff.mp hj
  have hpInstant := h.instant_eq_of_timestamp_eq (List.mem_of_getElem? hp) hr hpSame
  have hqInstant := h.instant_eq_of_timestamp_eq (List.mem_of_getElem? hq) hr hqSame
  have hCount := h.sub_lt_countP_instant hp hq hBefore.le (hqInstant.trans hpInstant.symm)
  rw [hpInstant] at hCount
  omega

theorem Corpus.IsInOrder.separatesTimestamps {corpus : Corpus} {settings : Settings}
    {document : Document ν} (h : corpus.IsInOrder settings document) :
    corpus.SeparatesTimestamps := by
  have hSpaces : corpus.track.settings.SpacesSlots := by
    rw [corpus.track_settings]
    exact ⟨by decide, by decide⟩
  have hLanes : 1 ≤ corpus.track.settings.maxLanes := by
    rw [corpus.track_settings]
    decide
  obtain ⟨lanes, hOk, hPacked⟩ := Layout.exists_isPacked hLanes
  refine ⟨lanes, hOk, hPacked.length_eq, fun t hFew => ?_⟩
  have hNear := hPacked.separatesNear hSpaces hLanes hFew
  refine ⟨hNear, fun r hr hSame hInstant => ?_⟩
  rw [hNear.separates_iff, ← hSame]
  exact h.stayNear hr hInstant

/-- In whatever form a corpus is loaded, records with one timestamp that are near each other have
different lanes on its track, as long as there are lanes enough. -/
theorem load_separatesTimestamps [Text.StandIns] (settings : Settings) (sourceName : String) :
    (∀ (document : Document ν) (loaded : Loaded),
      load settings document sourceName = .ok loaded → loaded.corpus.SeparatesTimestamps) ∧
    (∀ (text : List Char) (loaded : Loaded),
      loadText settings text sourceName = .ok loaded → loaded.corpus.SeparatesTimestamps) ∧
    ∀ (bytes : List Nat) (loaded : Loaded),
      loadBytes settings bytes sourceName = .ok loaded → loaded.corpus.SeparatesTimestamps := by
  exact forall_loaded fun document loaded h => (isInOrder_of_load_eq_ok h).separatesTimestamps

/-- An object with a date. -/
private def datedObject (date : String) : Json := .object [("date", .string date)]

/-- Two objects with one date, and between them one that spells its instant in another way. -/
private def alternated : Json :=
  .array [datedObject "1970-01-01", datedObject "1970-01-01Z", datedObject "1970-01-01"]

/-- The text of two objects with one date. -/
private def twoWritten : String :=
  "[\x7b\"date\": \"1970-01-01\"\x7d, \x7b\"date\": \"1970-01-01\"\x7d]"

theorem load_separatesTimestamps_alternated :
    (∃ loaded lanes, load {} (Document.ofJson alternated) "" = .ok loaded ∧
      loaded.corpus.records.map (fun r => (r.timestamp, r.instant)) =
        [("1970-01-01", 0), ("1970-01-01Z", 0), ("1970-01-01", 0)] ∧
      loaded.corpus.track.lanes = .ok lanes ∧
      loaded.corpus.track.SeparatesNear lanes "1970-01-01" ∧
      loaded.corpus.track.Separates lanes "1970-01-01") ∧
    (∃ loaded, loadText {} twoWritten.toList "" = .ok loaded ∧
      loaded.corpus.records.map (·.timestamp) = ["1970-01-01", "1970-01-01"] ∧
      loaded.corpus.SeparatesTimestamps) ∧
    ∃ loaded, loadBytes {} (twoWritten.toList.map (·.toNat)) "" = .ok loaded ∧
      loaded.corpus.records.map (·.timestamp) = ["1970-01-01", "1970-01-01"] ∧
      loaded.corpus.SeparatesTimestamps := by
  obtain ⟨hDocument, hText, hBytes⟩ := load_separatesTimestamps (ν := Json) {} ""
  refine ⟨?_, ?_, ?_⟩
  · have hRecords : (load {} (Document.ofJson alternated) "").toOption.map
        (fun loaded => loaded.corpus.records.map fun r => (r.timestamp, r.instant)) =
          some [("1970-01-01", 0), ("1970-01-01Z", 0), ("1970-01-01", 0)] := by
      unfold alternated datedObject
      cbv
    obtain ⟨loaded, hLoad, hRecords⟩ := toOption_map_eq_some hRecords
    obtain ⟨lanes, hLanes, -, hEach⟩ := hDocument _ loaded hLoad
    have hCount (p : String × Int → Bool) :
        loaded.corpus.records.countP (fun r => p (r.timestamp, r.instant)) =
          [("1970-01-01", 0), ("1970-01-01Z", 0), ("1970-01-01", 0)].countP p := by
      rw [← hRecords, List.countP_map]
      rfl
    have hFirst : ("1970-01-01", (0 : Int)) ∈
        loaded.corpus.records.map fun r => (r.timestamp, r.instant) := by
      rw [hRecords]
      exact List.mem_cons_self
    obtain ⟨r, hr, hSame⟩ := List.mem_map.mp hFirst
    obtain ⟨hTimestamp, hInstant⟩ := Prod.mk.inj hSame
    obtain ⟨hNear, hAll⟩ := hEach "1970-01-01" (by
      rw [hCount fun p => p.1 == "1970-01-01", Corpus.track_settings]
      decide)
    refine ⟨loaded, lanes, hLoad, hRecords, hLanes, hNear, hAll r hr hTimestamp ?_⟩
    rw [hInstant, hCount fun p => p.2 == 0, Corpus.track_settings]
    decide
  · have hRecords : (loadText {} twoWritten.toList "").toOption.map
        (fun loaded => loaded.corpus.records.map (·.timestamp)) =
          some ["1970-01-01", "1970-01-01"] := by
      unfold twoWritten
      cbv
    obtain ⟨loaded, hLoad, hRecords⟩ := toOption_map_eq_some hRecords
    exact ⟨loaded, hLoad, hRecords, hText _ loaded hLoad⟩
  · have hRecords : (loadBytes {} (twoWritten.toList.map (·.toNat)) "").toOption.map
        (fun loaded => loaded.corpus.records.map (·.timestamp)) =
          some ["1970-01-01", "1970-01-01"] := by
      unfold twoWritten
      cbv
    obtain ⟨loaded, hLoad, hRecords⟩ := toOption_map_eq_some hRecords
    exact ⟨loaded, hLoad, hRecords, hBytes _ loaded hLoad⟩

/-- Two objects with one date, and between them as many that spell its instant in another way as can
be seen. -/
private def spread : Json :=
  .array (datedObject "1970-01-01" ::
    (List.replicate 50 (datedObject "1970-01-01Z") ++ [datedObject "1970-01-01"]))

theorem load_shares_lane_beyond_lookback :
    ∃ loaded lanes, load {} (Document.ofJson spread) "" = .ok loaded ∧
      loaded.corpus.track.lanes = .ok lanes ∧
      loaded.corpus.records.countP (·.timestamp == "1970-01-01") = 2 ∧
      2 ≤ loaded.corpus.track.settings.maxLanes ∧
      loaded.corpus.track.timestampAt? 0 = some "1970-01-01" ∧
      loaded.corpus.track.timestampAt? 51 = some "1970-01-01" ∧
      lanes[0]? = some 0 ∧ lanes[51]? = some 0 ∧
      ¬loaded.corpus.track.Separates lanes "1970-01-01" := by
  have hRecords : (load {} (Document.ofJson spread) "").toOption.map
      (fun loaded => (loaded.corpus.records.countP (·.timestamp == "1970-01-01"),
        loaded.corpus.track.timestampAt? 0, loaded.corpus.track.timestampAt? 51,
        loaded.corpus.track.lanes.toOption.map fun lanes => (lanes[0]?, lanes[51]?))) =
          some (2, some "1970-01-01", some "1970-01-01", some (some 0, some 0)) := by
    unfold spread datedObject
    cbv
  obtain ⟨loaded, hLoad, hFacts⟩ := toOption_map_eq_some hRecords
  simp only [Prod.mk.injEq] at hFacts
  obtain ⟨hCount, hFirst, hLast, hLanes⟩ := hFacts
  obtain ⟨lanes, hOk, hShared⟩ := toOption_map_eq_some hLanes
  obtain ⟨hFirstLane, hLastLane⟩ := Prod.mk.inj hShared
  refine ⟨loaded, lanes, hLoad, hOk, hCount, ?_, hFirst, hLast, hFirstLane, hLastLane, ?_⟩
  · rw [Corpus.track_settings]
    decide
  · intro hSeparates
    exact hSeparates 51 0 (by decide) hLast hFirst (hLastLane.trans hFirstLane.symm)

end LogViewer
