import Mathlib
import LogViewer.Proofs.Corpus.Entries

/-! Loading as a whole. With settings that have no problem nothing can stop it but a timestamp whose
zone leads out of the calendar, and every entry without a usable timestamp is counted. -/
namespace LogViewer

variable {ν : Type} [Payload ν]

theorem take_zipIdx {α : Type} (n base : Nat) (l : List α) :
    (l.zipIdx base).take n = (l.take n).zipIdx base := by
  refine List.ext_getElem? fun i => ?_
  simp only [List.getElem?_take, List.getElem?_zipIdx]
  split <;> rfl

theorem drop_zipIdx {α : Type} (n base : Nat) (l : List α) :
    (l.zipIdx base).drop n = (l.drop n).zipIdx (base + n) := by
  refine List.ext_getElem? fun i => ?_
  simp only [List.getElem?_drop, List.getElem?_zipIdx, Nat.add_assoc]

theorem chunks_zero {α : Type} (l : List α) : chunks 0 l = [] := by
  rw [chunks.eq_def, if_pos rfl]

/-- Numbering each chunk from its start on is cutting a list that is numbered. -/
theorem mapIdx_chunks {α : Type} (size base : Nat) (l : List α) :
    ((chunks size l).mapIdx fun k chunk => chunk.zipIdx (base + k * size)) =
      chunks size (l.zipIdx base) := by
  fun_induction chunks size l generalizing base with
  | case1 l hZero => rw [hZero, chunks_zero, List.mapIdx_nil]
  | case2 hPos => rw [List.zipIdx_nil, chunks.eq_def, if_neg hPos, List.mapIdx_nil]
  | case3 hPos a l ih =>
      have hFirst : base + 0 * size = base := by rw [Nat.zero_mul, Nat.add_zero]
      have hStart (k : Nat) : base + (k + 1) * size = base + 1 + (size - 1) + k * size := by
        rw [Nat.succ_mul]
        omega
      rw [List.mapIdx_cons, hFirst, chunks.eq_def size ((a :: l).zipIdx base), if_neg hPos]
      simp only [hStart, ih, drop_zipIdx, take_zipIdx, List.zipIdx_cons]

/-- The number of a hit is its place among all hits. -/
theorem hitChunks_eq {ν : Type} (hits : List ν) (chunkSize : Int) :
    hitChunks hits chunkSize = chunks chunkSize.toNat hits.zipIdx := by
  rw [← mapIdx_chunks]
  simp only [Nat.zero_add]
  rfl

theorem flatten_chunks {α : Type} {size : Nat} (hSize : 0 < size) (l : List α) :
    (chunks size l).flatten = l := by
  fun_induction chunks size l with
  | case1 => omega
  | case2 => rfl
  | case3 a l hPos ih =>
      rw [List.flatten_cons, ih, List.cons_append, List.take_append_drop]

/-- Reading the chunks of a list one after the other is reading the list. -/
theorem mapM_flatten {α β ε : Type} (f : α → Except ε β) (l : List (List α)) :
    List.flatten <$> l.mapM (·.mapM f) = l.flatten.mapM f := by
  induction l with
  | nil => rfl
  | cons chunk l ih =>
      rw [List.flatten_cons, List.mapM_append, ← ih, List.mapM_cons]
      simp

/-- The chunks of the hits make no difference to what becomes of them. -/
theorem outcomesOfHits_eq (hits : List ν) {chunkSize : Int} (hSize : 0 < chunkSize) :
    outcomesOfHits hits chunkSize =
      (hits.zipIdx.mapM fun p => outcomeOfHit p.1 p.2).mapError .calendar := by
  have hPos : 0 < chunkSize.toNat := by omega
  unfold outcomesOfHits
  rw [if_neg (by omega), hitChunks_eq]
  simp only [mapM_flatten, flatten_chunks hPos]

/-- The timestamps of the entries of a document, in the order in which they are read; entries that
have none are among them. -/
def datings (settings : Settings) (document : Document ν) : List (Option String) :=
  match envelopeHits? document.value with
  | some hits => hits.filterMap datingOfHit?
  | none => (document.containers.walk settings.maxWalkDepth.toNat).visits.filterMap fun p =>
    (document.containers.nodes[p.node]?.bind (·.fields)).bind datingOfObject?

theorem chunkSize_pos {settings : Settings} (h : settings.problems = []) :
    0 < settings.chunkSize := by
  have hNone : settings.has .chunkSizeNotPositive = false := by
    unfold Settings.problems at h
    rw [List.filter_eq_nil_iff] at h
    simpa using h .chunkSizeNotPositive (by simp)
  simpa [Settings.has] using hNone

theorem filterMap_zipIdx_fst {α β : Type} (f : α → Option β) (l : List α) :
    l.zipIdx.filterMap (fun p => f p.1) = l.filterMap f := by
  rw [← Function.comp_def f Prod.fst, ← List.filterMap_map, List.zipIdx_map_fst]

theorem becomes_outcomeOfVisit? (c : Containers ν) (p : Pending) :
    Becomes ((c.nodes[p.node]?.bind (·.fields)).bind datingOfObject?)
      ((outcomeOfVisit? c p).map id) := by
  have hSame (result : Except CalendarError (Option Outcome)) : result.map id = result := by
    cases result <;> rfl
  rw [hSame, outcomeOfVisit?]
  cases c.nodes[p.node]?.bind (·.fields) with
  | some fields => exact becomes_outcomeOfObject? p.path fields
  | none => exact becomes_nothing

theorem load_eq_error {settings : Settings} {document : Document ν} {error : LoadError}
    (h : outcomesOf settings document = .error error) (sourceName : String) :
    load settings document sourceName = .error error := by
  rw [load, h]
  rfl

/-- The corpus of a document holds the records among the outcomes and counts those without a
timestamp. -/
theorem load_eq_ok {settings : Settings} {document : Document ν} {outcomes : List Outcome}
    (h : outcomesOf settings document = .ok outcomes) (sourceName : String) :
    ∃ loaded, load settings document sourceName = .ok loaded ∧
      loaded.corpus.tally.skippedNoTimestamp = outcomes.countP Outcome.isNoTimestamp ∧
      loaded.corpus.size = (outcomes.filterMap Outcome.record?).length := by
  rw [load, h]
  refine ⟨_, rfl, ?_, List.length_mergeSort _⟩
  dsimp only [tallyOf]
  split <;> rfl

/-- A timestamp whose zone leads out of the calendar stops the reading. -/
theorem outcomesOf_eq_error {settings : Settings} (hSettings : settings.problems = [])
    {document : Document ν} {timestamp : String}
    (hMem : some timestamp ∈ datings settings document)
    (hLeaves : Timestamp.LeavesCalendar timestamp) :
    outcomesOf settings document = .error (.calendar .outOfRange) := by
  unfold datings at hMem
  unfold outcomesOf
  cases hHits : envelopeHits? document.value with
  | some hits =>
      simp only [hHits] at hMem ⊢
      rw [← filterMap_zipIdx_fst] at hMem
      rw [outcomesOfHits_eq hits (chunkSize_pos hSettings),
        mapM_becomes_error (fun p _ => becomes_outcomeOfHit p.1 p.2) hMem hLeaves]
      rfl
  | none =>
      simp only [hHits] at hMem ⊢
      rw [outcomesOfVisits,
        mapM_becomes_error (fun p _ => becomes_outcomeOfVisit? document.containers p) hMem hLeaves]
      rfl

/-- Without such a timestamp every entry is read, and counted as it is dated. -/
theorem outcomesOf_eq_ok {settings : Settings} (hSettings : settings.problems = [])
    {document : Document ν}
    (hStay : ∀ timestamp, some timestamp ∈ datings settings document →
      ¬Timestamp.LeavesCalendar timestamp) :
    ∃ outcomes, outcomesOf settings document = .ok outcomes ∧
      outcomes.countP Outcome.isNoTimestamp = (datings settings document).countP (!isDated ·) ∧
      (outcomes.filterMap Outcome.record?).length = (datings settings document).countP isDated := by
  unfold datings at hStay ⊢
  unfold outcomesOf
  cases hHits : envelopeHits? document.value with
  | some hits =>
      simp only [hHits] at hStay ⊢
      rw [← filterMap_zipIdx_fst] at hStay ⊢
      obtain ⟨outcomes, hOutcomes, hSkipped, hRecords⟩ :=
        mapM_becomes_ok (fun p _ => becomes_outcomeOfHit p.1 p.2) hStay
      rw [List.filterMap_some] at hSkipped hRecords
      refine ⟨outcomes, ?_, hSkipped, hRecords⟩
      rw [outcomesOfHits_eq hits (chunkSize_pos hSettings), hOutcomes]
      rfl
  | none =>
      simp only [hHits] at hStay ⊢
      obtain ⟨results, hResults, hSkipped, hRecords⟩ :=
        mapM_becomes_ok (fun p _ => becomes_outcomeOfVisit? document.containers p) hStay
      refine ⟨results.filterMap id, ?_, hSkipped, hRecords⟩
      rw [outcomesOfVisits, hResults]
      rfl

/-- With settings that have no problem, loading a document fails exactly if some entry has a
timestamp whose zone leads out of the calendar, and then it fails with that error. Otherwise there
is a corpus: the entries whose timestamp names an instant are its records, and all the others that
had to be dated are counted as having no timestamp. -/
theorem load_ok_or_calendar {settings : Settings} (hSettings : settings.problems = [])
    (document : Document ν) (sourceName : String) :
    ((∃ timestamp, some timestamp ∈ datings settings document ∧
        Timestamp.LeavesCalendar timestamp) →
      load settings document sourceName = .error (.calendar .outOfRange)) ∧
    ((∀ timestamp, some timestamp ∈ datings settings document →
        ¬Timestamp.LeavesCalendar timestamp) →
      ∃ loaded, load settings document sourceName = .ok loaded ∧
        loaded.corpus.tally.skippedNoTimestamp =
          (datings settings document).countP (!isDated ·) ∧
        loaded.corpus.size = (datings settings document).countP isDated) := by
  refine ⟨?_, fun hStay => ?_⟩
  · rintro ⟨timestamp, hMem, hLeaves⟩
    exact load_eq_error (outcomesOf_eq_error hSettings hMem hLeaves) sourceName
  · obtain ⟨outcomes, hOutcomes, hSkipped, hRecords⟩ := outcomesOf_eq_ok hSettings hStay
    obtain ⟨loaded, hLoad, hTally, hSize⟩ := load_eq_ok hOutcomes sourceName
    exact ⟨loaded, hLoad, hTally.trans hSkipped, hSize.trans hRecords⟩

/-- A document of two entries, of which the second one names no instant. -/
private def oneDated : Document Json :=
  .ofJson (.array [
    .object [("date", .string "1970-01-01")],
    .object [("date", .string "soon")]])

theorem load_oneDated :
    ({} : Settings).problems = [] ∧
      ∃ loaded, load {} oneDated "" = .ok loaded ∧
        loaded.corpus.tally.skippedNoTimestamp = 1 ∧ loaded.corpus.size = 1 := by
  have hSettings : ({} : Settings).problems = [] := by decide
  have hDatings : datings {} oneDated = [some "1970-01-01", some "soon"] := by
    unfold oneDated
    cbv
  have hFirst : Timestamp.instant? "1970-01-01" = .ok (some 0) := by cbv
  have hSecond : Timestamp.instant? "soon" = .ok none := by cbv
  refine ⟨hSettings, ?_⟩
  obtain ⟨loaded, hLoad, hSkipped, hSize⟩ :=
    (load_ok_or_calendar hSettings oneDated "").2 (by
      rw [hDatings]
      intro timestamp hMem hLeaves
      rw [← Timestamp.instant?_eq_error_iff] at hLeaves
      simp only [List.mem_cons, Option.some.injEq, List.not_mem_nil, or_false] at hMem
      rcases hMem with rfl | rfl
      · rw [hFirst] at hLeaves
        cases hLeaves
      · rw [hSecond] at hLeaves
        cases hLeaves)
  rw [hDatings] at hSkipped hSize
  refine ⟨loaded, hLoad, ?_, ?_⟩
  · simpa [isDated, hFirst, hSecond] using hSkipped
  · simpa [isDated, hFirst, hSecond] using hSize

/-- One hour ahead of universal time the calendar begins an hour before its first instant, and an
entry that is dated so takes the other entries of its document with it. -/
theorem load_stops_before_calendar :
    ({} : Settings).problems = [] ∧
      load {} (Document.ofJson (.array [
        .object [("timestamp", .string "0001-01-01T00:00:00+01:00")],
        .object [("timestamp", .string "2024-05-06T07:08:09"), ("note", .string "ok")]])) "" =
        .error (.calendar .outOfRange) := by
  refine ⟨by decide, ?_⟩
  cbv

end LogViewer
