import Mathlib
import LogViewer.Proofs.Corpus.Production

/-! The order of a corpus. The records stand in the order of their instants, of one instant the
anchored ones first, and of these in the order in which their entries were read. -/
namespace LogViewer

/-- Whether a record of an entry with a number has its place before another one: its instant is
earlier, or of one instant it has the lower rank, or of one rank the lower number. -/
def StandsBefore (p q : Record × Nat) : Prop :=
  p.1.instant < q.1.instant ∨
    p.1.instant = q.1.instant ∧ (p.1.rank < q.1.rank ∨ p.1.rank = q.1.rank ∧ p.2 < q.2)

theorem precedes_iff {r s : Record} :
    r.precedes s = true ↔ r.instant < s.instant ∨ r.instant = s.instant ∧ r.rank ≤ s.rank := by
  simp [Record.precedes]

theorem precedes_trans {r s t : Record} (hrs : r.precedes s = true) (hst : s.precedes t = true) :
    r.precedes t = true := by
  rw [precedes_iff] at hrs hst ⊢
  omega

theorem precedes_total (r s : Record) : (r.precedes s || s.precedes r) = true := by
  rw [Bool.or_eq_true, precedes_iff, precedes_iff]
  omega

theorem not_precedes_iff {r s : Record} :
    s.precedes r = false ↔ r.instant < s.instant ∨ r.instant = s.instant ∧ r.rank < s.rank := by
  rw [← Bool.not_eq_true, precedes_iff]
  omega

section

variable {l : List (Record × Nat)}

theorem lt_of_places (hNumbers : l.Pairwise fun p q => p.2 < q.2) {p q : (Record × Nat) × Nat}
    (hp : p ∈ l.zipIdx) (hq : q ∈ l.zipIdx) (hLt : p.2 < q.2) : p.1.2 < q.1.2 := by
  obtain ⟨hpLt, hpAt⟩ := List.getElem?_eq_some_iff.mp (List.mem_zipIdx_iff_getElem?.mp hp)
  obtain ⟨hqLt, hqAt⟩ := List.getElem?_eq_some_iff.mp (List.mem_zipIdx_iff_getElem?.mp hq)
  rw [← hpAt, ← hqAt]
  exact List.pairwise_iff_getElem.mp hNumbers _ _ hpLt hqLt hLt

theorem standsBefore_of_zipIdxLE (hNumbers : l.Pairwise fun p q => p.2 < q.2)
    {p q : (Record × Nat) × Nat} (hp : p ∈ l.zipIdx) (hq : q ∈ l.zipIdx) (hOther : p.2 ≠ q.2)
    (h : List.zipIdxLE (fun p q : Record × Nat => p.1.precedes q.1) p q = true) :
    StandsBefore p.1 q.1 := by
  unfold List.zipIdxLE at h
  cases hForth : p.1.1.precedes q.1.1 with
  | false => simp [hForth] at h
  | true =>
      cases hBack : q.1.1.precedes p.1.1 with
      | false =>
          rcases not_precedes_iff.mp hBack with hInstant | ⟨hInstant, hRank⟩
          · exact Or.inl hInstant
          · exact Or.inr ⟨hInstant, Or.inl hRank⟩
      | true =>
          have hPlace : p.2 ≤ q.2 := by simpa [hForth, hBack] using h
          have hNumber := lt_of_places hNumbers hp hq (by omega)
          rw [precedes_iff] at hForth hBack
          unfold StandsBefore
          omega

/-- Records in order still stand with their numbers, and those that no instant and no rank tells
apart stand in the order of these. -/
theorem sortRecords_numbered (hNumbers : l.Pairwise fun p q => p.2 < q.2) :
    ∃ numbered : List (Record × Nat), numbered.Perm l ∧
      numbered.map (·.1) = sortRecords (l.map (·.1)) ∧ numbered.Pairwise StandsBefore := by
  let le (p q : Record × Nat) : Bool := p.1.precedes q.1
  -- The sort keeps the order of places among ties, and places grow as the numbers do.
  refine ⟨l.mergeSort le, List.mergeSort_perm l le, ?_, ?_⟩
  · exact List.map_mergeSort fun _ _ _ _ => rfl
  · have hPerm := List.mergeSort_perm l.zipIdx (List.zipIdxLE le)
    have hSorted : (l.zipIdx.mergeSort (List.zipIdxLE le)).Pairwise fun p q =>
        List.zipIdxLE le p q = true := by
      apply List.pairwise_mergeSort
      · exact List.zipIdxLE_trans fun p q r => precedes_trans
      · exact List.zipIdxLE_total fun p q => precedes_total p.1 q.1
    have hPlaces : (l.zipIdx.mergeSort (List.zipIdxLE le)).Pairwise fun p q => p.2 ≠ q.2 := by
      apply (hPerm.pairwise_iff fun h => h.symm).mpr
      exact (pairwise_zipIdx l 0).imp fun h => Nat.ne_of_lt h
    rw [← List.mergeSort_zipIdx, List.pairwise_map]
    refine (hSorted.and hPlaces).imp_of_mem ?_
    rintro p q hp hq ⟨hLe, hOther⟩
    exact standsBefore_of_zipIdxLE hNumbers (hPerm.mem_iff.mp hp) (hPerm.mem_iff.mp hq) hOther hLe

end

variable {ν : Type} [Payload ν]

/-- Whether a record is what is read of the entry with a number. The number of a hit is its place
among the hits, and that of an object the place of its visit in the walk. -/
def IsReadAt (settings : Settings) (document : Document ν) (r : Record) (i : Nat) : Prop :=
  match envelopeHits? document.value with
  | some hits => 0 < settings.chunkSize ∧
    ∃ hit, hits[i]? = some hit ∧ outcomeOfHit hit i = .ok (.record r)
  | none => ∃ p, (document.containers.walk settings.maxWalkDepth.toNat).visits[i]? = some p ∧
    outcomeOfVisit? document.containers p = .ok (some (.record r))

theorem isReadAt_iff {settings : Settings} {document : Document ν} {r : Record} {i : Nat} :
    IsReadAt settings document r i ↔
      (r, i) ∈ underNumbers (·.1.record?) (numberedOutcomes settings document) := by
  have hRecord (outcome : Outcome) : outcome.record? = some r ↔ outcome = .record r := by
    cases outcome <;> simp [Outcome.record?]
  simp only [mem_underNumbers, hRecord, exists_eq_right, mem_numberedOutcomes]
  rfl

/-- Whether a corpus has the records that are read of a document, each once, and has them in
order. -/
structure Corpus.IsInOrder (corpus : Corpus) (settings : Settings) (document : Document ν) : Prop
    where
  perm : ∃ outcomes, outcomesOf settings document = .ok outcomes ∧
    corpus.records.Perm (outcomes.filterMap Outcome.record?)
  numbered : ∃ numbered : List (Record × Nat), numbered.map (·.1) = corpus.records ∧
    (∀ r i, (r, i) ∈ numbered ↔ IsReadAt settings document r i) ∧ numbered.Pairwise StandsBefore
  hits : ∀ hits, envelopeHits? document.value = some hits →
    corpus.records.Pairwise fun r s => ∃ i j : Nat, r.hitIndex = some (i : Int) ∧
      s.hitIndex = some (j : Int) ∧ StandsBefore (r, i) (s, j)

theorem isInOrder_of_load_eq_ok {settings : Settings} {document : Document ν} {sourceName : String}
    {loaded : Loaded} (h : load settings document sourceName = .ok loaded) :
    loaded.corpus.IsInOrder settings document := by
  obtain ⟨outcomes, hOutcomes, hRecords, -⟩ := outcomesOf_of_load h
  have hNumbers : (underNumbers (·.1.record?) (numberedOutcomes settings document)).Pairwise
      fun p q => p.2 < q.2 := pairwise_underNumbers (pairwise_numberedOutcomes settings document)
  obtain ⟨numbered, hPerm, hMap, hSorted⟩ := sortRecords_numbered hNumbers
  have hProduced : (underNumbers (·.1.record?) (numberedOutcomes settings document)).map (·.1) =
      outcomes.filterMap Outcome.record? := by
    rw [map_fst_underNumbers, ← map_fst_numberedOutcomes hOutcomes, List.filterMap_map]
    rfl
  rw [hProduced, ← hRecords] at hMap
  have hMem (r : Record) (i : Nat) : (r, i) ∈ numbered ↔ IsReadAt settings document r i :=
    hPerm.mem_iff.trans isReadAt_iff.symm
  refine ⟨⟨outcomes, hOutcomes, ?_⟩, ⟨numbered, hMap, hMem, hSorted⟩, fun hits hHits => ?_⟩
  · rw [hRecords]
    exact List.mergeSort_perm _ _
  · have hIndex (p : Record × Nat) (hp : p ∈ numbered) : p.1.hitIndex = some (p.2 : Int) := by
      have hRead := (hMem p.1 p.2).mp hp
      simp only [IsReadAt, hHits] at hRead
      obtain ⟨-, hit, -, hOutcome⟩ := hRead
      exact hitIndex_of_outcomeOfHit hOutcome
    rw [← hMap, List.pairwise_map]
    refine hSorted.imp_of_mem ?_
    intro p q hp hq hBefore
    exact ⟨p.2, q.2, hIndex p hp, hIndex q hq, hBefore⟩

/-- Whenever a document is loaded, be it in memory or written out, its records are in order. -/
theorem load_isInOrder [Text.StandIns] (settings : Settings) (sourceName : String) :
    (∀ (document : Document ν) (loaded : Loaded),
      load settings document sourceName = .ok loaded →
        loaded.corpus.IsInOrder settings document) ∧
    (∀ (text : List Char) (loaded : Loaded),
      loadText settings text sourceName = .ok loaded →
        ∃ v, Json.read text = .ok v ∧ loaded.corpus.IsInOrder settings (Document.ofJson v)) ∧
    ∀ (bytes : List Nat) (loaded : Loaded),
      loadBytes settings bytes sourceName = .ok loaded →
        ∃ text v, Text.decodeDocument? bytes = some text ∧ Json.readMarked text = .ok v ∧
          loaded.corpus.IsInOrder settings (Document.ofJson v) := by
  refine ⟨fun document loaded h => ?_, loaded_of_written fun document loaded h => ?_⟩
  · exact isInOrder_of_load_eq_ok h
  · exact isInOrder_of_load_eq_ok h

/-- A hit with a line that is dated by a timestamp beside it. -/
private def datedHit (line timestamp : String) : Json :=
  .object [("_source", .object [("message", .string line), ("timestamp", .string timestamp)])]

/-- A search export with a late hit before two early ones. -/
private def lateFirst : Json :=
  .object [("rawResponse", .object [("hits", .object [("hits", .array [
    datedHit "late" "1970-01-02", datedHit "early" "1970-01-01",
    datedHit "as early" "1970-01-01"])])])]

/-- The text of an object with a timestamp, in an array. -/
private def written : String := "[\x7b\"date\": \"1970-01-01\"\x7d]"

theorem load_isInOrder_lateFirst :
    (∃ loaded, load {} (Document.ofJson lateFirst) "" = .ok loaded ∧
      loaded.corpus.IsInOrder {} (Document.ofJson lateFirst) ∧
      loaded.corpus.records.map (·.hitIndex) = [some 1, some 2, some 0]) ∧
    (∃ loaded v, loadText {} written.toList "" = .ok loaded ∧ Json.read written.toList = .ok v ∧
      loaded.corpus.IsInOrder {} (Document.ofJson v)) ∧
    ∃ loaded text v, loadBytes {} [0x5b, 0x5d] "" = .ok loaded ∧
      Text.decodeDocument? [0x5b, 0x5d] = some text ∧ Json.readMarked text = .ok v ∧
      loaded.corpus.IsInOrder {} (Document.ofJson v) := by
  obtain ⟨hDocument, hText, hBytes⟩ := load_isInOrder (ν := Json) {} ""
  refine ⟨?_, ?_, ?_⟩
  · have hRecords : (load {} (Document.ofJson lateFirst) "").toOption.map
        (fun loaded => loaded.corpus.records.map (·.hitIndex)) = some [some 1, some 2, some 0] := by
      unfold lateFirst datedHit
      cbv
    obtain ⟨loaded, hLoad, hOrder⟩ := Option.map_eq_some_iff.mp hRecords
    have hLoad := toOption_eq_some.mp hLoad
    exact ⟨loaded, hLoad, hDocument _ loaded hLoad, hOrder⟩
  · have hSome : (loadText {} written.toList "").toOption.isSome = true := by
      unfold written
      cbv
    obtain ⟨loaded, hLoad⟩ := Option.isSome_iff_exists.mp hSome
    have hLoad := toOption_eq_some.mp hLoad
    obtain ⟨v, hRead, hOrder⟩ := hText _ loaded hLoad
    exact ⟨loaded, v, hLoad, hRead, hOrder⟩
  · have hSome : (loadBytes {} [0x5b, 0x5d] "").toOption.isSome = true := by cbv
    obtain ⟨loaded, hLoad⟩ := Option.isSome_iff_exists.mp hSome
    have hLoad := toOption_eq_some.mp hLoad
    obtain ⟨text, v, hDecode, hRead, hOrder⟩ := hBytes _ loaded hLoad
    exact ⟨loaded, text, v, hLoad, hDecode, hRead, hOrder⟩

end LogViewer
