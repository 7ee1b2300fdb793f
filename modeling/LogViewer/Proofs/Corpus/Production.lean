import Mathlib
import LogViewer.Proofs.Corpus.Loading
import LogViewer.Proofs.Document.Numbering
import LogViewer.Proofs.Success

/-! The order in which entries are read. Every hit and every container that the walk enters has its
number, and what becomes of it is read under that number, so that nothing is read twice. -/
namespace LogViewer

theorem pairwise_zipIdx {α : Type} (l : List α) (base : Nat) :
    (l.zipIdx base).Pairwise fun p q => p.2 < q.2 := by
  induction l generalizing base with
  | nil => exact List.Pairwise.nil
  | cons a l ih =>
      rw [List.zipIdx_cons, List.pairwise_cons]
      refine ⟨fun p hp => ?_, ih (base + 1)⟩
      have hBase := List.le_snd_of_mem_zipIdx hp
      omega

/-- What is read of numbered things, with their numbers. -/
def underNumbers {α β : Type} (f : α × Nat → Option β) (l : List (α × Nat)) : List (β × Nat) :=
  l.filterMap fun p => (f p).map (·, p.2)

section

variable {α β : Type} {f : α × Nat → Option β} {l : List (α × Nat)}

theorem map_fst_underNumbers : (underNumbers f l).map (·.1) = l.filterMap f := by
  simp [underNumbers, List.map_filterMap, Function.comp_def]

theorem mem_underNumbers {b : β} {i : Nat} :
    (b, i) ∈ underNumbers f l ↔ ∃ a, (a, i) ∈ l ∧ f (a, i) = some b := by
  rw [underNumbers, List.mem_filterMap]
  constructor
  · rintro ⟨⟨a, k⟩, hMem, hRead⟩
    obtain ⟨c, hc, hSame⟩ := Option.map_eq_some_iff.mp hRead
    cases hSame
    exact ⟨a, hMem, hc⟩
  · rintro ⟨a, hMem, hRead⟩
    exact ⟨(a, i), hMem, by rw [hRead, Option.map_some]⟩

theorem pairwise_underNumbers (h : l.Pairwise fun p q => p.2 < q.2) :
    (underNumbers f l).Pairwise fun p q => p.2 < q.2 := by
  refine h.filterMap _ ?_
  intro p q hLt r hr s hs
  obtain ⟨b, -, rfl⟩ := Option.map_eq_some_iff.mp hr
  obtain ⟨c, -, rfl⟩ := Option.map_eq_some_iff.mp hs
  exact hLt

end

section

variable {ν : Type}

/-- The hits that are read, with their numbers. -/
def hitsRead (hits : List ν) (chunkSize : Int) : List (ν × Nat) := (hitChunks hits chunkSize).flatten

theorem hitsRead_of_pos (hits : List ν) {chunkSize : Int} (hSize : 0 < chunkSize) :
    hitsRead hits chunkSize = hits.zipIdx := by
  rw [hitsRead, hitChunks_eq, flatten_chunks (by omega)]

theorem hitsRead_of_nonpos (hits : List ν) {chunkSize : Int} (hSize : chunkSize ≤ 0) :
    hitsRead hits chunkSize = [] := by
  have hZero : chunkSize.toNat = 0 := by omega
  rw [hitsRead, hitChunks_eq, hZero, chunks_zero, List.flatten_nil]

theorem pairwise_hitsRead (hits : List ν) (chunkSize : Int) :
    (hitsRead hits chunkSize).Pairwise fun p q => p.2 < q.2 := by
  rcases Int.lt_or_le 0 chunkSize with hPos | hNonpos
  · rw [hitsRead_of_pos hits hPos]
    exact pairwise_zipIdx hits 0
  · rw [hitsRead_of_nonpos hits hNonpos]
    exact List.Pairwise.nil

theorem mem_hitsRead {hits : List ν} {chunkSize : Int} {hit : ν} {i : Nat} :
    (hit, i) ∈ hitsRead hits chunkSize ↔ 0 < chunkSize ∧ hits[i]? = some hit := by
  rcases Int.lt_or_le 0 chunkSize with hPos | hNonpos
  · rw [hitsRead_of_pos hits hPos, List.mem_zipIdx_iff_getElem?, and_iff_right hPos]
  · rw [hitsRead_of_nonpos hits hNonpos]
    simp [Int.not_lt.mpr hNonpos]

end

variable {ν : Type} [Payload ν]

/-- What becomes of a value with a path; none if it is no object with a timestamp. -/
def outcomeOfValue? (path : String) (v : ν) : Except CalendarError (Option Outcome) :=
  match (Payload.shape v).entries? with
  | some fields => outcomeOfObject? path fields
  | none => return none

theorem outcomeOfVisit?_eq {d : Document ν} {value : Nat → ν} (hNumbered : d.IsNumberedBy value)
    {p : Pending} (hNode : p.node < d.containers.nodes.size) :
    outcomeOfVisit? d.containers p = outcomeOfValue? p.path (value p.node) := by
  have hStands := hNumbered.standsFor p.node _ (Array.getElem?_eq_getElem hNode)
  rw [outcomeOfVisit?, outcomeOfValue?, ← hStands.fields_eq, Array.getElem?_eq_getElem hNode]
  rfl

theorem outcomesOfHits_eq_hitsRead (hits : List ν) {chunkSize : Int} (hSize : chunkSize ≠ 0) :
    outcomesOfHits hits chunkSize =
      ((hitsRead hits chunkSize).mapM fun p => outcomeOfHit p.1 p.2).mapError .calendar := by
  unfold outcomesOfHits
  rw [if_neg hSize]
  simp only [mapM_flatten, hitsRead]

/-- The record of a hit has the number of the hit. -/
theorem hitIndex_of_outcomeOfHit {hit : ν} {index : Nat} {r : Record}
    (h : outcomeOfHit hit index = .ok (.record r)) : r.hitIndex = some (index : Int) := by
  unfold outcomeOfHit at h
  split at h
  · dsimp only at h
    split at h
    · obtain ⟨made, -, h⟩ := bind_eq_ok h
      cases made with
      | none => cases h
      | some s =>
          cases h
          rfl
    · cases h
  · cases h

/-- What becomes of the entries that are read, with the numbers of the entries: a hit is numbered by
its place among the hits, and an object by the place of its visit in the walk. -/
def numberedOutcomes (settings : Settings) (document : Document ν) : List (Outcome × Nat) :=
  match envelopeHits? document.value with
  | some hits =>
    underNumbers (fun (hit, i) => (outcomeOfHit hit i).toOption) (hitsRead hits settings.chunkSize)
  | none =>
    underNumbers (fun (p, _) => (outcomeOfVisit? document.containers p).toOption.join)
      (document.containers.walk settings.maxWalkDepth.toNat).visits.zipIdx

/-- The results of the visits that are read, one for each visit. -/
theorem exists_results {c : Containers ν} {visits : List Pending} {outcomes : List Outcome}
    (h : outcomesOfVisits c visits = .ok outcomes) :
    ∃ results, visits.mapM (outcomeOfVisit? c) = .ok results ∧ outcomes = results.filterMap id := by
  exact map_eq_ok (mapError_eq_ok h)

theorem filterMap_outcomesOfVisits {c : Containers ν} {visits : List Pending}
    {outcomes : List Outcome} (h : outcomesOfVisits c visits = .ok outcomes) :
    outcomes = visits.filterMap fun p => (outcomeOfVisit? c p).toOption.join := by
  obtain ⟨results, hResults, rfl⟩ := exists_results h
  exact filterMap_of_mapM_eq_ok hResults id

/-- Every hit that is read becomes something. -/
theorem map_hitsRead {hits : List ν} {chunkSize : Int} {outcomes : List Outcome}
    (h : outcomesOfHits hits chunkSize = .ok outcomes) :
    (hitsRead hits chunkSize).map (fun p => outcomeOfHit p.1 p.2) = outcomes.map .ok := by
  have hSize : chunkSize ≠ 0 := by
    intro hZero
    rw [outcomesOfHits, if_pos hZero] at h
    cases h
  rw [outcomesOfHits_eq_hitsRead hits hSize] at h
  exact map_of_mapM_eq_ok (mapError_eq_ok h)

theorem map_fst_numberedOutcomes {settings : Settings} {document : Document ν}
    {outcomes : List Outcome} (h : outcomesOf settings document = .ok outcomes) :
    (numberedOutcomes settings document).map (·.1) = outcomes := by
  unfold outcomesOf at h
  unfold numberedOutcomes
  cases hHits : envelopeHits? document.value with
  | some hits =>
      simp only [hHits] at h
      have hMap := congrArg (List.filterMap Except.toOption) (map_hitsRead h)
      rw [List.filterMap_map, List.filterMap_map] at hMap
      rw [map_fst_underNumbers]
      simpa [Function.comp_def, Except.toOption] using hMap
  | none =>
      simp only [hHits] at h
      rw [map_fst_underNumbers, filterMap_outcomesOfVisits h]
      exact filterMap_zipIdx_fst (fun p => (outcomeOfVisit? document.containers p).toOption.join) _

theorem pairwise_numberedOutcomes (settings : Settings) (document : Document ν) :
    (numberedOutcomes settings document).Pairwise fun p q => p.2 < q.2 := by
  unfold numberedOutcomes
  split
  · exact pairwise_underNumbers (pairwise_hitsRead _ _)
  · exact pairwise_underNumbers (pairwise_zipIdx _ 0)

theorem mem_numberedOutcomes {settings : Settings} {document : Document ν} {outcome : Outcome}
    {i : Nat} :
    (outcome, i) ∈ numberedOutcomes settings document ↔
      match envelopeHits? document.value with
      | some hits => 0 < settings.chunkSize ∧
        ∃ hit, hits[i]? = some hit ∧ outcomeOfHit hit i = .ok outcome
      | none => ∃ p, (document.containers.walk settings.maxWalkDepth.toNat).visits[i]? = some p ∧
        outcomeOfVisit? document.containers p = .ok (some outcome) := by
  unfold numberedOutcomes
  split
  · simp only [mem_underNumbers, mem_hitsRead, toOption_eq_some, and_assoc, exists_and_left]
  · simp only [mem_underNumbers, List.mem_zipIdx_iff_getElem?, Option.join_eq_some_iff,
      toOption_eq_some]

/-- A document that is loaded has a corpus of the records that were read, with the tally of all that
was read. -/
theorem outcomesOf_of_load {settings : Settings} {document : Document ν} {sourceName : String}
    {loaded : Loaded} (h : load settings document sourceName = .ok loaded) :
    ∃ outcomes, outcomesOf settings document = .ok outcomes ∧
      loaded.corpus.records = sortRecords (outcomes.filterMap Outcome.record?) ∧
      loaded.corpus.tally = tallyOf settings document outcomes := by
  obtain ⟨outcomes, hOutcomes, h⟩ := bind_eq_ok h
  cases h
  exact ⟨outcomes, hOutcomes, rfl, rfl⟩

/-- What holds of every tree that is loaded holds of the tree that a text or bytes are read as. -/
theorem loaded_of_written [Text.StandIns] {settings : Settings} {sourceName : String}
    {P : Loaded → Document Json → Prop}
    (hLoad : ∀ document loaded, load settings document sourceName = .ok loaded →
      P loaded document) :
    (∀ (text : List Char) (loaded : Loaded),
      loadText settings text sourceName = .ok loaded →
        ∃ v, Json.read text = .ok v ∧ P loaded (Document.ofJson v)) ∧
    ∀ (bytes : List Nat) (loaded : Loaded),
      loadBytes settings bytes sourceName = .ok loaded →
        ∃ text v, Text.decodeDocument? bytes = some text ∧ Json.readMarked text = .ok v ∧
          P loaded (Document.ofJson v) := by
  refine ⟨fun text loaded h => ?_, fun bytes loaded h => ?_⟩
  · obtain ⟨v, hRead, h⟩ := bind_eq_ok h
    exact ⟨v, mapError_eq_ok hRead, hLoad _ loaded h⟩
  · unfold loadBytes at h
    split at h
    · rename_i text hText
      obtain ⟨v, hRead, h⟩ := bind_eq_ok h
      exact ⟨text, v, hText, mapError_eq_ok hRead, hLoad _ loaded h⟩
    · cases h

/-- What holds of every corpus that is loaded from memory holds of the corpora of texts and bytes as
well. -/
theorem forall_loaded [Text.StandIns] {settings : Settings} {sourceName : String} {P : Loaded → Prop}
    (hLoad : ∀ {μ : Type} [Payload μ] (document : Document μ) (loaded : Loaded),
      load settings document sourceName = .ok loaded → P loaded) :
    (∀ (document : Document ν) (loaded : Loaded),
      load settings document sourceName = .ok loaded → P loaded) ∧
    (∀ (text : List Char) (loaded : Loaded),
      loadText settings text sourceName = .ok loaded → P loaded) ∧
    ∀ (bytes : List Nat) (loaded : Loaded),
      loadBytes settings bytes sourceName = .ok loaded → P loaded := by
  obtain ⟨hText, hBytes⟩ := loaded_of_written (P := fun loaded _ => P loaded) hLoad
  refine ⟨hLoad, fun text loaded h => ?_, fun bytes loaded h => ?_⟩
  · obtain ⟨-, -, hHolds⟩ := hText text loaded h
    exact hHolds
  · obtain ⟨-, -, -, -, hHolds⟩ := hBytes bytes loaded h
    exact hHolds

end LogViewer
