import Mathlib
import LogViewer.Proofs.Corpus.Production

/-! Reading a search export in chunks. The size of the chunks makes no difference to the corpus. It
shows in the progress alone, which after each chunk is the share of the hits read so far. -/
namespace LogViewer

section

variable {α : Type} {size : Nat}

theorem chunks_nil (size : Nat) : chunks size ([] : List α) = [] := by
  rw [chunks.eq_def]
  exact ite_self []

theorem chunks_of_ne_nil (hSize : 0 < size) {l : List α} (hSome : l ≠ []) :
    chunks size l = l.take size :: chunks size (l.drop size) := by
  cases l with
  | nil => exact absurd rfl hSome
  | cons a l =>
      obtain ⟨n, rfl⟩ := Nat.exists_eq_succ_of_ne_zero (Nat.ne_of_gt hSize)
      rw [chunks.eq_def, if_neg (Nat.succ_ne_zero n)]
      rfl

/-- The chunk at a place is the stretch of the list from there on, if the list reaches so far. -/
theorem getElem?_chunks (hSize : 0 < size) (l : List α) (k : Nat) :
    (chunks size l)[k]? =
      if k * size < l.length then some ((l.drop (k * size)).take size) else none := by
  induction k generalizing l with
  | zero =>
      cases l with
      | nil => simp [chunks_nil]
      | cons a l => simp [chunks_of_ne_nil hSize (List.cons_ne_nil a l)]
  | succ k ih =>
      by_cases hSome : l = []
      · simp [hSome, chunks_nil]
      · have hPlace : (k + 1) * size < l.length ↔ k * size < (l.drop size).length := by
          rw [Nat.succ_mul, List.length_drop]
          omega
        rw [chunks_of_ne_nil hSize hSome, List.getElem?_cons_succ, ih, List.drop_drop,
          Nat.succ_mul, Nat.add_comm size, ← Nat.succ_mul]
        simp only [hPlace]

theorem lt_length_chunks_iff (hSize : 0 < size) {l : List α} {k : Nat} :
    k < (chunks size l).length ↔ k * size < l.length := by
  have hNone := List.getElem?_eq_none_iff (l := chunks size l) (i := k)
  rw [getElem?_chunks hSize, ite_eq_right_iff] at hNone
  rw [← Nat.not_le, ← hNone]
  simp

/-- There are as many chunks as it takes to hold the list. -/
theorem length_chunks (hSize : 0 < size) (l : List α) :
    (chunks size l).length = ⌈(l.length : ℚ) / size⌉₊ := by
  have hPos : (0 : ℚ) < size := Nat.cast_pos.mpr hSize
  refine eq_of_forall_lt_iff fun k => ?_
  rw [lt_length_chunks_iff hSize, Nat.lt_ceil, lt_div_iff₀ hPos]
  exact_mod_cast Iff.rfl

/-- The chunks up to a place hold the front of the list. -/
theorem flatten_take_chunks (hSize : 0 < size) (l : List α) (k : Nat) :
    ((chunks size l).take k).flatten = l.take (k * size) := by
  induction k generalizing l with
  | zero => simp
  | succ k ih =>
      by_cases hSome : l = []
      · simp [hSome, chunks_nil]
      · rw [chunks_of_ne_nil hSize hSome, List.take_succ_cons, List.flatten_cons, ih,
          Nat.succ_mul, Nat.add_comm, List.take_add]

end

/-- The part of the whole that a share is. -/
def Share.value (s : Share) : ℚ := s.part / s.whole

/-- Whether progress was reported after each chunk of some hits as the share of those read so far,
and once more at the end. -/
structure ReportsChunks {ν : Type} (progress : List Share) (hits : List ν) (chunkSize : Int) : Prop
    where
  eq : progress = (List.range ⌈(hits.length : ℚ) / chunkSize⌉₊).map (fun k =>
    ⟨min hits.length ((k + 1) * chunkSize.toNat), hits.length⟩) ++ [⟨1, 1⟩]
  read : ∀ k < (hitChunks hits chunkSize).length, ∃ share, progress[k]? = some share ∧
    share.part = ((hitChunks hits chunkSize).take (k + 1)).flatten.length
  sorted : (progress.map Share.value).Pairwise (· ≤ ·)
  mem_Ioc : ∀ share ∈ progress, share.value ∈ Set.Ioc 0 1

section

variable {ν : Type} {hits : List ν} {chunkSize : Int}

theorem length_hitChunks (hSize : 1 ≤ chunkSize) (hits : List ν) :
    (hitChunks hits chunkSize).length = ⌈(hits.length : ℚ) / chunkSize⌉₊ := by
  have hCast : ((chunkSize.toNat : ℕ) : ℚ) = chunkSize := by
    rw [← Int.cast_natCast, Int.toNat_of_nonneg (by omega)]
  rw [hitChunks_eq, length_chunks (by omega), List.length_zipIdx, hCast]

/-- The hits that are read up to a chunk are counted, not only measured by the chunks' size. -/
theorem length_flatten_take_hitChunks (hSize : 1 ≤ chunkSize) (hits : List ν) (k : Nat) :
    ((hitChunks hits chunkSize).take k).flatten.length = min hits.length (k * chunkSize.toNat) := by
  rw [hitChunks_eq, flatten_take_chunks (by omega), List.length_take, List.length_zipIdx,
    Nat.min_comm]

theorem value_mem_Ioc {part whole : Nat} (hPart : 0 < part) (hWhole : part ≤ whole) :
    Share.value ⟨part, whole⟩ ∈ Set.Ioc 0 1 := by
  have hPos : (0 : ℚ) < whole := Nat.cast_pos.mpr (Nat.lt_of_lt_of_le hPart hWhole)
  refine ⟨div_pos (Nat.cast_pos.mpr hPart) hPos, ?_⟩
  rw [Share.value, div_le_one hPos]
  exact Nat.cast_le.mpr hWhole

theorem value_le_value {part other whole : Nat} (h : part ≤ other) :
    Share.value ⟨part, whole⟩ ≤ Share.value ⟨other, whole⟩ :=
  div_le_div_of_nonneg_right (Nat.cast_le.mpr h) (Nat.cast_nonneg whole)

/-- The running count of what is read is a multiple of the size until all of it is read. -/
theorem sharesFrom_eq {α : Type} (size whole before : Nat) (chunks : List α) :
    sharesFrom size whole before chunks = (List.range chunks.length).map fun k =>
      ⟨min whole (before + (k + 1) * size), whole⟩ := by
  induction chunks generalizing before with
  | nil => rfl
  | cons chunk chunks ih =>
      have hNext (k : Nat) : min whole (min whole (before + size) + (k + 1) * size) =
          min whole (before + (k + 1 + 1) * size) := by
        rw [Nat.succ_mul (k + 1)]
        omega
      rw [sharesFrom, List.length_cons, List.range_succ_eq_map, List.map_cons, List.map_map,
        Nat.zero_add, Nat.one_mul]
      simp only [ih, hNext]
      rfl

theorem sharesOfHits_eq (hits : List ν) (chunkSize : Int) :
    sharesOfHits hits chunkSize = (List.range (hitChunks hits chunkSize).length).map fun k =>
      ⟨min hits.length ((k + 1) * chunkSize.toNat), hits.length⟩ := by
  simp only [sharesOfHits, sharesFrom_eq, Nat.zero_add]

theorem mem_Ioc_of_mem_sharesOfHits (hSize : 1 ≤ chunkSize) {share : Share}
    (h : share ∈ sharesOfHits hits chunkSize) : share.value ∈ Set.Ioc 0 1 := by
  rw [sharesOfHits_eq, hitChunks_eq] at h
  obtain ⟨k, hk, rfl⟩ := List.mem_map.mp h
  have hBegun : k * chunkSize.toNat < hits.zipIdx.length :=
    (lt_length_chunks_iff (by omega)).mp (List.mem_range.mp hk)
  rw [List.length_zipIdx] at hBegun
  apply value_mem_Ioc
  · have hTurn : 0 < (k + 1) * chunkSize.toNat := Nat.mul_pos (Nat.succ_pos k) (by omega)
    omega
  · exact Nat.min_le_left _ _

theorem reportsChunks (hSize : 1 ≤ chunkSize) (hits : List ν) :
    ReportsChunks (sharesOfHits hits chunkSize ++ [⟨1, 1⟩]) hits chunkSize := by
  have hOne : Share.value ⟨1, 1⟩ = 1 := by norm_num [Share.value]
  refine ⟨by rw [sharesOfHits_eq, length_hitChunks hSize], ?_, ?_, ?_⟩
  · intro k hk
    have hShares : k < (sharesOfHits hits chunkSize).length := by
      rwa [sharesOfHits_eq, List.length_map, List.length_range]
    refine ⟨(sharesOfHits hits chunkSize)[k], ?_, ?_⟩
    · rw [List.getElem?_append_left hShares, List.getElem?_eq_getElem hShares]
    · rw [length_flatten_take_hitChunks hSize]
      simp [sharesOfHits_eq]
  · rw [List.map_append, List.pairwise_append]
    refine ⟨?_, List.pairwise_singleton _ _, ?_⟩
    · rw [sharesOfHits_eq, List.map_map, List.pairwise_map]
      refine List.pairwise_lt_range.imp fun hLt => value_le_value ?_
      have hNext := Nat.mul_le_mul_right chunkSize.toNat (Nat.add_le_add_right (Nat.le_of_lt hLt) 1)
      omega
    · rintro value hValue _ hLast
      rw [List.mem_singleton.mp hLast, hOne]
      obtain ⟨share, hShare, rfl⟩ := List.mem_map.mp hValue
      exact (mem_Ioc_of_mem_sharesOfHits hSize hShare).2
  · intro share hShare
    rcases List.mem_append.mp hShare with hChunk | hEnd
    · exact mem_Ioc_of_mem_sharesOfHits hSize hChunk
    · rw [List.mem_singleton.mp hEnd, hOne]
      exact ⟨one_pos, le_refl 1⟩

end

variable {ν : Type} [Payload ν]

/-- Whether two settings are the same but for the size of chunks. -/
def Settings.SameButChunks (settings other : Settings) : Prop :=
  { settings with chunkSize := other.chunkSize } = other

theorem corpus_load_eq {settings other : Settings} (hSame : settings.SameButChunks other)
    (hSize : 1 ≤ settings.chunkSize) (hOther : 1 ≤ other.chunkSize) (document : Document ν)
    (sourceName : String) :
    (·.corpus) <$> load settings document sourceName =
      (·.corpus) <$> load other document sourceName := by
  have hDepth : settings.maxWalkDepth = other.maxWalkDepth := by rw [← hSame]
  have hTally : tallyOf settings document = tallyOf other document := by
    funext outcomes
    simp only [tallyOf, hDepth]
  have hOutcomes : outcomesOf settings document = outcomesOf other document := by
    unfold outcomesOf
    cases envelopeHits? document.value with
    | some hits =>
        dsimp only
        rw [outcomesOfHits_eq hits (by omega), outcomesOfHits_eq hits (by omega)]
    | none => simp only [hDepth]
  rw [load, load, hOutcomes, hTally]
  cases outcomesOf other document <;> rfl

/-- Whether a document that has hits was loaded with a report after each chunk of them. -/
def Loaded.ReportsChunksOf (loaded : Loaded) (settings : Settings) (document : Document ν) : Prop :=
  ∀ hits, envelopeHits? document.value = some hits →
    ReportsChunks loaded.progress hits settings.chunkSize

theorem reportsChunksOf_load {settings : Settings} (hSize : 1 ≤ settings.chunkSize)
    {document : Document ν} {sourceName : String} {loaded : Loaded}
    (h : load settings document sourceName = .ok loaded) :
    loaded.ReportsChunksOf settings document := by
  intro hits hHits
  obtain ⟨outcomes, -, h⟩ := bind_eq_ok h
  cases h
  simp only [progressOf, hHits]
  exact reportsChunks hSize hits

/-- The size of chunks is invisible in a corpus: settings that are the same but for that size lead
to the same records, in the same order, and the same tally, or to the same error. Whenever a
document that has hits is loaded, progress was reported chunk by chunk. -/
theorem load_regardless_of_chunkSize [Text.StandIns] {settings other : Settings}
    (hSame : settings.SameButChunks other) (hSize : 1 ≤ settings.chunkSize)
    (hOther : 1 ≤ other.chunkSize) (sourceName : String) :
    ((∀ document : Document ν,
        (·.corpus) <$> load settings document sourceName =
          (·.corpus) <$> load other document sourceName) ∧
      (∀ text : List Char,
        (·.corpus) <$> loadText settings text sourceName =
          (·.corpus) <$> loadText other text sourceName) ∧
      ∀ bytes : List Nat,
        (·.corpus) <$> loadBytes settings bytes sourceName =
          (·.corpus) <$> loadBytes other bytes sourceName) ∧
    (∀ (document : Document ν) (loaded : Loaded),
      load settings document sourceName = .ok loaded →
        loaded.ReportsChunksOf settings document) ∧
    (∀ (text : List Char) (loaded : Loaded),
      loadText settings text sourceName = .ok loaded →
        ∃ v, Json.read text = .ok v ∧ loaded.ReportsChunksOf settings (Document.ofJson v)) ∧
    ∀ (bytes : List Nat) (loaded : Loaded),
      loadBytes settings bytes sourceName = .ok loaded →
        ∃ text v, Text.decodeDocument? bytes = some text ∧ Json.readMarked text = .ok v ∧
          loaded.ReportsChunksOf settings (Document.ofJson v) := by
  refine ⟨⟨fun document => corpus_load_eq hSame hSize hOther document sourceName, ?_, ?_⟩, ?_,
    loaded_of_written fun document loaded h => reportsChunksOf_load hSize h⟩
  · intro text
    unfold loadText
    cases (Json.read text).mapError LoadError.unreadable with
    | error e => rfl
    | ok v => exact corpus_load_eq hSame hSize hOther (Document.ofJson v) sourceName
  · intro bytes
    unfold loadBytes
    cases Text.decodeDocument? bytes with
    | none => rfl
    | some text =>
        dsimp only
        cases (Json.readMarked text).mapError LoadError.unreadable with
        | error e => rfl
        | ok v => exact corpus_load_eq hSame hSize hOther (Document.ofJson v) sourceName
  · intro document loaded h
    exact reportsChunksOf_load hSize h

/-- A search export with three hits, of which the last one alone becomes a record. -/
private def threeHits : Json :=
  .object [("rawResponse", .object [("hits", .object [("hits", .array [
    .null, .null,
    .object [("_source", .object [
      ("message", .string "up"), ("timestamp", .string "1970-01-01")])]])])])]

theorem load_regardless_of_chunkSize_threeHits :
    ({ chunkSize := 2 } : Settings).SameButChunks {} ∧
      1 ≤ ({ chunkSize := 2 } : Settings).chunkSize ∧ 1 ≤ ({} : Settings).chunkSize ∧
      (·.corpus) <$> load { chunkSize := 2 } (Document.ofJson threeHits) "" =
        (·.corpus) <$> load {} (Document.ofJson threeHits) "" ∧
      ∃ loaded, load { chunkSize := 2 } (Document.ofJson threeHits) "" = .ok loaded ∧
        loaded.ReportsChunksOf { chunkSize := 2 } (Document.ofJson threeHits) ∧
        loaded.corpus.records.map (·.hitIndex) = [some 2] ∧
        loaded.progress = [⟨2, 3⟩, ⟨3, 3⟩, ⟨1, 1⟩] := by
  have hSame : ({ chunkSize := 2 } : Settings).SameButChunks {} := rfl
  have hSize : 1 ≤ ({ chunkSize := 2 } : Settings).chunkSize := by decide
  have hOther : 1 ≤ ({} : Settings).chunkSize := by decide
  obtain ⟨⟨hCorpus, -, -⟩, hReports, -, -⟩ :=
    load_regardless_of_chunkSize (ν := Json) hSame hSize hOther ""
  have hLoaded : (load { chunkSize := 2 } (Document.ofJson threeHits) "").toOption.map
      (fun loaded => (loaded.corpus.records.map (·.hitIndex), loaded.progress)) =
        some ([some 2], [⟨2, 3⟩, ⟨3, 3⟩, ⟨1, 1⟩]) := by
    unfold threeHits
    cbv
  obtain ⟨loaded, hLoad, hLoaded⟩ := toOption_map_eq_some hLoaded
  obtain ⟨hRecords, hProgress⟩ := Prod.mk.inj hLoaded
  exact ⟨hSame, hSize, hOther, hCorpus _, loaded, hLoad, hReports _ loaded hLoad, hRecords,
    hProgress⟩

end LogViewer
