import Mathlib
import LogViewer.Proofs.Corpus.Instants
import LogViewer.Proofs.Corpus.Limits

/-! Ranges as slices of a corpus. The records of a corpus are in the order of their instants, so those
in a range have neighbouring places. A query takes its records out of this slice, and a range that
reaches further keeps them. -/
namespace LogViewer

/-- If whatever passes a test is behind what passes it alone, the test is passed on the first places,
as many as it is counted. -/
theorem lt_countP_iff {α : Type} {l : List α} {p : α → Bool}
    (h : l.Pairwise fun a b => p b = true → p a = true) {i : Nat} {a : α} (ha : l[i]? = some a) :
    i < l.countP p ↔ p a = true := by
  induction l generalizing i with
  | nil => cases ha
  | cons b l ih =>
      obtain ⟨hHead, hTail⟩ := List.pairwise_cons.mp h
      by_cases hb : p b = true
      · rw [List.countP_cons_of_pos hb]
        cases i with
        | zero =>
            obtain rfl := Option.some_inj.mp ha
            simp [hb]
        | succ i => rw [Nat.succ_lt_succ_iff, ih hTail ha]
      · have hNone : ∀ c ∈ l, ¬p c = true := fun c hc hpc => hb (hHead c hc hpc)
        rw [List.countP_cons_of_neg hb, List.countP_eq_zero.mpr hNone]
        refine iff_of_false (Nat.not_lt_zero i) ?_
        rcases List.mem_cons.mp (List.mem_of_getElem? ha) with rfl | hMem
        · exact hb
        · exact hNone a hMem

variable {corpus : Corpus} {range : TimeRange} {query : String}

/-- Whether the records between two limits have the places of a slice, neighbouring ones: `count` of
them from `first` on. -/
def Corpus.IsSlice (corpus : Corpus) (start finish : Option Int) (first count : Nat) : Prop :=
  ∀ i, i ∈ List.range' first count ↔
    ∃ r, corpus.records[i]? = some r ∧ r.liesBetween start finish = true

/-- Records in the order of their instants have a slice between any two limits. -/
theorem Corpus.exists_isSlice
    (h : corpus.records.Pairwise fun r s => r.instant ≤ s.instant) (start finish : Option Int) :
    ∃ first count, corpus.IsSlice start finish first count := by
  -- The records before the range are the first ones, and so are those not behind it.
  let before (r : Record) : Bool := !start.all (· ≤ r.instant)
  let notBehind (r : Record) : Bool := finish.all (r.instant ≤ ·)
  have hBefore : corpus.records.Pairwise fun r s => before s = true → before r = true := by
    refine h.imp fun {r s} hLe => ?_
    cases start with
    | none => simp [before]
    | some a =>
        simp only [before, Option.all_some, Bool.not_eq_true', decide_eq_false_iff_not]
        omega
  have hNotBehind : corpus.records.Pairwise fun r s => notBehind s = true → notBehind r = true := by
    refine h.imp fun {r s} hLe => ?_
    cases finish with
    | none => simp [notBehind]
    | some a =>
        simp only [notBehind, Option.all_some, decide_eq_true_eq]
        omega
  refine ⟨corpus.records.countP before,
    corpus.records.countP notBehind - corpus.records.countP before, fun i => ?_⟩
  have hLies (r : Record) (hr : corpus.records[i]? = some r) :
      r.liesBetween start finish = true ↔
        corpus.records.countP before ≤ i ∧ i < corpus.records.countP notBehind := by
    rw [← not_lt, lt_countP_iff hBefore hr, lt_countP_iff hNotBehind hr]
    simp [Record.liesBetween, before, notBehind]
  rw [List.mem_range'_1]
  constructor
  · rintro ⟨hFirst, hLast⟩
    have hLength : corpus.records.countP notBehind ≤ corpus.records.length := List.countP_le_length
    have hi : i < corpus.records.length := by omega
    have hr := List.getElem?_eq_getElem hi
    exact ⟨_, hr, (hLies _ hr).mpr ⟨hFirst, by omega⟩⟩
  · rintro ⟨r, hr, hLie⟩
    obtain ⟨hFirst, hLast⟩ := (hLies r hr).mp hLie
    omega

/-- A record is put to a query that says something by the words of the query, so that it can only
fail with them. -/
theorem Record.satisfies_eq (hBlank : Query.isBlank query = false) (r : Record) :
    r.satisfies query =
      (Query.evaluateTokens · (Text.lower r.searchable)) <$> Query.tokens query.toList := by
  rw [satisfies, Query.evaluate, hBlank]
  rfl

theorem Filter.passes_eq_ok_true_iff {r : Record} :
    ({ range := some range, query } : Filter).passes r = .ok true ↔
      range.contains r.instant = true ∧
        (Query.isBlank query = false → r.satisfies query = .ok true) := by
  rw [passes_eq]
  cases range.contains r.instant <;> cases Query.isBlank query <;> simp

theorem Corpus.mem_filter_iff {places : List Nat}
    (h : corpus.filter { range := some range, query } = .ok places) {i : Nat} :
    i ∈ places ↔ ∃ r, corpus.records[i]? = some r ∧ range.contains r.instant = true ∧
      (Query.isBlank query = false → r.satisfies query = .ok true) := by
  rw [(placesOf_eq_ok h).2 i]
  simp only [Filter.passes_eq_ok_true_iff]

/-- What a filter lets through is told by what is among it, once every record in the range can be put
to the query. -/
theorem Corpus.filter_eq_ok {places : List Nat}
    (hKnown : ∀ r ∈ corpus.records, range.contains r.instant = true →
      Query.isBlank query = false → ∃ b, r.satisfies query = .ok b)
    (hSorted : places.Pairwise (· < ·))
    (hMem : ∀ i, i ∈ places ↔ ∃ r, corpus.records[i]? = some r ∧
      range.contains r.instant = true ∧
      (Query.isBlank query = false → r.satisfies query = .ok true)) :
    corpus.filter { range := some range, query } = .ok places := by
  obtain ⟨found, hFound⟩ := exists_placesOf_eq_ok_iff.mpr fun r hr =>
    Filter.exists_passes_iff.mpr (hKnown r hr)
  have hFilter : corpus.filter { range := some range, query } = .ok found := hFound
  have hSame (i : Nat) : i ∈ found ↔ i ∈ places := by rw [mem_filter_iff hFilter, hMem]
  rw [hFilter, (placesOf_eq_ok hFound).1.sorted.eq_of_mem_iff hSorted hSame]

section

variable {first count : Nat} (hSlice : corpus.IsSlice (range.start.map (·.instant))
  (range.finish.map (·.instant)) first count)

include hSlice

theorem Corpus.IsSlice.mem_iff {i : Nat} : i ∈ List.range' first count ↔
    ∃ r, corpus.records[i]? = some r ∧ range.contains r.instant = true := by
  simp only [TimeRange.contains_eq, hSlice i]

/-- A filter by a range alone lets through the slice. -/
theorem Corpus.IsSlice.filter_of_blank (hBlank : Query.isBlank query = true) :
    corpus.filter { range := some range, query } = .ok (List.range' first count) := by
  apply Corpus.filter_eq_ok (by simp [hBlank]) (List.pairwise_lt_range' 1)
  intro i
  simp [hSlice.mem_iff, hBlank]

/-- A filter by a range and a query that has words lets through what the query alone lets through of
the slice. -/
theorem Corpus.IsSlice.filter_of_tokens (hBlank : Query.isBlank query = false)
    {words : List (List Char)} (hTokens : Query.tokens query.toList = .ok words) :
    ∃ found, corpus.filter { query } = .ok found ∧
      corpus.filter { range := some range, query } =
        .ok (found.filter (· ∈ List.range' first count)) := by
  have hKnown (r : Record) : ∃ b, r.satisfies query = .ok b := by
    rw [r.satisfies_eq hBlank, hTokens]
    exact ⟨_, rfl⟩
  obtain ⟨found, hFound⟩ := exists_placesOf_eq_ok_iff.mpr fun r (_ : r ∈ corpus.records) => hKnown r
  refine ⟨found, ?_, Corpus.filter_eq_ok (fun r _ _ _ => hKnown r)
    ((placesOf_eq_ok hFound).1.sorted.filter _) fun i => ?_⟩
  · rw [Corpus.filter_of_isOpen rfl hBlank, hFound]
  · rw [List.mem_filter, decide_eq_true_eq, (placesOf_eq_ok hFound).2, hSlice.mem_iff]
    constructor
    · rintro ⟨⟨r, hr, hSatisfies⟩, s, hs, hIn⟩
      obtain rfl := Option.some_inj.mp (hr.symm.trans hs)
      exact ⟨r, hr, hIn, fun _ => hSatisfies⟩
    · rintro ⟨r, hr, hIn, hSatisfies⟩
      exact ⟨⟨r, hr, hSatisfies hBlank⟩, r, hr, hIn⟩

/-- No record is put to a query where the slice is empty. -/
theorem Corpus.IsSlice.filter_of_empty (hEmpty : count = 0) :
    corpus.filter { range := some range, query } = .ok [] := by
  have hOutside (i : Nat) (r : Record) (hr : corpus.records[i]? = some r) :
      ¬range.contains r.instant = true := by
    intro hIn
    have hMem := hSlice.mem_iff.mpr ⟨r, hr, hIn⟩
    simp [hEmpty] at hMem
  apply Corpus.filter_eq_ok ?_ List.Pairwise.nil
  · intro i
    refine iff_of_false List.not_mem_nil ?_
    rintro ⟨r, hr, hIn, -⟩
    exact hOutside i r hr hIn
  · intro r hr hIn
    obtain ⟨i, hi⟩ := List.mem_iff_getElem?.mp hr
    exact absurd hIn (hOutside i r hi)

/-- A query without words fails for the first record that is put to it. -/
theorem Corpus.IsSlice.filter_of_no_tokens (hSome : count ≠ 0)
    (hBlank : Query.isBlank query = false) {number : OverlongNumber}
    (hTokens : Query.tokens query.toList = .error number) :
    corpus.filter { query } = .error number ∧
      corpus.filter { range := some range, query } = .error number := by
  have hFails (r : Record) : r.satisfies query = .error number := by
    rw [r.satisfies_eq hBlank, hTokens]
    rfl
  have hPasses (r : Record) : ({ range := some range, query } : Filter).passes r =
      if range.contains r.instant then .error number else .ok false := by
    rw [Filter.passes_eq, hBlank, hFails]
    rfl
  have hFirst : first ∈ List.range' first count := List.mem_range'_1.mpr ⟨le_rfl, by omega⟩
  obtain ⟨r, hr, hIn⟩ := hSlice.mem_iff.mp hFirst
  have hMem := List.mem_of_getElem? hr
  constructor
  · rw [Corpus.filter_of_isOpen rfl hBlank]
    exact placesOf_eq_error (fun s _ e he => Except.error.inj (he.symm.trans (hFails s)))
      ⟨r, hMem, hFails r⟩
  · refine placesOf_eq_error (fun s _ e he => ?_) ⟨r, hMem, by rw [hPasses, hIn, if_pos rfl]⟩
    rw [hPasses] at he
    split at he
    · exact (Except.error.inj he).symm
    · cases he

/-- A filter by a range and a query lets through what the query alone lets through of the slice.
Where the slice is empty no record is put to the query, and so it cannot fail there. -/
theorem Corpus.IsSlice.filter_of_query (hBlank : Query.isBlank query = false) :
    corpus.filter { range := some range, query } =
      if count = 0 then .ok [] else (·.filter (· ∈ List.range' first count)) <$>
        corpus.filter { query } := by
  by_cases hEmpty : count = 0
  · rw [if_pos hEmpty, hSlice.filter_of_empty hEmpty]
  · rw [if_neg hEmpty]
    cases hTokens : Query.tokens query.toList with
    | error number =>
        obtain ⟨hAlone, hBoth⟩ := hSlice.filter_of_no_tokens hEmpty hBlank hTokens
        rw [hAlone, hBoth]
        rfl
    | ok words =>
        obtain ⟨found, hAlone, hBoth⟩ := hSlice.filter_of_tokens hBlank hTokens
        rw [hAlone, hBoth]
        rfl

end

/-- Whether a range reaches at least as far as another one: wherever it ends, the other one ends as
well, and no further out. -/
structure TimeRange.Covers (wide narrow : TimeRange) : Prop where
  start : ∀ a ∈ wide.start, ∃ b ∈ narrow.start, a.instant ≤ b.instant
  finish : ∀ a ∈ wide.finish, ∃ b ∈ narrow.finish, b.instant ≤ a.instant

theorem TimeRange.contains_iff {instant : Int} : range.contains instant = true ↔
    (∀ a ∈ range.start, a.instant ≤ instant) ∧ ∀ a ∈ range.finish, instant ≤ a.instant := by
  simp [contains, Option.all_eq_true]

theorem TimeRange.Covers.contains {wide narrow : TimeRange} (h : wide.Covers narrow) {instant : Int}
    (hIn : narrow.contains instant = true) : wide.contains instant = true := by
  obtain ⟨hStart, hFinish⟩ := contains_iff.mp hIn
  refine contains_iff.mpr ⟨fun a ha => ?_, fun a ha => ?_⟩
  · obtain ⟨b, hb, hLe⟩ := h.start a ha
    exact hLe.trans (hStart b hb)
  · obtain ⟨b, hb, hLe⟩ := h.finish a ha
    exact (hFinish b hb).trans hLe

/-- What a filter lets through it still lets through with a range that reaches further. -/
theorem Corpus.mem_filter_of_covers {wide narrow : TimeRange} (h : wide.Covers narrow)
    {places : List Nat} (hPlaces : corpus.filter { range := some narrow, query } = .ok places)
    {i : Nat} (hi : i ∈ places) :
    ∃ others, corpus.filter { range := some wide, query } = .ok others ∧ i ∈ others := by
  obtain ⟨r, hr, hIn, hSatisfies⟩ := (mem_filter_iff hPlaces).mp hi
  have hKnown (s : Record) : ∃ b, ({ range := some wide, query } : Filter).passes s = .ok b := by
    rw [Filter.exists_passes_iff]
    intro _ hBlank
    obtain ⟨words, hTokens, -⟩ := map_eq_ok ((r.satisfies_eq hBlank).symm.trans (hSatisfies hBlank))
    rw [s.satisfies_eq hBlank, hTokens]
    exact ⟨_, rfl⟩
  obtain ⟨others, hOthers⟩ := exists_placesOf_eq_ok_iff.mpr fun s (_ : s ∈ corpus.records) =>
    hKnown s
  exact ⟨others, hOthers, (mem_filter_iff hOthers).mpr ⟨r, hr, h.contains hIn, hSatisfies⟩⟩

/-- Whether filters by ranges cut a corpus into slices. The records between the limits that the texts
of a range name have neighbouring places, which the range alone lets through; with a query that says
something it is those among them that the query alone lets through, unless there are none to be put
to it. A range that reaches further lets through no fewer. -/
structure Corpus.IsCutByRanges (corpus : Corpus) : Prop where
  slices : ∀ start finish range, TimeRange.ofTexts? start finish = .ok range →
    IsLimit (start.getD "") (range.start.map (·.instant)) ∧
    IsLimit (finish.getD "") (range.finish.map (·.instant)) ∧
    ∃ first count,
      corpus.IsSlice (range.start.map (·.instant)) (range.finish.map (·.instant)) first count ∧
      (∀ query, Query.isBlank query = true →
        corpus.filter { range := some range, query } = .ok (List.range' first count)) ∧
      ∀ query, Query.isBlank query = false →
        corpus.filter { range := some range, query } =
          if count = 0 then .ok [] else (·.filter (· ∈ List.range' first count)) <$>
            corpus.filter { query }
  keeps : ∀ wide narrow : TimeRange, wide.Covers narrow → ∀ query places,
    corpus.filter { range := some narrow, query } = .ok places → ∀ i ∈ places,
      ∃ others, corpus.filter { range := some wide, query } = .ok others ∧ i ∈ others

/-- A text that is missing leaves an end of a range as open as an empty one. -/
theorem TimeRange.ofTexts?_getD (start finish : Option String) :
    ofTexts? (some (start.getD "")) (some (finish.getD "")) = ofTexts? start finish := by
  cases start <;> cases finish <;> rfl

theorem Corpus.isCutByRanges
    (h : corpus.records.Pairwise fun r s => r.instant ≤ s.instant) : corpus.IsCutByRanges := by
  refine ⟨fun start finish range hRange => ?_, ?_⟩
  · rw [← TimeRange.ofTexts?_getD] at hRange
    obtain ⟨hStart, hFinish⟩ := exists_ofTexts?_iff.mp ⟨range, hRange, rfl, rfl⟩
    obtain ⟨first, count, hSlice⟩ := exists_isSlice h (range.start.map (·.instant))
      (range.finish.map (·.instant))
    exact ⟨hStart, hFinish, first, count, hSlice, fun _ => hSlice.filter_of_blank,
      fun _ => hSlice.filter_of_query⟩
  · intro wide narrow hCovers query places hPlaces i hi
    exact mem_filter_of_covers hCovers hPlaces hi

variable {ν : Type} [Payload ν]

/-- Whenever a document is loaded, be it in memory or written out, ranges cut its corpus into
slices. -/
theorem load_isCutByRanges [Text.StandIns] (settings : Settings) (sourceName : String) :
    (∀ (document : Document ν) (loaded : Loaded),
      load settings document sourceName = .ok loaded → loaded.corpus.IsCutByRanges) ∧
    (∀ (text : List Char) (loaded : Loaded),
      loadText settings text sourceName = .ok loaded → loaded.corpus.IsCutByRanges) ∧
    ∀ (bytes : List Nat) (loaded : Loaded),
      loadBytes settings bytes sourceName = .ok loaded → loaded.corpus.IsCutByRanges := by
  exact forall_loaded fun document loaded h =>
    Corpus.isCutByRanges (isInOrder_of_load_eq_ok h).pairwise_instant

/-- An object with a date and a letter. -/
private def lettered (date letter : String) : Json :=
  .object [("date", .string date), ("m", .string letter)]

private def threeLettered : Json :=
  .array [lettered "1970-01-02" "b", lettered "1970-01-01" "a", lettered "1970-01-02" "c"]

/-- The range from the second day on, which is given in a zone. -/
private def secondDay : TimeRange := { start := some ⟨"1970-01-02T01:00+01:00", 86400000⟩ }

/-- The text of an object with a timestamp, in an array. -/
private def writtenObject : String := "[\x7b\"date\": \"1970-01-01\"\x7d]"

theorem load_isCutByRanges_threeLettered :
    (∃ loaded, load {} (Document.ofJson threeLettered) "" = .ok loaded ∧
      TimeRange.ofTexts? (some "1970-01-02T01:00+01:00") none = .ok secondDay ∧
      (∃ first count, loaded.corpus.IsSlice (some 86400000) none first count ∧
        List.range' first count = [1, 2]) ∧
      loaded.corpus.filter { range := some secondDay, query := " " } = .ok [1, 2] ∧
      Query.isBlank " " = true ∧ Query.isBlank "b" = false ∧
      loaded.corpus.filter { range := some secondDay, query := "b" } =
        (·.filter (· ∈ [1, 2])) <$> loaded.corpus.filter { query := "b" } ∧
      TimeRange.Covers {} secondDay ∧
      ∃ others, loaded.corpus.filter { range := some {}, query := " " } = .ok others ∧
        1 ∈ others) ∧
    (∃ loaded, loadText {} writtenObject.toList "" = .ok loaded ∧ loaded.corpus.IsCutByRanges) ∧
    ∃ loaded, loadBytes {} [0x5b, 0x5d] "" = .ok loaded ∧ loaded.corpus.IsCutByRanges := by
  obtain ⟨hDocument, hText, hBytes⟩ := load_isCutByRanges (ν := Json) {} ""
  refine ⟨?_, ?_, ?_⟩
  · have hInstants : (load {} (Document.ofJson threeLettered) "").toOption.map (fun loaded =>
        loaded.corpus.records.map (·.instant)) = some [0, 86400000, 86400000] := by
      unfold threeLettered lettered
      cbv
    have hRange : TimeRange.ofTexts? (some "1970-01-02T01:00+01:00") none = .ok secondDay :=
      toOption_eq_some.mp (by decide +kernel)
    have hCovers : TimeRange.Covers {} secondDay := ⟨by simp, by simp⟩
    obtain ⟨loaded, hLoad, hInstants⟩ := toOption_map_eq_some hInstants
    have hCut := hDocument _ loaded hLoad
    obtain ⟨-, -, first, count, hSlice, hBlank, hQuery⟩ := hCut.slices _ _ _ hRange
    have hPlaces : List.range' first count = [1, 2] := by
      refine (List.pairwise_lt_range' 1).eq_of_mem_iff (by decide : [1, 2].Pairwise (· < ·)) ?_
      intro i
      have hMem : i ∈ List.range' first count ↔
          ∃ instant, [0, 86400000, 86400000][i]? = some instant ∧ (86400000 : Int) ≤ instant := by
        rw [hSlice i, ← hInstants, List.getElem?_map]
        simp [Record.liesBetween, secondDay]
      rw [hMem]
      rcases i with _ | _ | _ | i
      · simp
      · simp
      · simp
      · simp
    have hCount : count ≠ 0 := by
      rintro rfl
      cases hPlaces
    have hAlone := hBlank " " (by decide)
    have hWord := hQuery "b" (by decide)
    rw [hPlaces] at hAlone
    rw [if_neg hCount, hPlaces] at hWord
    exact ⟨loaded, hLoad, hRange, ⟨first, count, hSlice, hPlaces⟩, hAlone, by decide, by decide,
      hWord, hCovers, hCut.keeps _ _ hCovers _ _ hAlone 1 List.mem_cons_self⟩
  · have hSome : (loadText {} writtenObject.toList "").toOption.isSome = true := by
      unfold writtenObject
      cbv
    obtain ⟨loaded, hLoad⟩ := Option.isSome_iff_exists.mp hSome
    have hLoad := toOption_eq_some.mp hLoad
    exact ⟨loaded, hLoad, hText _ loaded hLoad⟩
  · have hSome : (loadBytes {} [0x5b, 0x5d] "").toOption.isSome = true := by cbv
    obtain ⟨loaded, hLoad⟩ := Option.isSome_iff_exists.mp hSome
    have hLoad := toOption_eq_some.mp hLoad
    exact ⟨loaded, hLoad, hBytes _ loaded hLoad⟩

end LogViewer
