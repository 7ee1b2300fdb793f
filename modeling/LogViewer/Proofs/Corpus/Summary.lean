import Mathlib
import LogViewer.Proofs.Corpus.Instants

/-! The summary of a corpus. A corpus is in order, so its summary begins with its first record and
spans the time up to its last one, and the records of each format are counted. The count, the span
and the counts of the formats do not depend on the order of the records. -/
namespace LogViewer

/-- Whether a record has a lower key than all before it and none behind it has a lower one. -/
def IsFirstLeast (key : Record → Int) (records : List Record) (r : Record) : Prop :=
  ∃ front back, records = front ++ r :: back ∧ (∀ s ∈ front, key r < key s) ∧
    ∀ s ∈ back, key r ≤ key s

section

variable {key : Record → Int} {records : List Record} {r s : Record}

theorem IsFirstLeast.mem (h : IsFirstLeast key records r) : r ∈ records := by
  obtain ⟨front, back, rfl, -⟩ := h
  exact List.mem_append_right _ List.mem_cons_self

theorem IsFirstLeast.le (h : IsFirstLeast key records r) (hs : s ∈ records) : key r ≤ key s := by
  obtain ⟨front, back, rfl, hFront, hBack⟩ := h
  rcases List.mem_append.mp hs with hs | hs
  · exact (hFront s hs).le
  · rcases List.mem_cons.mp hs with rfl | hs
    · exact le_rfl
    · exact hBack s hs

/-- One more record is the first with the least key if its key is lower, else it changes nothing. -/
theorem IsFirstLeast.concat (h : IsFirstLeast key records r) (s : Record) :
    IsFirstLeast key (records ++ [s]) (if key s < key r then s else r) := by
  split
  · rename_i hLower
    refine ⟨records, [], rfl, fun q hq => ?_, by simp⟩
    exact hLower.trans_le (h.le hq)
  · rename_i hNot
    obtain ⟨front, back, rfl, hFront, hBack⟩ := h
    refine ⟨front, back ++ [s], by simp, hFront, fun q hq => ?_⟩
    rcases List.mem_append.mp hq with hq | hq
    · exact hBack q hq
    · rw [List.mem_singleton.mp hq]
      exact not_lt.mp hNot

/-- Records with the least key have the same key in whatever order they stand. -/
theorem IsFirstLeast.key_eq_of_perm {others : List Record} (hPerm : records.Perm others)
    (h : IsFirstLeast key records r) (h' : IsFirstLeast key others s) : key r = key s :=
  le_antisymm (h.le (hPerm.mem_iff.mpr h'.mem)) (h'.le (hPerm.mem_iff.mp h.mem))

end

namespace Summary

theorem isFirstLeast_best {better : Record → Record → Bool} {key : Record → Int}
    (hBetter : ∀ r s, better r s = decide (key r < key s)) (first : Record)
    (records : List Record) : IsFirstLeast key (first :: records) (best better first records) := by
  induction records using List.reverseRecOn with
  | nil => exact ⟨[], [], rfl, by simp, by simp⟩
  | append_singleton records r ih =>
      have hStep : best better first (records ++ [r]) =
          if key r < key (best better first records) then r else best better first records := by
        simp [best, List.foldl_append, hBetter]
      rw [hStep]
      exact ih.concat r

theorem isFirstLeast_first (r : Record) (rest : List Record) :
    IsFirstLeast (·.instant) (r :: rest) (best (·.instant < ·.instant) r rest) :=
  isFirstLeast_best (fun _ _ => rfl) r rest

theorem isFirstLeast_last (r : Record) (rest : List Record) :
    IsFirstLeast (-·.instant) (r :: rest) (best (·.instant > ·.instant) r rest) :=
  isFirstLeast_best (fun _ _ => by simp) r rest

section

variable (counts : List (LineFormat × Nat)) (format : LineFormat)

theorem lookup_cons_format (f other : LineFormat) (n : Nat) :
    List.lookup other ((f, n) :: counts) = if other = f then some n else counts.lookup other := by
  rw [List.lookup_cons]
  by_cases h : other = f
  · rw [if_pos h, beq_iff_eq.mpr h]
  · rw [if_neg h, beq_false_of_ne h]

theorem lookup_countFormat (other : LineFormat) :
    (countFormat counts format).lookup other =
      if other = format then some ((counts.lookup format).getD 0 + 1)
      else counts.lookup other := by
  induction counts with
  | nil => exact lookup_cons_format [] format other 1
  | cons entry counts ih =>
      obtain ⟨f, n⟩ := entry
      unfold countFormat
      split
      · rename_i hSame
        subst hSame
        simp only [lookup_cons_format, if_true, Option.getD_some]
        split <;> rfl
      · rename_i hOther
        simp only [lookup_cons_format, ih, Ne.symm hOther, if_false]
        split
        · rename_i hFirst
          rw [if_neg (hFirst ▸ hOther)]
        · rfl

theorem map_fst_countFormat :
    (countFormat counts format).map (·.1) =
      if format ∈ counts.map (·.1) then counts.map (·.1) else counts.map (·.1) ++ [format] := by
  induction counts with
  | nil => rfl
  | cons entry counts ih =>
      obtain ⟨f, n⟩ := entry
      unfold countFormat
      split
      · rename_i hSame
        simp [hSame]
      · rename_i hOther
        simp only [List.map_cons, ih, List.mem_cons, Ne.symm hOther, false_or]
        split <;> rfl

theorem sum_countFormat :
    ((countFormat counts format).map (·.2)).sum = (counts.map (·.2)).sum + 1 := by
  induction counts with
  | nil => rfl
  | cons entry counts ih =>
      obtain ⟨f, n⟩ := entry
      unfold countFormat
      split
      · simp only [List.map_cons, List.sum_cons]
        omega
      · simp only [List.map_cons, List.sum_cons, ih]
        omega

variable {counts} in
theorem pos_of_mem_countFormat (h : ∀ entry ∈ counts, 0 < entry.2) :
    ∀ entry ∈ countFormat counts format, 0 < entry.2 := by
  induction counts with
  | nil => simp [countFormat]
  | cons entry counts ih =>
      obtain ⟨f, n⟩ := entry
      have hRest := ih fun e he => h e (List.mem_cons_of_mem _ he)
      unfold countFormat
      split
      · intro e he
        rcases List.mem_cons.mp he with rfl | he
        · exact Nat.succ_pos n
        · exact h e (List.mem_cons_of_mem _ he)
      · intro e he
        rcases List.mem_cons.mp he with rfl | he
        · exact h _ List.mem_cons_self
        · exact hRest e he

end

/-- The count of the records of each format that occurs. -/
def formatCounts (records : List Record) : List (LineFormat × Nat) :=
  records.foldl (fun counts r => countFormat counts r.format) []

theorem formatCounts_concat (records : List Record) (r : Record) :
    formatCounts (records ++ [r]) = countFormat (formatCounts records) r.format := by
  simp [formatCounts, List.foldl_append]

theorem formats_ofRecords (records : List Record) :
    (ofRecords records).formats = formatCounts records := by
  cases records <;> rfl

theorem nodup_formatCounts (records : List Record) :
    ((formatCounts records).map (·.1)).Nodup := by
  induction records using List.reverseRecOn with
  | nil => exact List.nodup_nil
  | append_singleton records r ih =>
      rw [formatCounts_concat, map_fst_countFormat]
      split
      · exact ih
      · rename_i hNew
        exact List.nodup_append_comm.mp (List.nodup_cons.mpr ⟨hNew, ih⟩)

theorem sum_formatCounts (records : List Record) :
    ((formatCounts records).map (·.2)).sum = records.length := by
  induction records using List.reverseRecOn with
  | nil => rfl
  | append_singleton records r ih =>
      rw [formatCounts_concat, sum_countFormat, ih, List.length_append, List.length_singleton]

theorem getD_countOrNone (n : Nat) : (if n = 0 then none else some n).getD 0 = n := by
  split
  · rename_i hNone
    exact hNone.symm
  · rfl

/-- A format has a count exactly if there are records of it. -/
theorem lookup_formatCounts (records : List Record) (format : LineFormat) :
    (formatCounts records).lookup format =
      if records.countP (·.format == format) = 0 then none
      else some (records.countP (·.format == format)) := by
  induction records using List.reverseRecOn with
  | nil => rfl
  | append_singleton records r ih =>
      rw [formatCounts_concat, lookup_countFormat, List.countP_append, List.countP_singleton]
      by_cases h : format = r.format
      · have hOwn : ((formatCounts records).lookup r.format).getD 0 =
            records.countP (·.format == r.format) := by
          rw [← h, ih, getD_countOrNone]
        rw [if_pos h, hOwn, h]
        simp
      · simp [h, ih, Ne.symm h]

theorem lookup_getD_formatCounts (records : List Record) (format : LineFormat) :
    ((formatCounts records).lookup format).getD 0 = records.countP (·.format == format) := by
  rw [lookup_formatCounts, getD_countOrNone]

theorem pos_of_mem_formatCounts (records : List Record) :
    ∀ entry ∈ formatCounts records, 0 < entry.2 := by
  induction records using List.reverseRecOn with
  | nil => simp [formatCounts]
  | append_singleton records r ih =>
      rw [formatCounts_concat]
      exact pos_of_mem_countFormat _ ih

theorem le_getLast_of_pairwise {records : List Record} {hSome : records ≠ []} {r : Record}
    (hOrder : records.Pairwise fun r s => r.instant ≤ s.instant) (hr : r ∈ records) :
    r.instant ≤ (records.getLast hSome).instant := by
  obtain ⟨k, hk, rfl⟩ := List.getElem_of_mem hr
  rw [List.getLast_eq_getElem]
  rcases (Nat.le_sub_one_of_lt hk).eq_or_lt with hLast | hBefore
  · simp only [hLast, le_refl]
  · exact List.pairwise_iff_getElem.mp hOrder _ _ _ _ hBefore

/-- The seconds of the span, exactly. -/
def seconds (s : Summary) : ℚ := s.duration / 1000

/-- Whether a summary is that of some records, of which the first and the last one are at the ends
of the span. -/
structure Describes (s : Summary) (records : List Record) : Prop where
  count : s.count = records.length
  ends : ∃ r t, records.head? = some r ∧ records.getLast? = some t ∧
    s.first = some r.timestamp ∧ 1000 * s.seconds = t.instant - r.instant ∧ r.instant ≤ t.instant
  /-- The end of the span is named by the first of the records with the greatest instant. -/
  last : ∃ front r back, records = front ++ r :: back ∧ s.last = some r.timestamp ∧
    (∀ q ∈ front, q.instant < r.instant) ∧ ∀ q ∈ back, q.instant ≤ r.instant
  formats_nodup : (s.formats.map (·.1)).Nodup
  formats_pos : ∀ entry ∈ s.formats, 0 < entry.2
  formats_count : ∀ format, (s.formats.lookup format).getD 0 = records.countP (·.format == format)
  formats_sum : (s.formats.map (·.2)).sum = s.count

/-- Whether two summaries have the same count, span and counts of formats. -/
structure Agrees (s s' : Summary) : Prop where
  count : s.count = s'.count
  seconds : s.seconds = s'.seconds
  formats : ∀ format, s.formats.lookup format = s'.formats.lookup format

theorem count_ofRecords (records : List Record) : (ofRecords records).count = records.length := by
  cases records <;> rfl

/-- The summary of records in the order of their instants. -/
theorem describes_ofRecords {records : List Record} (hSome : records ≠ [])
    (hOrder : records.Pairwise fun r s => r.instant ≤ s.instant) :
    (ofRecords records).Describes records := by
  obtain ⟨r, rest, rfl⟩ := List.exists_cons_of_ne_nil hSome
  obtain ⟨hFirst, -⟩ := List.pairwise_cons.mp hOrder
  have hLeast := isFirstLeast_first r rest
  have hGreatest := isFirstLeast_last r rest
  set first := best (·.instant < ·.instant) r rest
  set last := best (·.instant > ·.instant) r rest
  have hStart : first = r := by
    obtain ⟨front, back, hParts, hFront, -⟩ := hLeast
    cases front with
    | nil => exact (List.cons.inj hParts).1.symm
    | cons q front =>
        obtain ⟨rfl, hRest⟩ := List.cons.inj hParts
        have hLater : first ∈ rest := hRest ▸ List.mem_append_right _ List.mem_cons_self
        exact absurd (hFirst first hLater) (not_le.mpr (hFront r List.mem_cons_self))
  let final := (r :: rest).getLast hSome
  have hEnd : last.instant = final.instant := by
    have hUpper : final.instant ≤ last.instant :=
      neg_le_neg_iff.mp (hGreatest.le (List.getLast_mem hSome))
    exact le_antisymm (le_getLast_of_pairwise hOrder hGreatest.mem) hUpper
  have hSpan : r.instant ≤ final.instant :=
    le_getLast_of_pairwise hOrder List.mem_cons_self
  obtain ⟨front, back, hParts, hFront, hBack⟩ := hGreatest
  exact {
    count := count_ofRecords _
    ends := by
      have hName : (ofRecords (r :: rest)).first = some r.timestamp :=
        congrArg (fun q : Record => some q.timestamp) hStart
      refine ⟨r, final, rfl, List.getLast?_eq_some_getLast hSome, hName, ?_, hSpan⟩
      have hDuration : (ofRecords (r :: rest)).duration = final.instant - r.instant :=
        congrArg₂ (· - ·) hEnd (congrArg Record.instant hStart)
      rw [seconds, hDuration]
      push_cast
      ring
    last := ⟨front, last, back, hParts, rfl, fun q hq => neg_lt_neg_iff.mp (hFront q hq),
      fun q hq => neg_le_neg_iff.mp (hBack q hq)⟩
    formats_nodup := nodup_formatCounts _
    formats_pos := pos_of_mem_formatCounts _
    formats_count := lookup_getD_formatCounts _
    formats_sum := sum_formatCounts _ }

/-- Records in another order have a summary that agrees with theirs. -/
theorem agrees_of_perm {records others : List Record} (h : records.Perm others) :
    (ofRecords records).Agrees (ofRecords others) := by
  have hCount : (ofRecords records).count = (ofRecords others).count := by
    rw [count_ofRecords, count_ofRecords, h.length_eq]
  have hDuration : (ofRecords records).duration = (ofRecords others).duration := by
    match records, others with
    | [], [] => rfl
    | [], _ :: _ => exact absurd h.symm.eq_nil (List.cons_ne_nil _ _)
    | _ :: _, [] => exact absurd h.eq_nil (List.cons_ne_nil _ _)
    | r :: rest, s :: others =>
        have hFirst := (isFirstLeast_first r rest).key_eq_of_perm h (isFirstLeast_first s others)
        have hLast := (isFirstLeast_last r rest).key_eq_of_perm h (isFirstLeast_last s others)
        simp only [ofRecords]
        omega
  refine ⟨hCount, by rw [seconds, seconds, hDuration], fun format => ?_⟩
  rw [formats_ofRecords, formats_ofRecords, lookup_formatCounts, lookup_formatCounts,
    h.countP_eq]

end Summary

/-- The summary of a corpus that was loaded, be it from memory or as written, is that of its records
in their order, and records in another order have the same count, span and counts of formats. -/
theorem load_isSummedUp {ν : Type} [Payload ν] [Text.StandIns] (settings : Settings)
    (sourceName : String) :
    (∀ (document : Document ν) (loaded : Loaded),
      load settings document sourceName = .ok loaded → loaded.corpus.records ≠ [] →
        (Summary.ofRecords loaded.corpus.records).Describes loaded.corpus.records) ∧
    (∀ (text : List Char) (loaded : Loaded),
      loadText settings text sourceName = .ok loaded → loaded.corpus.records ≠ [] →
        (Summary.ofRecords loaded.corpus.records).Describes loaded.corpus.records) ∧
    (∀ (bytes : List Nat) (loaded : Loaded),
      loadBytes settings bytes sourceName = .ok loaded → loaded.corpus.records ≠ [] →
        (Summary.ofRecords loaded.corpus.records).Describes loaded.corpus.records) ∧
    ∀ records others : List Record, records.Perm others →
      (Summary.ofRecords records).Agrees (Summary.ofRecords others) := by
  obtain ⟨hDocument, hText, hBytes⟩ := forall_loaded (ν := ν)
    (P := fun loaded => loaded.corpus.records ≠ [] →
      (Summary.ofRecords loaded.corpus.records).Describes loaded.corpus.records)
    fun document loaded (h : load settings document sourceName = .ok loaded) hSome =>
      Summary.describes_ofRecords hSome (isInOrder_of_load_eq_ok h).pairwise_instant
  exact ⟨hDocument, hText, hBytes, fun _ _ => Summary.agrees_of_perm⟩

/-- A line that is dated. -/
private def datedLine (line timestamp : String) : Json :=
  .object [("message", .string line), ("timestamp", .string timestamp)]

/-- Two late lines around an early one, the late ones at one instant under two names. -/
private def latesTied : Json :=
  .array [datedLine "late" "1970-01-02", datedLine "early" "1970-01-01",
    datedLine "as late" "1970-01-02T00:00:00Z"]

/-- The text of an object with a timestamp. -/
private def dateAlone : String := "\x7b\"date\": \"1970-01-01\"\x7d"

theorem load_isSummedUp_latesTied :
    (∃ loaded, load {} (Document.ofJson latesTied) "" = .ok loaded ∧
      loaded.corpus.records ≠ [] ∧
      (Summary.ofRecords loaded.corpus.records).Describes loaded.corpus.records ∧
      (Summary.ofRecords loaded.corpus.records).Agrees
        (Summary.ofRecords loaded.corpus.records.reverse) ∧
      (Summary.ofRecords loaded.corpus.records).last = some "1970-01-02" ∧
      (Summary.ofRecords loaded.corpus.records.reverse).last = some "1970-01-02T00:00:00Z") ∧
    (∃ loaded, loadText {} dateAlone.toList "" = .ok loaded ∧ loaded.corpus.records ≠ [] ∧
      (Summary.ofRecords loaded.corpus.records).Describes loaded.corpus.records) ∧
    ∃ loaded, loadBytes {} (dateAlone.toList.map Char.toNat) "" = .ok loaded ∧
      loaded.corpus.records ≠ [] ∧
      (Summary.ofRecords loaded.corpus.records).Describes loaded.corpus.records := by
  obtain ⟨hDocument, hText, hBytes, hPerm⟩ := load_isSummedUp (ν := Json) {} ""
  refine ⟨?_, ?_, ?_⟩
  · have hNames : (load {} (Document.ofJson latesTied) "").toOption.map (fun loaded =>
        (loaded.corpus.records.isEmpty, (Summary.ofRecords loaded.corpus.records).last,
          (Summary.ofRecords loaded.corpus.records.reverse).last)) =
        some (false, some "1970-01-02", some "1970-01-02T00:00:00Z") := by
      unfold latesTied datedLine
      cbv
    obtain ⟨loaded, hLoad, hNames⟩ := toOption_map_eq_some hNames
    obtain ⟨hSome, hLast, hReversed⟩ : _ ∧ _ ∧ _ := by simpa only [Prod.mk.injEq] using hNames
    have hSome := List.isEmpty_eq_false_iff.mp hSome
    exact ⟨loaded, hLoad, hSome, hDocument _ loaded hLoad hSome,
      hPerm _ _ (List.reverse_perm _).symm, hLast, hReversed⟩
  · have hSome : (loadText {} dateAlone.toList "").toOption.map
        (fun loaded => loaded.corpus.records.isEmpty) = some false := by
      unfold dateAlone
      cbv
    obtain ⟨loaded, hLoad, hSome⟩ := toOption_map_eq_some hSome
    have hSome := List.isEmpty_eq_false_iff.mp hSome
    exact ⟨loaded, hLoad, hSome, hText _ loaded hLoad hSome⟩
  · have hSome : (loadBytes {} (dateAlone.toList.map Char.toNat) "").toOption.map
        (fun loaded => loaded.corpus.records.isEmpty) = some false := by
      unfold dateAlone
      cbv
    obtain ⟨loaded, hLoad, hSome⟩ := toOption_map_eq_some hSome
    have hSome := List.isEmpty_eq_false_iff.mp hSome
    exact ⟨loaded, hLoad, hSome, hBytes _ loaded hLoad hSome⟩

end LogViewer
