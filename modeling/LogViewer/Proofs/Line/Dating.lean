import Mathlib
import LogViewer.Proofs.Line.Anchored
import LogViewer.Proofs.Success

/-! What dates an anchored line. The grammar keeps a field for the timestamp, the header, but takes
anything for it that is not empty. A header that is a time with a zone dates the line whatever
follows. Any other one does not, and the line is dated as if it were no anchored one, by the first
time that the word `at` marks in it, which may stand in its data. -/
namespace LogViewer.Line

open Text

/-- The second one of the fields into which bars part a line. -/
def header? (line : List Char) : Option (List Char) := (line.splitOn '|')[1]?

/-- Whether a header is a time with a zone. -/
def IsTimed (header : List Char) : Prop :=
  ∃ time zone, IsTime 'T' time ∧ IsZone zone ∧ header = time ++ zone

theorem header?_append {number header : List Char} (hNumber : IsNumber number)
    (hHeader : '|' ∉ header) (rest : List Char) :
    header? (number ++ ':' :: '|' :: (header ++ '|' :: rest)) = some header := by
  rw [header?, List.append_cons, List.splitOn_append_cons_self, List.splitOn_append_cons_self,
    List.splitOn_eq_singleton hNumber.bar_not_mem_append, List.splitOn_eq_singleton hHeader]
  rfl

variable {line : List Char} {fields : AnchoredFields}

/-- An anchored line has a header, and the time of the line, if it has one, stands there with its
zone. -/
theorem exists_header? (h : anchoredFields? line = some fields) :
    ∃ header, header? line = some header ∧ ∀ time, anchoredTime? line = some time ↔
      IsTime 'T' time ∧ ∃ zone, IsZone zone ∧ header = time ++ zone := by
  obtain ⟨hFields, header, ending, hHeader, -, rfl⟩ :=
    AnchoredFields.anchoredFields?_eq_some_iff.mp h
  rw [AnchoredFields.text_append]
  have hSome := header?_append hFields.lineNumber hHeader.bar_not_mem
  refine ⟨header, hSome _, fun time => ?_⟩
  rw [anchoredTime?_eq_some_iff]
  constructor
  · rintro ⟨number, zone, rest, hNumber, hTime, hZone, hLine⟩
    have hOther := header?_append hNumber (hTime.bar_not_mem_append hZone) rest
    rw [List.append_assoc, ← hLine, hSome, Option.some_inj] at hOther
    exact ⟨hTime, zone, hZone, hOther⟩
  · rintro ⟨hTime, zone, hZone, rfl⟩
    exact ⟨_, zone, _, hFields.lineNumber, hTime, hZone, by rw [List.append_assoc]⟩

/-- What the record of a line is made of. -/
theorem exists_of_record? {line : String} {fallback : Option String} {r : Record}
    (h : record? line fallback = .ok (some r)) :
    ∃ timestamp format attributes instant,
      (timestamp? line).or (fallback.filter (· != "")) = some timestamp ∧
      structure? line = some (format, attributes) ∧
      Timestamp.instant? timestamp = .ok (some instant) ∧
      r = { timestamp, format, instant, attributes, rawMessage := some line } := by
  unfold record? at h
  split at h
  · cases h
  · rename_i timestamp hTimestamp
    split at h
    · cases h
    · rename_i format attributes hStructure
      obtain ⟨instant?, hInstant, h⟩ := bind_eq_ok h
      cases instant? with
      | none => cases h
      | some instant =>
          cases h
          exact ⟨timestamp, format, attributes, instant, hTimestamp, hStructure, hInstant, rfl⟩

theorem exists_anchoredFields?_of_structure? {line : String} {format : LineFormat}
    {attributes : Attribute → Option String} (h : structure? line = some (format, attributes))
    (hFormat : format = .anchored) : ∃ fields, anchoredFields? line.toList = some fields := by
  subst hFormat
  unfold structure? at h
  split at h
  · rename_i fields hFields
    exact ⟨fields, hFields⟩
  · obtain ⟨_, -, hOther⟩ := Option.map_eq_some_iff.mp h
    cases hOther

/-- The record of an anchored line is dated by its header if this is a time with a zone, and else by
the first marked time of the line. -/
theorem exists_header?_dates {line : String} {r : Record} (h : record? line none = .ok (some r))
    (hFormat : r.format = .anchored) :
    ∃ header, header? line.toList = some header ∧
      ((∃ time zone, IsTime 'T' time ∧ IsZone zone ∧ header = time ++ zone ∧
          r.timestamp = String.ofList time) ∨
        ¬IsTimed header ∧ ∃ time, IsFirstMarked line.toList time ∧
          r.timestamp = String.ofList (withLetter time)) := by
  obtain ⟨timestamp, format, attributes, instant, hTimestamp, hStructure, -, rfl⟩ :=
    exists_of_record? h
  obtain ⟨fields, hFields⟩ := exists_anchoredFields?_of_structure? hStructure hFormat
  obtain ⟨header, hHeader, hTime⟩ := exists_header? hFields
  refine ⟨header, hHeader, ?_⟩
  rw [Option.filter_none, Option.or_none, timestamp?] at hTimestamp
  cases hAnchored : anchoredTime? line.toList with
  | some time =>
      left
      rw [hAnchored, Option.some_inj] at hTimestamp
      obtain ⟨hIsTime, zone, hZone, hSplit⟩ := (hTime time).mp hAnchored
      exact ⟨time, zone, hIsTime, hZone, hSplit, hTimestamp.symm⟩
  | none =>
      right
      rw [hAnchored] at hTimestamp
      obtain ⟨time, hMarked, rfl⟩ := Option.map_eq_some_iff.mp hTimestamp
      refine ⟨?_, time, markedTime?_eq_some_iff.mp hMarked, rfl⟩
      rintro ⟨other, zone, hIsTime, hZone, hSplit⟩
      have hOther := (hTime other).mpr ⟨hIsTime, zone, hZone, hSplit⟩
      rw [hAnchored] at hOther
      cases hOther

/-- The timestamp of the record of an anchored line is from the front of the header exactly if the
header is a time with a zone, or happens to begin with the first marked time of the line. -/
theorem timestamp_isPrefix_header_iff {line : String} {r : Record}
    (h : record? line none = .ok (some r)) (hFormat : r.format = .anchored) :
    ∃ header, header? line.toList = some header ∧
      (r.timestamp.toList <+: header ↔
        IsTimed header ∨ ∃ time, IsFirstMarked line.toList time ∧ withLetter time <+: header) := by
  obtain ⟨header, hHeader, hDates⟩ := exists_header?_dates h hFormat
  refine ⟨header, hHeader, ?_⟩
  rcases hDates with ⟨time, zone, hTime, hZone, rfl, hTimestamp⟩ | ⟨hNot, time, hFirst, hTimestamp⟩
  · rw [hTimestamp, String.toList_ofList]
    exact iff_of_true (List.prefix_append _ _) (Or.inl ⟨time, zone, hTime, hZone, rfl⟩)
  · rw [hTimestamp, String.toList_ofList]
    constructor
    · intro hPrefix
      exact Or.inr ⟨time, hFirst, hPrefix⟩
    · rintro (hTimed | ⟨other, hOther, hPrefix⟩)
      · exact absurd hTimed hNot
      · rwa [hFirst.unique hOther]

/-- A line whose header is a time with a zone and whose data hold the mark of another time. -/
private def timedLine : String :=
  "7:|2025-10-15T07:33:22.6+02:00|dev|id|pay|||web|INFO|EVENT|note:at 2020-01-01 00:00:00.0"

theorem timestamp_isPrefix_header_iff_timedLine :
    ∃ r header, record? timedLine none = .ok (some r) ∧ r.format = .anchored ∧
      header? timedLine.toList = some header ∧ IsTimed header ∧ r.timestamp.toList <+: header := by
  have hRead : (record? timedLine none).toOption.map (Option.map (·.format)) =
      some (some .anchored) := by decide +kernel
  have hHeader : header? timedLine.toList = some "2025-10-15T07:33:22.6+02:00".toList := by
    decide +kernel
  have hTimed : IsTimed "2025-10-15T07:33:22.6+02:00".toList := by
    refine ⟨"2025-10-15T07:33:22.6".toList, "+02:00".toList, ?_, ?_, rfl⟩
    · exact ⟨_, [], by decide +kernel, by simp, (List.append_nil _).symm⟩
    · exact ⟨'+', "02:00".toList, Or.inl rfl, by decide +kernel, rfl⟩
  obtain ⟨_, h, hSome⟩ := toOption_map_eq_some hRead
  obtain ⟨r, rfl, hFormat⟩ := Option.map_eq_some_iff.mp hSome
  obtain ⟨header, hOwn, hIff⟩ := timestamp_isPrefix_header_iff h hFormat
  obtain rfl := Option.some_inj.mp (hHeader.symm.trans hOwn)
  exact ⟨r, _, h, hFormat, hHeader, hTimed, hIff.mpr (Or.inl hTimed)⟩

/-- A line whose header has no fraction of the second. -/
private def wholeSecondLine : String :=
  "7:|2025-10-15T07:33:22+02:00|dev|id|pay|||web|INFO|EVENT|note:at 2020-01-01 00:00:00.0"

/-- A header that does not have the form of a time with a zone leaves the dating of an anchored line
to its data. -/
theorem data_dates_anchored_line :
    ∃ r header, record? wholeSecondLine none = .ok (some r) ∧ r.format = .anchored ∧
      r.timestamp = "2020-01-01T00:00:00.0" ∧
      header? wholeSecondLine.toList = some header ∧ header = "2025-10-15T07:33:22+02:00".toList ∧
      ¬r.timestamp.toList <+: header := by
  have hRead : (record? wholeSecondLine none).toOption.map
      (Option.map fun r => (r.format, r.timestamp)) =
      some (some (.anchored, "2020-01-01T00:00:00.0")) := by decide +kernel
  obtain ⟨_, h, hSome⟩ := toOption_map_eq_some hRead
  obtain ⟨r, rfl, hParts⟩ := Option.map_eq_some_iff.mp hSome
  obtain ⟨hFormat, hTimestamp⟩ := Prod.mk.inj hParts
  refine ⟨r, _, h, hFormat, hTimestamp, by decide +kernel, rfl, ?_⟩
  rw [hTimestamp]
  decide +kernel

end LogViewer.Line
