import Mathlib
import LogViewer.Line.Record
import LogViewer.Proofs.Line.Marks
import LogViewer.Proofs.Success
import LogViewer.Proofs.Text.Joined

/-! Spaced lines in writing: ten fields, the data and behind the word `at` the time, which is meant
to date the line. The fields are read back whatever the data are. The time at the end dates the line
only if no other one is marked before it in the data, and it is kept out of the data only if there
are any: the time is looked for from the front, its mark from the end but not at the very front. -/
namespace LogViewer.Line

open Text

/-- The attributes of the ten fields, in the order of a line. -/
def fieldAttributes : List Attribute :=
  [.lineNumber, .requestId, .traceId, .spanId, .url, .podName, .service, .level, .type, .tag]

/-- A spaced line: its ten fields, its data, and the time at its end. -/
structure SpacedLine where
  fields : List (List Char)
  data : List Char
  time : List Char
  length_fields : fields.length = 10
  bar_not_mem : ∀ field ∈ fields, '|' ∉ field
  unmarked : ∀ field ∈ fields, ¬HoldsMark field
  isTrimmed : trim data = data
  isTime : IsTime ' ' time

theorem join_spacedBar_cons (field : List Char) (fields : List (List Char)) (last : List Char) :
    join spacedBar (field :: fields ++ [last]) =
      field ++ ' ' :: '|' :: ' ' :: join spacedBar (fields ++ [last]) := by
  rw [List.cons_append, join_cons _ _ (by simp)]
  simp [spacedBar]

/-- A line whose first bar stands behind a blank is no anchored one. -/
theorem afterNumber?_eq_none {field : List Char} (h : '|' ∉ field) (rest : List Char) :
    afterNumber? (field ++ ' ' :: '|' :: rest) = none := by
  rw [Option.eq_none_iff_forall_ne_some]
  intro other hOther
  obtain ⟨hNumber, hLine⟩ := afterNumber?_eq_some_iff.mp hOther
  generalize (field ++ ' ' :: '|' :: rest).takeWhile isDigit = number at hNumber hLine
  have hField : '|' ∉ field ++ [' '] := by simpa using h
  have hSpan : (field ++ ' ' :: '|' :: rest).span (· != '|') = (field ++ [' '], '|' :: rest) :=
    span_ne_eq_iff.mpr ⟨List.append_cons field ' ' _, hField, by simp⟩
  have hOwn : (number ++ ':' :: '|' :: other).span (· != '|') = (number ++ [':'], '|' :: other) :=
    span_ne_eq_iff.mpr ⟨List.append_cons number ':' _, hNumber.bar_not_mem_append, by simp⟩
  rw [hLine, hOwn, Prod.mk.injEq] at hSpan
  cases List.append_inj_right' hSpan.1 rfl

/-- A line that is cut into ten fields and more has these fields, and the rest makes its data. -/
theorem exists_spacedAttributes? {line : List Char} {fields rest : List (List Char)}
    (h : splitAtEach ' ' ['|', ' '] line = fields ++ rest) (hLength : fields.length = 10) :
    ∃ attributes, spacedAttributes? line = some attributes ∧
      fieldAttributes.map attributes = fields.map (some ∘ String.ofList) ∧
      attributes .data = some (String.ofList (dataBeforeTime (join spacedBar rest))) ∧
      ∀ a ∉ fieldAttributes ++ [.data], attributes a = none := by
  match fields, hLength with
  | [_, _, _, _, _, _, _, _, _, _], _ =>
      unfold spacedAttributes?
      rw [h]
      refine ⟨_, rfl, rfl, rfl, ?_⟩
      intro a ha
      cases a <;> first | exact absurd ha (by decide) | rfl

/-- Fields without a marked time leave the first one to what follows them. -/
theorem markedTime?_join {fields : List (List Char)} (h : ∀ field ∈ fields, ¬HoldsMark field)
    (last : List Char) : markedTime? (join spacedBar (fields ++ [last])) = markedTime? last := by
  induction fields with
  | nil => rfl
  | cons field fields ih =>
      obtain ⟨hField, hFields⟩ := List.forall_mem_cons.mp h
      rw [join_spacedBar_cons, markedTime?_append partsMarks_bar,
        markedTime?_eq_none_iff.mpr hField, Option.none_or,
        markedTime?_cons_of_ne (by decide), markedTime?_cons_of_ne (by decide), ih hFields]

theorem markedTime?_at {time : List Char} (h : IsTime ' ' time) :
    markedTime? ("at ".toList ++ time) = some time := by
  apply markedTime?_of_beginsMarked
  exact ⟨[], by simp, h, by simp⟩

/-- A time holds no word `at`, so the mark in front of it is the last one. -/
theorem dataBeforeTime_append {time : List Char} (h : IsTime ' ' time) (data : List Char) :
    dataBeforeTime (data ++ " at ".toList ++ time) =
      if data = [] then " at ".toList ++ time else trim data := by
  have hLast : lastOccurrence? " at ".toList (data ++ " at ".toList ++ time) = some data.length := by
    have hLetter : 'a' ∉ "t ".toList ++ time := partsMarks_letter.not_mem_append h
    have hNone : ¬" at ".toList <:+: "at ".toList ++ time := by
      change ¬" at ".toList <:+: 'a' :: ("t ".toList ++ time)
      rw [List.infix_cons_iff, not_or]
      constructor
      · rintro ⟨rest, hRest⟩
        cases (List.cons.inj hRest).1
      · intro hInfix
        exact hLetter (hInfix.subset (by decide))
    rw [List.append_assoc]
    exact lastOccurrence?_append ⟨time, rfl⟩ hNone data
  rw [dataBeforeTime, hLast]
  cases data with
  | nil => rfl
  | cons c data => simp

namespace SpacedLine

variable (line : SpacedLine)

/-- What follows the fields. -/
def remainder : List Char := line.data ++ " at ".toList ++ line.time

def text : String := String.ofList (join spacedBar (line.fields ++ [line.remainder]))

theorem toList_text : line.text.toList = join spacedBar (line.fields ++ [line.remainder]) :=
  String.toList_ofList

theorem afterNumber?_text : afterNumber? line.text.toList = none := by
  rw [toList_text]
  cases hFields : line.fields with
  | nil =>
      have hLength := line.length_fields
      simp [hFields] at hLength
  | cons field fields =>
      rw [join_spacedBar_cons]
      apply afterNumber?_eq_none
      exact line.bar_not_mem field (by simp [hFields])

/-- The time that dates a line: the first one that its data mark, else the one at its end. -/
def datingTime : List Char := (markedTime? line.data).getD line.time

theorem isTime_datingTime : IsTime ' ' line.datingTime := by
  unfold datingTime
  cases hMarked : markedTime? line.data with
  | none => exact line.isTime
  | some time =>
      obtain ⟨n, ⟨rest, -, hTime, -⟩, -⟩ := markedTime?_eq_some_iff.mp hMarked
      exact hTime

theorem timestamp?_text :
    timestamp? line.text = some (String.ofList (lettered line.datingTime)) := by
  have hAnchored : anchoredTime? line.text.toList = none := by
    rw [anchoredTime?, line.afterNumber?_text]
    rfl
  have hMarked : markedTime? line.text.toList = some line.datingTime := by
    rw [toList_text, markedTime?_join line.unmarked, remainder, List.append_assoc]
    change markedTime? (line.data ++ ' ' :: 'a' :: ("t ".toList ++ line.time)) = _
    rw [markedTime?_append partsMarks_letter]
    change (markedTime? line.data).or (markedTime? ("at ".toList ++ line.time)) = _
    rw [markedTime?_at line.isTime, datingTime]
    cases markedTime? line.data <;> rfl
  rw [timestamp?, hAnchored, hMarked, Option.map_some, Function.comp_apply,
    withLetter_eq_lettered line.isTime_datingTime]

/-- Whether attributes are those of a line: its fields and its data, to which the mark of the time
belongs if there are none. -/
structure Holds (attributes : Attribute → Option String) : Prop where
  fields_eq : fieldAttributes.map attributes = line.fields.map (some ∘ String.ofList)
  data_eq : attributes .data = some (String.ofList
    (if line.data = [] then " at ".toList ++ line.time else line.data))
  others : ∀ a ∉ fieldAttributes ++ [.data], attributes a = none

theorem exists_structure?_text :
    ∃ attributes, structure? line.text = some (.spaced, attributes) ∧ line.Holds attributes := by
  have hAnchored : anchoredFields? line.text.toList = none := by
    rw [anchoredFields?, line.afterNumber?_text]
    rfl
  have hPieces : splitAtEach ' ' ['|', ' '] line.text.toList =
      line.fields ++ splitAtEach ' ' ['|', ' '] line.remainder := by
    rw [toList_text]
    exact splitAtEach_join (by decide) line.bar_not_mem line.remainder
  obtain ⟨attributes, hAttributes, hFields, hData, hOthers⟩ :=
    exists_spacedAttributes? hPieces line.length_fields
  refine ⟨attributes, ?_, hFields, ?_, hOthers⟩
  · rw [structure?, hAnchored, hAttributes]
    rfl
  · rw [hData, spacedBar, join_splitAtEach, remainder, dataBeforeTime_append line.isTime,
      line.isTrimmed]

/-- The record of a line with some attributes, dated at some instant. -/
def recordAt (attributes : Attribute → Option String) (instant : Int) : Record where
  timestamp := String.ofList (lettered line.datingTime)
  format := .spaced
  instant
  attributes
  rawMessage := some line.text

/-- A spaced line is read as a record if the time that dates it names an instant. -/
theorem exists_record?_text (fallback : Option String) :
    ∃ attributes, line.Holds attributes ∧ record? line.text fallback =
      (Timestamp.instant? (String.ofList (lettered line.datingTime))).map
        (Option.map (line.recordAt attributes)) := by
  obtain ⟨attributes, hStructure, hHolds⟩ := line.exists_structure?_text
  refine ⟨attributes, hHolds, ?_⟩
  rw [record?, line.timestamp?_text, hStructure, Option.some_or]
  dsimp only
  cases Timestamp.instant? (String.ofList (lettered line.datingTime)) with
  | error e => rfl
  | ok instant? => cases instant? <;> rfl

/-- Whether a record has what a line says, and no attributes beside. -/
structure IsReadAs (r : Record) : Prop where
  format_eq : r.format = .spaced
  timestamp_eq : r.timestamp = String.ofList (lettered line.time)
  instant_eq : Timestamp.instant? (String.ofList (lettered line.time)) = .ok (some r.instant)
  rawMessage_eq : r.rawMessage = some line.text
  fields_eq : fieldAttributes.map r.attributes = line.fields.map (some ∘ String.ofList)
  data_eq : r.attributes .data = some (String.ofList line.data)
  others : ∀ a ∉ fieldAttributes ++ [.data], r.attributes a = none

/-- A line with data in which no time is marked is read as the record of its fields, its data and
its time, also where the data hold separators or the word `at`. -/
theorem exists_record?_of_unmarked (hData : line.data ≠ []) (hUnmarked : ¬HoldsMark line.data)
    (h : ∃ instant, Timestamp.instant? (String.ofList (lettered line.time)) = .ok (some instant))
    (fallback : Option String) :
    ∃ r, record? line.text fallback = .ok (some r) ∧ line.IsReadAs r := by
  obtain ⟨instant, hInstant⟩ := h
  have hDating : line.datingTime = line.time := by
    rw [datingTime, markedTime?_eq_none_iff.mpr hUnmarked, Option.getD_none]
  obtain ⟨attributes, hHolds, hRecord⟩ := line.exists_record?_text fallback
  rw [hDating, hInstant] at hRecord
  have hText := hHolds.data_eq
  rw [if_neg hData] at hText
  refine ⟨line.recordAt attributes instant, hRecord, rfl, ?_, hInstant, rfl, hHolds.fields_eq, hText,
    hHolds.others⟩
  rw [recordAt, hDating]

private def plainFields : List (List Char) :=
  ["7", "", " ", "at", "/a:b", "pod 1", "svc", "INFO", "EVENT", "tag at "].map String.toList

private def endTime : List Char := "2025-10-15 07:33:22.667".toList

/-- A line of plain fields and some data, which ends with a time. -/
private def lineOf (data : List Char) (isTrimmed : trim data = data) : SpacedLine where
  fields := plainFields
  data
  time := endTime
  length_fields := rfl
  bar_not_mem := by decide
  unmarked := by
    have hNone : ∀ field ∈ plainFields, markedTime? field = none := by decide +kernel
    exact fun field hField => markedTime?_eq_none_iff.mp (hNone field hField)
  isTrimmed
  isTime := ⟨"2025-10-15 07:33:22.6".toList, "67".toList, by decide +kernel,
    List.all_eq_true.mp (by decide), rfl⟩

private theorem instant?_endTime :
    Timestamp.instant? (String.ofList (lettered endTime)) = .ok (some 1760513602667) := by
  decide +kernel

/-- Data that hold separators, bars at their ends and the word `at`. -/
private def barred : SpacedLine := lineOf "| a at b | at c |".toList (by decide)

theorem exists_record?_of_unmarked_barred :
    barred.text = "7 |  |   | at | /a:b | pod 1 | svc | INFO | EVENT | tag at  | " ++
        "| a at b | at c | at 2025-10-15 07:33:22.667" ∧
      barred.data ≠ [] ∧ ¬HoldsMark barred.data ∧
      Timestamp.instant? (String.ofList (lettered barred.time)) = .ok (some 1760513602667) ∧
      ∃ r, record? barred.text none = .ok (some r) ∧ barred.IsReadAs r := by
  have hNil : barred.data ≠ [] := by decide
  have hNone : ¬HoldsMark barred.data := markedTime?_eq_none_iff.mp (by decide +kernel)
  exact ⟨rfl, hNil, hNone, instant?_endTime,
    barred.exists_record?_of_unmarked hNil hNone ⟨_, instant?_endTime⟩ none⟩

/-- The time at the end of a line dates it, and no more than this time is kept out of the data,
exactly if there are data and the first time that they mark, if any, is the same one. -/
theorem reads_last_mark_iff
    (h : ∃ instant, Timestamp.instant? (String.ofList (lettered line.time)) = .ok (some instant))
    (fallback : Option String) :
    (∃ r, record? line.text fallback = .ok (some r) ∧
        r.timestamp = String.ofList (lettered line.time) ∧
        r.attributes .data = some (String.ofList line.data)) ↔
      line.data ≠ [] ∧ ∀ time, IsFirstMarked line.data time → time = line.time := by
  obtain ⟨instant, hInstant⟩ := h
  obtain ⟨attributes, hHolds, hRecord⟩ := line.exists_record?_text fallback
  have hText := hHolds.data_eq
  constructor
  · rintro ⟨r, hOwn, hTimestamp, hData⟩
    rw [hRecord] at hOwn
    obtain ⟨instant?, -, hSome⟩ := map_eq_ok hOwn
    obtain ⟨own, -, rfl⟩ := Option.map_eq_some_iff.mp hSome.symm
    have hSame : line.datingTime = line.time :=
      eq_of_lettered_eq line.isTime_datingTime line.isTime (String.ofList_injective hTimestamp)
    constructor
    · intro hNil
      have hTexts : String.ofList (" at ".toList ++ line.time) = String.ofList line.data := by
        rw [if_pos hNil] at hText
        exact Option.some_inj.mp (hText.symm.trans hData)
      rw [hNil] at hTexts
      cases String.ofList_injective hTexts
    · intro time hFirst
      rw [datingTime, markedTime?_eq_some_iff.mpr hFirst, Option.getD_some] at hSame
      exact hSame
  · rintro ⟨hNil, hFirst⟩
    have hDating : line.datingTime = line.time := by
      rw [datingTime]
      cases hMarked : markedTime? line.data with
      | none => rfl
      | some time => exact hFirst time (markedTime?_eq_some_iff.mp hMarked)
    rw [hDating, hInstant] at hRecord
    rw [if_neg hNil] at hText
    refine ⟨line.recordAt attributes instant, hRecord, ?_, hText⟩
    rw [recordAt, hDating]

/-- Data in which the time at the end is marked before. -/
private def repeated : SpacedLine :=
  lineOf "seen at 2025-10-15 07:33:22.667 | again".toList (by decide)

theorem reads_last_mark_iff_repeated :
    Timestamp.instant? (String.ofList (lettered repeated.time)) = .ok (some 1760513602667) ∧
      repeated.data ≠ [] ∧ (∀ time, IsFirstMarked repeated.data time → time = repeated.time) ∧
      ∃ r, record? repeated.text none = .ok (some r) ∧
        r.timestamp = String.ofList (lettered repeated.time) ∧
        r.attributes .data = some (String.ofList repeated.data) := by
  have hNil : repeated.data ≠ [] := by decide
  have hMarked : markedTime? repeated.data = some repeated.time := by decide +kernel
  have hFirst : ∀ time, IsFirstMarked repeated.data time → time = repeated.time := by
    intro time h
    exact h.unique (markedTime?_eq_some_iff.mp hMarked)
  exact ⟨instant?_endTime, hNil, hFirst,
    (repeated.reads_last_mark_iff ⟨_, instant?_endTime⟩ none).mpr ⟨hNil, hFirst⟩⟩

/-- Data that quote another time. -/
private def quoting : SpacedLine := lineOf "seen at 2020-01-01 00:00:00.0 once".toList (by decide)

private def dataless : SpacedLine := lineOf [] rfl

/-- Data that quote a time date the line by this time, and a line without data keeps the mark of its
time as data. -/
theorem last_mark_not_read :
    (∃ r, record? quoting.text none = .ok (some r) ∧ r.timestamp = "2020-01-01T00:00:00.0" ∧
        r.timestamp ≠ String.ofList (lettered quoting.time)) ∧
      ∃ r, record? dataless.text none = .ok (some r) ∧
        r.attributes .data = some " at 2025-10-15 07:33:22.667" ∧
        r.attributes .data ≠ some (String.ofList dataless.data) := by
  constructor
  · have hRead : (record? quoting.text none).toOption.map (Option.map (·.timestamp)) =
        some (some "2020-01-01T00:00:00.0") := by decide +kernel
    obtain ⟨_, h, hSome⟩ := toOption_map_eq_some hRead
    obtain ⟨r, rfl, hTimestamp⟩ := Option.map_eq_some_iff.mp hSome
    refine ⟨r, h, hTimestamp, ?_⟩
    rw [hTimestamp]
    decide +kernel
  · have hRead : (record? dataless.text none).toOption.map (Option.map (·.attributes .data)) =
        some (some (some " at 2025-10-15 07:33:22.667")) := by decide +kernel
    obtain ⟨_, h, hSome⟩ := toOption_map_eq_some hRead
    obtain ⟨r, rfl, hData⟩ := Option.map_eq_some_iff.mp hSome
    refine ⟨r, h, hData, ?_⟩
    rw [hData]
    decide +kernel

end SpacedLine

end LogViewer.Line
