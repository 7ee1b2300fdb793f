import Mathlib
import LogViewer.Proofs.Calendar.Written
import LogViewer.Proofs.Corpus.Entries
import LogViewer.Proofs.Line.Marks
import LogViewer.Proofs.Success

/-! Hits with two timestamps, the one that the line carries and the one beside it. The line has the
first word even where its timestamp names no instant, and then the other one is not looked at. -/
namespace LogViewer

namespace Line

/-- The timestamp that a line carries is a date and a time of the day without a zone. -/
theorem isTime_of_timestamp? {line timestamp : String} (h : timestamp? line = some timestamp) :
    IsTime 'T' timestamp.toList := by
  unfold timestamp? at h
  split at h
  · rename_i time hAnchored
    cases h
    obtain ⟨-, -, -, -, hTime, -⟩ := anchoredTime?_eq_some_iff.mp hAnchored
    rwa [String.toList_ofList]
  · obtain ⟨time, hMarked, rfl⟩ := Option.map_eq_some_iff.mp h
    obtain ⟨-, ⟨-, -, hTime, -⟩, -⟩ := markedTime?_eq_some_iff.mp hMarked
    rw [Function.comp_apply, String.toList_ofList, withLetter_eq_lettered hTime]
    exact hTime.lettered

/-- Such a timestamp never leads out of the calendar. -/
theorem exists_instant?_of_timestamp? {line timestamp : String}
    (h : timestamp? line = some timestamp) :
    ∃ instant?, Timestamp.instant? timestamp = .ok instant? := by
  obtain ⟨rows, hRows, hText⟩ := Timestamp.Rows.exists_rows_of_isTime (isTime_of_timestamp? h)
  refine ⟨rows.instant?, ?_⟩
  rw [← Timestamp.Rows.instant?_text_zoneless hRows, ← hText, String.ofList_toList]

end Line

theorem isDated_eq_true_iff {timestamp : String} :
    isDated (some timestamp) = true ↔
      ∃ instant, Timestamp.instant? timestamp = .ok (some instant) := by
  unfold isDated
  dsimp only
  split
  · rename_i instant hInstant
    exact iff_of_true rfl ⟨instant, hInstant⟩
  · rename_i hNone
    exact iff_of_false (by decide) fun ⟨instant, hInstant⟩ => hNone instant hInstant

/-- An entry whose timestamp names an instant is a record of this instant. -/
theorem Becomes.exists_record {timestamp : String} {instant : Int}
    {result : Except CalendarError (Option Outcome)} (h : Becomes (some (some timestamp)) result)
    (hInstant : Timestamp.instant? timestamp = .ok (some instant)) :
    ∃ r, result = .ok (some (.record r)) ∧ r.timestamp = timestamp ∧ r.instant = instant := by
  cases h with
  | unusable hOwn => cases hOwn.symm.trans hInstant
  | outside hOwn => cases hOwn.symm.trans hInstant
  | record hOwn hSame =>
      exact ⟨_, rfl, hSame, Option.some.inj (Except.ok.inj (hOwn.symm.trans hInstant))⟩

/-- An entry whose timestamp names no instant is counted. -/
theorem Becomes.eq_noTimestamp {timestamp : String}
    {result : Except CalendarError (Option Outcome)} (h : Becomes (some (some timestamp)) result)
    (hInstant : Timestamp.instant? timestamp = .ok none) :
    result = .ok (some .noTimestamp) := by
  cases h with
  | unusable _ => rfl
  | outside hOwn => cases hOwn.symm.trans hInstant
  | record hOwn _ => cases hOwn.symm.trans hInstant

/-- The timestamp by which an entry can be dated: the one that its line carries if it names an
instant, else the one beside the line if that one does. -/
def resolved? (own beside : Option String) : Option String :=
  if isDated own then own else if isDated beside then beside else none

theorem isDated_of_resolved? {own beside : Option String} {timestamp : String}
    (h : resolved? own beside = some timestamp) : isDated (some timestamp) = true := by
  unfold resolved? at h
  split at h
  · rename_i hOwn
    rwa [h] at hOwn
  · split at h
    · rename_i hBeside
      rwa [h] at hBeside
    · cases h

/-- Unless the line has a timestamp that names no instant, what dates an entry is the first
timestamp that is not empty. -/
theorem or_eq_of_resolved? {own beside : Option String} {timestamp : String}
    (h : resolved? own beside = some timestamp)
    (hOwn : ∀ t, own = some t → isDated (some t) = true) :
    own.or (beside.filter (· != "")) = some timestamp := by
  have hDated := isDated_of_resolved? h
  cases own with
  | some t =>
      rw [resolved?, if_pos (hOwn t rfl)] at h
      rw [Option.some_or, h]
  | none =>
      rw [resolved?, if_neg (by decide)] at h
      split at h
      · have hFilled : timestamp ≠ "" := by
          rintro rfl
          exact absurd hDated (by decide +kernel)
        rw [Option.none_or, h, Option.filter_some_pos (by simpa using hFilled)]
      · cases h

variable {ν : Type} [Payload ν]

/-- The timestamp beside the line of a hit. -/
def timestampBeside? (source : ν) : Option String :=
  (Payload.member? source "timestamp").bind (Payload.shape · |>.timestamp?)

section

variable {hit source : ν} {line timestamp : String}

/-- What a hit becomes is told by the first timestamp that is not empty. -/
theorem becomes_of_line (hLine : lineOf? hit = some (source, line))
    (hFirst : (Line.timestamp? line).or ((timestampBeside? source).filter (· != "")) =
      some timestamp) (index : Nat) :
    Becomes (some (some timestamp)) ((outcomeOfHit hit index).map some) := by
  have hDating : datingOfHit? hit = some (some timestamp) := by
    rw [datingOfHit?, hLine, Option.map_some, ← hFirst]
    rfl
  rw [← hDating]
  exact becomes_outcomeOfHit hit index

theorem eq_ok_of_map_some {α ε : Type} {result : Except ε α} {a : α}
    (h : result.map some = .ok (some a)) : result = .ok a := by
  obtain ⟨b, rfl, hSame⟩ := map_eq_ok h
  cases hSame
  rfl

/-- A hit that can be dated becomes a record of the timestamp that dates it, unless its line carries
a timestamp that names no instant. Such a hit is counted instead, whatever stands beside its
line. -/
theorem outcomeOfHit_of_resolved? (hLine : lineOf? hit = some (source, line))
    (hResolved : resolved? (Line.timestamp? line) (timestampBeside? source) = some timestamp)
    (index : Nat) :
    ((∀ own, Line.timestamp? line = some own → isDated (some own) = true) →
      ∃ r, outcomeOfHit hit index = .ok (.record r) ∧ r.timestamp = timestamp ∧
        Timestamp.instant? timestamp = .ok (some r.instant)) ∧
    ((∃ own, Line.timestamp? line = some own ∧ isDated (some own) = false) →
      outcomeOfHit hit index = .ok .noTimestamp) := by
  constructor
  · intro hOwn
    obtain ⟨instant, hInstant⟩ := isDated_eq_true_iff.mp (isDated_of_resolved? hResolved)
    have hFirst := or_eq_of_resolved? hResolved hOwn
    obtain ⟨r, hResult, hSame, rfl⟩ := (becomes_of_line hLine hFirst index).exists_record hInstant
    exact ⟨r, eq_ok_of_map_some hResult, hSame, hInstant⟩
  · rintro ⟨own, hTimestamp, hNot⟩
    have hFirst : (Line.timestamp? line).or ((timestampBeside? source).filter (· != "")) =
        some own := by
      rw [hTimestamp, Option.some_or]
    obtain ⟨instant?, hInstant⟩ := Line.exists_instant?_of_timestamp? hTimestamp
    cases instant? with
    | some instant =>
        rw [isDated_eq_true_iff.mpr ⟨instant, hInstant⟩] at hNot
        cases hNot
    | none => exact eq_ok_of_map_some ((becomes_of_line hLine hFirst index).eq_noTimestamp hInstant)

end

/-- The source of a hit with a line and a timestamp beside it. -/
private def stampedSource (line : String) : Json :=
  .object [("message", .string line), ("timestamp", .string "2025-10-15T07:33:22Z")]

private def stampedHit (line : String) : Json := .object [("_source", stampedSource line)]

theorem outcomeOfHit_of_resolved?_started :
    lineOf? (stampedHit "started") = some (stampedSource "started", "started") ∧
      resolved? (Line.timestamp? "started") (timestampBeside? (stampedSource "started")) =
        some "2025-10-15T07:33:22Z" ∧
      ∃ r, outcomeOfHit (stampedHit "started") 0 = .ok (.record r) ∧
        r.timestamp = "2025-10-15T07:33:22Z" ∧
        Timestamp.instant? "2025-10-15T07:33:22Z" = .ok (some r.instant) := by
  have hLine : lineOf? (stampedHit "started") = some (stampedSource "started", "started") := rfl
  have hResolved : resolved? (Line.timestamp? "started")
      (timestampBeside? (stampedSource "started")) = some "2025-10-15T07:33:22Z" := by
    decide +kernel
  have hNone : Line.timestamp? "started" = none := by decide +kernel
  refine ⟨hLine, hResolved, (outcomeOfHit_of_resolved? hLine hResolved 0).1 ?_⟩
  intro own hOwn
  rw [hNone] at hOwn
  cases hOwn

/-- A line that names a day of no calendar, beside which a timestamp stands. -/
private def misdated : String := "started at 2025-13-45 00:00:00.0"

theorem misdated_hit_is_dropped :
    lineOf? (stampedHit misdated) = some (stampedSource misdated, misdated) ∧
      resolved? (Line.timestamp? misdated) (timestampBeside? (stampedSource misdated)) =
        some "2025-10-15T07:33:22Z" ∧
      ¬∃ r, outcomeOfHit (stampedHit misdated) 0 = .ok (.record r) := by
  refine ⟨rfl, by decide +kernel, ?_⟩
  rintro ⟨r, hRecord⟩
  have hCounted : (outcomeOfHit (stampedHit misdated) 0).toOption.map Outcome.isNoTimestamp =
      some true := by
    decide +kernel
  rw [hRecord] at hCounted
  cases hCounted

end LogViewer
