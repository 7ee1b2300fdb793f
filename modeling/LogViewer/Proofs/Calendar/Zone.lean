import Mathlib
import LogViewer.Calendar.Timestamp

/-! Timestamps whose zone leads out of the calendar, the only ones that can stop a reading. -/
namespace LogViewer.Timestamp

open Text

/-- A day and a time of a timestamp, both as they stand there, and the minutes by which its zone is
ahead of universal time. -/
structure Names (timestamp : String) (date : Date) (time : TimeOfDay) (ahead : Int) : Prop where
  parts : ∃ parts, parts? (trim timestamp.toList) = some parts ∧
    Date.ofParts? parts.year parts.month parts.day = some date ∧
    parts.time = time ∧ parts.ahead = ahead
  isValid : time.isValid = true

/-- Whether the moment that a timestamp names is outside the calendar in universal time. -/
def LeavesCalendar (timestamp : String) : Prop :=
  ∃ date time ahead, Names timestamp date time ahead ∧
    inCalendar (instantOf date time - ahead * 60000) = false

theorem instant?_of_names {timestamp : String} {date : Date} {time : TimeOfDay} {ahead : Int}
    (h : Names timestamp date time ahead) :
    instant? timestamp =
      if inCalendar (instantOf date time - ahead * 60000) then
        .ok (some (instantOf date time - ahead * 60000))
      else .error .outOfRange := by
  obtain ⟨⟨parts, hParts, hDate, rfl, rfl⟩, hValid⟩ := h
  unfold instant?
  simp only [hParts, hDate, hValid, if_true, earlier]
  split <;> rfl

theorem instant?_of_not_names {timestamp : String}
    (h : ∀ date time ahead, ¬Names timestamp date time ahead) :
    instant? timestamp = .ok none := by
  unfold instant?
  split
  · rfl
  · rename_i parts hParts
    split
    · rfl
    · rename_i date hDate
      split
      · rename_i hValid
        exact absurd ⟨⟨parts, hParts, hDate, rfl, rfl⟩, hValid⟩ (h date parts.time parts.ahead)
      · rfl

/-- The instant of a timestamp cannot be asked for exactly if its zone leads out of the calendar. -/
theorem instant?_eq_error_iff {timestamp : String} :
    instant? timestamp = .error .outOfRange ↔ LeavesCalendar timestamp := by
  constructor
  · intro h
    by_cases hNames : ∃ date time ahead, Names timestamp date time ahead
    · obtain ⟨date, time, ahead, hNames⟩ := hNames
      refine ⟨date, time, ahead, hNames, ?_⟩
      rw [instant?_of_names hNames] at h
      split at h
      · cases h
      · rename_i hOutside
        simpa using hOutside
    · rw [instant?_of_not_names fun date time ahead hNone => hNames ⟨date, time, ahead, hNone⟩] at h
      cases h
  · rintro ⟨date, time, ahead, hNames, hOutside⟩
    rw [instant?_of_names hNames, hOutside]
    rfl

theorem milliseconds_lt {time : TimeOfDay} (h : time.isValid = true) :
    time.milliseconds < dayLength := by
  simp only [TimeOfDay.isValid, Bool.and_eq_true, decide_eq_true_eq] at h
  unfold TimeOfDay.milliseconds dayLength
  omega

end LogViewer.Timestamp
