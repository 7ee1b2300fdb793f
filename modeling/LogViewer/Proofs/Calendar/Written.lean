import Mathlib
import LogViewer.Proofs.Calendar.Days
import LogViewer.Proofs.Calendar.Zone
import LogViewer.Proofs.Line.Times
import LogViewer.Proofs.Text.Digit
import LogViewer.Proofs.Text.Words

/-! Timestamps in full: a date, a time of the day to a fraction of the second, and a zone on demand.
Such a timestamp is read as its rows of digits denote, and it stays in the calendar unless its zone
leads out of it. -/
namespace LogViewer.Timestamp

open Text Line

/-- Whether a text is a row of so many digits. -/
structure IsRow (n : Nat) (row : List Char) : Prop where
  length_eq : row.length = n
  isDigit : ∀ c ∈ row, isDigit c = true

theorem hasShape_row_iff {n : Nat} {p : Char} (hp : p ≠ 'd') {shape s : List Char} :
    HasShape (List.replicate n 'd' ++ p :: shape) s ↔
      ∃ row rest, IsRow n row ∧ HasShape shape rest ∧ s = row ++ p :: rest := by
  have hFits (c : Char) : fits p c = true ↔ p = c := by simp [fits, hp]
  rw [hasShape_append_iff]
  constructor
  · rintro ⟨row, back, hRow, hBack, rfl⟩
    obtain ⟨hLength, hDigit⟩ := hasShape_replicate_iff.mp hRow
    obtain ⟨c, rest, hc, hRest, rfl⟩ := List.forall₂_cons_left_iff.mp hBack
    obtain rfl := (hFits c).mp hc
    exact ⟨row, rest, ⟨hLength, hDigit⟩, hRest, rfl⟩
  · rintro ⟨row, rest, hRow, hRest, rfl⟩
    exact ⟨row, p :: rest, hasShape_replicate_iff.mpr ⟨hRow.length_eq, hRow.isDigit⟩,
      List.Forall₂.cons ((hFits p).mpr rfl) hRest, rfl⟩

theorem digits?_append {n : Nat} {row : List Char} (h : IsRow n row) (rest : List Char) :
    digits? n (row ++ rest) = some (numberOf row, rest) := by
  obtain ⟨rfl, hDigit⟩ := h
  unfold digits?
  rw [List.take_left, List.drop_left]
  exact if_pos ⟨rfl, List.all_eq_true.mpr hDigit⟩

theorem after?_cons_self (c : Char) (s : List Char) : after? c (c :: s) = some s := if_pos rfl

/-- The rows of digits of a timestamp. -/
structure Rows where
  year : List Char
  month : List Char
  day : List Char
  hour : List Char
  minute : List Char
  second : List Char
  fraction : List Char

namespace Rows

structure AreDigits (rows : Rows) : Prop where
  year : IsRow 4 rows.year
  month : IsRow 2 rows.month
  day : IsRow 2 rows.day
  hour : IsRow 2 rows.hour
  minute : IsRow 2 rows.minute
  second : IsRow 2 rows.second
  fraction_ne_nil : rows.fraction ≠ []
  fraction : ∀ c ∈ rows.fraction, isDigit c = true

def text (rows : Rows) : List Char :=
  rows.year ++ '-' :: (rows.month ++ '-' :: (rows.day ++ 'T' :: (rows.hour ++ ':' ::
    (rows.minute ++ ':' :: (rows.second ++ '.' :: rows.fraction)))))

/-- The time of the day that the rows denote. -/
def time (rows : Rows) : TimeOfDay where
  hour := numberOf rows.hour
  minute := numberOf rows.minute
  second := numberOf rows.second
  millisecond := millisecondsOf rows.fraction

/-- The day that the rows denote. -/
def date? (rows : Rows) : Option Date :=
  Date.ofParts? (numberOf rows.year) (numberOf rows.month) (numberOf rows.day)

/-- The rows with further digits behind those of the fraction. -/
def extended (rows : Rows) (digits : List Char) : Rows :=
  { rows with fraction := rows.fraction ++ digits }

variable {rows : Rows}

theorem text_extended (rows : Rows) (digits : List Char) :
    (rows.extended digits).text = rows.text ++ digits := by
  simp [extended, text]

theorem AreDigits.extended (h : rows.AreDigits) {digits : List Char}
    (hDigits : ∀ c ∈ digits, isDigit c = true) : (rows.extended digits).AreDigits where
  year := h.year
  month := h.month
  day := h.day
  hour := h.hour
  minute := h.minute
  second := h.second
  fraction_ne_nil := by simp [Rows.extended, h.fraction_ne_nil]
  fraction := by
    intro c hc
    exact (List.mem_append.mp hc).elim (h.fraction c) (hDigits c)

theorem exists_rows {n : Nat} {s : List Char} (hn : 0 < n)
    (h : HasShape ("dddd-dd-ddTdd:dd:dd.".toList ++ List.replicate n 'd') s) :
    ∃ rows : Rows, rows.AreDigits ∧ IsRow n rows.fraction ∧ s = rows.text := by
  have hShape : "dddd-dd-ddTdd:dd:dd.".toList ++ List.replicate n 'd' =
      List.replicate 4 'd' ++ '-' :: (List.replicate 2 'd' ++ '-' :: (List.replicate 2 'd' ++ 'T' ::
        (List.replicate 2 'd' ++ ':' :: (List.replicate 2 'd' ++ ':' ::
          (List.replicate 2 'd' ++ '.' :: List.replicate n 'd'))))) := rfl
  rw [hShape, hasShape_row_iff (by decide)] at h
  obtain ⟨year, _, hYear, hAfterYear, rfl⟩ := h
  obtain ⟨month, _, hMonth, hAfterMonth, rfl⟩ := (hasShape_row_iff (by decide)).mp hAfterYear
  obtain ⟨day, _, hDay, hAfterDay, rfl⟩ := (hasShape_row_iff (by decide)).mp hAfterMonth
  obtain ⟨hour, _, hHour, hAfterHour, rfl⟩ := (hasShape_row_iff (by decide)).mp hAfterDay
  obtain ⟨minute, _, hMinute, hAfterMinute, rfl⟩ := (hasShape_row_iff (by decide)).mp hAfterHour
  obtain ⟨second, fraction, hSecond, hLast, rfl⟩ := (hasShape_row_iff (by decide)).mp hAfterMinute
  obtain ⟨hLength, hFraction⟩ := hasShape_replicate_iff.mp hLast
  refine ⟨⟨year, month, day, hour, minute, second, fraction⟩,
    ⟨hYear, hMonth, hDay, hHour, hMinute, hSecond, ?_, hFraction⟩, ⟨hLength, hFraction⟩, rfl⟩
  rw [← List.length_pos_iff, hLength]
  exact hn

theorem exists_rows_of_isTime {s : List Char} (h : IsTime 'T' s) :
    ∃ rows : Rows, rows.AreDigits ∧ s = rows.text := by
  obtain ⟨front, digits, hFront, hDigits, rfl⟩ := h
  obtain ⟨rows, hRows, -, rfl⟩ := exists_rows (n := 1) (by decide) hFront
  exact ⟨rows.extended digits, hRows.extended hDigits, (rows.text_extended digits).symm⟩

theorem takeFraction_append {fraction rest : List Char} (hNil : fraction ≠ [])
    (h : ∀ c ∈ fraction, isDigit c = true) (hRest : ∀ c ∈ rest.head?, isDigit c = false) :
    takeFraction ('.' :: (fraction ++ rest)) = (millisecondsOf fraction, rest) := by
  have hSpan := span_eq_iff.mpr ⟨rfl, h, hRest⟩
  rw [List.span_eq_takeWhile_dropWhile, Prod.mk.injEq] at hSpan
  simp only [takeFraction, hSpan.1, hSpan.2]
  rw [if_neg (by simpa using hNil)]

/-- A timestamp in full is read as its rows denote. -/
theorem parts?_text (h : rows.AreDigits) {zone : List Char}
    (hZone : ∀ c ∈ zone.head?, isDigit c = false) :
    parts? (rows.text ++ zone) = (zone? (trimStart zone)).map fun ahead => {
      year := numberOf rows.year
      month := numberOf rows.month
      day := numberOf rows.day
      time := rows.time
      ahead } := by
  have hSeconds : takeSeconds (':' :: (rows.second ++ '.' :: (rows.fraction ++ zone))) =
      (numberOf rows.second, millisecondsOf rows.fraction, zone) := by
    simp only [takeSeconds, after?_cons_self, Option.bind_eq_bind, Option.bind_some,
      digits?_append h.second, takeFraction_append h.fraction_ne_nil h.fraction hZone]
  have hClock : clock? ('T' :: (rows.hour ++ ':' :: (rows.minute ++ ':' :: (rows.second ++ '.' ::
      (rows.fraction ++ zone))))) = some (rows.time, zone) := by
    simp only [clock?, true_or, guard_true, Option.bind_eq_bind, Option.bind_some,
      digits?_append h.hour, after?_cons_self, digits?_append h.minute, hSeconds]
    rfl
  have hWhole : rows.text ++ zone = rows.year ++ '-' :: (rows.month ++ '-' :: (rows.day ++ 'T' ::
      (rows.hour ++ ':' :: (rows.minute ++ ':' :: (rows.second ++ '.' ::
        (rows.fraction ++ zone)))))) := by simp [text]
  simp only [hWhole, parts?, digits?_append h.year, after?_cons_self, digits?_append h.month,
    digits?_append h.day, Option.bind_eq_bind, Option.bind_some, hClock, Option.getD_some]
  cases zone? (trimStart zone) <;> rfl

end Rows

/-- Whether an instant is that of some time on some day of the calendar. -/
def OnCalendar (instant : Int) : Prop :=
  ∃ date : Date, ∃ time : TimeOfDay, time.isValid = true ∧ instant = instantOf date time

theorem OnCalendar.inCalendar {instant : Int} (h : OnCalendar instant) :
    inCalendar instant = true := by
  obtain ⟨date, time, hValid, rfl⟩ := h
  have hDay := date.number_lt_count
  have hTime := milliseconds_lt hValid
  unfold dayLength at hTime
  unfold LogViewer.inCalendar instantOf dayLength
  simp only [Bool.and_eq_true, decide_eq_true_eq]
  omega

theorem earlier_eq_ok {instant minutes : Int} (h : OnCalendar (instant - minutes * 60000)) :
    earlier instant minutes = .ok (instant - minutes * 60000) := if_pos h.inCalendar

namespace Rows

variable {rows : Rows}

/-- The instant that the rows denote in universal time. -/
def instant? (rows : Rows) : Option Int :=
  rows.date?.bind fun date => if rows.time.isValid then some (instantOf date rows.time) else none

theorem instant?_eq_some_iff {a : Int} :
    rows.instant? = some a ↔ ∃ date, rows.date? = some date ∧ rows.time.isValid = true ∧
      a = instantOf date rows.time := by
  unfold instant?
  rw [Option.bind_eq_some_iff]
  constructor
  · rintro ⟨date, hDate, h⟩
    split at h
    · rename_i hValid
      cases h
      exact ⟨date, hDate, hValid, rfl⟩
    · cases h
  · rintro ⟨date, hDate, hValid, rfl⟩
    exact ⟨date, hDate, if_pos hValid⟩

theorem not_blank_text (h : rows.AreDigits) : ∀ c ∈ rows.text, isBlank c = false := by
  have hRow {n : Nat} {row : List Char} (hRow : IsRow n row) : ∀ c ∈ row, isBlank c = false :=
    fun c hc => not_blank_of_isDigit (hRow.isDigit c hc)
  simp only [text, List.forall_mem_append, List.forall_mem_cons]
  exact ⟨hRow h.year, by decide, hRow h.month, by decide, hRow h.day, by decide, hRow h.hour,
    by decide, hRow h.minute, by decide, hRow h.second, by decide,
    fun c hc => not_blank_of_isDigit (h.fraction c hc)⟩

/-- A timestamp in full names the instant of its rows, moved by its zone. -/
theorem instant?_text (h : rows.AreDigits) {zone : List Char} {ahead : Int}
    (hZone : zone? zone = some ahead) (hHead : ∀ c ∈ zone.head?, isDigit c = false)
    (hBlank : ∀ c ∈ zone, isBlank c = false) :
    Timestamp.instant? (String.ofList (rows.text ++ zone)) =
      match rows.instant? with
      | some a => some <$> earlier a ahead
      | none => .ok none := by
  have hAll : ∀ c ∈ rows.text ++ zone, isBlank c = false :=
    List.forall_mem_append.mpr ⟨not_blank_text h, hBlank⟩
  rw [Timestamp.instant?, String.toList_ofList, trim_of_not_blank hAll, parts?_text h hHead,
    trimStart_of_not_blank hBlank, hZone, Option.map_some, instant?, date?]
  dsimp only
  cases Date.ofParts? (numberOf rows.year) (numberOf rows.month) (numberOf rows.day) with
  | none => rfl
  | some date =>
      dsimp only [Option.bind_some]
      split <;> rfl

/-- Without a zone the instant stays on the calendar. -/
theorem instant?_text_zoneless (h : rows.AreDigits) :
    Timestamp.instant? (String.ofList rows.text) = .ok rows.instant? := by
  have hNone : zone? [] = some 0 := rfl
  have hRead := instant?_text h hNone (by simp) (by simp)
  rw [List.append_nil] at hRead
  rw [hRead]
  cases hInstant : rows.instant? with
  | none => rfl
  | some a =>
      obtain ⟨date, -, hValid, rfl⟩ := instant?_eq_some_iff.mp hInstant
      have hStay : OnCalendar (instantOf date rows.time - 0 * 60000) :=
        ⟨date, rows.time, hValid, by simp⟩
      dsimp only
      rw [earlier_eq_ok hStay, Int.zero_mul, Int.sub_zero]
      rfl

end Rows

/-- The minutes by which a zone is ahead of universal time, told from its sign and its rows of
digits. -/
def minutesAhead (sign : Char) (hours minutes : List Char) : Int :=
  if sign = '-' then -(numberOf hours * 60 + numberOf minutes : Nat)
  else (numberOf hours * 60 + numberOf minutes : Nat)

theorem zone?_append {sign : Char} (hSign : sign = '+' ∨ sign = '-') {hours minutes : List Char}
    (hHours : IsRow 2 hours) (hMinutes : IsRow 2 minutes) :
    zone? (sign :: (hours ++ ':' :: minutes)) = some (minutesAhead sign hours minutes) := by
  have hEnd := digits?_append hMinutes []
  rw [List.append_nil] at hEnd
  rcases hSign with rfl | rfl
  · simp [zone?, digits?_append hHours, after?_cons_self, hEnd, minutesAhead, guard]
  · simp [zone?, digits?_append hHours, after?_cons_self, hEnd, minutesAhead, guard]

end LogViewer.Timestamp
