import Mathlib
import LogViewer.Calendar.Numeric
import LogViewer.Proofs.Calendar.Canonical

/-! Counts since the start of 1970 in writing. A count in the calendar is written as a time on a day,
in universal time and to the millisecond, and is read back as this time. The year is written as it
is, without noughts in front, but is read from four digits only, so nothing is read back of a count
before the year 1000. -/
namespace LogViewer

open Text

theorem padded_of_length_le {width n : Nat} (h : width ≤ (digitsOf n).length) :
    padded width n = digitsOf n := by
  rw [padded, Nat.sub_eq_zero_of_le h, List.replicate_zero, List.nil_append]

theorem isDigit_of_mem_padded {width n : Nat} {c : Char} (h : c ∈ padded width n) :
    isDigit c = true := by
  rw [isDigit, digitValue?_of_isDigit (charIsDigit_of_mem_padded h)]
  rfl

namespace Second

/-- The time of the day that lies some milliseconds behind the start of a second. -/
def time (s : Second) (millisecond : Nat) : TimeOfDay := ⟨s.hour, s.minute, s.second, millisecond⟩

variable {s : Second} {seconds : Int} {millisecond : Nat}

theorem ofEpoch?_eq_some_iff :
    ofEpoch? seconds = some s ↔ ∃ n : Nat, seconds + (Date.epoch * 86400 : Nat) = n ∧
      Date.ofNumber? (n / 86400) = some s.date ∧ s.hour = n % 86400 / 3600 ∧
      s.minute = n % 3600 / 60 ∧ s.second = n % 60 := by
  unfold ofEpoch?
  simp only [Option.bind_eq_bind, Option.bind_eq_some_iff, Option.guard_eq_some', exists_const,
    Option.pure_def, Option.some.injEq]
  constructor
  · rintro ⟨hStart, date, hDate, rfl⟩
    exact ⟨_, (Int.toNat_of_nonneg hStart).symm, hDate, rfl, rfl, rfl⟩
  · rintro ⟨n, hCount, hDate, hHour, hMinute, hSecond⟩
    refine ⟨by omega, s.date, ?_, ?_⟩
    · rwa [hCount, Int.toNat_natCast]
    · rw [hCount, Int.toNat_natCast, ← hHour, ← hMinute, ← hSecond]

/-- A second that begins a count of seconds after the start of 1970 is the one of this count. -/
theorem instantOf_time (h : ofEpoch? seconds = some s) (hLess : millisecond < 1000) :
    (s.time millisecond).isValid = true ∧
      instantOf s.date (s.time millisecond) = seconds * 1000 + millisecond := by
  obtain ⟨n, hCount, hDate, hHour, hMinute, hSecond⟩ := ofEpoch?_eq_some_iff.mp h
  have hNumber := Date.number_of_ofNumber? hDate
  unfold Date.epoch at hCount
  refine ⟨TimeOfDay.isValid_iff.mpr ?_, ?_⟩
  · unfold time
    dsimp only
    omega
  · unfold instantOf TimeOfDay.milliseconds time dayLength Date.epoch
    dsimp only
    omega

/-- The seconds of the calendar are those that there are. -/
theorem inCalendar_iff_exists_ofEpoch? (hLess : millisecond < 1000) :
    inCalendar (seconds * 1000 + millisecond) = true ↔ ∃ s, ofEpoch? seconds = some s := by
  constructor
  · intro h
    unfold inCalendar dayLength at h
    simp only [Bool.and_eq_true, decide_eq_true_eq] at h
    obtain ⟨date, hDate⟩ := Date.exists_ofNumber?
      (n := (seconds + (Date.epoch * 86400 : Nat)).toNat / 86400) (by omega)
    exact ⟨⟨date, _, _, _⟩, ofEpoch?_eq_some_iff.mpr
      ⟨(seconds + (Date.epoch * 86400 : Nat)).toNat, by omega, hDate, rfl, rfl, rfl⟩⟩
  · rintro ⟨s, h⟩
    obtain ⟨hValid, hInstant⟩ := instantOf_time h hLess
    exact Timestamp.OnCalendar.inCalendar ⟨s.date, s.time millisecond, hValid, hInstant.symm⟩

/-- A second of a year of four digits is written like the time on its day. -/
theorem text_eq_written (h : 1000 ≤ s.date.year) (millisecond : Nat) :
    s.text ':' ++ '.' :: padded 3 millisecond =
      Timestamp.written s.date (s.time millisecond) := by
  have hDigits : 4 ≤ (digitsOf s.date.year).length := by
    by_contra hShort
    have hYear := (length_digitsOf_le_iff (k := 3) (n := s.date.year) (by decide)).mp (by omega)
    omega
  unfold text time Timestamp.written Date.text TimeOfDay.text
  rw [padded_of_length_le hDigits]
  simp only [List.append_assoc, List.cons_append]

theorem not_blank_text (s : Second) : ∀ c ∈ s.text ':', isBlank c = false := by
  have hRow {width n : Nat} : ∀ c ∈ padded width n, isBlank c = false :=
    fun c hc => not_blank_of_isDigit (isDigit_of_mem_padded hc)
  simp only [text, List.append_assoc, List.cons_append, List.forall_mem_append,
    List.forall_mem_cons]
  exact ⟨fun c hc => not_blank_of_isDigit (isDigit_of_mem_digitsOf hc), by decide, hRow, by decide,
    hRow, by decide, hRow, by decide, hRow, by decide, hRow⟩

end Second

namespace Timestamp

theorem isRow_padded {width n : Nat} (hWidth : 0 < width) (h : n < 10 ^ width) :
    IsRow width (padded width n) :=
  ⟨length_padded hWidth h, fun _ => isDigit_of_mem_padded⟩

/-- The rows of digits of a time on a day. -/
def Rows.ofTime (d : Date) (t : TimeOfDay) : Rows where
  year := padded 4 d.year
  month := padded 2 d.month
  day := padded 2 d.day
  hour := padded 2 t.hour
  minute := padded 2 t.minute
  second := padded 2 t.second
  fraction := padded 3 t.millisecond

section

variable {d : Date} {t : TimeOfDay} (ht : t.isValid = true)

include ht

theorem Rows.areDigits_ofTime : (Rows.ofTime d t).AreDigits := by
  obtain ⟨hHour, hMinute, hSecond, hMillisecond⟩ := TimeOfDay.isValid_iff.mp ht
  have hYear := d.year_mem
  have hMonth := d.month_mem
  have hDay := d.day_le
  have hFraction : IsRow 3 (padded 3 t.millisecond) := isRow_padded (by decide) hMillisecond
  exact {
    year := isRow_padded (by decide) (by omega)
    month := isRow_padded (by decide) (by omega)
    day := isRow_padded (by decide) (by omega)
    hour := isRow_padded (by decide) (by omega)
    minute := isRow_padded (by decide) (by omega)
    second := isRow_padded (by decide) (by omega)
    fraction_ne_nil := List.ne_nil_of_length_pos (by rw [Rows.ofTime, hFraction.length_eq]; decide)
    fraction := hFraction.isDigit }

theorem Rows.instant?_ofTime : (Rows.ofTime d t).instant? = some (instantOf d t) := by
  have hDate : (Rows.ofTime d t).date? = some d := by
    simp only [Rows.date?, Rows.ofTime, numberOf_padded]
    exact dif_pos ⟨d.year_mem, d.day_mem⟩
  have hTime : (Rows.ofTime d t).time = t := by
    have hLast := millisecondsOf_append
      (isRow_padded (by decide) (TimeOfDay.isValid_iff.mp ht).2.2.2) []
    rw [List.append_nil] at hLast
    simp only [Rows.time, Rows.ofTime, hLast, numberOf_padded]
  exact Rows.instant?_eq_some_iff.mpr ⟨d, hDate, by rwa [hTime], by rw [hTime]⟩

/-- A time on a day in writing is read back, also with the mark of universal time behind it. -/
theorem instant?_written :
    instant? (String.ofList (written d t ++ ['Z'])) = .ok (some (instantOf d t)) := by
  have hText : written d t = (Rows.ofTime d t).text := by
    simp only [written, Date.text, TimeOfDay.text, Rows.text, Rows.ofTime, List.append_assoc,
      List.cons_append]
  have hZone : zone? ['Z'] = some 0 := rfl
  have hMark : isDigit 'Z' = false ∧ isBlank 'Z' = false := by decide
  have hStay : OnCalendar (instantOf d t - 0 * 60000) := ⟨d, t, ht, by simp⟩
  rw [hText, Rows.instant?_text (Rows.areDigits_ofTime ht) hZone (by simpa using hMark.1)
    (by simpa using hMark.2), Rows.instant?_ofTime ht]
  dsimp only
  rw [earlier_eq_ok hStay, Int.zero_mul, Int.sub_zero]
  rfl

end

/-- Nothing is read from a year of less than four digits. -/
theorem instant?_of_short_year {year rest : List Char} (hShort : year.length < 4)
    (hBlank : ∀ c ∈ year ++ '-' :: rest, isBlank c = false) :
    instant? (String.ofList (year ++ '-' :: rest)) = .ok none := by
  have hMark : '-' ∈ (year ++ '-' :: rest).take 4 := by
    obtain ⟨k, hk⟩ : ∃ k, 4 - year.length = k + 1 := ⟨3 - year.length, by omega⟩
    rw [List.take_append, hk, List.take_succ_cons]
    exact List.mem_append_right _ List.mem_cons_self
  have hDigits : digits? 4 (year ++ '-' :: rest) = none := by
    apply if_neg
    rintro ⟨-, hAll⟩
    exact absurd (List.all_eq_true.mp hAll _ hMark) (by decide)
  rw [instant?, String.toList_ofList, trim_of_not_blank hBlank, parts?, hDigits]
  rfl

/-- A second and its milliseconds in writing are read back unless the year is too short. -/
theorem instant?_second {s : Second} {millisecond : Nat}
    (hValid : (s.time millisecond).isValid = true) :
    instant? (String.ofList (s.text ':' ++ '.' :: padded 3 millisecond ++ ['Z'])) =
      .ok (if s.date.year < 1000 then none else some (instantOf s.date (s.time millisecond))) := by
  split
  · rename_i hYear
    have hShort : (digitsOf s.date.year).length < 4 :=
      Nat.lt_succ_of_le ((length_digitsOf_le_iff (by decide)).mpr hYear)
    have hBlank : ∀ c ∈ s.text ':' ++ '.' :: padded 3 millisecond ++ ['Z'], isBlank c = false := by
      simp only [List.forall_mem_append, List.forall_mem_cons]
      exact ⟨⟨s.not_blank_text, by decide,
        fun c hc => not_blank_of_isDigit (isDigit_of_mem_padded hc)⟩, by decide, by simp⟩
    simp only [Second.text, List.append_assoc, List.cons_append] at hBlank ⊢
    rw [instant?_of_short_year hShort hBlank]
  · rename_i hYear
    rw [Second.text_eq_written (not_lt.mp hYear), instant?_written hValid]

/-- The timestamp of a count of microseconds since the start of 1970, none outside the calendar. -/
def ofMicroseconds? (count : Int) : Option String :=
  (Second.ofEpoch? (count / 1000000)).map fun second => String.ofList
    (second.text ':' ++ '.' :: padded 3 ((count % 1000000).toNat / 1000) ++ ['Z'])

/-- The first instant of the first year that has four digits. -/
def firstOfFourDigits : Int :=
  instantOf { year := 1000, month := 1, day := 1, year_mem := by decide, day_mem := by decide }
    ⟨0, 0, 0, 0⟩

theorem firstOfFourDigits_eq : firstOfFourDigits = -30610224000000 := by decide

theorem instantOf_lt_firstOfFourDigits_iff {d : Date} {t : TimeOfDay} (ht : t.isValid = true) :
    instantOf d t < firstOfFourDigits ↔ d.year < 1000 := by
  let first : Date :=
    { year := 1000, month := 1, day := 1, year_mem := by decide, day_mem := by decide }
  have hMonth := d.month_mem
  have hDay := d.day_mem
  have hTime := milliseconds_lt ht
  calc instantOf d t < firstOfFourDigits ↔ d.number < first.number := by
        have hStart : firstOfFourDigits = instantOf first ⟨0, 0, 0, 0⟩ := rfl
        have hMidnight : (⟨0, 0, 0, 0⟩ : TimeOfDay).milliseconds = 0 := rfl
        rw [hStart, instantOf, instantOf, hMidnight]
        unfold dayLength at *
        omega
    _ ↔ d.precedes first := Date.number_lt_iff
    _ ↔ d.year < 1000 := by
        unfold Date.precedes
        simp only [first]
        omega

/-- A count of microseconds is read back from its timestamp to the millisecond, from the year 1000
on. -/
theorem instant?_ofMicroseconds? (count : Int) :
    (ofMicroseconds? count).map instant? =
      if inCalendar (count / 1000) then
        some (.ok (if count / 1000 < firstOfFourDigits then none else some (count / 1000)))
      else none := by
  have hLess : (count % 1000000).toNat / 1000 < 1000 := by omega
  have hSplit : count / 1000 =
      count / 1000000 * 1000 + ((count % 1000000).toNat / 1000 : Nat) := by omega
  have hThere : inCalendar (count / 1000000 * 1000 + ((count % 1000000).toNat / 1000 : Nat)) =
      true ↔ _ := Second.inCalendar_iff_exists_ofEpoch? hLess
  unfold ofMicroseconds?
  cases hSecond : Second.ofEpoch? (count / 1000000) with
  | none =>
      have hOutside : ¬inCalendar (count / 1000) = true := by
        rw [hSplit, hThere, hSecond]
        rintro ⟨s, hs⟩
        cases hs
      rw [if_neg hOutside]
      rfl
  | some s =>
      have hInside : inCalendar (count / 1000) = true := hSplit ▸ hThere.mpr ⟨s, hSecond⟩
      obtain ⟨hValid, hInstant⟩ := Second.instantOf_time hSecond hLess
      rw [← hSplit] at hInstant
      have hFirst : instantOf s.date _ < firstOfFourDigits ↔ s.date.year < 1000 :=
        instantOf_lt_firstOfFourDigits_iff hValid
      rw [if_pos hInside, Option.map_some, Option.map_some, instant?_second hValid, hInstant]
      rw [hInstant] at hFirst
      simp only [hFirst]

end Timestamp

end LogViewer
