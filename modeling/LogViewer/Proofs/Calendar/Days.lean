import Mathlib
import LogViewer.Calendar.Date

/-! The numbering of the days follows the calendar: an earlier day has a smaller number, and the day
after a day has the next one. A day is found again by its number. -/
namespace LogViewer.Date

/-- The count of days of a year. -/
def daysInYear (year : Nat) : Nat := (monthLengths (isLeapYear year)).sum

theorem daysInYear_eq (year : Nat) : daysInYear year = if isLeapYear year then 366 else 365 := by
  unfold daysInYear
  cases isLeapYear year <;> rfl

theorem isLeapYear_iff {year : Nat} :
    isLeapYear year = true ↔ 4 ∣ year ∧ (¬100 ∣ year ∨ 400 ∣ year) := by
  simp [isLeapYear, Nat.dvd_iff_mod_eq_zero]

theorem daysBefore_succ {year : Nat} (h : 1 ≤ year) :
    daysBefore (year + 1) = daysBefore year + daysInYear year := by
  obtain ⟨past, rfl⟩ := Nat.exists_eq_add_of_le' h
  have hHundreds : past / 100 ≤ past / 4 := Nat.div_le_div_left (by decide) (by decide)
  have hByHundred : 100 ∣ past + 1 → 4 ∣ past + 1 := Nat.dvd_trans (by decide)
  have hByFourHundred : 400 ∣ past + 1 → 100 ∣ past + 1 := Nat.dvd_trans (by decide)
  simp only [daysInYear_eq, isLeapYear_iff, daysBefore, Nat.add_sub_cancel, Nat.succ_div]
  -- a quotient grows exactly where its divisor divides the year
  by_cases hFour : 4 ∣ past + 1
  · by_cases hHundred : 100 ∣ past + 1
    · by_cases hFourHundred : 400 ∣ past + 1
      · simp only [hFour, hHundred, hFourHundred, not_true_eq_false, false_or, and_self, if_true]
        omega
      · simp only [hFour, hHundred, hFourHundred, not_true_eq_false, false_or, and_false, if_true,
          if_false]
        omega
    · have hFourHundred : ¬400 ∣ past + 1 := fun hDvd => hHundred (hByFourHundred hDvd)
      simp only [hFour, hHundred, hFourHundred, not_false_eq_true, true_or, and_self, if_true,
        if_false]
      omega
  · have hHundred : ¬100 ∣ past + 1 := fun hDvd => hFour (hByHundred hDvd)
    have hFourHundred : ¬400 ∣ past + 1 := fun hDvd => hHundred (hByFourHundred hDvd)
    simp only [hFour, hHundred, hFourHundred, false_and, if_false]
    omega

theorem daysBefore_le {year later : Nat} (hFirst : 1 ≤ year) (h : year ≤ later) :
    daysBefore year ≤ daysBefore later := by
  induction later, h using Nat.le_induction with
  | base => exact Nat.le_refl _
  | succ later hLater ih =>
      rw [daysBefore_succ (hFirst.trans hLater)]
      omega

/-- The count of days of a year before a month of it. -/
def daysBeforeMonth (year month : Nat) : Nat :=
  ((monthLengths (isLeapYear year)).take (month - 1)).sum

theorem month_mem (d : Date) : 1 ≤ d.month ∧ d.month ≤ 12 := by
  have hDays : daysInMonth d.year d.month ≠ 0 := by
    have hMem := d.day_mem
    omega
  unfold daysInMonth at hDays
  split at hDays
  · exact absurd rfl hDays
  · rename_i hMonth
    have hLength : (monthLengths (isLeapYear d.year)).length = 12 := rfl
    by_contra hOutside
    rw [List.getElem?_eq_none (by omega)] at hDays
    exact hDays rfl

/-- The days of a month are those between the days before it and the days before the next one. -/
theorem daysBeforeMonth_succ {year month : Nat} (hFirst : 1 ≤ month) (hLast : month ≤ 12) :
    daysBeforeMonth year (month + 1) = daysBeforeMonth year month + daysInMonth year month := by
  have hEach : ∀ leap : Bool, ∀ m < 12, ((monthLengths leap).take (m + 1)).sum =
      ((monthLengths leap).take m).sum + (monthLengths leap)[m]?.getD 0 := by decide
  obtain ⟨m, rfl⟩ := Nat.exists_eq_add_of_le' hFirst
  exact hEach (isLeapYear year) m (by omega)

theorem daysBeforeMonth_le {year month later : Nat} (hFirst : 1 ≤ month) (h : month ≤ later)
    (hLast : later ≤ 13) : daysBeforeMonth year month ≤ daysBeforeMonth year later := by
  induction later, h using Nat.le_induction with
  | base => exact Nat.le_refl _
  | succ later hLater ih =>
      rw [daysBeforeMonth_succ (hFirst.trans hLater) (by omega)]
      have hBefore := ih (by omega)
      omega

theorem daysBeforeMonth_last (year : Nat) : daysBeforeMonth year 13 = daysInYear year := by
  unfold daysBeforeMonth daysInYear
  cases isLeapYear year <;> rfl

variable {d e : Date}

theorem number_eq (d : Date) :
    d.number = daysBefore d.year + daysBeforeMonth d.year d.month + (d.day - 1) := rfl

/-- Whether a day lies before another one. -/
def precedes (d e : Date) : Prop :=
  d.year < e.year ∨ d.year = e.year ∧ (d.month < e.month ∨ d.month = e.month ∧ d.day < e.day)

theorem precedes_or_eq_or_precedes (d e : Date) : d.precedes e ∨ d = e ∨ e.precedes d := by
  rcases d with ⟨y, m, n, hy, hn⟩
  rcases e with ⟨z, p, q, hz, hq⟩
  simp only [precedes, Date.mk.injEq]
  omega

/-- A day lies before the end of its month. -/
theorem number_lt_month (d : Date) :
    d.number < daysBefore d.year + daysBeforeMonth d.year (d.month + 1) := by
  have hDay := d.day_mem
  rw [number_eq, daysBeforeMonth_succ d.month_mem.1 d.month_mem.2]
  omega

/-- A day lies before the end of its year. -/
theorem number_lt_year (d : Date) : d.number < daysBefore (d.year + 1) := by
  have hMonth := d.month_mem
  have hNumber := d.number_lt_month
  have hRest : daysBeforeMonth d.year (d.month + 1) ≤ daysBeforeMonth d.year 13 :=
    daysBeforeMonth_le (by omega) (by omega) (Nat.le_refl _)
  rw [daysBefore_succ d.year_mem.1, ← daysBeforeMonth_last]
  omega

theorem number_lt_of_precedes (h : d.precedes e) : d.number < e.number := by
  rcases h with hYear | ⟨hYear, hMonth | ⟨hMonth, hDay⟩⟩
  · calc d.number < daysBefore (d.year + 1) := d.number_lt_year
      _ ≤ daysBefore e.year := daysBefore_le (by omega) hYear
      _ ≤ e.number := by
        rw [number_eq]
        omega
  · have hNumber := d.number_lt_month
    have hLast := e.month_mem.2
    have hRest : daysBeforeMonth e.year (d.month + 1) ≤ daysBeforeMonth e.year e.month :=
      daysBeforeMonth_le (by omega) hMonth (by omega)
    rw [hYear] at hNumber
    rw [number_eq e]
    omega
  · have hFirst := d.day_mem.1
    rw [number_eq, number_eq, hYear, hMonth]
    omega

/-- Days are numbered in the order of the calendar. -/
theorem number_lt_iff : d.number < e.number ↔ d.precedes e := by
  constructor
  · intro h
    rcases precedes_or_eq_or_precedes d e with hBefore | rfl | hAfter
    · exact hBefore
    · exact absurd h (Nat.lt_irrefl _)
    · exact absurd h (Nat.lt_asymm (number_lt_of_precedes hAfter))
  · exact number_lt_of_precedes

theorem number_lt_count (d : Date) : d.number < count := by
  calc d.number < daysBefore (d.year + 1) := d.number_lt_year
    _ ≤ daysBefore 10000 := daysBefore_le (by omega) (Nat.succ_le_succ d.year_mem.2)
    _ = count := rfl

/-- Whether a day is the one after another: the next one of the month, or the first one of the next
month, or the first one of the next year. -/
inductive IsNext (d e : Date) : Prop where
  | inMonth (hYear : e.year = d.year) (hMonth : e.month = d.month) (hDay : e.day = d.day + 1)
  | inYear (hYear : e.year = d.year) (hMonth : e.month = d.month + 1)
      (hLast : d.day = daysInMonth d.year d.month) (hFirst : e.day = 1)
  | newYear (hYear : e.year = d.year + 1) (hMonth : d.month = 12) (hLast : d.day = 31)
      (hFirstMonth : e.month = 1) (hFirst : e.day = 1)

theorem IsNext.number_eq_succ (h : IsNext d e) : e.number = d.number + 1 := by
  have hDay := d.day_mem.1
  rw [number_eq, number_eq]
  cases h with
  | inMonth hYear hMonth hNext =>
      rw [hYear, hMonth, hNext]
      omega
  | inYear hYear hMonth hLast hFirst =>
      rw [hYear, hMonth, hFirst, daysBeforeMonth_succ d.month_mem.1 d.month_mem.2, ← hLast]
      omega
  | newYear hYear hMonth hLast hFirstMonth hFirst =>
      have hYearEnd : daysBeforeMonth d.year 13 = daysBeforeMonth d.year 12 +
          daysInMonth d.year 12 := daysBeforeMonth_succ (by decide) (by decide)
      have hDecember : daysInMonth d.year 12 = 31 := by
        unfold daysInMonth
        cases isLeapYear d.year <;> rfl
      rw [daysBeforeMonth_last, hDecember] at hYearEnd
      have hStart : daysBeforeMonth (d.year + 1) 1 = 0 := rfl
      rw [hYear, hFirstMonth, hFirst, hMonth, hLast, hStart, daysBefore_succ d.year_mem.1, hYearEnd]
      omega

/-- The year of a numbered day is the one whose days the number counts last. -/
theorem yearOf_spec (n : Nat) :
    1 ≤ (yearOf n).1 ∧ daysBefore (yearOf n).1 + (yearOf n).2 = n ∧
      (yearOf n).2 < daysInYear (yearOf n).1 := by
  rw [daysInYear_eq]
  simp only [isLeapYear_iff, yearOf, daysBefore, Nat.add_sub_cancel]
  -- the year is told apart into its era, century, span of four years and year of the span, and
  -- the days into those of the last of them
  generalize hEra : n / 146097 = era
  generalize hCentury : min (n % 146097 / 36524) 3 = century
  obtain ⟨inCentury, hInCentury⟩ : ∃ k, n % 146097 = 36524 * century + k :=
    Nat.exists_eq_add_of_le (by omega)
  rw [hInCentury, Nat.add_sub_cancel_left]
  generalize hSpan : inCentury / 1461 = span
  generalize hYear : min (inCentury % 1461 / 365) 3 = year
  obtain ⟨inYear, hInYear⟩ : ∃ k, inCentury % 1461 = 365 * year + k :=
    Nat.exists_eq_add_of_le (by omega)
  rw [hInYear, Nat.add_sub_cancel_left]
  have hEraDays : n = 146097 * era + (36524 * century + inCentury) := by omega
  have hSpanDays : inCentury = 1461 * span + (365 * year + inYear) := by omega
  have hSpanLe : span ≤ 24 := by omega
  have hFour : (400 * era + 100 * century + 4 * span + year) / 4 =
      100 * era + 25 * century + span := by omega
  have hHundred : (400 * era + 100 * century + 4 * span + year) / 100 = 4 * era + century := by
    omega
  have hFourHundred : (400 * era + 100 * century + 4 * span + year) / 400 = era := by omega
  -- only the last year of a span has a day more, and the last span of a century has one only in
  -- the last century of an era
  have hYearDays : inYear < 365 ∨ inYear = 365 ∧ year = 3 ∧ (span = 24 → century = 3) := by omega
  rw [hFour, hHundred, hFourHundred]
  clear hEra hCentury hInCentury hSpan hYear hInYear hFour hHundred hFourHundred
  refine ⟨by omega, by omega, ?_⟩
  split
  · omega
  · rename_i hCommon
    by_contra hLast
    apply hCommon
    omega

/-- A day of a year is found among the months by the days before it. -/
theorem monthOf_spec (month : Nat) {n : Nat} {lengths : List Nat} (h : n < lengths.sum) :
    ∃ i day, monthOf month n lengths = (month + i, day) ∧ i < lengths.length ∧
      1 ≤ day ∧ day ≤ lengths[i]?.getD 0 ∧ (lengths.take i).sum + (day - 1) = n := by
  induction lengths generalizing month n with
  | nil => exact absurd h (Nat.not_lt_zero n)
  | cons length lengths ih =>
      unfold monthOf
      split
      · rename_i hHere
        exact ⟨0, n + 1, rfl, Nat.succ_pos _, by omega, by simpa using hHere, by simp⟩
      · rename_i hLater
        rw [List.sum_cons] at h
        have hRest : n - length < lengths.sum := by omega
        obtain ⟨i, day, hEq, hi, hFirst, hLast, hSum⟩ := ih (month + 1) hRest
        refine ⟨i + 1, day, ?_, Nat.succ_lt_succ hi, hFirst, hLast, ?_⟩
        · rw [hEq, Nat.add_assoc, Nat.add_comm 1 i]
        · rw [List.take_succ_cons, List.sum_cons]
          omega

theorem ofNumber?_eq (n : Nat) :
    ∃ month day, ofNumber? n = ofParts? (yearOf n).1 month day ∧
      (1 ≤ day ∧ day ≤ daysInMonth (yearOf n).1 month) ∧
      daysBeforeMonth (yearOf n).1 month + (day - 1) = (yearOf n).2 := by
  obtain ⟨i, day, hEq, hi, hFirst, hLast, hSum⟩ := monthOf_spec 1 (yearOf_spec n).2.2
  refine ⟨1 + i, day, ?_, ⟨hFirst, ?_⟩, ?_⟩
  · unfold ofNumber?
    simp only [hEq]
  · rwa [daysInMonth, if_neg (by omega), Nat.add_sub_cancel_left]
  · rwa [daysBeforeMonth, Nat.add_sub_cancel_left]

/-- The day that a number names has this number. -/
theorem number_of_ofNumber? {n : Nat} (h : ofNumber? n = some d) : d.number = n := by
  obtain ⟨month, day, hEq, -, hDays⟩ := ofNumber?_eq n
  rw [hEq] at h
  unfold ofParts? at h
  split at h
  · cases h
    rw [number_eq, Nat.add_assoc, hDays]
    exact (yearOf_spec n).2.1
  · cases h

theorem exists_ofNumber? {n : Nat} (h : n < count) : ∃ d, ofNumber? n = some d := by
  obtain ⟨hFirst, hNumber, -⟩ := yearOf_spec n
  obtain ⟨month, day, hEq, hDay, -⟩ := ofNumber?_eq n
  have hYear : (yearOf n).1 ≤ 9999 := by
    by_contra hBeyond
    have hCount : daysBefore 10000 ≤ daysBefore (yearOf n).1 :=
      daysBefore_le (by decide) (not_le.mp hBeyond)
    have hAll : daysBefore 10000 = count := rfl
    omega
  exact ⟨_, hEq.trans (dif_pos ⟨⟨hFirst, hYear⟩, hDay⟩)⟩

end LogViewer.Date
