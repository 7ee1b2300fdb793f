import Mathlib
import LogViewer.Proofs.Calendar.Written

/-! Timestamps in one canonical form: a date and a time of the day to the millisecond, with digits
of the first script. Those that name an instant are the written forms of the times on the days of
the calendar, and they are in the order of their instants. -/
namespace LogViewer

open Text

variable {width n : Nat}

theorem length_padded (hWidth : 0 < width) (h : n < 10 ^ width) :
    (padded width n).length = width := by
  have hDigits := (length_digitsOf_le_iff hWidth).mpr h
  rw [padded, List.length_append, List.length_replicate]
  omega

theorem charIsDigit_of_mem_padded {c : Char} (h : c ∈ padded width n) : c.isDigit = true := by
  rcases List.mem_append.mp h with hZero | hDigit
  · rw [List.eq_of_mem_replicate hZero]
    rfl
  · exact charIsDigit_of_mem_digitsOf hDigit

theorem numberOf_padded (width n : Nat) : numberOf (padded width n) = n := by
  rw [padded, numberOf_append, numberOf_replicate_zero, numberOf_digitsOf, Nat.zero_mul,
    Nat.zero_add]

/-- A row of digits is the number that it denotes, with noughts up to its length. -/
theorem padded_numberOf {row : List Char} (hNil : row ≠ []) (h : ∀ c ∈ row, c.isDigit = true) :
    padded row.length (numberOf row) = row := by
  apply eq_of_numberOf_eq
  · apply samePlaces_of_isDigit (fun c => charIsDigit_of_mem_padded) h
    exact length_padded (List.length_pos_iff.mpr hNil) (numberOf_lt row)
  · exact numberOf_padded _ _

theorem samePlaces_padded {m : Nat} (hWidth : 0 < width) (hm : m < 10 ^ width)
    (hn : n < 10 ^ width) : SamePlaces (padded width m) (padded width n) := by
  have hDigit {k : Nat} : ∀ c ∈ padded width k, c.isDigit = true :=
    fun c => charIsDigit_of_mem_padded
  apply samePlaces_of_isDigit hDigit hDigit
  rw [length_padded hWidth hm, length_padded hWidth hn]

/-- A mark between two rows of digits counts as a nought. -/
theorem numberOf_append_mark {mark : Char} (h : isDigit mark = false) (row rest : List Char) :
    numberOf (row ++ mark :: rest) = numberOf row * 10 ^ (rest.length + 1) + numberOf rest := by
  have hMark : digitValue? mark = none := by
    rwa [isDigit, Option.isSome_eq_false_iff, Option.isNone_iff_eq_none] at h
  rw [numberOf_append, numberOf_cons, hMark, Option.getD_none, Nat.zero_mul, Nat.zero_add,
    List.length_cons]

def Date.text (d : Date) : List Char :=
  padded 4 d.year ++ '-' :: (padded 2 d.month ++ '-' :: padded 2 d.day)

def TimeOfDay.text (t : TimeOfDay) : List Char :=
  padded 2 t.hour ++ ':' :: (padded 2 t.minute ++ ':' :: (padded 2 t.second ++ '.' ::
    padded 3 t.millisecond))

theorem TimeOfDay.isValid_iff {t : TimeOfDay} : t.isValid = true ↔
    t.hour < 24 ∧ t.minute < 60 ∧ t.second < 60 ∧ t.millisecond < 1000 := by
  simp [isValid, and_assoc]

theorem Date.day_le (d : Date) : d.day ≤ 31 := by
  have hLengths : ∀ leap : Bool, ∀ m < 12, (monthLengths leap)[m]?.getD 0 ≤ 31 := by decide
  have hMonth := d.month_mem
  have hDays := hLengths (isLeapYear d.year) (d.month - 1) (by omega)
  have hDay := d.day_mem.2
  rw [daysInMonth, if_neg (by omega)] at hDay
  omega

theorem Date.length_text (d : Date) : d.text.length = 10 := by
  have hYear := d.year_mem
  have hMonth := d.month_mem
  have hDay := d.day_le
  simp only [text, List.length_append, List.length_cons]
  rw [length_padded (by decide) (by omega), length_padded (by decide) (by omega),
    length_padded (by decide) (by omega)]

theorem Date.numberOf_text (d : Date) :
    numberOf d.text = d.year * 10 ^ 6 + d.month * 10 ^ 3 + d.day := by
  have hMonth := d.month_mem
  have hDay := d.day_le
  rw [text, numberOf_append_mark (by decide), numberOf_append_mark (by decide), numberOf_padded,
    numberOf_padded, numberOf_padded, List.length_append, List.length_cons,
    length_padded (by decide) (by omega), length_padded (by decide) (by omega)]
  omega

theorem TimeOfDay.length_text {t : TimeOfDay} (h : t.isValid = true) : t.text.length = 12 := by
  obtain ⟨hHour, hMinute, hSecond, hMillisecond⟩ := isValid_iff.mp h
  simp only [text, List.length_append, List.length_cons]
  rw [length_padded (by decide) (by omega), length_padded (by decide) (by omega),
    length_padded (by decide) (by omega), length_padded (by decide) hMillisecond]

theorem TimeOfDay.numberOf_text {t : TimeOfDay} (h : t.isValid = true) :
    numberOf t.text = t.hour * 10 ^ 10 + t.minute * 10 ^ 7 + t.second * 10 ^ 4 + t.millisecond := by
  obtain ⟨hHour, hMinute, hSecond, hMillisecond⟩ := isValid_iff.mp h
  rw [text, numberOf_append_mark (by decide), numberOf_append_mark (by decide),
    numberOf_append_mark (by decide), numberOf_padded, numberOf_padded, numberOf_padded,
    numberOf_padded]
  simp only [List.length_append, List.length_cons]
  rw [length_padded (by decide) (by omega), length_padded (by decide) (by omega),
    length_padded (by decide) hMillisecond]
  omega

theorem samePlaces_append_mark {s t s' t' : List Char} (hFront : SamePlaces s t) (mark : Char)
    (hBack : SamePlaces s' t') : SamePlaces (s ++ mark :: s') (t ++ mark :: t') :=
  List.rel_append hFront (List.Forall₂.cons (Or.inr rfl) hBack)

theorem Date.samePlaces_text (d e : Date) : SamePlaces d.text e.text := by
  have hYear := d.year_mem
  have hYear' := e.year_mem
  have hMonth := d.month_mem
  have hMonth' := e.month_mem
  have hDay := d.day_le
  have hDay' := e.day_le
  apply samePlaces_append_mark (samePlaces_padded (by decide) (by omega) (by omega))
  apply samePlaces_append_mark (samePlaces_padded (by decide) (by omega) (by omega))
  exact samePlaces_padded (by decide) (by omega) (by omega)

theorem TimeOfDay.samePlaces_text {t u : TimeOfDay} (ht : t.isValid = true)
    (hu : u.isValid = true) : SamePlaces t.text u.text := by
  obtain ⟨hHour, hMinute, hSecond, hMillisecond⟩ := isValid_iff.mp ht
  obtain ⟨hHour', hMinute', hSecond', hMillisecond'⟩ := isValid_iff.mp hu
  apply samePlaces_append_mark (samePlaces_padded (by decide) (by omega) (by omega))
  apply samePlaces_append_mark (samePlaces_padded (by decide) (by omega) (by omega))
  apply samePlaces_append_mark (samePlaces_padded (by decide) (by omega) (by omega))
  exact samePlaces_padded (by decide) hMillisecond hMillisecond'

namespace Timestamp

/-- A time on a day in writing. -/
def written (d : Date) (t : TimeOfDay) : List Char := d.text ++ 'T' :: t.text

variable {d e : Date} {t u : TimeOfDay}

/-- Times on days are written in their order. -/
theorem written_lt_written_iff (ht : t.isValid = true) (hu : u.isValid = true) :
    written d t < written e u ↔ instantOf d t < instantOf e u := by
  have hSame : SamePlaces (written d t) (written e u) :=
    samePlaces_append_mark (d.samePlaces_text e) 'T' (TimeOfDay.samePlaces_text ht hu)
  rw [lt_iff_numberOf_lt hSame, written, written, numberOf_append_mark (by decide),
    numberOf_append_mark (by decide), TimeOfDay.length_text ht, TimeOfDay.length_text hu,
    d.numberOf_text, e.numberOf_text, TimeOfDay.numberOf_text ht, TimeOfDay.numberOf_text hu]
  have hTime := milliseconds_lt ht
  have hTime' := milliseconds_lt hu
  have hMonth := d.month_mem
  have hMonth' := e.month_mem
  have hDay := d.day_le
  have hDay' := e.day_le
  obtain ⟨hHour, hMinute, hSecond, hMillisecond⟩ := TimeOfDay.isValid_iff.mp ht
  obtain ⟨hHour', hMinute', hSecond', hMillisecond'⟩ := TimeOfDay.isValid_iff.mp hu
  unfold instantOf
  rcases d.precedes_or_eq_or_precedes e with hBefore | rfl | hAfter
  · have hNumber := Date.number_lt_of_precedes hBefore
    unfold Date.precedes at hBefore
    unfold dayLength at *
    refine iff_of_true ?_ ?_ <;> omega
  · unfold TimeOfDay.milliseconds
    omega
  · have hNumber := Date.number_lt_of_precedes hAfter
    unfold Date.precedes at hAfter
    unfold dayLength at *
    refine iff_of_false ?_ ?_ <;> omega

/-- A written form names one instant. -/
theorem instantOf_eq_of_written_eq (ht : t.isValid = true) (hu : u.isValid = true)
    (h : written d t = written e u) : instantOf d t = instantOf e u := by
  apply le_antisymm
  · rw [← not_lt, ← written_lt_written_iff hu ht, h]
    exact lt_irrefl _
  · rw [← not_lt, ← written_lt_written_iff ht hu, h]
    exact lt_irrefl _

theorem instantOf_eq_add_day (h : Date.IsNext d e) (t : TimeOfDay) :
    instantOf e t = instantOf d t + 86400000 := by
  unfold instantOf dayLength
  rw [h.number_eq_succ]
  omega

/-- Whether two texts differ in nothing but the day in front, which is the next one in the second
text. -/
def IsDayLater (s t : List Char) : Prop :=
  ∃ d e clock, Date.IsNext d e ∧ s = d.text ++ clock ∧ t = e.text ++ clock

theorem IsDayLater.instantOf_eq (ht : t.isValid = true) (hu : u.isValid = true)
    (h : IsDayLater (written d t) (written e u)) : instantOf e u = instantOf d t + 86400000 := by
  obtain ⟨today, tomorrow, clock, hNext, hToday, hTomorrow⟩ := h
  have hLength : d.text.length = today.text.length := by
    rw [d.length_text, today.length_text]
  obtain ⟨-, rfl⟩ := List.append_inj hToday hLength
  calc instantOf e u = instantOf tomorrow t := instantOf_eq_of_written_eq hu ht hTomorrow
    _ = instantOf today t + 86400000 := instantOf_eq_add_day hNext t
    _ = instantOf d t + 86400000 := by rw [instantOf_eq_of_written_eq ht ht hToday]

/-- Whether a text has the canonical form: a fraction of three digits, no zone, and no digits but
those of the first script. -/
structure IsCanonical (s : List Char) : Prop where
  shape : Line.HasShape "dddd-dd-ddTdd:dd:dd.ddd".toList s
  ascii : ∀ c ∈ s, c.toNat < 128

theorem charIsDigit_of_isDigit {c : Char} (h : isDigit c = true) (hAscii : c.toNat < 128) :
    c.isDigit = true := by
  rw [isDigit, digitValue?, if_pos hAscii] at h
  split at h
  · rename_i hRange
    simp only [Bool.and_eq_true, decide_eq_true_eq] at hRange
    simp only [Char.isDigit, Bool.and_eq_true, decide_eq_true_eq]
    exact hRange
  · cases h

theorem IsRow.padded_numberOf {n : Nat} {row : List Char} (h : IsRow n row) (hn : 0 < n)
    (hAscii : ∀ c ∈ row, c.toNat < 128) : padded n (numberOf row) = row := by
  obtain ⟨rfl, hDigit⟩ := h
  apply LogViewer.padded_numberOf (List.length_pos_iff.mp hn)
  exact fun c hc => charIsDigit_of_isDigit (hDigit c hc) (hAscii c hc)

theorem millisecondsOf_append {fraction : List Char} (h : IsRow 3 fraction) (digits : List Char) :
    millisecondsOf (fraction ++ digits) = numberOf fraction := by
  have hFront : (fraction ++ digits).take 3 = fraction := List.take_left' h.length_eq
  unfold millisecondsOf
  simp only [hFront, h.length_eq]
  exact Nat.mul_one _

namespace Rows

variable {rows : Rows}

/-- Rows of three digits in the fraction are the written form of what they denote. -/
theorem text_eq_written {date : Date} (h : rows.AreDigits) (hFraction : IsRow 3 rows.fraction)
    (hDate : rows.date? = some date) (hAscii : ∀ c ∈ rows.text, c.toNat < 128) :
    rows.text = written date rows.time := by
  simp only [text, List.forall_mem_append, List.forall_mem_cons] at hAscii
  obtain ⟨hYear, -, hMonth, -, hDay, -, hHour, -, hMinute, -, hSecond, -, hLast⟩ := hAscii
  have hMillisecond : rows.time.millisecond = numberOf rows.fraction := by
    rw [← millisecondsOf_append hFraction [], List.append_nil]
    rfl
  unfold date? Date.ofParts? at hDate
  split at hDate
  · cases hDate
    simp only [written, Date.text, TimeOfDay.text, hMillisecond]
    simp only [time, h.year.padded_numberOf (by decide) hYear,
      h.month.padded_numberOf (by decide) hMonth, h.day.padded_numberOf (by decide) hDay,
      h.hour.padded_numberOf (by decide) hHour, h.minute.padded_numberOf (by decide) hMinute,
      h.second.padded_numberOf (by decide) hSecond, hFraction.padded_numberOf (by decide) hLast]
    simp only [text, List.append_assoc, List.cons_append]
  · cases hDate

/-- What is beyond milliseconds is dropped. -/
theorem instant?_extended (hFraction : IsRow 3 rows.fraction) (digits : List Char) :
    (rows.extended digits).instant? = rows.instant? := by
  have hSame : (rows.extended digits).time = rows.time := by
    have hAll := millisecondsOf_append hFraction digits
    have hOwn := millisecondsOf_append hFraction []
    rw [List.append_nil] at hOwn
    simp only [time, extended, hAll, hOwn]
  rw [instant?, hSame]
  rfl

end Rows

theorem IsCanonical.exists_rows {s : List Char} (h : IsCanonical s) :
    ∃ rows : Rows, rows.AreDigits ∧ IsRow 3 rows.fraction ∧ s = rows.text :=
  Rows.exists_rows (n := 3) (by decide) h.shape

/-- A canonical timestamp that names an instant is a time on a day in writing. -/
theorem IsCanonical.exists_written {s : List Char} (h : IsCanonical s) {a : Int}
    (hInstant : instant? (String.ofList s) = .ok (some a)) :
    ∃ d t, t.isValid = true ∧ s = written d t ∧ a = instantOf d t := by
  obtain ⟨rows, hRows, hFraction, rfl⟩ := h.exists_rows
  rw [Rows.instant?_text_zoneless hRows, Except.ok.injEq, Rows.instant?_eq_some_iff] at hInstant
  obtain ⟨date, hDate, hValid, rfl⟩ := hInstant
  exact ⟨date, rows.time, hValid, Rows.text_eq_written hRows hFraction hDate h.ascii, rfl⟩

/-- What is read where more stands behind a timestamp that names an instant. Further digits of the
fraction say nothing, and a zone behind them moves the instant unless it leads out of the
calendar. -/
structure ReadsFurther (s : List Char) (a : Int) : Prop where
  fraction : ∀ digits, (∀ c ∈ digits, isDigit c = true) →
    instant? (String.ofList (s ++ digits)) = .ok (some a)
  ahead : ∀ digits hours minutes, (∀ c ∈ digits, isDigit c = true) →
    IsRow 2 hours → IsRow 2 minutes →
    OnCalendar (a - (numberOf hours * 60 + numberOf minutes : Nat) * 60000) →
    instant? (String.ofList (s ++ digits ++ '+' :: (hours ++ ':' :: minutes))) =
      .ok (some (a - (numberOf hours * 60 + numberOf minutes : Nat) * 60000))
  behind : ∀ digits hours minutes, (∀ c ∈ digits, isDigit c = true) →
    IsRow 2 hours → IsRow 2 minutes →
    OnCalendar (a + (numberOf hours * 60 + numberOf minutes : Nat) * 60000) →
    instant? (String.ofList (s ++ digits ++ '-' :: (hours ++ ':' :: minutes))) =
      .ok (some (a + (numberOf hours * 60 + numberOf minutes : Nat) * 60000))

theorem Rows.instant?_text_zone {rows : Rows} {a : Int} (h : rows.AreDigits)
    (hInstant : rows.instant? = some a) {sign : Char} (hSign : sign = '+' ∨ sign = '-')
    {hours minutes : List Char} (hHours : IsRow 2 hours) (hMinutes : IsRow 2 minutes)
    (hStay : OnCalendar (a - minutesAhead sign hours minutes * 60000)) :
    Timestamp.instant? (String.ofList (rows.text ++ sign :: (hours ++ ':' :: minutes))) =
      .ok (some (a - minutesAhead sign hours minutes * 60000)) := by
  have hMark : isDigit sign = false ∧ isBlank sign = false := by
    rcases hSign with rfl | rfl <;> decide
  have hBlank : ∀ c ∈ sign :: (hours ++ ':' :: minutes), isBlank c = false := by
    simp only [List.forall_mem_cons, List.forall_mem_append]
    exact ⟨hMark.2, fun c hc => not_blank_of_isDigit (hHours.isDigit c hc), by decide,
      fun c hc => not_blank_of_isDigit (hMinutes.isDigit c hc)⟩
  rw [Rows.instant?_text h (zone?_append hSign hHours hMinutes) (by simpa using hMark.1) hBlank,
    hInstant]
  dsimp only
  rw [earlier_eq_ok hStay]
  rfl

theorem Rows.readsFurther {rows : Rows} {a : Int} (h : rows.AreDigits)
    (hFraction : IsRow 3 rows.fraction) (hInstant : rows.instant? = some a) :
    ReadsFurther rows.text a where
  fraction digits hDigits := by
    rw [← rows.text_extended, Rows.instant?_text_zoneless (h.extended hDigits),
      Rows.instant?_extended hFraction, hInstant]
  ahead digits hours minutes hDigits hHours hMinutes hStay := by
    rw [← rows.text_extended]
    rw [← Rows.instant?_extended hFraction digits] at hInstant
    exact Rows.instant?_text_zone (h.extended hDigits) hInstant (Or.inl rfl) hHours hMinutes hStay
  behind digits hours minutes hDigits hHours hMinutes hStay := by
    have hAhead : a - minutesAhead '-' hours minutes * 60000 =
        a + (numberOf hours * 60 + numberOf minutes : Nat) * 60000 := by
      rw [minutesAhead, if_pos rfl]
      omega
    rw [← rows.text_extended]
    rw [← Rows.instant?_extended hFraction digits] at hInstant
    rw [← hAhead] at hStay ⊢
    exact Rows.instant?_text_zone (h.extended hDigits) hInstant (Or.inr rfl) hHours hMinutes hStay

/-- Canonical timestamps are in the order of their instants, the same time on the next day is a
day later, and what stands behind a canonical timestamp is read as a longer fraction or a zone. -/
theorem instant?_canonical {s t : String} {a b : Int} (hs : IsCanonical s.toList)
    (ht : IsCanonical t.toList) (ha : instant? s = .ok (some a)) (hb : instant? t = .ok (some b)) :
    (s < t ↔ a < b) ∧ (s = t ↔ a = b) ∧
      (IsDayLater s.toList t.toList → b = a + 86400000) ∧ ReadsFurther s.toList a := by
  rw [← String.ofList_toList (s := s)] at ha
  rw [← String.ofList_toList (s := t)] at hb
  obtain ⟨d, clock, hClock, hText, rfl⟩ := hs.exists_written ha
  obtain ⟨e, clock', hClock', hText', rfl⟩ := ht.exists_written hb
  have hLess : s < t ↔ instantOf d clock < instantOf e clock' := by
    rw [String.lt_iff_toList_lt, hText, hText', written_lt_written_iff hClock hClock']
  have hMore : t < s ↔ instantOf e clock' < instantOf d clock := by
    rw [String.lt_iff_toList_lt, hText, hText', written_lt_written_iff hClock' hClock]
  refine ⟨hLess, ?_, ?_, ?_⟩
  · constructor
    · rintro rfl
      exact Option.some.inj (Except.ok.inj (ha.symm.trans hb))
    · intro hSame
      rcases lt_trichotomy s t with h | h | h
      · exact absurd hSame (hLess.mp h).ne
      · exact h
      · exact absurd hSame (hMore.mp h).ne'
  · intro hDay
    rw [hText, hText'] at hDay
    exact hDay.instantOf_eq hClock hClock'
  · obtain ⟨rows, hRows, hFraction, hRowsText⟩ := hs.exists_rows
    rw [hRowsText, Rows.instant?_text_zoneless hRows, Except.ok.injEq] at ha
    rw [hRowsText]
    exact Rows.readsFurther hRows hFraction ha

/-- The last day of a February and the first one of the March behind it, and a zone that leads from
the one into the other. -/
theorem instant?_canonical_february :
    "2023-02-28T23:59:59.999" < "2023-03-01T23:59:59.999" ∧
      IsDayLater "2023-02-28T23:59:59.999".toList "2023-03-01T23:59:59.999".toList ∧
      instant? "2023-02-28T23:59:59.9991-01:00" = .ok (some (1677628799999 + 3600000)) := by
  obtain ⟨hLess, -, -, hFurther⟩ := instant?_canonical
    (s := "2023-02-28T23:59:59.999") (t := "2023-03-01T23:59:59.999")
    (a := 1677628799999) (b := 1677715199999)
    ⟨by decide, by simp⟩ ⟨by decide, by simp⟩ (by decide +kernel) (by decide +kernel)
  refine ⟨hLess.mpr (by decide), ?_, ?_⟩
  · exact ⟨⟨2023, 2, 28, by decide, by decide⟩, ⟨2023, 3, 1, by decide, by decide⟩,
      "T23:59:59.999".toList, .inYear rfl rfl rfl rfl, by decide, by decide⟩
  · exact hFurther.behind ['1'] ['0', '1'] ['0', '0'] (List.all_eq_true.mp rfl)
      ⟨rfl, List.all_eq_true.mp rfl⟩ ⟨rfl, List.all_eq_true.mp rfl⟩
      ⟨⟨2023, 3, 1, by decide, by decide⟩, ⟨0, 59, 59, 999⟩, by decide, by decide⟩

end Timestamp

end LogViewer
