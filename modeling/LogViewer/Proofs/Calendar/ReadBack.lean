import Mathlib
import LogViewer.Proofs.Calendar.Epoch
import LogViewer.Proofs.Numeric.Nearest

/-! Whole milliseconds that are written as timestamps and read back. On their way they become
floating-point seconds, and these become microseconds. The seconds are close enough to the exact
ones up to `2 ^ 33` of them, so that the microseconds are exact; beyond, a count that is cut short
by more than half a microsecond falls below its millisecond. -/
namespace LogViewer.Timestamp

open Double

theorem roundEven_of_nonneg {r : ℚ} (h : 0 ≤ r) :
    roundEven r = (roundQuotient r.num.natAbs r.den : Nat) := if_neg (not_lt.mpr h)

theorem natAbs_num_div_den_of_nonneg {r : ℚ} (h : 0 ≤ r) :
    (r.num.natAbs : ℚ) / r.den = r := by
  rcases h.eq_or_lt with rfl | hPos
  · norm_num
  · exact natAbs_num_div_den hPos

theorem roundEven_neg (r : ℚ) : roundEven (-r) = -roundEven r := by
  rcases lt_trichotomy r 0 with hNeg | rfl | hPos
  · unfold roundEven
    rw [if_neg (by linarith), if_pos hNeg, Rat.num_neg_eq_neg_num, Int.natAbs_neg,
      Rat.den_neg_eq_den, neg_neg]
  · rfl
  · unfold roundEven
    rw [if_pos (by linarith), if_neg (by linarith), Rat.num_neg_eq_neg_num, Int.natAbs_neg,
      Rat.den_neg_eq_den]

theorem abs_roundEven_sub_le (r : ℚ) : |(roundEven r : ℚ) - r| ≤ 1 / 2 := by
  induction r using nonneg_induction with
  | nonneg r h =>
      have hError := abs_roundQuotient_sub_le r.num.natAbs r.den_pos
      rw [natAbs_num_div_den_of_nonneg h] at hError
      rwa [roundEven_of_nonneg h, Int.cast_natCast]
  | neg r ih => rwa [roundEven_neg, Int.cast_neg, neg_sub_neg, abs_sub_comm]

/-- An even number that is nearest to a ratio is what it is rounded to. -/
theorem roundEven_eq_of_even {r : ℚ} {c : Int} (hEven : Even c) (h : |r - c| ≤ 1 / 2) :
    roundEven r = c := by
  induction r using nonneg_induction generalizing c with
  | nonneg r hr =>
      obtain ⟨hFrom, hTo⟩ := abs_le.mp h
      have hPositive : (0 : ℚ) < r.den := Nat.cast_pos.mpr r.den_pos
      have hc : 0 ≤ c := by
        have hLess : -1 < c := by
          rw [← Int.cast_lt (R := ℚ)]
          push_cast
          linarith
        omega
      obtain ⟨k, rfl⟩ := Int.eq_ofNat_of_zero_le hc
      rw [← natAbs_num_div_den_of_nonneg hr, Int.cast_natCast] at hFrom hTo
      rw [roundEven_of_nonneg hr]
      congr 1
      apply roundQuotient_eq_of_even r.den_pos
      · exact Nat.even_iff.mp ((Int.even_coe_nat k).mp hEven)
      · have hLess : (k : ℚ) - 1 / 2 ≤ r.num.natAbs / r.den := by linarith
        rw [le_div_iff₀ hPositive] at hLess
        have hDouble : (2 * k * r.den : ℚ) ≤ 2 * r.num.natAbs + r.den := by linarith
        exact_mod_cast hDouble
      · have hLess : (r.num.natAbs : ℚ) / r.den ≤ k + 1 / 2 := by linarith
        rw [div_le_iff₀ hPositive] at hLess
        have hDouble : (2 * r.num.natAbs : ℚ) ≤ (2 * k + 1) * r.den := by linarith
        exact_mod_cast hDouble
  | neg r ih =>
      have hOpposite : roundEven r = -c := by
        apply ih hEven.neg
        rwa [Int.cast_neg, sub_neg_eq_add, ← abs_neg, neg_add']
      rw [roundEven_neg, hOpposite, neg_neg]

theorem truncated_neg (r : ℚ) : truncated (-r) = -truncated r := by
  unfold truncated
  rw [Rat.num_neg_eq_neg_num, Rat.den_neg_eq_den, Int.neg_tdiv]

theorem truncated_of_nonneg {r : ℚ} (h : 0 ≤ r) : truncated r = ⌊r⌋ := by
  unfold truncated
  rw [Int.tdiv_eq_ediv_of_nonneg (Rat.num_nonneg.mpr h), Rat.floor_def']

/-- The fraction of a ratio, with its sign. -/
def fraction (r : ℚ) : ℚ := r - truncated r

theorem fraction_neg (r : ℚ) : fraction (-r) = -fraction r := by
  unfold fraction
  rw [truncated_neg]
  push_cast
  ring

theorem fraction_of_nonneg {r : ℚ} (h : 0 ≤ r) : fraction r = Int.fract r := by
  rw [fraction, truncated_of_nonneg h, Int.fract]

theorem abs_fraction_lt (r : ℚ) : |fraction r| < 1 := by
  induction r using nonneg_induction with
  | nonneg r h =>
      rw [fraction_of_nonneg h, Int.abs_fract]
      exact Int.fract_lt_one r
  | neg r ih => rwa [fraction_neg, abs_neg]

/-- The fraction of the value of a number is the value of a number: it ends at the same bit. -/
theorem isValue_fraction {r : ℚ} (h : IsValue r) : IsValue (fraction r) := by
  induction r using nonneg_induction with
  | nonneg r hr =>
      obtain ⟨m, e, hEq, hm, hLeast, hGreatest⟩ := h
      rw [abs_of_nonneg hr] at hEq
      rw [fraction_of_nonneg hr]
      by_cases he : 0 ≤ e
      · have hNone : Int.fract r = 0 := by
          rw [hEq, two_zpow_of_nonneg he, ← Nat.cast_mul, Int.fract_natCast]
        exact ⟨0, 0, by simp [hNone], by norm_num, by decide, by decide⟩
      · have hPlaces : Int.fract r = (m % Nat.pow 2 (-e).toNat : Nat) * 2 ^ e := by
          rw [hEq, two_zpow_of_neg he, ← div_eq_mul_inv, ← div_eq_mul_inv,
            Int.fract_div_natCast_eq_div_natCast_mod]
        refine ⟨m % Nat.pow 2 (-e).toNat, e, ?_, (Nat.mod_le m _).trans_lt hm, hLeast, hGreatest⟩
        rw [Int.abs_fract, hPlaces]
  | neg r ih =>
      rw [fraction_neg]
      exact (ih (neg_neg r ▸ h.neg)).neg

/-- The microseconds of a count of seconds. Its fraction is first turned into floating-point
microseconds. -/
def microseconds (r : ℚ) : Int :=
  1000000 * truncated r + roundEven ((nearest? (fraction r * 1000000)).getD 0)

theorem abs_fraction_mul_lt (r : ℚ) : |fraction r * 1000000| < 1000000 := by
  rw [abs_mul, abs_of_pos (by norm_num : (0 : ℚ) < 1000000)]
  linarith [abs_fraction_lt r]

theorem exists_nearest?_fraction (r : ℚ) :
    ∃ s, nearest? (fraction r * 1000000) = some s ∧
      |s - fraction r * 1000000| ≤ 2 ^ (-34 : Int) := by
  have hLess : |fraction r * 1000000| < 2 ^ (20 : Int) :=
    (abs_fraction_mul_lt r).trans (by norm_num)
  obtain ⟨s, hs⟩ := exists_nearest? (hLess.trans (zpow_lt_zpow_right₀ one_lt_two (by decide)))
  exact ⟨s, hs, (abs_sub_le_of_nearest? (k := 20) hs (by decide) hLess).trans (by norm_num)⟩

theorem toRat?_mul {x y : Double} {a b : ℚ} (hx : x.toRat? = some a) (hy : y.toRat? = some b) :
    (x * y).toRat? = nearest? (a * b) := by
  change (Double.mul x y).toRat? = _
  simp only [Double.mul, hx, hy, toRat?_ofRat]

/-- Whole seconds and microseconds are those of the count of microseconds. -/
theorem secondsAndMicroseconds_eq {r : ℚ} (h : IsValue r) :
    secondsAndMicroseconds r = (microseconds r / 1000000, (microseconds r % 1000000).toNat) := by
  have hMillion : (Double.ofRat 1000000 false).toRat? = some 1000000 := by
    have hValue : IsValue ((1000000 : Int) : ℚ) := isValue_intCast (by decide)
    exact_mod_cast hValue.nearest?_eq
  obtain ⟨s, hs, hError⟩ := exists_nearest?_fraction r
  have hScaled : (Double.ofRat (r - truncated r) false * Double.ofRat 1000000 false).toRat? =
      some s := by
    exact (toRat?_mul (isValue_fraction h).nearest?_eq hMillion).trans hs
  have hMicros : microseconds r = 1000000 * truncated r + roundEven s := by
    rw [microseconds, hs, Option.getD_some]
  have hRounded := abs_roundEven_sub_le s
  have hFraction := abs_fraction_mul_lt r
  have hBound : |roundEven s| ≤ 1000000 := by
    have hLess : |roundEven s| < 1000001 := by
      norm_num at hError
      rw [abs_le] at hError hRounded
      rw [← Int.cast_lt (R := ℚ), Int.cast_abs]
      rw [abs_lt] at hFraction ⊢
      push_cast
      constructor <;> linarith
    omega
  rw [abs_le] at hBound
  unfold secondsAndMicroseconds
  simp only [hScaled, Option.getD_some, hMicros]
  split
  · rw [Prod.mk.injEq]
    omega
  · split
    · rw [Prod.mk.injEq]
      omega
    · rw [Prod.mk.injEq]
      omega

theorem ofSeconds?_ofRat {r v : ℚ} (h : nearest? r = some v) :
    ofSeconds? (Double.ofRat r false) = ofMicroseconds? (microseconds v) := by
  have hValue : (Double.ofRat r false).toRat? = some v := h
  unfold ofSeconds? ofMicroseconds?
  simp only [hValue, Option.bind_eq_bind, Option.bind_some,
    secondsAndMicroseconds_eq (isValue_of_nearest? h)]
  cases Second.ofEpoch? (microseconds v / 1000000) <;> rfl

/-- Microseconds are exact up to their own rounding. -/
theorem abs_microseconds_sub_le (r : ℚ) :
    |(microseconds r : ℚ) - r * 1000000| ≤ 1 / 2 + 2 ^ (-34 : Int) := by
  obtain ⟨s, hs, hError⟩ := exists_nearest?_fraction r
  have hMicros : (microseconds r : ℚ) - r * 1000000 =
      (roundEven s - s) + (s - fraction r * 1000000) := by
    rw [microseconds, hs, Option.getD_some, fraction]
    push_cast
    ring
  rw [hMicros]
  exact (abs_add_le _ _).trans (add_le_add (abs_roundEven_sub_le s) hError)

/-- Where seconds have no more than 19 binary places, their microseconds are rounded only once. -/
theorem nearest?_fraction_of_coarse {r : ℚ} {j : Int} (h : r = j * 2 ^ (-19 : Int)) :
    nearest? (fraction r * 1000000) = some (fraction r * 1000000) := by
  obtain ⟨k, hk⟩ : ∃ k : Int, fraction r * 1000000 = k * 2 ^ (-13 : Int) := by
    have hPlaces : (j : ℚ) = r * 2 ^ 19 := by
      rw [h, mul_assoc]
      norm_num
    refine ⟨(j - truncated r * 2 ^ 19) * 15625, ?_⟩
    unfold fraction
    push_cast
    rw [hPlaces]
    norm_num
    ring
  have hUnit : (0 : ℚ) < 2 ^ (-13 : Int) := by norm_num
  have hLess := abs_fraction_mul_lt r
  rw [hk, abs_mul, abs_of_pos hUnit] at hLess
  have hBound : |k| < 2 ^ 53 := by
    norm_num at hLess
    rw [← Int.cast_lt (R := ℚ)]
    push_cast
    linarith
  rw [Int.abs_eq_natAbs] at hBound
  have hValue : IsValue (fraction r * 1000000) := by
    refine ⟨k.natAbs, -13, ?_, by omega, by decide, by decide⟩
    rw [hk, abs_mul, abs_of_pos hUnit, Nat.cast_natAbs, Int.cast_abs]
  exact hValue.nearest?_eq

theorem microseconds_of_coarse {r : ℚ} {j : Int} (h : r = j * 2 ^ (-19 : Int)) :
    |(microseconds r : ℚ) - r * 1000000| ≤ 1 / 2 ∧
      ∀ c : Int, Even c → |r * 1000000 - c| ≤ 1 / 2 → microseconds r = c := by
  have hMicros : microseconds r = 1000000 * truncated r + roundEven (fraction r * 1000000) := by
    rw [microseconds, nearest?_fraction_of_coarse h, Option.getD_some]
  constructor
  · have hRounded := abs_roundEven_sub_le (fraction r * 1000000)
    have hSame : (microseconds r : ℚ) - r * 1000000 =
        roundEven (fraction r * 1000000) - fraction r * 1000000 := by
      rw [hMicros, fraction]
      push_cast
      ring
    rwa [hSame]
  · intro c hEven hNear
    have hRest : roundEven (fraction r * 1000000) = c - 1000000 * truncated r := by
      apply roundEven_eq_of_even
      · exact hEven.sub (Even.mul_right (by decide) _)
      · have hSame : fraction r * 1000000 - ((c - 1000000 * truncated r : Int) : ℚ) =
            r * 1000000 - c := by
          unfold fraction
          push_cast
          ring
        rwa [hSame]
    omega

/-- The milliseconds that are read back: one less where the floating-point seconds are cut short by
more than half a microsecond. -/
def readBack (n : Int) : Int :=
  match nearest? (n / 1000) with
  | some seconds => if seconds + 1 / 2000000 < n / 1000 then n - 1 else n
  | none => n

theorem readBack_eq {n : Int} {v : ℚ} (h : nearest? (n / 1000) = some v) :
    readBack n = if v + 1 / 2000000 < n / 1000 then n - 1 else n := by
  rw [readBack, h]

theorem readBack_mem (n : Int) : n - 1 ≤ readBack n ∧ readBack n ≤ n := by
  unfold readBack
  split
  · split <;> omega
  · omega

/-- Nothing is lost of whole seconds. -/
theorem readBack_of_dvd {n : Int} (h : 1000 ∣ n) (hn : n.natAbs < 2 ^ 53) : readBack n = n := by
  obtain ⟨k, rfl⟩ := h
  have hWhole : ((1000 * k : Int) : ℚ) / 1000 = (k : Int) := by
    push_cast
    ring
  have hExact : nearest? (((1000 * k : Int) : ℚ) / 1000) = some (((1000 * k : Int) : ℚ) / 1000) := by
    rw [hWhole]
    exact (isValue_intCast (by omega)).nearest?_eq
  rw [readBack_eq hExact, if_neg (by linarith)]

section

variable {n : Int} {v : ℚ}

/-- Below `2 ^ 33` seconds the microseconds are exact. -/
theorem microseconds_of_near (hv : nearest? (n / 1000) = some v)
    (hn : |(n : ℚ) / 1000| < 2 ^ (33 : Int)) : microseconds v = 1000 * n ∧ readBack n = n := by
  have hSeconds := abs_sub_le_of_nearest? hv (by decide) hn
  have hMicros := abs_microseconds_sub_le v
  norm_num at hSeconds hMicros
  rw [abs_le] at hSeconds hMicros
  constructor
  · have hNear : |microseconds v - 1000 * n| < 1 := by
      rw [← Int.cast_lt (R := ℚ)]
      push_cast
      rw [abs_lt]
      constructor <;> linarith
    rw [Int.abs_lt_one_iff] at hNear
    omega
  · rw [readBack_eq hv, if_neg (by linarith)]

/-- From `2 ^ 33` seconds on they have few binary places, so the microseconds are short of the exact
ones if and only if the seconds are short by more than half of one. -/
theorem microseconds_of_far (hv : nearest? (n / 1000) = some v)
    (hFrom : 2 ^ (33 : Int) ≤ |(n : ℚ) / 1000|) (hTo : |(n : ℚ) / 1000| < 2 ^ (38 : Int)) :
    microseconds v / 1000 = readBack n := by
  have hSeconds := abs_sub_le_of_nearest? hv (by decide) hTo
  obtain ⟨j, hj⟩ := exists_mul_of_nearest? hv hFrom
  obtain ⟨hMicros, hEven⟩ := microseconds_of_coarse hj
  norm_num at hSeconds hMicros
  rw [abs_le] at hSeconds hMicros
  have hLess : 1000 * n - 1000 < microseconds v := by
    rw [← Int.cast_lt (R := ℚ)]
    push_cast
    linarith
  have hMore : microseconds v < 1000 * n + 1000 := by
    rw [← Int.cast_lt (R := ℚ)]
    push_cast
    linarith
  rw [readBack_eq hv]
  split
  · rename_i hShort
    have hBelow : microseconds v < 1000 * n := by
      rw [← Int.cast_lt (R := ℚ)]
      push_cast
      linarith
    omega
  · rename_i hLong
    rcases le_or_gt (v * 1000000 - 1000 * n) (1 / 2) with hNear | hAbove
    · have hExact : microseconds v = 1000 * n := by
        apply hEven (1000 * n) (Even.mul_right (by decide) n)
        push_cast
        rw [abs_le]
        constructor <;> linarith
      omega
    · have hFromExact : 1000 * n < microseconds v := by
        rw [← Int.cast_lt (R := ℚ)]
        push_cast
        linarith
      omega

theorem microseconds_div_of_lt (hv : nearest? (n / 1000) = some v)
    (hn : |(n : ℚ) / 1000| < 2 ^ (38 : Int)) : microseconds v / 1000 = readBack n := by
  rcases lt_or_ge |(n : ℚ) / 1000| (2 ^ (33 : Int)) with hNear | hFar
  · obtain ⟨hMicros, hSame⟩ := microseconds_of_near hv hNear
    omega
  · exact microseconds_of_far hv hFar hn

/-- From `2 ^ 38` seconds on, there are as many microseconds, before and after the start of 1970. -/
theorem le_natAbs_microseconds (hv : nearest? (n / 1000) = some v)
    (hn : 2 ^ (38 : Int) ≤ |(n : ℚ) / 1000|) :
    2 ^ 38 * 1000000 ≤ (microseconds v).natAbs := by
  have hPower : IsValue ((2 ^ 38 : Int) : ℚ) := isValue_intCast (by decide)
  have hPower : IsValue (2 ^ (38 : Int)) := by exact_mod_cast hPower
  have hMicros := abs_microseconds_sub_le v
  norm_num at hMicros
  rw [abs_le] at hMicros
  rcases le_total 0 ((n : ℚ) / 1000) with hPos | hNeg
  · rw [abs_of_nonneg hPos] at hn
    have hSeconds := le_of_nearest? hv hPower (by norm_num) hn
    norm_num at hSeconds
    have hLess : 2 ^ 38 * 1000000 - 1 < microseconds v := by
      rw [← Int.cast_lt (R := ℚ)]
      push_cast
      linarith
    omega
  · rw [abs_of_nonpos hNeg] at hn
    have hOpposite : nearest? (-((n : ℚ) / 1000)) = some (-v) := by
      rw [nearest?_neg, hv, Option.map_some]
    have hSeconds := le_of_nearest? hOpposite hPower (by norm_num) hn
    norm_num at hSeconds
    have hMore : microseconds v < -(2 ^ 38 * 1000000) + 1 := by
      rw [← Int.cast_lt (R := ℚ)]
      push_cast
      linarith
    omega

end

theorem inCalendar_iff {n : Int} :
    inCalendar n = true ↔ -62135596800000 ≤ n ∧ n < 253402300800000 := by
  unfold inCalendar dayLength Date.epoch Date.count
  simp only [Bool.and_eq_true, decide_eq_true_eq]
  omega

theorem abs_div_lt_iff {n : Int} {k : Nat} :
    |(n : ℚ) / 1000| < 2 ^ (k : Int) ↔ n.natAbs < 2 ^ k * 1000 := by
  rw [abs_div, abs_of_pos (by norm_num : (0 : ℚ) < 1000), div_lt_iff₀ (by norm_num),
    ← Int.cast_abs, Int.abs_eq_natAbs, zpow_natCast]
  norm_cast

/-- What is read back lies on the same side of each whole second. -/
theorem readBack_lt_iff {n b : Int} (hb : 1000 ∣ b) (hn : n.natAbs < 2 ^ 53) :
    readBack n < b ↔ n < b := by
  obtain ⟨hFrom, hTo⟩ := readBack_mem n
  by_cases hWhole : 1000 ∣ n
  · rw [readBack_of_dvd hWhole hn]
  · omega

/-- The calendar begins and ends with whole seconds. -/
theorem inCalendar_readBack {n : Int} (hn : n.natAbs < 2 ^ 53) :
    inCalendar (readBack n) = inCalendar n := by
  have hStart := readBack_lt_iff (b := -62135596800000) (by decide) hn
  have hStop := readBack_lt_iff (b := 253402300800000) (by decide) hn
  rw [Bool.eq_iff_iff, inCalendar_iff, inCalendar_iff]
  omega

/-- Whole seconds are read back, and any milliseconds of at most `2 ^ 33` seconds. -/
theorem readBack_eq_self {n : Int} (hInside : inCalendar n = true)
    (h : 1000 ∣ n ∨ n.natAbs ≤ 2 ^ 33 * 1000) : readBack n = n := by
  have hEnds := inCalendar_iff.mp hInside
  by_cases hWhole : 1000 ∣ n
  · exact readBack_of_dvd hWhole (by omega)
  · have hSeconds : |(n : ℚ) / 1000| < 2 ^ ((33 : Nat) : Int) := abs_div_lt_iff.mpr (by omega)
    obtain ⟨v, hv⟩ :=
      exists_nearest? (hSeconds.trans (zpow_lt_zpow_right₀ one_lt_two (by decide)))
    exact (microseconds_of_near hv hSeconds).2

theorem instant?_microseconds {n : Int} {v : ℚ} (hv : nearest? (n / 1000) = some v) :
    (ofMicroseconds? (microseconds v)).map instant? =
      if inCalendar n then
        some (.ok (if n < firstOfFourDigits then none else some (readBack n)))
      else none := by
  rw [instant?_ofMicroseconds?]
  rcases lt_or_ge n.natAbs (2 ^ 38 * 1000) with hNear | hFar
  · have hFirst : readBack n < firstOfFourDigits ↔ n < firstOfFourDigits :=
      readBack_lt_iff (firstOfFourDigits_eq ▸ by decide) (by omega)
    rw [microseconds_div_of_lt hv (abs_div_lt_iff.mpr hNear), inCalendar_readBack (by omega)]
    simp only [hFirst]
  · have hMicros := le_natAbs_microseconds hv
      (not_lt.mp (abs_div_lt_iff.not.mpr (not_lt.mpr hFar)))
    have hOutside : ¬inCalendar n = true ∧ ¬inCalendar (microseconds v / 1000) = true := by
      rw [inCalendar_iff, inCalendar_iff]
      omega
    rw [if_neg hOutside.1, if_neg hOutside.2]

/-- A whole number of milliseconds has a timestamp exactly if it lies in the calendar. From the
first year of four digits on, the timestamp is read back as this number or as the one before it, and
as this number if it counts whole seconds or at most `2 ^ 33` seconds. -/
theorem instant?_ofValue?_int (n : Int) :
    (ofValue? (.int n)).map instant? =
        (if inCalendar n then
          some (.ok (if n < firstOfFourDigits then none else some (readBack n)))
        else none) ∧
      n - 1 ≤ readBack n ∧ readBack n ≤ n ∧
      (inCalendar n = true → 1000 ∣ n ∨ n.natAbs ≤ 2 ^ 33 * 1000 → readBack n = n) := by
  refine ⟨?_, (readBack_mem n).1, (readBack_mem n).2, readBack_eq_self⟩
  change (ofSeconds? (Double.ofRat ((n : ℚ) / 1000) false)).map instant? = _
  cases hv : nearest? ((n : ℚ) / 1000) with
  | some v => rw [ofSeconds?_ofRat hv, instant?_microseconds hv]
  | none =>
      have hOutside : ¬inCalendar n = true := by
        intro hInside
        have hEnds := inCalendar_iff.mp hInside
        have hNear : |(n : ℚ) / 1000| < 2 ^ ((38 : Nat) : Int) := abs_div_lt_iff.mpr (by omega)
        obtain ⟨v, hSome⟩ :=
          exists_nearest? (hNear.trans (zpow_lt_zpow_right₀ one_lt_two (by decide)))
        rw [hv] at hSome
        cases hSome
      rw [if_neg hOutside, ofSeconds?, ← nearest?, hv]
      rfl

/-- A millisecond of this century and one before the year 1000 that counts no whole seconds; the
first is read back, the other one has a timestamp that is not. -/
theorem instant?_ofValue?_int_century :
    (ofValue? (.int 1700000000123)).map instant? = some (.ok (some 1700000000123)) ∧
      (ofValue? (.int (-31000000000001))).map instant? = some (.ok none) := by
  obtain ⟨hRead, -, -, hSame⟩ := instant?_ofValue?_int 1700000000123
  obtain ⟨hEarly, -, -, -⟩ := instant?_ofValue?_int (-31000000000001)
  have hCentury : inCalendar 1700000000123 = true ∧ inCalendar (-31000000000001) = true := by
    decide
  rw [if_pos hCentury.1, firstOfFourDigits_eq, if_neg (by decide),
    hSame hCentury.1 (Or.inr (by decide))] at hRead
  rw [if_pos hCentury.2, firstOfFourDigits_eq, if_pos (by decide)] at hEarly
  exact ⟨hRead, hEarly⟩

/-- The last second of the calendar loses its third millisecond, and the first instant of the
calendar has a timestamp that is not read. -/
theorem not_forall_readBack :
    ofValue? (.int 253402300799003) = some "9999-12-31T23:59:59.002Z" ∧
      instant? "9999-12-31T23:59:59.002Z" = .ok (some 253402300799002) ∧
      ofValue? (.int (-62135596800000)) = some "1-01-01T00:00:00.000Z" ∧
      instant? "1-01-01T00:00:00.000Z" = .ok none ∧
      ¬∀ n : Int, ofValue? (.int n) = none ∨
        ∃ s, ofValue? (.int n) = some s ∧ instant? s = .ok (some n) := by
  have hWritten : ofValue? (.int 253402300799003) = some "9999-12-31T23:59:59.002Z" := by
    decide +kernel
  have hRead : instant? "9999-12-31T23:59:59.002Z" = .ok (some 253402300799002) := by
    decide +kernel
  refine ⟨hWritten, hRead, by decide +kernel, by decide +kernel, fun h => ?_⟩
  rcases h 253402300799003 with hNone | ⟨s, hSome, hSame⟩
  · rw [hWritten] at hNone
    cases hNone
  · rw [hWritten, Option.some.injEq] at hSome
    rw [← hSome, hRead] at hSame
    cases hSame

end LogViewer.Timestamp
