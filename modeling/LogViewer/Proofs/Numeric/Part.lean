import Mathlib
import LogViewer.Proofs.Numeric.Nearest

/-! Parts of a whole. The quotient of a whole number by a greater number lies between nought and
one. It is rounded, so it can come to be one, but not before the whole number has 54 bits. Only an
infinite number is greater than a whole number beyond the floating-point range, by which this cannot
be divided. -/
namespace LogViewer

namespace Double

variable {a b v : ℚ} {n : Int}

theorem exists_nearest?_of_mem_Icc {r : ℚ} (hr : r ∈ Set.Icc 0 1) :
    ∃ v ∈ Set.Icc 0 1, nearest? r = some v := by
  obtain ⟨hNonneg, hOne⟩ := hr
  have hLess : |r| < 2 ^ (1023 : Int) := by
    rw [abs_of_nonneg hNonneg]
    exact hOne.trans_lt (one_lt_zpow₀ one_lt_two (by decide))
  have hZeroValue : IsValue ((0 : Int) : ℚ) := isValue_intCast (by decide)
  have hOneValue : IsValue ((1 : Int) : ℚ) := isValue_intCast (by decide)
  rw [Int.cast_zero] at hZeroValue
  rw [Int.cast_one] at hOneValue
  obtain ⟨v, hv⟩ := exists_nearest? hLess
  exact ⟨v, ⟨le_of_nearest? hv hZeroValue le_rfl hNonneg,
    nearest?_le hv hOneValue zero_le_one hOne⟩, hv⟩

/-- A rounded quotient stays below one where the divisor is greater by one and the dividend has at
most 54 bits. -/
theorem lt_one_of_nearest? (h : nearest? (a / b) = some v) (hNonneg : 0 ≤ a) (hGap : a + 1 ≤ b)
    (hSmall : a + 1 < 2 ^ 54) : v < 1 := by
  have hUp : 0 < a + 1 := by linarith
  have hQuotient : a / b ≤ 1 - 1 / (a + 1) := by
    calc a / b ≤ a / (a + 1) := div_le_div_of_nonneg_left hNonneg hUp hGap
      _ = 1 - 1 / (a + 1) := by field_simp; ring
  have hRoom : (2 : ℚ) ^ (0 - 54 : Int) < 1 / (a + 1) := by
    rw [lt_div_iff₀ hUp]
    calc (2 : ℚ) ^ (0 - 54 : Int) * (a + 1) < 2 ^ (0 - 54 : Int) * 2 ^ 54 :=
          mul_lt_mul_of_pos_left hSmall (zpow_pos two_pos _)
      _ = 1 := by norm_num
  have hLess : |a / b| < 2 ^ (0 : Int) := by
    rw [abs_of_nonneg (div_nonneg hNonneg (hUp.le.trans hGap)), zpow_zero]
    have hPart : 0 < 1 / (a + 1) := one_div_pos.mpr hUp
    linarith
  have hMoved := le_of_abs_le (abs_sub_le_of_nearest? h (by decide) hLess)
  linarith

theorem div_finite {x y : Double} (hx : x.toRat? = some a) (hy : y.toRat? = some b) (hb : b ≠ 0) :
    x / y = ofRat (a / b) (x.isNegative != y.isNegative) := by
  change Double.div x y = _
  simp only [Double.div, hx, hy, if_neg hb]

theorem div_infinite {x : Double} (hx : x.toRat? = some a) :
    x / infinite false = zero (x.isNegative != false) := by
  change Double.div x (infinite false) = _
  simp only [Double.div, hx, toRat?_infinite]
  rfl

theorem isRepresentable_mul (x y : Double) : (x * y).IsRepresentable := by
  change (Double.mul x y).IsRepresentable
  unfold Double.mul
  dsimp only
  split
  · exact isRepresentable_ofRat _ _
  · split <;> trivial

theorem isZero_eq_false {y : Double} (hy : y.toRat? = some b) (hb : b ≠ 0) : y.isZero = false := by
  cases y with
  | nan => rfl
  | infinite negative => rfl
  | finite negative m e =>
      rw [toRat?_finite] at hy
      refine beq_false_of_ne fun hm => hb ?_
      rw [← Option.some_inj.mp hy, hm]
      simp

theorem ofRat_ne_nan (r : ℚ) (negativeZero : Bool) : ofRat r negativeZero ≠ nan := by
  unfold ofRat ofQuotient
  dsimp only
  split_ifs <;> exact Double.noConfusion

theorem exists_toRat?_of_ofInt? {x : Double} (h : ofInt? n = .ok x) :
    ∃ a, x.toRat? = some a ∧ nearest? n = some a := by
  have hEq := ofInt?_eq_ok h
  unfold ofInt? at h
  cases hRat : ofRat n false with
  | nan => exact absurd hRat (ofRat_ne_nan n false)
  | infinite negative =>
      rw [hRat] at h
      cases h
  | finite negative m e =>
      refine ⟨_, hEq ▸ hRat ▸ toRat?_finite negative m e, ?_⟩
      rw [nearest?, hRat, toRat?_finite]

theorem ofInt?_eq_ok_of_nearest? (h : nearest? n = some a) : ofInt? n = .ok (ofRat n false) := by
  unfold ofInt?
  split
  · rename_i hInfinite
    rw [nearest?, hInfinite] at h
    cases h
  · rfl

theorem ofInt?_eq_ok_or_error (n : Int) :
    (∃ x, ofInt? n = .ok x) ∨ ofInt? n = .error .operandTooLarge := by
  unfold ofInt?
  split
  · exact Or.inr rfl
  · exact Or.inl ⟨_, rfl⟩

/-- A whole number that is no greater than a value is rounded to one that is no greater either. -/
theorem exists_nearest?_of_le (hNonneg : 0 ≤ n) (hb : IsValue b) (hLe : n ≤ b) :
    ∃ a, nearest? n = some a ∧ 0 ≤ a ∧ a ≤ b := by
  have hFrom : (0 : ℚ) ≤ n := Int.cast_nonneg hNonneg
  obtain ⟨x, hx, hValue⟩ := hb.exists_representable (hFrom.trans hLe)
  have hLower := atLeast_ofRat (isRepresentable_zero false) (toRat?_zero false) le_rfl hFrom false
  obtain hInfinite | ⟨a, ha, hUpper⟩ := atMost_ofRat hx hValue (hFrom.trans hLe) hLe false
  · obtain hOther | ⟨v, hv, -⟩ := hLower
    · rw [hInfinite] at hOther
      cases hOther
    · rw [hInfinite] at hv
      cases hv
  · exact ⟨a, ha, hLower.le ha, hUpper⟩

/-- Rounding keeps the distance of one between a whole number and a value beyond the next one. -/
theorem add_one_le_of_nearest? (h : nearest? n = some a) (hNonneg : 0 ≤ n) (hb : IsValue b)
    (hGap : n + 1 < b) (hSmall : n < 2 ^ 54 - 1) : a + 1 ≤ b ∧ a + 1 < 2 ^ 54 := by
  have hnLe : (n : ℚ) + 1 ≤ 2 ^ 54 - 1 := by exact_mod_cast (by omega : n + 1 ≤ 2 ^ 54 - 1)
  have hnNonneg : (0 : ℚ) ≤ n := Int.cast_nonneg hNonneg
  rcases lt_or_ge n (2 ^ 53) with hExact | hLarge
  · rw [(isValue_intCast (by omega : n.natAbs < 2 ^ 53)).nearest?_eq] at h
    obtain rfl := Option.some_inj.mp h
    constructor <;> linarith
  · -- From here on both the rounded number and the value are even.
    have hFrom : (2 : ℚ) ^ (53 : Int) ≤ n := by exact_mod_cast hLarge
    have hTo : |(n : ℚ)| < 2 ^ (54 : Int) := by
      rw [abs_of_nonneg hnNonneg]
      exact_mod_cast (by omega : n < 2 ^ 54)
    obtain ⟨i, rfl⟩ := exists_mul_of_nearest? h (by rwa [abs_of_nonneg hnNonneg])
    obtain ⟨j, rfl⟩ := exists_mul_of_nearest? hb.nearest?_eq (k := 53) (by
      rw [abs_of_nonneg (by linarith)]
      linarith)
    have hMoved := le_of_abs_le (abs_sub_le_of_nearest? h (by decide) hTo)
    have hUnit : (2 : ℚ) ^ (53 - 52 : Int) = 2 := by norm_num
    have hHalf : (2 : ℚ) ^ (54 - 54 : Int) = 1 := by norm_num
    rw [hUnit] at hGap hMoved ⊢
    rw [hHalf] at hMoved
    have hi : i * 2 ≤ n + 1 := by
      have hLe : (i : ℚ) * 2 ≤ n + 1 := by linarith
      exact_mod_cast hLe
    have hj : n + 1 < j * 2 := by exact_mod_cast hGap
    constructor
    · exact_mod_cast (by omega : i * 2 + 1 ≤ j * 2)
    · exact_mod_cast (by omega : i * 2 + 1 < 2 ^ 54)

end Double

namespace Number

/-- Whether a result is a floating-point number between nought and one, which is below one if the
dividend is less than the greatest number of 54 bits. -/
def IsPart (n : Int) (result : Except ArithmeticError Number) : Prop :=
  ∃ x v, result = .ok (double x) ∧ x.toRat? = some v ∧ 0 ≤ v ∧ v ≤ 1 ∧ (n < 2 ^ 54 - 1 → v < 1)

variable {m n : Int} {y : Double} {a b : ℚ}

/-- The rounded quotient of what a whole number is rounded to. -/
theorem isPart_ofRat (hNonneg : 0 ≤ a) (hLe : a ≤ b) (hPos : 0 < b)
    (hGap : n < 2 ^ 54 - 1 → a + 1 ≤ b ∧ a + 1 < 2 ^ 54) (negativeZero : Bool) :
    IsPart n (.ok (double (.ofRat (a / b) negativeZero))) := by
  have hQuotient : a / b ∈ Set.Icc 0 1 :=
    ⟨div_nonneg hNonneg hPos.le, div_le_one_of_le₀ hLe hPos.le⟩
  obtain ⟨v, ⟨hFrom, hTo⟩, hv⟩ := Double.exists_nearest?_of_mem_Icc hQuotient
  refine ⟨_, v, rfl, (Double.toRat?_ofRat _ _).trans hv, hFrom, hTo, fun hSmall => ?_⟩
  obtain ⟨hApart, hBits⟩ := hGap hSmall
  exact Double.lt_one_of_nearest? hv hNonneg hApart hBits

theorem isPart_div_int (hNonneg : 0 ≤ n) (hGap : n + 1 ≤ m) :
    IsPart n (Number.div (int n) (int m)) := by
  have hn : (0 : ℚ) ≤ n := Int.cast_nonneg hNonneg
  have hm : (n : ℚ) + 1 ≤ m := by exact_mod_cast hGap
  have hPart := isPart_ofRat (n := n) (a := n) (b := m) hn (by linarith) (by linarith)
    (fun hSmall => ⟨hm, by exact_mod_cast (by omega : n + 1 < 2 ^ 54)⟩) (n = 0 ∧ m < 0)
  obtain ⟨x, v, hx, hv, -⟩ := id hPart
  have hRatio : Double.ofRatio n m = .ok (.ofRat ((n : ℚ) / m) (n = 0 ∧ m < 0)) := by
    unfold Double.ofRatio
    rw [if_neg (by omega)]
    split
    · rename_i hInfinite
      rw [hInfinite] at hx
      cases hx
      cases hv
    · rfl
  simp only [Number.div, hRatio]
  exact hPart

theorem div_int_double {x : Double} (hx : Double.ofInt? n = .ok x) (hy : y.isZero = false) :
    Number.div (int n) (double y) = .ok (double (x / y)) := by
  simp only [Number.div, toDouble, hx, bind, Except.bind, hy]
  rfl

/-- The quotient by a floating-point number beyond the next whole number. -/
theorem isPart_div_double (hNonneg : 0 ≤ n) (hy : y.IsRepresentable) (hb : y.toRat? = some b)
    (hGap : n + 1 < b) : IsPart n (Number.div (int n) (double y)) := by
  have hn : (0 : ℚ) ≤ n := Int.cast_nonneg hNonneg
  have hPos : 0 < b := by linarith
  have hValue := hy.isValue hb
  obtain ⟨a, ha, hFrom, hTo⟩ := Double.exists_nearest?_of_le hNonneg hValue (by linarith)
  have hQuotient : Number.div (int n) (double y) =
      .ok (double (.ofRat (a / b) ((Double.ofRat n false).isNegative != y.isNegative))) := by
    rw [← Double.div_finite ha hb hPos.ne']
    exact div_int_double (Double.ofInt?_eq_ok_of_nearest? ha) (Double.isZero_eq_false hb hPos.ne')
  rw [hQuotient]
  exact isPart_ofRat hFrom hTo hPos
    (Double.add_one_le_of_nearest? ha hNonneg hValue hGap) _

/-- A whole number is a part of an infinite one, unless it is beyond the floating-point range. -/
theorem isPart_div_infinite (n : Int) :
    IsPart n (Number.div (int n) (double (.infinite false))) ∨
      Double.ofInt? n = .error .operandTooLarge ∧
        Number.div (int n) (double (.infinite false)) = .error .operandTooLarge := by
  obtain ⟨x, hx⟩ | hLarge := Double.ofInt?_eq_ok_or_error n
  · obtain ⟨a, ha, -⟩ := Double.exists_toRat?_of_ofInt? hx
    refine Or.inl ⟨_, 0, div_int_double hx rfl, ?_, le_rfl, zero_le_one, fun _ => zero_lt_one⟩
    rw [Double.div_infinite ha]
    exact Double.toRat?_zero _
  · refine Or.inr ⟨hLarge, ?_⟩
    simp only [Number.div, toDouble, hLarge]
    rfl

theorem lt_int_double {x : Double} :
    lt (int n) (double x) = true ↔ x = .infinite false ∨ ∃ v, x.toRat? = some v ∧ n < v := by
  cases x with
  | nan => simp [lt, Double.compareWith, Double.toRat?]
  | infinite negative => simp [lt, Double.compareWith, Double.toRat?]
  | finite negative m e => simp [lt, Double.compareWith, Double.toRat?_finite]

/-- Whether a number is no less than a whole number, and greater if it is in floating point. -/
def IsFrom (m : Int) : Number → Prop
  | int k => m ≤ k
  | double y => y.IsRepresentable ∧ lt (int m) (double y) = true

theorem IsFrom.lt {w : Number} (h : w.IsFrom m) (hLt : n < m) : lt (int n) w = true := by
  cases w with
  | int k => exact decide_eq_true (hLt.trans_le h)
  | double y =>
      rw [lt_int_double]
      refine (lt_int_double.mp h.2).imp_right fun ⟨v, hv, hBeyond⟩ => ⟨v, hv, ?_⟩
      exact (Int.cast_lt.mpr hLt).trans hBeyond

/-- A whole number is a part of every number from a greater whole number on, unless it is beyond the
floating-point range and that number is infinite. -/
theorem IsFrom.isPart_div {w : Number} (h : w.IsFrom m) (hNonneg : 0 ≤ n) (hLt : n < m) :
    IsPart n (Number.div (int n) w) ∨
      w = double (.infinite false) ∧ Double.ofInt? n = .error .operandTooLarge ∧
        Number.div (int n) w = .error .operandTooLarge := by
  cases w with
  | int k => exact Or.inl (isPart_div_int hNonneg (lt_of_lt_of_le hLt h))
  | double y =>
      obtain ⟨hKept, hBeyond⟩ := h
      obtain rfl | ⟨b, hb, hBeyond⟩ := lt_int_double.mp hBeyond
      · exact (isPart_div_infinite n).imp_right fun hLarge => ⟨rfl, hLarge⟩
      · refine Or.inl (isPart_div_double hNonneg hKept hb (lt_of_le_of_lt ?_ hBeyond))
        exact_mod_cast hLt

end Number

end LogViewer
