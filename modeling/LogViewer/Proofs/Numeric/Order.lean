import Mathlib
import LogViewer.Numeric.Number
import LogViewer.Proofs.Numeric.Rounding
import LogViewer.Proofs.Success

/-! The order of floating-point numbers and sums. Rounding keeps the order, so a number that is not
negative makes a sum no smaller and a difference no greater than what it is added to or taken from,
although sums and differences are rounded. -/
namespace LogViewer

namespace Double

theorem toRat?_finite (negative : Bool) (m : Nat) (e : Int) :
    (finite negative m e).toRat? =
      some (if negative then -((m : ℚ) * 2 ^ e) else (m : ℚ) * 2 ^ e) := by
  have hMagnitude : (if 0 ≤ e then ((m * Nat.pow 2 e.toNat : Nat) : ℚ)
      else mkRat m (Nat.pow 2 (-e).toNat)) = (m : ℚ) * 2 ^ e := by
    split
    · rename_i h
      rw [two_zpow_of_nonneg h, Nat.cast_mul]
    · rename_i h
      rw [two_zpow_of_neg h, Rat.mkRat_eq_div, ← div_eq_mul_inv]
      rfl
  unfold toRat?
  dsimp only
  rw [hMagnitude]

/-- Whether a finite number has a significand and an exponent of the sizes that are kept. -/
def IsRepresentable : Double → Prop
  | finite _ m e => m < 2 ^ 53 ∧ leastExponent ≤ e ∧ e ≤ greatestExponent
  | _ => True

/-- Whether a number is at least `q`. -/
def AtLeast (x : Double) (q : ℚ) : Prop :=
  x = infinite false ∨ ∃ v, x.toRat? = some v ∧ q ≤ v

/-- Whether a number is at most `q`. -/
def AtMost (x : Double) (q : ℚ) : Prop :=
  x = infinite true ∨ ∃ v, x.toRat? = some v ∧ v ≤ q

theorem isRepresentable_zero (negative : Bool) : (zero negative).IsRepresentable :=
  ⟨by norm_num, le_rfl, by decide⟩

theorem toRat?_zero (negative : Bool) : (zero negative).toRat? = some 0 := by
  rw [zero, toRat?_finite]
  simp

theorem toRat?_infinite (negative : Bool) : (infinite negative).toRat? = none := rfl

theorem AtLeast.le {x : Double} {q v : ℚ} (h : x.AtLeast q) (hv : x.toRat? = some v) : q ≤ v := by
  obtain rfl | ⟨v', hv', hq⟩ := h
  · cases hv
  · obtain rfl := Option.some_inj.mp (hv.symm.trans hv')
    exact hq

theorem AtMost.le {x : Double} {q v : ℚ} (h : x.AtMost q) (hv : x.toRat? = some v) : v ≤ q := by
  obtain rfl | ⟨v', hv', hq⟩ := h
  · cases hv
  · obtain rfl := Option.some_inj.mp (hv.symm.trans hv')
    exact hq

/-- The value of a number that can be represented and is not negative. -/
theorem IsRepresentable.exists_eq {x : Double} (hx : x.IsRepresentable) {v : ℚ}
    (hv : x.toRat? = some v) (hNonneg : 0 ≤ v) :
    ∃ (m : Nat) (e : Int), v = m * 2 ^ e ∧ m < 2 ^ 53 ∧ leastExponent ≤ e ∧
      e ≤ greatestExponent := by
  cases x with
  | nan => cases hv
  | infinite negative => cases hv
  | finite negative m e =>
      obtain ⟨hm, hLeast, hGreatest⟩ := hx
      rw [toRat?_finite] at hv
      obtain rfl := Option.some_inj.mp hv
      cases negative with
      | false => exact ⟨m, e, rfl, hm, hLeast, hGreatest⟩
      | true =>
          have hUnit : (0 : ℚ) < 2 ^ e := zpow_pos two_pos e
          have hm : (m : ℚ) * 2 ^ e = 0 := by
            refine le_antisymm ?_ (by positivity)
            simpa using hNonneg
          refine ⟨0, e, ?_, by norm_num, hLeast, hGreatest⟩
          simp [hm]

theorem isRepresentable_ofQuotient (negative : Bool) (num : Nat) {den : Nat} (hDen : 0 < den) :
    (ofQuotient negative num den).IsRepresentable := by
  rcases Nat.eq_zero_or_pos num with rfl | hNum
  · exact isRepresentable_zero negative
  · obtain ⟨m, e, -, hm, hLeast, -, hEq⟩ := ofQuotient_eq hNum hDen negative
    rw [hEq]
    split
    · trivial
    · rename_i hGreatest
      exact ⟨hm, hLeast, not_lt.mp hGreatest⟩

theorem isRepresentable_ofRat (r : ℚ) (negativeZero : Bool) :
    (ofRat r negativeZero).IsRepresentable := by
  unfold ofRat
  split
  · exact isRepresentable_zero negativeZero
  · exact isRepresentable_ofQuotient _ _ r.den_pos

theorem natAbs_num_div_den {r : ℚ} (h : 0 < r) : (r.num.natAbs : ℚ) / r.den = r := by
  have hNum : (r.num.natAbs : ℚ) = r.num := by
    rw [Nat.cast_natAbs, abs_of_pos (Rat.num_pos.mpr h)]
  rw [hNum, Rat.num_div_den]

/-- Rounding up to a number or beyond it does not pass below it. -/
theorem atLeast_ofRat {x : Double} (hx : x.IsRepresentable) {v r : ℚ} (hv : x.toRat? = some v)
    (hNonneg : 0 ≤ v) (h : v ≤ r) (negativeZero : Bool) : (ofRat r negativeZero).AtLeast v := by
  obtain ⟨m, e, rfl, hm, hLeast, -⟩ := hx.exists_eq hv hNonneg
  unfold ofRat
  split
  · rename_i hZero
    exact Or.inr ⟨0, toRat?_zero negativeZero, hZero ▸ h⟩
  · rename_i hZero
    have hPos : 0 < r := lt_of_le_of_ne (hNonneg.trans h) (Ne.symm hZero)
    have hNum : 0 < r.num.natAbs := Int.natAbs_pos.mpr (Rat.num_ne_zero.mpr hZero)
    rw [← natAbs_num_div_den hPos] at h
    obtain ⟨m', e', hValue, -, -, -, hEq⟩ := ofQuotient_eq hNum r.den_pos (decide (r < 0))
    rw [hEq, decide_eq_false (not_lt.mpr hPos.le)]
    split
    · exact Or.inl rfl
    · refine Or.inr ⟨_, toRat?_finite false m' e', ?_⟩
      exact hValue ▸ le_rounded hNum r.den_pos hm hLeast h

/-- Rounding down to a number or below it does not pass beyond it. -/
theorem atMost_ofRat {x : Double} (hx : x.IsRepresentable) {v r : ℚ} (hv : x.toRat? = some v)
    (hNonneg : 0 ≤ v) (h : r ≤ v) (negativeZero : Bool) : (ofRat r negativeZero).AtMost v := by
  obtain ⟨m, e, rfl, hm, hLeast, hGreatest⟩ := hx.exists_eq hv hNonneg
  unfold ofRat
  split
  · exact Or.inr ⟨0, toRat?_zero negativeZero, hNonneg⟩
  · rename_i hZero
    have hNum : 0 < r.num.natAbs := Int.natAbs_pos.mpr (Rat.num_ne_zero.mpr hZero)
    obtain ⟨m', e', hValue, -, -, hFull, hEq⟩ := ofQuotient_eq hNum r.den_pos (decide (r < 0))
    rw [hEq]
    rcases lt_or_gt_of_ne hZero with hNeg | hPos
    · rw [decide_eq_true hNeg]
      split
      · exact Or.inl rfl
      · refine Or.inr ⟨_, toRat?_finite true m' e', le_trans ?_ hNonneg⟩
        have hUnit : (0 : ℚ) < 2 ^ e' := zpow_pos two_pos e'
        have hMagnitude : (0 : ℚ) ≤ m' * 2 ^ e' := by positivity
        simpa using hMagnitude
    · rw [← natAbs_num_div_den hPos] at h
      have hRounded := rounded_le hNum r.den_pos hm hLeast h
      rw [decide_eq_false (not_lt.mpr hPos.le)]
      split
      · rename_i hBeyond
        have hTooLarge : (m : ℚ) * 2 ^ e < m' * 2 ^ e' := by
          calc (m : ℚ) * 2 ^ e < ((2 ^ 52 : Nat) : ℚ) * 2 ^ e' :=
                mul_two_zpow_lt hm (by omega)
            _ ≤ m' * 2 ^ e' :=
                mul_le_mul_of_nonneg_right (Nat.cast_le.mpr (hFull hBeyond))
                  (zpow_pos two_pos _).le
        exact absurd (hValue ▸ hRounded) (not_le.mpr hTooLarge)
      · exact Or.inr ⟨_, toRat?_finite false m' e', hValue ▸ hRounded⟩

theorem AtLeast.mono {x : Double} {p q : ℚ} (h : x.AtLeast q) (hLe : p ≤ q) : x.AtLeast p := by
  obtain hInfinite | ⟨v, hv, hq⟩ := h
  · exact Or.inl hInfinite
  · exact Or.inr ⟨v, hv, hLe.trans hq⟩

theorem AtMost.mono {x : Double} {p q : ℚ} (h : x.AtMost p) (hLe : p ≤ q) : x.AtMost q := by
  obtain hInfinite | ⟨v, hv, hp⟩ := h
  · exact Or.inl hInfinite
  · exact Or.inr ⟨v, hv, hp.trans hLe⟩

theorem toRat?_neg (x : Double) : (-x).toRat? = x.toRat?.map (- ·) := by
  cases x with
  | nan => rfl
  | infinite negative => rfl
  | finite negative m e =>
      change (finite (!negative) m e).toRat? = _
      rw [toRat?_finite, toRat?_finite]
      cases negative <;> simp

theorem add_finite {x y : Double} {v w : ℚ} (hx : x.toRat? = some v) (hy : y.toRat? = some w) :
    x + y = ofRat (v + w) (x.isNegative && y.isNegative) := by
  change Double.add x y = _
  simp only [Double.add, hx, hy]

theorem add_infinite {x : Double} {v : ℚ} (hx : x.toRat? = some v) (negative : Bool) :
    x + infinite negative = infinite negative := by
  change Double.add x (infinite negative) = _
  simp only [Double.add, hx, toRat?_infinite]

theorem infinite_add {y : Double} (hy : y.AtLeast 0) : infinite false + y = infinite false := by
  change Double.add (infinite false) y = _
  obtain rfl | ⟨w, hw, -⟩ := hy
  · simp only [Double.add, toRat?_infinite, if_true]
  · simp only [Double.add, toRat?_infinite, hw]

theorem isRepresentable_add {x y : Double} (hx : x.IsRepresentable) (hy : y.IsRepresentable) :
    (x + y).IsRepresentable := by
  change (Double.add x y).IsRepresentable
  unfold Double.add
  split
  · exact isRepresentable_ofRat _ _
  · exact hy
  · exact hx
  · split
    · exact hx
    · trivial

/-- A sum with a number that is not negative is no smaller. -/
theorem atLeast_add {x y : Double} {q : ℚ} (hx : x.IsRepresentable) (hNonneg : x.AtLeast 0)
    (hy : y.AtLeast 0) (h : x.AtLeast q) : (x + y).AtLeast q := by
  obtain rfl | ⟨v, hv, hNonneg⟩ := hNonneg
  · rw [infinite_add hy]
    exact Or.inl rfl
  · obtain rfl | ⟨w, hw, hy⟩ := hy
    · rw [add_infinite hv]
      exact Or.inl rfl
    · rw [add_finite hv hw]
      exact (atLeast_ofRat hx hv hNonneg (le_add_of_nonneg_right hy) _).mono (h.le hv)

/-- A difference with a number that is not negative is no greater. -/
theorem atMost_sub {x y : Double} {q : ℚ} (hx : x.IsRepresentable) (hNonneg : x.AtLeast 0)
    (hy : y.AtLeast 0) (h : x.AtMost q) : (x - y).AtMost q := by
  change (x + -y).AtMost q
  obtain rfl | ⟨v, hv, hq⟩ := h
  · obtain hEq | ⟨v, hv, -⟩ := hNonneg
    · cases hEq
    · cases hv
  · obtain rfl | ⟨w, hw, hy⟩ := hy
    · change (x + infinite true).AtMost q
      rw [add_infinite hv]
      exact Or.inl rfl
    · have hNeg : (-y).toRat? = some (-w) := by rw [toRat?_neg, hw, Option.map_some]
      rw [add_finite hv hNeg]
      exact (atMost_ofRat hx hv (hNonneg.le hv) (by linarith) _).mono hq

theorem ofInt?_eq_ok {n : Int} {x : Double} (h : ofInt? n = .ok x) : x = ofRat n false := by
  unfold ofInt? at h
  split at h
  · cases h
  · exact (Except.ok.inj h).symm

theorem isRepresentable_of_ofInt? {n : Int} {x : Double} (h : ofInt? n = .ok x) :
    x.IsRepresentable := by
  rw [ofInt?_eq_ok h]
  exact isRepresentable_ofRat _ _

theorem atLeast_of_ofInt? {n : Int} {x : Double} (h : ofInt? n = .ok x) (hNonneg : 0 ≤ n) :
    x.AtLeast 0 := by
  rw [ofInt?_eq_ok h]
  exact atLeast_ofRat (isRepresentable_zero false) (toRat?_zero false) le_rfl
    (Int.cast_nonneg hNonneg) false

end Double

namespace Number

theorem le_int_double {n : Int} {x : Double} : le (int n) (double x) = true ↔ x.AtLeast n := by
  cases x with
  | nan => simp [le, Double.compareWith, Double.AtLeast, Double.toRat?]
  | infinite negative => simp [le, Double.compareWith, Double.AtLeast, Double.toRat?]
  | finite negative m e =>
      simp [le, Double.compareWith, Double.AtLeast, Double.toRat?_finite]

theorem le_double_int {n : Int} {x : Double} : le (double x) (int n) = true ↔ x.AtMost n := by
  cases x with
  | nan => simp [le, Double.compareWith, Double.AtMost, Double.toRat?]
  | infinite negative => simp [le, Double.compareWith, Double.AtMost, Double.toRat?]
  | finite negative m e =>
      simp [le, Double.compareWith, Double.AtMost, Double.toRat?_finite]

theorem le_int_int {m n : Int} : le (int m) (int n) = true ↔ m ≤ n := decide_eq_true_iff

/-- Whether a number of either kind is kept in the sizes of its kind; whole numbers have any size. -/
def IsRepresentable : Number → Prop
  | int _ => True
  | double x => x.IsRepresentable

theorem toDouble_nonneg {a : Number} {x : Double} (ha : a.IsRepresentable)
    (hNonneg : le (int 0) a = true) (h : a.toDouble = .ok x) :
    x.IsRepresentable ∧ x.AtLeast 0 := by
  cases a with
  | int n =>
      exact ⟨Double.isRepresentable_of_ofInt? h,
        Double.atLeast_of_ofInt? h (le_int_int.mp hNonneg)⟩
  | double x =>
      obtain rfl := Except.ok.inj h
      exact ⟨ha, by simpa using le_int_double.mp hNonneg⟩

theorem add_eq_ok {a b c : Number} (h : Number.add a b = .ok c) :
    (∃ m n, a = int m ∧ b = int n ∧ c = int (m + n)) ∨
      ∃ x y, a.toDouble = .ok x ∧ b.toDouble = .ok y ∧ c = double (x + y) := by
  have hDoubles (h : (do return double ((← a.toDouble) + (← b.toDouble))) = Except.ok c) :
      ∃ x y, a.toDouble = .ok x ∧ b.toDouble = .ok y ∧ c = double (x + y) := by
    obtain ⟨x, hx, h⟩ := bind_eq_ok h
    obtain ⟨y, hy, h⟩ := bind_eq_ok h
    exact ⟨x, y, hx, hy, (Except.ok.inj h).symm⟩
  cases a with
  | int m =>
      cases b with
      | int n => exact Or.inl ⟨m, n, rfl, rfl, (Except.ok.inj h).symm⟩
      | double y => exact Or.inr (hDoubles h)
  | double x => exact Or.inr (hDoubles h)

/-- A sum of numbers that are not negative is not negative either. -/
theorem nonneg_add {a b c : Number} (ha : a.IsRepresentable) (hb : b.IsRepresentable)
    (haNonneg : le (int 0) a = true) (hbNonneg : le (int 0) b = true)
    (h : Number.add a b = .ok c) : c.IsRepresentable ∧ le (int 0) c = true := by
  obtain ⟨m, n, rfl, rfl, rfl⟩ | ⟨x, y, hx, hy, rfl⟩ := add_eq_ok h
  · exact ⟨trivial, le_int_int.mpr
      (Int.add_nonneg (le_int_int.mp haNonneg) (le_int_int.mp hbNonneg))⟩
  · obtain ⟨hx, hxNonneg⟩ := toDouble_nonneg ha haNonneg hx
    obtain ⟨hy, hyNonneg⟩ := toDouble_nonneg hb hbNonneg hy
    refine ⟨Double.isRepresentable_add hx hy, le_int_double.mpr ?_⟩
    exact Double.atLeast_add hx hxNonneg hyNonneg (by simpa using hxNonneg)

section

variable {a : Number} {k : Int} {y : Double}

/-- Adding a whole number that is not negative, and not too large, keeps what lies below. -/
theorem exists_add_int (hy : Double.ofInt? k = .ok y) (hk : 0 ≤ k) (ha : a.IsRepresentable)
    (hNonneg : le (int 0) a = true) :
    ∃ c, Number.add a (int k) = .ok c ∧ ∀ n, le (int n) a = true → le (int n) c = true := by
  cases a with
  | int m =>
      refine ⟨int (m + k), rfl, fun n h => ?_⟩
      exact le_int_int.mpr (le_add_of_le_of_nonneg (le_int_int.mp h) hk)
  | double x =>
      have hSum : Number.add (double x) (int k) = .ok (double (x + y)) := by
        simp only [Number.add, toDouble, hy]
        rfl
      refine ⟨double (x + y), hSum, fun n h => le_int_double.mpr ?_⟩
      exact Double.atLeast_add ha (by simpa using le_int_double.mp hNonneg)
        (Double.atLeast_of_ofInt? hy hk) (le_int_double.mp h)

/-- Taking a whole number away that is not negative, and not too large, keeps what lies above. -/
theorem exists_sub_int (hy : Double.ofInt? k = .ok y) (hk : 0 ≤ k) (ha : a.IsRepresentable)
    (hNonneg : le (int 0) a = true) :
    ∃ c, Number.sub a (int k) = .ok c ∧ ∀ n, le a (int n) = true → le c (int n) = true := by
  cases a with
  | int m =>
      refine ⟨int (m - k), rfl, fun n h => le_int_int.mpr ?_⟩
      have hLe := le_int_int.mp h
      omega
  | double x =>
      have hDifference : Number.sub (double x) (int k) = .ok (double (x - y)) := by
        simp only [Number.sub, toDouble, hy]
        rfl
      refine ⟨double (x - y), hDifference, fun n h => le_double_int.mpr ?_⟩
      exact Double.atMost_sub ha (by simpa using le_int_double.mp hNonneg)
        (Double.atLeast_of_ofInt? hy hk) (le_double_int.mp h)

end

end Number

end LogViewer
