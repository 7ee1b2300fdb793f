import Mathlib
import LogViewer.Numeric.Number

/-! Rounding to floating-point numbers keeps the order. The numbers between which an exact result lies
are not passed over: a result that is at least a given number is at least this number after it was
rounded, and likewise at most. -/
namespace LogViewer

theorem le_roundQuotient {num den k : Nat} (hDen : 0 < den) (h : k * den ≤ num) :
    k ≤ roundQuotient num den := by
  have hBelow : k ≤ num / den := (Nat.le_div_iff_mul_le hDen).mpr h
  unfold roundQuotient
  dsimp only
  split_ifs <;> omega

theorem roundQuotient_le {num den k : Nat} (hDen : 0 < den) (h : num ≤ k * den) :
    roundQuotient num den ≤ k := by
  have hWhole := Nat.div_add_mod num den
  have hBelow : num / den ≤ k := by
    rw [Nat.div_le_iff_le_mul_add_pred hDen, Nat.mul_comm]
    omega
  have hRest : num % den ≠ 0 → num / den < k := by
    intro hSome
    refine lt_of_le_of_ne hBelow ?_
    rintro rfl
    rw [Nat.mul_comm] at h
    omega
  unfold roundQuotient
  dsimp only
  split_ifs <;> omega

theorem two_zpow_of_nonneg {e : Int} (h : 0 ≤ e) : (2 : ℚ) ^ e = (Nat.pow 2 e.toNat : Nat) := by
  obtain ⟨n, rfl⟩ := Int.eq_ofNat_of_zero_le h
  simp

theorem two_zpow_of_neg {e : Int} (h : ¬0 ≤ e) :
    (2 : ℚ) ^ e = ((Nat.pow 2 (-e).toNat : Nat) : ℚ)⁻¹ := by
  have hOpposite : 0 ≤ -e := by omega
  rw [← two_zpow_of_nonneg hOpposite, zpow_neg, inv_inv]

theorem natPow_two_ne_zero (n : Nat) : ((Nat.pow 2 n : Nat) : ℚ) ≠ 0 :=
  Nat.cast_ne_zero.mpr (Nat.pow_pos two_pos).ne'

/-- A significand is less than half of a full one with a greater exponent. -/
theorem mul_two_zpow_lt {m : Nat} (hm : m < 2 ^ 53) {e e' : Int} (h : e < e') :
    (m : ℚ) * 2 ^ e < ((2 ^ 52 : Nat) : ℚ) * 2 ^ e' := by
  calc (m : ℚ) * 2 ^ e < ((2 ^ 53 : Nat) : ℚ) * 2 ^ e :=
        mul_lt_mul_of_pos_right (Nat.cast_lt.mpr hm) (zpow_pos two_pos e)
    _ = ((2 ^ 52 : Nat) : ℚ) * 2 ^ (e + 1) := by
        rw [zpow_add_one₀ two_ne_zero]
        push_cast
        ring
    _ ≤ ((2 ^ 52 : Nat) : ℚ) * 2 ^ e' :=
        mul_le_mul_of_nonneg_left (zpow_le_zpow_right₀ one_le_two (by omega)) (Nat.cast_nonneg _)

/-- The sides of a quotient that counts `2 ^ e` as one. -/
def scaled (num den : Nat) (e : Int) : Nat × Nat :=
  if 0 ≤ e then (num, den * Nat.pow 2 e.toNat) else (num * Nat.pow 2 (-e).toNat, den)

section

variable {num den : Nat}

theorem scaled_snd_pos (hDen : 0 < den) (e : Int) : 0 < (scaled num den e).2 := by
  unfold scaled
  split
  · exact Nat.mul_pos hDen (Nat.pow_pos two_pos)
  · exact hDen

theorem scaled_eq (num den : Nat) (e : Int) :
    ((scaled num den e).1 : ℚ) / (scaled num den e).2 * 2 ^ e = num / den := by
  unfold scaled
  split
  · rename_i h
    rw [two_zpow_of_nonneg h, Nat.cast_mul, div_mul_eq_mul_div,
      mul_div_mul_right _ _ (natPow_two_ne_zero _)]
  · rename_i h
    rw [two_zpow_of_neg h, Nat.cast_mul, div_mul_eq_mul_div,
      mul_inv_cancel_right₀ (natPow_two_ne_zero _)]

theorem mul_two_zpow_le_iff (hDen : 0 < den) (k : Nat) (e : Int) :
    (k : ℚ) * 2 ^ e ≤ num / den ↔ k * (scaled num den e).2 ≤ (scaled num den e).1 := by
  have hSide : (0 : ℚ) < (scaled num den e).2 := Nat.cast_pos.mpr (scaled_snd_pos hDen e)
  have hPower : (0 : ℚ) < 2 ^ e := zpow_pos two_pos e
  rw [← scaled_eq num den e, mul_le_mul_iff_left₀ hPower, le_div_iff₀ hSide]
  norm_cast

theorem le_mul_two_zpow_iff (hDen : 0 < den) (k : Nat) (e : Int) :
    (num : ℚ) / den ≤ k * 2 ^ e ↔ (scaled num den e).1 ≤ k * (scaled num den e).2 := by
  have hSide : (0 : ℚ) < (scaled num den e).2 := Nat.cast_pos.mpr (scaled_snd_pos hDen e)
  have hPower : (0 : ℚ) < 2 ^ e := zpow_pos two_pos e
  rw [← scaled_eq num den e, mul_le_mul_iff_left₀ hPower, div_le_iff₀ hSide]
  norm_cast

theorem floorLog2_eq (hDen : 0 < den) :
    floorLog2 num den =
      if (2 : ℚ) ^ ((num.log2 : Int) - den.log2) ≤ num / den then (num.log2 : Int) - den.log2
      else (num.log2 : Int) - den.log2 - 1 := by
  have hReached : ((1 : Nat) : ℚ) * 2 ^ ((num.log2 : Int) - den.log2) ≤ num / den ↔ _ :=
    mul_two_zpow_le_iff hDen 1 _
  rw [Nat.cast_one, one_mul, one_mul] at hReached
  simp only [hReached]
  unfold floorLog2 scaled
  dsimp only [Int.ofNat_eq_natCast]
  split <;> rfl

/-- The logarithm of a quotient, rounded down. -/
theorem floorLog2_spec (hNum : 0 < num) (hDen : 0 < den) :
    (2 : ℚ) ^ floorLog2 num den ≤ num / den ∧ (num / den : ℚ) < 2 ^ (floorLog2 num den + 1) := by
  have hTwo : (2 : ℚ) ≠ 0 := two_ne_zero
  have hPositive : (0 : ℚ) < den := Nat.cast_pos.mpr hDen
  have hNumFrom : (2 : ℚ) ^ (num.log2 : Int) ≤ num := by
    rw [zpow_natCast]
    exact_mod_cast Nat.log2_self_le hNum.ne'
  have hNumTo : (num : ℚ) < 2 ^ ((num.log2 : Int) + 1) := by
    rw [← Nat.cast_succ, zpow_natCast]
    exact_mod_cast Nat.lt_log2_self
  have hDenFrom : (2 : ℚ) ^ (den.log2 : Int) ≤ den := by
    rw [zpow_natCast]
    exact_mod_cast Nat.log2_self_le hDen.ne'
  have hDenTo : (den : ℚ) < 2 ^ ((den.log2 : Int) + 1) := by
    rw [← Nat.cast_succ, zpow_natCast]
    exact_mod_cast Nat.lt_log2_self
  have hBelow : (2 : ℚ) ^ ((num.log2 : Int) - den.log2 - 1) ≤ num / den := by
    rw [le_div_iff₀ hPositive]
    calc (2 : ℚ) ^ ((num.log2 : Int) - den.log2 - 1) * den
        ≤ 2 ^ ((num.log2 : Int) - den.log2 - 1) * 2 ^ ((den.log2 : Int) + 1) :=
          mul_le_mul_of_nonneg_left hDenTo.le (zpow_pos two_pos _).le
      _ = 2 ^ (num.log2 : Int) := by rw [← zpow_add₀ hTwo]; congr 1; omega
      _ ≤ num := hNumFrom
  have hAbove : (num / den : ℚ) < 2 ^ ((num.log2 : Int) - den.log2 + 1) := by
    rw [div_lt_iff₀ hPositive]
    calc (num : ℚ) < 2 ^ ((num.log2 : Int) + 1) := hNumTo
      _ = 2 ^ ((num.log2 : Int) - den.log2 + 1) * 2 ^ (den.log2 : Int) := by
          rw [← zpow_add₀ hTwo]; congr 1; omega
      _ ≤ 2 ^ ((num.log2 : Int) - den.log2 + 1) * den :=
          mul_le_mul_of_nonneg_left hDenFrom (zpow_pos two_pos _).le
  rw [floorLog2_eq hDen]
  split
  · rename_i hReached
    exact ⟨hReached, hAbove⟩
  · rename_i hMissed
    rw [sub_add_cancel]
    exact ⟨hBelow, not_le.mp hMissed⟩

namespace Double

/-- The exponent of the grid to which a quotient is rounded. -/
def gridExponent (num den : Nat) : Int := max (floorLog2 num den - 52) leastExponent

/-- The place on the grid to which a quotient is rounded. -/
def gridPlace (num den : Nat) : Nat :=
  roundQuotient (scaled num den (gridExponent num den)).1 (scaled num den (gridExponent num den)).2

/-- A quotient after rounding, as if there were no greatest exponent. -/
def rounded (num den : Nat) : ℚ := gridPlace num den * 2 ^ gridExponent num den

theorem le_gridPlace (hDen : 0 < den) {k : Nat}
    (h : (k : ℚ) * 2 ^ gridExponent num den ≤ num / den) : k ≤ gridPlace num den :=
  le_roundQuotient (scaled_snd_pos hDen _) ((mul_two_zpow_le_iff hDen k _).mp h)

theorem gridPlace_le (hDen : 0 < den) {k : Nat}
    (h : (num / den : ℚ) ≤ k * 2 ^ gridExponent num den) : gridPlace num den ≤ k :=
  roundQuotient_le (scaled_snd_pos hDen _) ((le_mul_two_zpow_iff hDen k _).mp h)

theorem gridPlace_le_two_pow (hNum : 0 < num) (hDen : 0 < den) : gridPlace num den ≤ 2 ^ 53 := by
  refine gridPlace_le hDen (le_of_lt ?_)
  have hGrid : floorLog2 num den + 1 ≤ (53 : Nat) + gridExponent num den := by
    have hMax := le_max_left (floorLog2 num den - 52) leastExponent
    unfold gridExponent
    omega
  calc (num / den : ℚ) < 2 ^ (floorLog2 num den + 1) := (floorLog2_spec hNum hDen).2
    _ ≤ 2 ^ ((53 : Nat) + gridExponent num den) := zpow_le_zpow_right₀ one_le_two hGrid
    _ = ((2 ^ 53 : Nat) : ℚ) * 2 ^ gridExponent num den := by
        rw [zpow_add₀ two_ne_zero, zpow_natCast]
        norm_cast

/-- Unless the grid is the finest one, a quotient lies beyond the first half of the places on it. -/
theorem two_pow_le_of_leastExponent_lt (hNum : 0 < num) (hDen : 0 < den)
    (h : leastExponent < gridExponent num den) :
    ((2 ^ 52 : Nat) : ℚ) * 2 ^ gridExponent num den ≤ num / den := by
  have hGrid : (52 : Nat) + gridExponent num den = floorLog2 num den := by
    unfold gridExponent at h ⊢
    omega
  calc ((2 ^ 52 : Nat) : ℚ) * 2 ^ gridExponent num den = 2 ^ floorLog2 num den := by
        rw [← hGrid, zpow_add₀ two_ne_zero, zpow_natCast]
        norm_cast
    _ ≤ num / den := (floorLog2_spec hNum hDen).1

/-- A number that can be represented lies on the grid of a quotient, or below the half of the grid
beyond which the quotient lies. -/
theorem on_grid_or_below (hNum : 0 < num) (hDen : 0 < den) {m : Nat} {e : Int} (hm : m < 2 ^ 53)
    (he : leastExponent ≤ e) :
    (∃ k : Nat, (m : ℚ) * 2 ^ e = k * 2 ^ gridExponent num den) ∨
      (m : ℚ) * 2 ^ e < ((2 ^ 52 : Nat) : ℚ) * 2 ^ gridExponent num den ∧
        ((2 ^ 52 : Nat) : ℚ) * 2 ^ gridExponent num den ≤ num / den := by
  rcases le_or_gt (gridExponent num den) e with hCoarse | hFine
  · left
    refine ⟨m * 2 ^ (e - gridExponent num den).toNat, ?_⟩
    have hSum : ((e - gridExponent num den).toNat : Int) + gridExponent num den = e := by omega
    rw [Nat.cast_mul, Nat.cast_pow, Nat.cast_ofNat, mul_assoc, ← zpow_natCast,
      ← zpow_add₀ two_ne_zero, hSum]
  · right
    exact ⟨mul_two_zpow_lt hm hFine, two_pow_le_of_leastExponent_lt hNum hDen (by omega)⟩

theorem le_rounded (hNum : 0 < num) (hDen : 0 < den) {m : Nat} {e : Int} (hm : m < 2 ^ 53)
    (he : leastExponent ≤ e) (h : (m : ℚ) * 2 ^ e ≤ num / den) :
    (m : ℚ) * 2 ^ e ≤ rounded num den := by
  have hUnit : (0 : ℚ) ≤ 2 ^ gridExponent num den := (zpow_pos two_pos _).le
  rcases on_grid_or_below hNum hDen hm he with ⟨k, hk⟩ | ⟨hBelow, hHalf⟩
  · rw [hk] at h ⊢
    exact mul_le_mul_of_nonneg_right (Nat.cast_le.mpr (le_gridPlace hDen h)) hUnit
  · exact hBelow.le.trans
      (mul_le_mul_of_nonneg_right (Nat.cast_le.mpr (le_gridPlace hDen hHalf)) hUnit)

theorem rounded_le (hNum : 0 < num) (hDen : 0 < den) {m : Nat} {e : Int} (hm : m < 2 ^ 53)
    (he : leastExponent ≤ e) (h : (num / den : ℚ) ≤ m * 2 ^ e) :
    rounded num den ≤ m * 2 ^ e := by
  have hUnit : (0 : ℚ) ≤ 2 ^ gridExponent num den := (zpow_pos two_pos _).le
  rcases on_grid_or_below hNum hDen hm he with ⟨k, hk⟩ | ⟨hBelow, hHalf⟩
  · rw [hk] at h ⊢
    exact mul_le_mul_of_nonneg_right (Nat.cast_le.mpr (gridPlace_le hDen h)) hUnit
  · exact absurd (hHalf.trans h) (not_le.mpr hBelow)

/-- A quotient becomes the number that it is rounded to, or is infinite if the exponent of this
number is too large; the significand has all its bits then. -/
theorem ofQuotient_eq (hNum : 0 < num) (hDen : 0 < den) (negative : Bool) :
    ∃ (m : Nat) (e : Int), (m : ℚ) * 2 ^ e = rounded num den ∧ m < 2 ^ 53 ∧ leastExponent ≤ e ∧
      (greatestExponent < e → 2 ^ 52 ≤ m) ∧
      ofQuotient negative num den =
        if greatestExponent < e then infinite negative else finite negative m e := by
  have hPlace : (if 0 ≤ gridExponent num den then
      roundQuotient num (den * Nat.pow 2 (gridExponent num den).toNat)
    else roundQuotient (num * Nat.pow 2 (-gridExponent num den).toNat) den) =
      gridPlace num den := by
    unfold gridPlace scaled
    split <;> rfl
  have hLeast : leastExponent ≤ gridExponent num den := le_max_right _ _
  have hLimit := gridPlace_le_two_pow hNum hDen
  unfold ofQuotient
  rw [if_neg hNum.ne']
  dsimp only
  rw [← gridExponent, hPlace]
  by_cases hFull : gridPlace num den = Nat.pow 2 53
  · refine ⟨2 ^ 52, gridExponent num den + 1, ?_, by norm_num, by omega, fun _ => le_rfl, ?_⟩
    · rw [rounded, hFull, zpow_add_one₀ two_ne_zero]
      push_cast
      ring
    · rw [if_pos hFull]
      rfl
  · refine ⟨gridPlace num den, gridExponent num den, rfl, lt_of_le_of_ne hLimit hFull, hLeast, ?_, ?_⟩
    · intro hBeyond
      have hCoarse : leastExponent < gridExponent num den := lt_trans (by decide) hBeyond
      exact le_gridPlace hDen (two_pow_le_of_leastExponent_lt hNum hDen hCoarse)
    · rw [if_neg hFull]

end Double

end

end LogViewer
