import Mathlib
import LogViewer.Proofs.Numeric.Order

/-! How far rounding moves an exact result. It moves it by half of a unit of the grid at most, so a
result below a power of two is kept up to a fixed fraction of this power, and a result that is
itself a number is not moved at all. -/
namespace LogViewer

/-- What holds of ratios that are not negative, and of the opposite of each ratio of which it holds,
holds of all. -/
@[elab_as_elim]
theorem nonneg_induction {P : ℚ → Prop} (nonneg : ∀ r, 0 ≤ r → P r) (neg : ∀ r, P r → P (-r))
    (r : ℚ) : P r := by
  rcases le_total 0 r with h | h
  · exact nonneg r h
  · exact neg_neg r ▸ neg (-r) (nonneg (-r) (neg_nonneg.mpr h))

section

variable {num den : Nat}

theorem abs_roundQuotient_sub_le (num : Nat) (hDen : 0 < den) :
    |(roundQuotient num den : ℚ) - num / den| ≤ 1 / 2 := by
  have hPositive : (0 : ℚ) < den := Nat.cast_pos.mpr hDen
  have hWhole : (num : ℚ) / den = (num / den : Nat) + (num % den : Nat) / den := by
    rw [div_eq_iff hPositive.ne', add_mul, div_mul_cancel₀ _ hPositive.ne']
    exact_mod_cast (Nat.div_add_mod' num den).symm
  have hBelow : 2 * (num % den) ≤ den → ((num % den : Nat) : ℚ) / den ≤ 1 / 2 := by
    intro h
    rw [div_le_div_iff₀ hPositive two_pos]
    exact_mod_cast (by omega : num % den * 2 ≤ 1 * den)
  have hAbove : den ≤ 2 * (num % den) → 1 / 2 ≤ ((num % den : Nat) : ℚ) / den := by
    intro h
    rw [div_le_div_iff₀ two_pos hPositive]
    exact_mod_cast (by omega : 1 * den ≤ num % den * 2)
  have hNonneg : 0 ≤ ((num % den : Nat) : ℚ) / den := by positivity
  have hLess : ((num % den : Nat) : ℚ) / den ≤ 1 := by
    rw [div_le_one hPositive]
    exact_mod_cast (Nat.mod_lt num hDen).le
  rw [abs_le, hWhole]
  unfold roundQuotient
  dsimp only
  split_ifs with hLow hHigh hEven
  · have hHalf := hBelow hLow.le
    constructor <;> linarith
  · have hHalf := hAbove hHigh.le
    push_cast
    constructor <;> linarith
  · have hHalf := hBelow (not_lt.mp hHigh)
    constructor <;> linarith
  · have hHalf := hAbove (not_lt.mp hLow)
    push_cast
    constructor <;> linarith

/-- An even number that is nearest to a quotient is what it is rounded to, also if an odd number is
as near. -/
theorem roundQuotient_eq_of_even (hDen : 0 < den) {c : Nat} (hEven : c % 2 = 0)
    (hBelow : 2 * c * den ≤ 2 * num + den) (hAbove : 2 * num ≤ (2 * c + 1) * den) :
    roundQuotient num den = c := by
  have hWhole := Nat.div_add_mod num den
  have hRest := Nat.mod_lt num hDen
  unfold roundQuotient
  dsimp only
  generalize num / den = below at *
  generalize num % den = rest at *
  have hAtMost : below ≤ c := by
    by_contra hMore
    have hProduct : den * (c + 1) ≤ den * below := Nat.mul_le_mul_left den (not_le.mp hMore)
    nlinarith
  have hAtLeast : c ≤ below + 1 := by
    by_contra hLess
    have hProduct : den * (below + 1 + 1) ≤ den * c := Nat.mul_le_mul_left den (not_le.mp hLess)
    nlinarith
  obtain rfl | rfl : below = c ∨ below + 1 = c := by omega
  · have hHalf : 2 * rest ≤ den := by nlinarith
    split_ifs <;> omega
  · have hHalf : den ≤ 2 * rest := by nlinarith
    split_ifs <;> omega

namespace Double

theorem abs_rounded_sub_le (num : Nat) (hDen : 0 < den) :
    |rounded num den - num / den| ≤ 2 ^ gridExponent num den / 2 := by
  have hUnit : (0 : ℚ) < 2 ^ gridExponent num den := zpow_pos two_pos _
  calc |rounded num den - num / den|
      = |(gridPlace num den : ℚ) - (scaled num den (gridExponent num den)).1 /
          (scaled num den (gridExponent num den)).2| * 2 ^ gridExponent num den := by
        conv_lhs => rw [← scaled_eq num den (gridExponent num den)]
        rw [rounded, ← sub_mul, abs_mul, abs_of_pos hUnit]
    _ ≤ 1 / 2 * 2 ^ gridExponent num den :=
        mul_le_mul_of_nonneg_right (abs_roundQuotient_sub_le _ (scaled_snd_pos hDen _)) hUnit.le
    _ = 2 ^ gridExponent num den / 2 := by ring

theorem gridExponent_le (hNum : 0 < num) (hDen : 0 < den) {k : Int}
    (hk : leastExponent + 53 ≤ k) (h : (num / den : ℚ) < 2 ^ k) : gridExponent num den ≤ k - 53 := by
  have hLog : floorLog2 num den < k :=
    (zpow_lt_zpow_iff_right₀ one_lt_two).mp ((floorLog2_spec hNum hDen).1.trans_lt h)
  unfold gridExponent
  omega

theorem le_gridExponent (hNum : 0 < num) (hDen : 0 < den) {k : Int}
    (h : (2 : ℚ) ^ k ≤ num / den) : k - 52 ≤ gridExponent num den := by
  have hLog : k < floorLog2 num den + 1 :=
    (zpow_lt_zpow_iff_right₀ one_lt_two).mp (h.trans_lt (floorLog2_spec hNum hDen).2)
  unfold gridExponent
  omega

end Double

end

namespace Double

/-- The value of the number nearest to a ratio, none if this number is infinite. -/
def nearest? (r : ℚ) : Option ℚ := (ofRat r false).toRat?

theorem nearest?_zero : nearest? 0 = some 0 := toRat?_zero false

theorem toRat?_ofRat (r : ℚ) (negativeZero : Bool) :
    (ofRat r negativeZero).toRat? = nearest? r := by
  unfold nearest? ofRat
  split
  · rw [toRat?_zero, toRat?_zero]
  · rfl

theorem ofQuotient_not (negative : Bool) (num den : Nat) :
    ofQuotient (!negative) num den = -ofQuotient negative num den := by
  unfold ofQuotient
  dsimp only
  split_ifs <;> rfl

theorem nearest?_neg (r : ℚ) : nearest? (-r) = (nearest? r).map (- ·) := by
  rcases eq_or_ne r 0 with rfl | hr
  · rw [neg_zero, nearest?_zero, Option.map_some, neg_zero]
  · have hSign : decide (-r < 0) = !decide (r < 0) := by
      rw [← decide_not, decide_eq_decide, neg_lt_zero, not_lt, le_iff_lt_or_eq]
      simp [hr.symm]
    unfold nearest? ofRat
    rw [if_neg (neg_ne_zero.mpr hr), if_neg hr, ← toRat?_neg, ← ofQuotient_not, hSign,
      Rat.num_neg_eq_neg_num, Int.natAbs_neg, Rat.den_neg_eq_den]

/-- What holds of a ratio and its nearest value holds of all if it holds of those above nought and
their opposites. -/
theorem nearest?_induction {P : ℚ → ℚ → Prop} (hZero : P 0 0)
    (hPos : ∀ r v, 0 < r → nearest? r = some v → P r v) (hNeg : ∀ r v, P r v → P (-r) (-v))
    {r v : ℚ} (h : nearest? r = some v) : P r v := by
  rcases lt_trichotomy r 0 with hr | rfl | hr
  · have hOpposite : nearest? (-r) = some (-v) := by rw [nearest?_neg, h, Option.map_some]
    simpa using hNeg _ _ (hPos (-r) (-v) (neg_pos.mpr hr) hOpposite)
  · rw [nearest?_zero] at h
    exact Option.some_inj.mp h ▸ hZero
  · exact hPos r v hr h

/-- A ratio above nought goes to the quotient that it is rounded to unless this is too large. -/
theorem nearest?_of_pos {r : ℚ} (hr : 0 < r) :
    nearest? r = some (rounded r.num.natAbs r.den) ∨
      nearest? r = none ∧ (2 : ℚ) ^ (1024 : Int) ≤ rounded r.num.natAbs r.den := by
  have hNum : 0 < r.num.natAbs := Int.natAbs_pos.mpr (Rat.num_ne_zero.mpr hr.ne')
  obtain ⟨m, e, hValue, -, -, hFull, hEq⟩ := ofQuotient_eq hNum r.den_pos (decide (r < 0))
  have hRat : ofRat r false = ofQuotient (decide (r < 0)) r.num.natAbs r.den := if_neg hr.ne'
  unfold nearest?
  rw [hRat, hEq, ← hValue]
  split
  · rename_i hBeyond
    refine Or.inr ⟨rfl, ?_⟩
    calc (2 : ℚ) ^ (1024 : Int) = ((2 ^ 52 : Nat) : ℚ) * 2 ^ (972 : Int) := by
          rw [Nat.cast_pow, Nat.cast_ofNat, ← zpow_natCast, ← zpow_add₀ two_ne_zero]
          rfl
      _ ≤ m * 2 ^ e := by
          apply mul_le_mul (Nat.cast_le.mpr (hFull hBeyond)) _ (zpow_pos two_pos _).le
            (Nat.cast_nonneg m)
          exact zpow_le_zpow_right₀ one_le_two hBeyond
  · left
    rw [toRat?_finite, decide_eq_false (not_lt.mpr hr.le)]
    rfl

theorem nearest?_eq_some_of_pos {r v : ℚ} (hr : 0 < r) (h : nearest? r = some v) :
    v = rounded r.num.natAbs r.den := by
  obtain hSome | ⟨hNone, -⟩ := nearest?_of_pos hr
  · exact Option.some_inj.mp (h.symm.trans hSome)
  · rw [hNone] at h
    cases h

/-- A ratio below a power of two is kept up to half of the last of 53 bits. -/
theorem abs_sub_le_of_nearest? {r v : ℚ} (h : nearest? r = some v) {k : Int}
    (hk : leastExponent + 53 ≤ k) (hr : |r| < 2 ^ k) : |v - r| ≤ 2 ^ (k - 54) := by
  revert hr
  refine nearest?_induction (P := fun r v => |r| < 2 ^ k → |v - r| ≤ 2 ^ (k - 54)) ?_ ?_ ?_ h
  · intro _
    rw [sub_self, abs_zero]
    exact (zpow_pos two_pos _).le
  · intro r v hr hv hBelow
    have hNum : 0 < r.num.natAbs := Int.natAbs_pos.mpr (Rat.num_ne_zero.mpr hr.ne')
    rw [abs_of_pos hr, ← natAbs_num_div_den hr] at hBelow
    have hGrid := gridExponent_le hNum r.den_pos hk hBelow
    have hError := abs_rounded_sub_le r.num.natAbs r.den_pos
    rw [natAbs_num_div_den hr, ← nearest?_eq_some_of_pos hr hv] at hError
    calc |v - r| ≤ 2 ^ gridExponent r.num.natAbs r.den / 2 := hError
      _ ≤ 2 ^ (k - 53) / 2 :=
          div_le_div_of_nonneg_right (zpow_le_zpow_right₀ one_le_two hGrid) two_pos.le
      _ = 2 ^ (k - 54) := by
          rw [div_eq_mul_inv, ← zpow_sub_one₀ two_ne_zero]
          congr 1
          omega
  · intro r v ih hBelow
    rw [abs_neg] at hBelow
    rw [neg_sub_neg, abs_sub_comm]
    exact ih hBelow

/-- From a power of two on, nearest values have nothing beyond the last of 53 bits. -/
theorem exists_mul_of_nearest? {r v : ℚ} (h : nearest? r = some v) {k : Int}
    (hr : 2 ^ k ≤ |r|) : ∃ j : Int, v = j * 2 ^ (k - 52) := by
  revert hr
  refine nearest?_induction (P := fun r v => 2 ^ k ≤ |r| → ∃ j : Int, v = j * 2 ^ (k - 52))
    ?_ ?_ ?_ h
  · exact fun _ => ⟨0, by simp⟩
  · intro r v hr hv hFrom
    have hNum : 0 < r.num.natAbs := Int.natAbs_pos.mpr (Rat.num_ne_zero.mpr hr.ne')
    rw [abs_of_pos hr, ← natAbs_num_div_den hr] at hFrom
    have hGrid := le_gridExponent hNum r.den_pos hFrom
    have hSum : ((gridExponent r.num.natAbs r.den - (k - 52)).toNat : Int) + (k - 52) =
        gridExponent r.num.natAbs r.den := by omega
    refine ⟨gridPlace r.num.natAbs r.den *
      2 ^ (gridExponent r.num.natAbs r.den - (k - 52)).toNat, ?_⟩
    rw [nearest?_eq_some_of_pos hr hv, rounded]
    push_cast
    rw [mul_assoc, ← zpow_natCast, ← zpow_add₀ two_ne_zero, hSum]
  · intro r v ih hFrom
    rw [abs_neg] at hFrom
    obtain ⟨j, rfl⟩ := ih hFrom
    exact ⟨-j, by push_cast; ring⟩

theorem exists_nearest? {r : ℚ} (hr : |r| < 2 ^ (1023 : Int)) : ∃ v, nearest? r = some v := by
  induction r using nonneg_induction with
  | nonneg r hNonneg =>
      rcases hNonneg.eq_or_lt with rfl | hPos
      · exact ⟨0, nearest?_zero⟩
      · have hNum : 0 < r.num.natAbs := Int.natAbs_pos.mpr (Rat.num_ne_zero.mpr hPos.ne')
        obtain hSome | ⟨-, hLarge⟩ := nearest?_of_pos hPos
        · exact ⟨_, hSome⟩
        · rw [abs_of_pos hPos, ← natAbs_num_div_den hPos] at hr
          have hRounded : rounded r.num.natAbs r.den ≤ ((1 : Nat) : ℚ) * 2 ^ (1023 : Int) :=
            rounded_le hNum r.den_pos (by norm_num) (by decide) (by simpa using hr.le)
          rw [Nat.cast_one, one_mul] at hRounded
          have hLess : (2 : ℚ) ^ (1023 : Int) < 2 ^ (1024 : Int) :=
            zpow_lt_zpow_right₀ one_lt_two (by decide)
          exact absurd (hLarge.trans hRounded) (not_le.mpr hLess)
  | neg r ih =>
      obtain ⟨v, hv⟩ := ih (by rwa [abs_neg] at hr)
      exact ⟨-v, by rw [nearest?_neg, hv, Option.map_some]⟩

/-- Whether a ratio is the value of a number. -/
def IsValue (r : ℚ) : Prop :=
  ∃ (m : Nat) (e : Int), |r| = m * 2 ^ e ∧ m < 2 ^ 53 ∧ leastExponent ≤ e ∧ e ≤ greatestExponent

theorem IsValue.neg {r : ℚ} (h : IsValue r) : IsValue (-r) := by
  unfold IsValue
  rwa [abs_neg]

theorem IsValue.exists_representable {r : ℚ} (h : IsValue r) (hr : 0 ≤ r) :
    ∃ x : Double, x.IsRepresentable ∧ x.toRat? = some r := by
  obtain ⟨m, e, hEq, hKept⟩ := h
  rw [abs_of_nonneg hr] at hEq
  exact ⟨finite false m e, hKept, by rw [toRat?_finite, hEq]; rfl⟩

theorem IsRepresentable.isValue {x : Double} (hx : x.IsRepresentable) {v : ℚ}
    (hv : x.toRat? = some v) : IsValue v := by
  cases x with
  | nan => cases hv
  | infinite negative => cases hv
  | finite negative m e =>
      rw [toRat?_finite] at hv
      obtain rfl := Option.some_inj.mp hv
      have hMagnitude : (0 : ℚ) ≤ m * 2 ^ e := by positivity
      refine ⟨m, e, ?_, hx⟩
      cases negative with
      | false => exact abs_of_nonneg hMagnitude
      | true => exact (abs_neg _).trans (abs_of_nonneg hMagnitude)

theorem isValue_of_nearest? {r v : ℚ} (h : nearest? r = some v) : IsValue v :=
  (isRepresentable_ofRat r false).isValue h

/-- The value of a number is the one nearest to it. -/
theorem IsValue.nearest?_eq {r : ℚ} (h : IsValue r) : nearest? r = some r := by
  induction r using nonneg_induction with
  | nonneg r hr =>
      obtain ⟨x, hx, hValue⟩ := h.exists_representable hr
      obtain hInfinite | ⟨v, hv, hFrom⟩ := atLeast_ofRat hx hValue hr le_rfl false
      · obtain hOther | ⟨w, hw, -⟩ := atMost_ofRat hx hValue hr le_rfl false
        · rw [hInfinite] at hOther
          cases hOther
        · rw [hInfinite] at hw
          cases hw
      · obtain hOther | ⟨w, hw, hTo⟩ := atMost_ofRat hx hValue hr le_rfl false
        · rw [hOther] at hv
          cases hv
        · obtain rfl := Option.some_inj.mp (hv.symm.trans hw)
          exact hv.trans (congrArg some (le_antisymm hTo hFrom))
  | neg r ih =>
      rw [nearest?_neg, ih (neg_neg r ▸ h.neg), Option.map_some]

theorem isValue_intCast {n : Int} (h : n.natAbs < 2 ^ 53) : IsValue n := by
  refine ⟨n.natAbs, 0, ?_, h, by decide, by decide⟩
  rw [zpow_zero, mul_one, Nat.cast_natAbs, Int.cast_abs]

/-- A ratio from a value on goes to this value or beyond it. -/
theorem le_of_nearest? {r v w : ℚ} (h : nearest? r = some v) (hw : IsValue w) (hNonneg : 0 ≤ w)
    (hr : w ≤ r) : w ≤ v := by
  obtain ⟨x, hx, hValue⟩ := hw.exists_representable hNonneg
  exact (atLeast_ofRat hx hValue hNonneg hr false).le h

/-- A ratio up to a value goes to this value or to one before it. -/
theorem nearest?_le {r v w : ℚ} (h : nearest? r = some v) (hw : IsValue w) (hNonneg : 0 ≤ w)
    (hr : r ≤ w) : v ≤ w := by
  obtain ⟨x, hx, hValue⟩ := hw.exists_representable hNonneg
  exact (atMost_ofRat hx hValue hNonneg hr false).le h

end Double

end LogViewer
