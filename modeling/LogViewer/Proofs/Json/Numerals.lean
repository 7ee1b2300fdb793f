import Mathlib
import LogViewer.Proofs.Json.Quoted

/-! Numbers and what stands behind them. A number has no control character in it, so it ends within
its line and depends on this line only. -/
namespace LogViewer.Json

open Text (IsBreak SameLine)

theorem isShown_of_isAsciiDigit {c : Char} (h : isAsciiDigit c = true) : IsShown c :=
  le_trans (by decide : 0x20 ≤ '0'.toNat) (of_decide_eq_true (Bool.and_eq_true_iff.mp h).1)

theorem isAsciiDigit_eq_false {c : Char} (h : IsBreak c) : isAsciiDigit c = false :=
  Bool.eq_false_iff.mpr fun hDigit => (isShown_of_isAsciiDigit hDigit).not_isBreak h

theorem hasShown_takeWhile (s : List Char) : HasShown (s.takeWhile isAsciiDigit).length s :=
  .of_isPrefix (List.takeWhile_prefix _) fun _ hc =>
    isShown_of_isAsciiDigit (List.mem_takeWhile_imp hc)

/-- The whole part of a number without a sign. -/
def wholeDigits : List Char → List Char
  | '0' :: _ => ['0']
  | t => t.takeWhile isAsciiDigit

/-- Reads the number at the front of a text behind its sign. -/
def scanUnsigned? (negative : Bool) (t : List Char) : Option Numeral :=
  let whole := wholeDigits t
  if whole.isEmpty then none
  else
    let t := t.drop whole.length
    let fraction := scanFraction t
    let fractionSize := if fraction.isEmpty then 0 else fraction.length + 1
    let (negativeExponent, exponent, lead) := scanExponent (t.drop fractionSize)
    let exponentSize := if exponent.isEmpty then 0 else exponent.length + lead
    some {
      negative, whole, fraction, exponent, negativeExponent
      size := (if negative then 1 else 0) + whole.length + fractionSize + exponentSize }

theorem scanNumeral?_minus (t : List Char) : scanNumeral? ('-' :: t) = scanUnsigned? true t := rfl

theorem scanNumeral?_of_ne_minus {s : List Char} (h : ∀ t, s ≠ '-' :: t) :
    scanNumeral? s = scanUnsigned? false s := by
  unfold scanNumeral?
  split
  rename_i hSign
  split at hSign
  · exact absurd rfl (h _)
  · obtain ⟨rfl, rfl⟩ := Prod.ext_iff.mp hSign
    rfl

theorem hasShown_wholeDigits (t : List Char) : HasShown (wholeDigits t).length t := by
  unfold wholeDigits
  split
  · exact .cons (by decide) (.zero _)
  · exact hasShown_takeWhile _

theorem wholeDigits_cons (c : Char) (s : List Char) :
    wholeDigits (c :: s) = if c = '0' then ['0'] else (c :: s).takeWhile isAsciiDigit := by
  split
  · rename_i hc
    subst hc
    rfl
  · rename_i hc
    unfold wholeDigits
    split
    · rename_i hEq
      exact absurd (List.cons.inj hEq).1 hc
    · rfl

theorem scanFraction_cons (c : Char) (s : List Char) :
    scanFraction (c :: s) = if c = '.' then s.takeWhile isAsciiDigit else [] := by
  split
  · rename_i hc
    subst hc
    rfl
  · rename_i hc
    unfold scanFraction
    split
    · rename_i hEq
      exact absurd (List.cons.inj hEq).1 hc
    · rfl

theorem wholeDigits_of_sameLine {s t : List Char} (h : SameLine s t) :
    wholeDigits s = wholeDigits t := by
  have hDigits := h.takeWhile_eq fun _ => isAsciiDigit_eq_false
  cases h with
  | nil => rfl
  | cons hNot h => rw [wholeDigits_cons, wholeDigits_cons, hDigits]
  | atBreak hc hd =>
      have hZero : IsShown '0' := by decide
      rw [wholeDigits_cons, wholeDigits_cons, hDigits, if_neg (hZero.ne_of_isBreak hc),
        if_neg (hZero.ne_of_isBreak hd)]

theorem scanFraction_of_sameLine {s t : List Char} (h : SameLine s t) :
    scanFraction s = scanFraction t := by
  cases h with
  | nil => rfl
  | cons hNot h =>
      rw [scanFraction_cons, scanFraction_cons, h.takeWhile_eq fun _ => isAsciiDigit_eq_false]
  | atBreak hc hd =>
      have hPoint : IsShown '.' := by decide
      rw [scanFraction_cons, scanFraction_cons, if_neg (hPoint.ne_of_isBreak hc),
        if_neg (hPoint.ne_of_isBreak hd)]

/-- Reads an exponent behind its letter. -/
def exponentDigits : List Char → Bool × List Char × Nat
  | '-' :: t => (true, t.takeWhile isAsciiDigit, 2)
  | '+' :: t => (false, t.takeWhile isAsciiDigit, 2)
  | t => (false, t.takeWhile isAsciiDigit, 1)

theorem scanExponent_cons (c : Char) (s : List Char) :
    scanExponent (c :: s) =
      if c == 'e' || c == 'E' then exponentDigits s else (false, [], 0) := rfl

theorem exponentDigits_cons (c : Char) (s : List Char) :
    exponentDigits (c :: s) =
      if c = '-' then (true, s.takeWhile isAsciiDigit, 2)
      else if c = '+' then (false, s.takeWhile isAsciiDigit, 2)
      else (false, (c :: s).takeWhile isAsciiDigit, 1) := by
  split
  · rename_i hc
    subst hc
    rfl
  · rename_i hMinus
    split
    · rename_i hc
      subst hc
      rfl
    · rename_i hPlus
      unfold exponentDigits
      split
      · rename_i hEq
        exact absurd (List.cons.inj hEq).1 hMinus
      · rename_i hEq
        exact absurd (List.cons.inj hEq).1 hPlus
      · rfl

theorem exponentDigits_of_sameLine {s t : List Char} (h : SameLine s t) :
    exponentDigits s = exponentDigits t := by
  have hDigits := h.takeWhile_eq fun _ => isAsciiDigit_eq_false
  cases h with
  | nil => rfl
  | cons hNot h =>
      rw [exponentDigits_cons, exponentDigits_cons, hDigits,
        h.takeWhile_eq fun _ => isAsciiDigit_eq_false]
  | atBreak hc hd =>
      have hMinus : IsShown '-' := by decide
      have hPlus : IsShown '+' := by decide
      rw [exponentDigits_cons, exponentDigits_cons, if_neg (hMinus.ne_of_isBreak hc),
        if_neg (hPlus.ne_of_isBreak hc), if_neg (hMinus.ne_of_isBreak hd),
        if_neg (hPlus.ne_of_isBreak hd), hDigits]

theorem scanExponent_of_sameLine {s t : List Char} (h : SameLine s t) :
    scanExponent s = scanExponent t := by
  cases h with
  | nil => rfl
  | cons hNot h => rw [scanExponent_cons, scanExponent_cons, exponentDigits_of_sameLine h]
  | atBreak hc hd =>
      have hLetter {c : Char} (hc : IsBreak c) : ¬(c == 'e' || c == 'E') = true := by
        rcases hc with rfl | rfl <;> decide
      rw [scanExponent_cons, scanExponent_cons, if_neg (hLetter hc), if_neg (hLetter hd)]

theorem hasShown_scanFraction (s : List Char) :
    HasShown (if (scanFraction s).isEmpty then 0 else (scanFraction s).length + 1) s := by
  split
  · exact .zero s
  · rename_i hSome
    cases s with
    | nil => exact absurd rfl hSome
    | cons c s =>
        rw [scanFraction_cons] at hSome ⊢
        split at hSome
        · rename_i hc
          subst hc
          rw [if_pos rfl]
          exact .cons (by decide) (hasShown_takeWhile s)
        · exact absurd rfl hSome

theorem hasShown_scanExponent (s : List Char) :
    HasShown (if (scanExponent s).2.1.isEmpty then 0
      else (scanExponent s).2.1.length + (scanExponent s).2.2) s := by
  obtain ⟨⟨negative, digits, lead⟩, h⟩ : ∃ exponent, scanExponent s = exponent := ⟨_, rfl⟩
  rw [h]
  dsimp only
  split
  · exact .zero s
  · rename_i hSome
    cases s with
    | nil =>
        cases h
        exact absurd rfl hSome
    | cons c s =>
        rw [scanExponent_cons] at h
        split at h
        · rename_i hLetter
          have hc : IsShown c := by
            rcases Bool.or_eq_true_iff.mp hLetter with hc | hc <;>
              rw [beq_iff_eq.mp hc] <;> decide
          unfold exponentDigits at h
          split at h
          · cases h
            exact .cons hc (.cons (by decide) (hasShown_takeWhile _))
          · cases h
            exact .cons hc (.cons (by decide) (hasShown_takeWhile _))
          · cases h
            exact .cons hc (hasShown_takeWhile _)
        · cases h
          exact absurd rfl hSome

theorem scanUnsigned?_of_sameLine {s t : List Char} (h : SameLine s t) (negative : Bool) :
    scanUnsigned? negative s = scanUnsigned? negative t := by
  have hRest := (hasShown_wholeDigits s).sameLine_drop h
  unfold scanUnsigned?
  dsimp only
  rw [← wholeDigits_of_sameLine h, ← scanFraction_of_sameLine hRest,
    scanExponent_of_sameLine ((hasShown_scanFraction _).sameLine_drop hRest)]

/-- A number ends within its line. -/
theorem scanNumeral?_of_sameLine {s t : List Char} (h : SameLine s t) :
    scanNumeral? s = scanNumeral? t := by
  have hSign : IsShown '-' := by decide
  by_cases hMinus : ∃ s', s = '-' :: s'
  · obtain ⟨s', rfl⟩ := hMinus
    cases h with
    | cons hNot h => exact scanUnsigned?_of_sameLine h true
    | atBreak hc hd => exact absurd hc hSign.not_isBreak
  · have hOther : ∀ t', t ≠ '-' :: t' := by
      rintro t' rfl
      cases h with
      | cons hNot h => exact hMinus ⟨_, rfl⟩
      | atBreak hc hd => exact absurd hd hSign.not_isBreak
    rw [scanNumeral?_of_ne_minus fun s' hs => hMinus ⟨s', hs⟩, scanNumeral?_of_ne_minus hOther,
      scanUnsigned?_of_sameLine h]

theorem hasShown_of_scanUnsigned? {negative : Bool} {s : List Char} {n : Numeral}
    (h : scanUnsigned? negative s = some n) :
    ∃ k, n.size = (if negative then 1 else 0) + k ∧ 0 < k ∧ HasShown k s := by
  unfold scanUnsigned? at h
  dsimp only at h
  split at h
  · cases h
  · rename_i hSome
    obtain rfl := Option.some_inj.mp h
    refine ⟨_, by simp only [Nat.add_assoc], ?_, ((hasShown_wholeDigits s).add
      ((hasShown_scanFraction _).add (hasShown_scanExponent _)))⟩
    rw [List.isEmpty_iff, ← List.length_eq_zero_iff] at hSome
    omega

/-- A number has no control character in it. -/
theorem hasShown_of_scanNumeral? {s : List Char} {n : Numeral} (h : scanNumeral? s = some n) :
    0 < n.size ∧ HasShown n.size s := by
  by_cases hMinus : ∃ t, s = '-' :: t
  · obtain ⟨t, rfl⟩ := hMinus
    rw [scanNumeral?_minus] at h
    obtain ⟨k, hSize, hPos, hShown⟩ := hasShown_of_scanUnsigned? h
    rw [hSize, if_pos rfl, Nat.add_comm]
    exact ⟨Nat.succ_pos k, .cons (by decide) hShown⟩
  · rw [scanNumeral?_of_ne_minus fun t ht => hMinus ⟨t, ht⟩] at h
    obtain ⟨k, hSize, hPos, hShown⟩ := hasShown_of_scanUnsigned? h
    rw [hSize, if_neg Bool.false_ne_true, Nat.zero_add]
    exact ⟨hPos, hShown⟩

end LogViewer.Json
