import Mathlib
import LogViewer.Text.Blank
import LogViewer.Text.Digit
import LogViewer.Numeric.Decimal

/-! Rows of digits. The written digits of a number read back as that number, and rows of as many
digits are in the order of the numbers that they denote. -/
namespace LogViewer.Text

theorem digitValue?_of_isDigit {c : Char} (h : c.isDigit = true) :
    digitValue? c = some (c.toNat - '0'.toNat) := by
  simp only [Char.isDigit, Bool.and_eq_true, decide_eq_true_eq] at h
  have hLow : 48 ≤ c.toNat := h.1
  have hHigh : c.toNat ≤ 57 := h.2
  have hAscii : c.toNat < 128 := by omega
  simp [digitValue?, hAscii, hLow, hHigh]

theorem charIsDigit_of_mem_digitsOf {n : Nat} {c : Char} (h : c ∈ digitsOf n) :
    c.isDigit = true :=
  Nat.isDigit_of_mem_toDigits (by decide) (by decide) h

theorem isDigit_of_mem_digitsOf {n : Nat} {c : Char} (h : c ∈ digitsOf n) :
    isDigit c = true := by
  rw [isDigit, digitValue?_of_isDigit (charIsDigit_of_mem_digitsOf h)]
  rfl

theorem digitsOf_ne_nil (n : Nat) : digitsOf n ≠ [] := Nat.toDigits_ne_nil

theorem foldl_digitValue? {digits : List Char} (h : ∀ c ∈ digits, c.isDigit = true)
    (start : Nat) :
    digits.foldl (fun n c => 10 * n + (digitValue? c).getD 0) start =
      Nat.ofDigitChars 10 digits start := by
  induction digits generalizing start with
  | nil => rfl
  | cons c digits ih =>
      rw [List.foldl_cons, Nat.ofDigitChars_cons, digitValue?_of_isDigit (h c List.mem_cons_self)]
      exact ih (fun d hd => h d (List.mem_cons_of_mem c hd)) _

theorem numberOf_digitsOf (n : Nat) : numberOf (digitsOf n) = n := by
  rw [numberOf, foldl_digitValue? fun _ => charIsDigit_of_mem_digitsOf]
  exact Nat.ofDigitChars_ten_toDigits

theorem length_digitsOf_le_iff {n k : Nat} (h : 0 < k) :
    (digitsOf n).length ≤ k ↔ n < 10 ^ k :=
  Nat.length_toDigits_le_iff (by decide) h

theorem length_digitsOf_pow (k : Nat) : (digitsOf (10 ^ k)).length = k + 1 := by
  have hFits : (digitsOf (10 ^ k)).length ≤ k + 1 :=
    (length_digitsOf_le_iff (Nat.succ_pos k)).mpr
      (Nat.pow_lt_pow_right (by decide) (Nat.lt_succ_self k))
  have hLong : ¬(digitsOf (10 ^ k)).length ≤ k := by
    cases k with
    | zero => decide
    | succ k =>
        rw [length_digitsOf_le_iff (Nat.succ_pos k)]
        exact Nat.lt_irrefl _
  omega

theorem digitValue?_lt {c : Char} {value : Nat} (h : digitValue? c = some value) : value < 10 := by
  unfold digitValue? at h
  dsimp only at h
  split at h
  · split at h
    · rename_i hRange
      simp only [Bool.and_eq_true, decide_eq_true_eq] at hRange
      cases h
      omega
    · cases h
  · obtain ⟨first, hFirst, rfl⟩ := Option.map_eq_some_iff.mp h
    have hRange := List.find?_some hFirst
    simp only [Bool.and_eq_true, decide_eq_true_eq] at hRange
    omega

theorem exists_zero_of_isDigit {c : Char} (h : isDigit c = true) :
    ∃ z ∈ zeros, z ≤ c.toNat ∧ c.toNat < z + 10 := by
  obtain ⟨value, hValue⟩ := Option.isSome_iff_exists.mp h
  unfold digitValue? at hValue
  dsimp only at hValue
  split at hValue
  · split at hValue
    · rename_i hRange
      simp only [Bool.and_eq_true, decide_eq_true_eq] at hRange
      exact ⟨0x30, by decide, by omega⟩
    · cases hValue
  · obtain ⟨z, hFind, -⟩ := Option.map_eq_some_iff.mp hValue
    have hRange := List.find?_some hFind
    simp only [Bool.and_eq_true, decide_eq_true_eq] at hRange
    exact ⟨z, List.mem_of_find?_eq_some hFind, hRange⟩

/-- The first and the last code point of each run of blanks. -/
def blankRuns : List (Nat × Nat) :=
  [(9, 13), (28, 32), (0x85, 0x85), (0xA0, 0xA0), (0x1680, 0x1680), (0x2000, 0x200A),
    (0x2028, 0x2029), (0x202F, 0x202F), (0x205F, 0x205F), (0x3000, 0x3000)]

theorem exists_run_of_isBlank {c : Char} (h : isBlank c = true) :
    ∃ run ∈ blankRuns, run.1 ≤ c.toNat ∧ c.toNat ≤ run.2 := by
  simp only [isBlank, Bool.or_eq_true, Bool.and_eq_true, decide_eq_true_eq, beq_iff_eq] at h
  simp only [blankRuns, List.exists_mem_cons_iff, List.not_mem_nil, false_and, exists_false]
  omega

/-- No digit of any script is blank. -/
theorem not_blank_of_isDigit {c : Char} (h : isDigit c = true) : isBlank c = false := by
  rw [Bool.eq_false_iff]
  intro hBlank
  have hApart : ∀ z ∈ zeros, ∀ run ∈ blankRuns, run.2 < z ∨ z + 10 ≤ run.1 := by decide
  obtain ⟨z, hz, hFirst, hLast⟩ := exists_zero_of_isDigit h
  obtain ⟨run, hRun, hLow, hHigh⟩ := exists_run_of_isBlank hBlank
  have hDisjoint := hApart z hz run hRun
  omega

theorem foldl_digitValue?_eq (digits : List Char) (start : Nat) :
    digits.foldl (fun n c => 10 * n + (digitValue? c).getD 0) start =
      start * 10 ^ digits.length + numberOf digits := by
  induction digits generalizing start with
  | nil => simp [numberOf]
  | cons c digits ih =>
      have hCons : numberOf (c :: digits) = digits.foldl
          (fun n c => 10 * n + (digitValue? c).getD 0) (10 * 0 + (digitValue? c).getD 0) := rfl
      rw [hCons, List.foldl_cons, ih, ih, List.length_cons, Nat.pow_succ]
      ring

theorem numberOf_append (s t : List Char) :
    numberOf (s ++ t) = numberOf s * 10 ^ t.length + numberOf t := by
  rw [numberOf, List.foldl_append, foldl_digitValue?_eq t]
  rfl

theorem numberOf_cons (c : Char) (s : List Char) :
    numberOf (c :: s) = (digitValue? c).getD 0 * 10 ^ s.length + numberOf s := by
  rw [← List.singleton_append, numberOf_append]
  simp [numberOf]

theorem numberOf_replicate_zero (n : Nat) : numberOf (List.replicate n '0') = 0 := by
  induction n with
  | zero => rfl
  | succ n ih =>
      rw [List.replicate_succ, numberOf_cons, ih]
      simp [digitValue?]

/-- A row of digits denotes a number below the power of ten of its length. -/
theorem numberOf_lt (digits : List Char) : numberOf digits < 10 ^ digits.length := by
  induction digits with
  | nil => decide
  | cons c digits ih =>
      have hDigit : (digitValue? c).getD 0 < 10 := by
        cases hValue : digitValue? c with
        | none => decide
        | some value => exact digitValue?_lt hValue
      rw [numberOf_cons, List.length_cons, Nat.pow_succ]
      calc (digitValue? c).getD 0 * 10 ^ digits.length + numberOf digits
          < (digitValue? c).getD 0 * 10 ^ digits.length + 10 ^ digits.length :=
            Nat.add_lt_add_left ih _
        _ = ((digitValue? c).getD 0 + 1) * 10 ^ digits.length := (Nat.succ_mul _ _).symm
        _ ≤ 10 * 10 ^ digits.length := Nat.mul_le_mul_right _ hDigit
        _ = 10 ^ digits.length * 10 := Nat.mul_comm _ _

/-- Whether two texts are the same but for digits of the first script, which stand at the same
places. -/
def SamePlaces (s t : List Char) : Prop :=
  List.Forall₂ (fun c d => (c.isDigit = true ∧ d.isDigit = true) ∨ c = d) s t

theorem lt_iff_digitValue?_lt {c d : Char} (hc : c.isDigit = true) (hd : d.isDigit = true) :
    c < d ↔ (digitValue? c).getD 0 < (digitValue? d).getD 0 := by
  have hLow {e : Char} (he : e.isDigit = true) : '0'.toNat ≤ e.toNat := by
    simp only [Char.isDigit, Bool.and_eq_true, decide_eq_true_eq] at he
    exact he.1
  have hcLow := hLow hc
  have hdLow := hLow hd
  rw [digitValue?_of_isDigit hc, digitValue?_of_isDigit hd, Option.getD_some, Option.getD_some,
    Char.lt_def, UInt32.lt_iff_toNat_lt]
  change c.toNat < d.toNat ↔ _
  omega

/-- Two texts of the same places are in the order of the numbers that their digits denote. -/
theorem lt_iff_numberOf_lt {s t : List Char} (h : SamePlaces s t) :
    s < t ↔ numberOf s < numberOf t := by
  induction h with
  | nil => simp
  | @cons c d s t hHead hTail ih =>
      have hs := numberOf_lt s
      have ht := numberOf_lt t
      rw [List.cons_lt_cons_iff, numberOf_cons, numberOf_cons, ih, hTail.length_eq]
      rw [hTail.length_eq] at hs
      generalize 10 ^ t.length = scale at hs ht ⊢
      rcases hHead with ⟨hc, hd⟩ | rfl
      · rcases lt_trichotomy c d with hLess | rfl | hMore
        · have hValue := Nat.mul_le_mul_right scale ((lt_iff_digitValue?_lt hc hd).mp hLess)
          rw [Nat.succ_mul] at hValue
          exact iff_of_true (Or.inl hLess) (by omega)
        · simp
        · have hValue := Nat.mul_le_mul_right scale ((lt_iff_digitValue?_lt hd hc).mp hMore)
          rw [Nat.succ_mul] at hValue
          refine iff_of_false ?_ (by omega)
          rintro (hLess | ⟨rfl, -⟩)
          · exact lt_asymm hLess hMore
          · exact lt_irrefl c hMore
      · simp

theorem eq_of_numberOf_eq {s t : List Char} (h : SamePlaces s t) (hSame : numberOf s = numberOf t) :
    s = t := by
  have hBack : SamePlaces t s := by
    refine List.Forall₂.flip (h.imp ?_)
    rintro c d (⟨hc, hd⟩ | rfl)
    · exact Or.inl ⟨hd, hc⟩
    · exact Or.inr rfl
  rcases lt_trichotomy s t with hLess | hEqual | hMore
  · rw [lt_iff_numberOf_lt h] at hLess
    omega
  · exact hEqual
  · rw [lt_iff_numberOf_lt hBack] at hMore
    omega

/-- Rows of as many digits have them at the same places. -/
theorem samePlaces_of_isDigit {s t : List Char} (hs : ∀ c ∈ s, c.isDigit = true)
    (ht : ∀ c ∈ t, c.isDigit = true) (hLength : s.length = t.length) : SamePlaces s t := by
  rw [SamePlaces, List.forall₂_iff_zip]
  refine ⟨hLength, fun {c d} hMem => Or.inl ⟨hs c ?_, ht d ?_⟩⟩
  · exact (List.of_mem_zip hMem).1
  · exact (List.of_mem_zip hMem).2

end LogViewer.Text
