import Mathlib
import LogViewer.Text.Case

/-! The small form of a text. Taking it a second time changes nothing, and whatever of it lies among
the first 128 characters, but for two letters, has come from there. -/
namespace LogViewer.Text

namespace CaseRun

/-- Whether a code point lies in a run. -/
def covers (run : CaseRun) (n : Nat) : Bool :=
  run.first ≤ n && n ≤ run.last && (n - run.first) % run.step == 0

/-- The image of a code point that lies in a run. -/
def image (run : CaseRun) (n : Nat) : Nat := (n + run.shift).toNat

/-- The code points of a run. -/
def codePoints (run : CaseRun) : List Nat :=
  (List.range ((run.last - run.first) / run.step + 1)).map (run.first + run.step * ·)

theorem covers_iff {run : CaseRun} {n : Nat} :
    run.covers n = true ↔
      run.first ≤ n ∧ n ≤ run.last ∧ (n - run.first) % run.step = 0 := by
  simp [covers, and_assoc]

theorem mem_codePoints {run : CaseRun} {n : Nat} (h : run.covers n = true) :
    n ∈ run.codePoints := by
  obtain ⟨hFirst, hLast, hStep⟩ := covers_iff.mp h
  have hDivides := Nat.mul_div_cancel' (Nat.dvd_of_mod_eq_zero hStep)
  refine List.mem_map.mpr ⟨(n - run.first) / run.step, ?_, by omega⟩
  rw [List.mem_range, Nat.lt_succ_iff]
  exact Nat.div_le_div_right (by omega)

end CaseRun

/-- The number whose bits mark some numbers. A table as a number is compared with another one in a
single step. -/
def marks (ns : List Nat) : Nat := ns.foldr (fun n mask => 1 <<< n ||| mask) 0

theorem testBit_marks (ns : List Nat) (n : Nat) : (marks ns).testBit n = decide (n ∈ ns) := by
  induction ns with
  | nil => simp [marks]
  | cons m ns ih =>
      have hStep : marks (m :: ns) = 1 <<< m ||| marks ns := rfl
      rw [hStep, Nat.testBit_or, ih, Nat.one_shiftLeft, Nat.testBit_two_pow]
      simp [eq_comm]

/-- Two tables whose marks have no bit in common have no number in common. -/
theorem not_mem_of_marks_and_eq_zero {ms ns : List Nat} (h : marks ms &&& marks ns = 0) {n : Nat}
    (hMem : n ∈ ns) : n ∉ ms := by
  intro hOther
  have hBit := congrArg (Nat.testBit · n) h
  simp [Nat.testBit_and, testBit_marks, hMem, hOther] at hBit

/-- The code points whose small form is not themselves. The first one is the capital letter whose
small form has two characters. -/
def unsettled : List Nat := 0x130 :: lowerRuns.flatMap CaseRun.codePoints

private theorem marks_unsettled_and_images :
    marks unsettled &&& marks (lowerRuns.flatMap fun run => run.codePoints.map run.image) = 0 := by
  decide +kernel

/-- A code point that stands for itself in small forms: no run covers it, and it is not the capital
letter whose small form has two characters. -/
structure Settled (n : Nat) : Prop where
  ne_dotted : n ≠ 0x130
  not_covers : ∀ run ∈ lowerRuns, run.covers n = false

theorem settled_image {run : CaseRun} {n : Nat} (hRun : run ∈ lowerRuns)
    (hCovers : run.covers n = true) : Settled (run.image n) := by
  have hApart : run.image n ∉ unsettled := by
    apply not_mem_of_marks_and_eq_zero marks_unsettled_and_images
    rw [List.mem_flatMap]
    exact ⟨run, hRun, List.mem_map.mpr ⟨n, CaseRun.mem_codePoints hCovers, rfl⟩⟩
  rw [unsettled, List.mem_cons, not_or, List.mem_flatMap] at hApart
  refine ⟨hApart.1, fun other hOther => Bool.eq_false_iff.mpr fun hImage => hApart.2 ?_⟩
  exact ⟨other, hOther, CaseRun.mem_codePoints hImage⟩

/-- A code point is shifted by a run that covers it; one that no run covers stays. -/
theorem shiftBy_cases (runs : List CaseRun) (n : Nat) :
    (∃ run ∈ runs, run.covers n = true ∧ shiftBy runs n = run.image n) ∨
      (∀ run ∈ runs, run.covers n = false) ∧ shiftBy runs n = n := by
  unfold shiftBy
  split
  · rename_i run hFind
    change runs.find? (·.covers n) = some run at hFind
    have hCovers := List.find?_some hFind
    exact Or.inl ⟨run, List.mem_of_find?_eq_some hFind, hCovers, rfl⟩
  · rename_i hFind
    change runs.find? (·.covers n) = none at hFind
    refine Or.inr ⟨?_, rfl⟩
    intro run hRun
    simpa using List.find?_eq_none.mp hFind run hRun

theorem settled_shiftBy {n : Nat} (h : n ≠ 0x130) : Settled (shiftBy lowerRuns n) := by
  rcases shiftBy_cases lowerRuns n with ⟨run, hRun, hCovers, hShift⟩ | ⟨hNone, hShift⟩
  · rw [hShift]
    exact settled_image hRun hCovers
  · rw [hShift]
    exact ⟨h, hNone⟩

theorem Settled.shiftBy_eq {n : Nat} (h : Settled n) : shiftBy lowerRuns n = n := by
  rcases shiftBy_cases lowerRuns n with ⟨run, hRun, hCovers, _⟩ | ⟨_, hShift⟩
  · rw [h.not_covers run hRun] at hCovers
    cases hCovers
  · exact hShift

theorem Settled.not_capital {n : Nat} (h : Settled n) : ¬(65 ≤ n ∧ n ≤ 90) := by
  have hCapitals := h.not_covers ⟨0x41, 0x5A, 1, 32⟩ List.mem_cons_self
  rintro ⟨hFirst, hLast⟩
  rw [Bool.eq_false_iff] at hCapitals
  exact hCapitals (CaseRun.covers_iff.mpr ⟨hFirst, hLast, Nat.mod_one _⟩)

theorem Settled.lowerChar_eq {c : Char} (h : Settled c.toNat) : lowerChar c = [c] := by
  have hDotted : (c.toNat == 0x130) = false := beq_false_of_ne h.ne_dotted
  by_cases hAscii : c.toNat < 128
  · simp [lowerChar, hAscii, h.not_capital]
  · simp [lowerChar, hAscii, hDotted, h.shiftBy_eq]

private theorem lowerRuns_beyond_ascii :
    (lowerRuns.all fun run => run == ⟨0x41, 0x5A, 1, 32⟩ || decide (128 ≤ run.first)) = true := by
  decide

theorem settled_of_ascii {n : Nat} (hAscii : n < 128) (hCapital : ¬(65 ≤ n ∧ n ≤ 90)) :
    Settled n := by
  refine ⟨by omega, fun run hRun => Bool.eq_false_iff.mpr fun hCovers => ?_⟩
  obtain ⟨hFirst, hLast, _⟩ := CaseRun.covers_iff.mp hCovers
  have hTable := List.all_eq_true.mp lowerRuns_beyond_ascii run hRun
  rw [Bool.or_eq_true, beq_iff_eq, decide_eq_true_eq] at hTable
  rcases hTable with rfl | hBeyond
  · exact hCapital ⟨hFirst, hLast⟩
  · omega

/-- Among the first 128 characters the small form is that of the letters from A to Z. -/
theorem lowerChar_of_ascii {c : Char} (h : c.toNat < 128) : lowerChar c = [c.toLower] := by
  have hAll : ∀ n < 128, lowerChar (Char.ofNat n) = [(Char.ofNat n).toLower] := by decide
  simpa using hAll c.toNat h

theorem settled_toLower {c : Char} (h : c.toNat < 128) : Settled c.toLower.toNat := by
  have hAll : ∀ n < 128, (Char.ofNat n).toLower.toNat < 128 ∧
      ¬(65 ≤ (Char.ofNat n).toLower.toNat ∧ (Char.ofNat n).toLower.toNat ≤ 90) := by decide
  have hc := hAll c.toNat h
  rw [Char.ofNat_toNat] at hc
  exact settled_of_ascii hc.1 hc.2

theorem settled_combiningDot : Settled 0x307 := ⟨by decide, by decide +kernel⟩

/-- Each character of a small form stands for itself in small forms. -/
theorem settled_of_mem_lowerChar {c d : Char} (h : d ∈ lowerChar c) : Settled d.toNat := by
  by_cases hAscii : c.toNat < 128
  · rw [lowerChar_of_ascii hAscii, List.mem_singleton] at h
    exact h ▸ settled_toLower hAscii
  · by_cases hDotted : c.toNat = 0x130
    · have hForm : lowerChar c = ['i', '\u0307'] := by simp [lowerChar, hDotted]
      rw [hForm, List.mem_cons, List.mem_singleton] at h
      rcases h with rfl | rfl
      · exact settled_of_ascii (by decide) (by decide)
      · exact settled_combiningDot
    · have hForm : lowerChar c = [Char.ofNat (shiftBy lowerRuns c.toNat)] := by
        simp [lowerChar, hAscii, hDotted]
      rw [hForm, List.mem_singleton] at h
      rw [h, Char.toNat_ofNat]
      split
      · exact settled_shiftBy hDotted
      · exact settled_of_ascii (by decide) (by decide)

/-- The images beyond the first 128 characters are characters, and stay there but for one letter. -/
private theorem lowerRuns_images :
    (lowerRuns.all fun run => decide (run.last < 128) || run == ⟨0x212A, 0x212A, 1, -8383⟩ ||
      decide (128 ≤ run.first + run.shift ∧ run.last + run.shift < 0xD800) ||
      decide (0xE000 ≤ run.first + run.shift ∧ run.last + run.shift < 0x110000)) = true := by
  decide +kernel

/-- A character among the first 128 of a small form has come from there. The two letters left out
are also the small forms of other characters. -/
theorem ascii_of_mem_lowerChar {c d : Char} (h : d ∈ lowerChar c) (hAscii : d.toNat < 128)
    (hNotI : d ≠ 'i') (hNotK : d ≠ 'k') : c.toNat < 128 := by
  by_contra hBeyond
  by_cases hDotted : c.toNat = 0x130
  · have hForm : lowerChar c = ['i', '\u0307'] := by simp [lowerChar, hDotted]
    rw [hForm, List.mem_cons, List.mem_singleton] at h
    rcases h with rfl | rfl
    · exact hNotI rfl
    · exact absurd hAscii (by decide)
  · have hForm : lowerChar c = [Char.ofNat (shiftBy lowerRuns c.toNat)] := by
      simp [lowerChar, hBeyond, hDotted]
    rw [hForm, List.mem_singleton] at h
    rcases shiftBy_cases lowerRuns c.toNat with ⟨run, hRun, hCovers, hShift⟩ | ⟨_, hShift⟩
    · obtain ⟨hFirst, hLast, _⟩ := CaseRun.covers_iff.mp hCovers
      have hTable := List.all_eq_true.mp lowerRuns_images run hRun
      simp only [Bool.or_eq_true, decide_eq_true_eq, beq_iff_eq] at hTable
      rcases hTable with ((hSmall | rfl) | hLow) | hHigh
      · omega
      · have hKelvin : c.toNat = 0x212A := Nat.le_antisymm hLast hFirst
        rw [hKelvin] at h
        exact hNotK (h.trans (by decide +kernel))
      · have hValid : (run.image c.toNat).isValidChar := by
          unfold CaseRun.image Nat.isValidChar
          omega
        rw [h, hShift, Char.toNat_ofNat, if_pos hValid, CaseRun.image] at hAscii
        omega
      · have hValid : (run.image c.toNat).isValidChar := by
          unfold CaseRun.image Nat.isValidChar
          omega
        rw [h, hShift, Char.toNat_ofNat, if_pos hValid, CaseRun.image] at hAscii
        omega
    · rw [h, hShift, Char.ofNat_toNat] at hAscii
      exact hBeyond hAscii

theorem sigma_not_settled : ¬Settled 'Σ'.toNat := by
  intro h
  have hCovers := h.not_covers ⟨0x3A3, 0x3AB, 1, 32⟩ (by decide +kernel)
  exact absurd hCovers (by decide)

theorem settled_of_mem_lowerAfter {afterCased : Bool} {s : List Char} {d : Char}
    (h : d ∈ lowerAfter afterCased s) : Settled d.toNat := by
  induction s generalizing afterCased with
  | nil => cases h
  | cons c s ih =>
      rw [lowerAfter, List.mem_append] at h
      rcases h with hImage | hRest
      · split at hImage
        · rw [List.mem_singleton] at hImage
          split at hImage
          · exact hImage ▸ settled_of_mem_lowerChar (c := 'ς') (by decide +kernel)
          · exact hImage ▸ settled_of_mem_lowerChar (c := 'Σ') (by decide +kernel)
        · exact settled_of_mem_lowerChar hImage
      · exact ih hRest

theorem lowerAfter_of_settled {afterCased : Bool} {s : List Char}
    (h : ∀ c ∈ s, Settled c.toNat) : lowerAfter afterCased s = s := by
  induction s generalizing afterCased with
  | nil => rfl
  | cons c s ih =>
      have hHead := h c List.mem_cons_self
      have hSigma : (c == 'Σ') = false := by
        rw [beq_eq_false_iff_ne]
        rintro rfl
        exact sigma_not_settled hHead
      rw [lowerAfter, hSigma, ih fun d hd => h d (List.mem_cons_of_mem c hd)]
      simp [hHead.lowerChar_eq]

/-- The small form of a small form is that small form. -/
theorem lower_lower (s : List Char) : lower (lower s) = lower s :=
  lowerAfter_of_settled fun _ h => settled_of_mem_lowerAfter h

theorem lowerChar_ne_nil (c : Char) : lowerChar c ≠ [] := by
  dsimp only [lowerChar]
  split_ifs <;> simp

/-- The small form of a text of the first 128 characters is that of the letters from A to Z alone. -/
theorem lower_of_ascii {s : List Char} (h : ∀ c ∈ s, c.toNat < 128) :
    lower s = s.map Char.toLower := by
  unfold lower
  generalize false = afterCased
  induction s generalizing afterCased with
  | nil => rfl
  | cons c s ih =>
      obtain ⟨hHead, hTail⟩ := List.forall_mem_cons.mp h
      have hSigma : (c == 'Σ') = false := by
        rw [beq_eq_false_iff_ne]
        rintro rfl
        exact absurd hHead (by decide)
      rw [lowerAfter, hSigma, ih hTail]
      simp [lowerChar_of_ascii hHead]

/-- A small form that lies among the first 128 characters, without the two letters that other
characters share, is the small form of the letters from A to Z alone. -/
theorem lower_eq_map_toLower {s : List Char}
    (h : ∀ d ∈ lower s, d.toNat < 128 ∧ d ≠ 'i' ∧ d ≠ 'k') : lower s = s.map Char.toLower := by
  unfold lower at *
  generalize false = afterCased at h ⊢
  induction s generalizing afterCased with
  | nil => rfl
  | cons c s ih =>
      rw [lowerAfter] at h ⊢
      have hRest := ih _ fun d hd => h d (List.mem_append_right _ hd)
      by_cases hSigma : c = 'Σ'
      · have hHead := h (if afterCased && !startsCased s then 'ς' else 'σ') (by simp [hSigma])
        split at hHead
        · exact absurd hHead.1 (by decide)
        · exact absurd hHead.1 (by decide)
      · rw [if_neg (by simpa using hSigma)] at h ⊢
        have hAscii : c.toNat < 128 := by
          by_contra hBeyond
          obtain ⟨d, hd⟩ := List.exists_mem_of_ne_nil _ (lowerChar_ne_nil c)
          obtain ⟨hd', hNotI, hNotK⟩ := h d (List.mem_append_left _ hd)
          exact hBeyond (ascii_of_mem_lowerChar hd hd' hNotI hNotK)
        rw [hRest, lowerChar_of_ascii hAscii]
        rfl

end LogViewer.Text
