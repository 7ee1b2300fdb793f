import Mathlib
import LogViewer.Proofs.Text.Joined
import LogViewer.Proofs.Text.SmallForm

/-! Words of the first 128 characters in small forms. But for the small sigma, each character has the
same small form wherever it stands, so such a word is looked for in a text character by character. -/
namespace LogViewer.Text

/-- A small sigma as it is inside of words. -/
def innerSigma (c : Char) : Char := if c = 'ς' then 'σ' else c

/-- The small form of a character, wherever it stands. -/
def plainLower (c : Char) : List Char := (lowerChar c).map innerSigma

theorem innerSigma_of_ascii {c : Char} (h : c.toNat < 128) : innerSigma c = c := by
  refine if_neg ?_
  rintro rfl
  exact absurd h (by decide)

theorem innerSigma_eq_self {c : Char} (h : (innerSigma c).toNat < 128) : innerSigma c = c := by
  refine if_neg ?_
  rintro rfl
  exact absurd h (by decide)

theorem toLower_lt_of_ascii {c : Char} (h : c.toNat < 128) : c.toLower.toNat < 128 := by
  have hAll : ∀ n < 128, (Char.ofNat n).toLower.toNat < 128 := by decide
  have hLower := hAll c.toNat h
  rw [Char.ofNat_toNat] at hLower
  exact hLower

theorem plainLower_of_ascii {c : Char} (h : c.toNat < 128) : plainLower c = [c.toLower] := by
  rw [plainLower, lowerChar_of_ascii h, List.map_singleton,
    innerSigma_of_ascii (toLower_lt_of_ascii h)]

/-- A character among the first 128 of a small form has come from there, two letters left out. -/
theorem ascii_of_mem_plainLower {c d : Char} (h : d ∈ plainLower c) (hAscii : d.toNat < 128)
    (hNotI : d ≠ 'i') (hNotK : d ≠ 'k') : c.toNat < 128 := by
  obtain ⟨e, he, rfl⟩ := List.mem_map.mp h
  have hSame := innerSigma_eq_self hAscii
  rw [hSame] at hAscii hNotI hNotK
  exact ascii_of_mem_lowerChar he hAscii hNotI hNotK

theorem map_innerSigma_lowerAfter (afterCased : Bool) (s : List Char) :
    (lowerAfter afterCased s).map innerSigma = s.flatMap plainLower := by
  induction s generalizing afterCased with
  | nil => rfl
  | cons c s ih =>
      rw [lowerAfter, List.map_append, ih, List.flatMap_cons]
      by_cases hSigma : c = 'Σ'
      · have hPlain : plainLower 'Σ' = ['σ'] := by decide +kernel
        subst hSigma
        rw [if_pos (beq_self_eq_true _), hPlain]
        split <;> rfl
      · rw [if_neg (by simpa using hSigma)]
        rfl

variable {w s : List Char}

theorem isInfix_map_innerSigma_iff (hAscii : ∀ c ∈ w, c.toNat < 128) :
    w <:+: s.map innerSigma ↔ w <:+: s := by
  constructor
  · rintro ⟨front, back, h⟩
    obtain ⟨t, back', rfl, ht, rfl⟩ := List.map_eq_append_iff.mp h.symm
    obtain ⟨front', w', rfl, rfl, rfl⟩ := List.map_eq_append_iff.mp ht
    have hSame : w'.map innerSigma = w'.map id := by
      refine List.map_congr_left fun c hc => innerSigma_eq_self (hAscii _ ?_)
      exact List.mem_map_of_mem hc
    rw [hSame, List.map_id]
    exact List.infix_append _ _ _
  · intro h
    have hSame : w.map innerSigma = w.map id :=
      List.map_congr_left fun c hc => innerSigma_of_ascii (hAscii c hc)
    rw [List.map_id] at hSame
    rw [← hSame]
    exact h.map innerSigma

/-- Whether a word of the first 128 characters is in the small form of a text is settled character by
character. -/
theorem isInfix_lower_iff (hAscii : ∀ c ∈ w, c.toNat < 128) :
    w <:+: lower s ↔ w <:+: s.flatMap plainLower := by
  rw [← map_innerSigma_lowerAfter false, isInfix_map_innerSigma_iff hAscii]
  rfl

theorem isInfix_lower_of_isInfix {t : List Char} (hAscii : ∀ c ∈ w, c.toNat < 128) (h : s <:+: t)
    (hw : w <:+: lower s) : w <:+: lower t := by
  rw [isInfix_lower_iff hAscii] at hw ⊢
  exact hw.trans (h.flatMap plainLower)

/-- A word that is in a text is in its small form, in small letters itself. -/
theorem lower_isInfix_lower (hAscii : ∀ c ∈ w, c.toNat < 128) (h : w <:+: s) :
    lower w <:+: lower s := by
  have hPlain : w.flatMap plainLower = lower w := by
    rw [lower_of_ascii hAscii, List.map_eq_flatMap]
    exact List.flatMap_congr fun c hc => plainLower_of_ascii (hAscii c hc)
  have hSmall : ∀ d ∈ lower w, d.toNat < 128 := by
    intro d hd
    rw [lower_of_ascii hAscii] at hd
    obtain ⟨c, hc, rfl⟩ := List.mem_map.mp hd
    exact toLower_lt_of_ascii (hAscii c hc)
  rw [isInfix_lower_iff hSmall, ← hPlain]
  exact h.flatMap plainLower

/-- A character among the first 128 that is no letter is in the small form of a text only if it is in
the text. -/
theorem mem_of_mem_lower {c : Char} (hAscii : c.toNat < 128) (hc : c.isAlpha = false)
    (h : c ∈ lower s) : c ∈ s := by
  rw [← List.singleton_infix_iff, isInfix_lower_iff (by simpa using hAscii),
    List.singleton_infix_iff, List.mem_flatMap] at h
  obtain ⟨d, hd, hForm⟩ := h
  have hNot (e : Char) (he : e.isAlpha = true) : c ≠ e := by
    rintro rfl
    exact absurd he (Bool.not_eq_true _ ▸ hc)
  have hFrom : d.toNat < 128 :=
    ascii_of_mem_plainLower hForm hAscii (hNot 'i' (by decide)) (hNot 'k' (by decide))
  rw [plainLower_of_ascii hFrom, List.mem_singleton] at hForm
  have hUpper : ¬d.isUpper = true := by
    rw [hForm, Char.isAlpha_toLower_eq_isAlpha, Char.isAlpha, Bool.or_eq_false_iff] at hc
    simp [hc.1]
  rwa [hForm, Char.toLower_eq_of_not_isUpper hUpper]

/-- A word of at least two letters, all of them small ones from a to z. -/
structure IsSmallWord (w : List Char) : Prop where
  two_le_length : 2 ≤ w.length
  isLower : ∀ c ∈ w, c.isLower = true

namespace IsSmallWord

variable {t : List Char} {c : Char} (h : IsSmallWord w)

include h

theorem ascii : ∀ c ∈ w, c.toNat < 128 := by
  intro c hc
  have hLower := h.isLower c hc
  simp only [Char.isLower, Bool.and_eq_true, decide_eq_true_eq, ge_iff_le, UInt32.le_iff_toNat_le]
    at hLower
  exact Nat.lt_of_le_of_lt hLower.2 (by decide)

theorem ne_nil : w ≠ [] := by
  rintro rfl
  exact absurd h.two_le_length (by decide)

theorem not_isInfix_lower_nil : ¬w <:+: lower [] := fun hw => h.ne_nil (List.infix_nil.mp hw)

theorem not_mem (hc : c.isAlpha = false) : c ∉ w := by
  intro hMem
  rw [Char.isAlpha, h.isLower c hMem, Bool.or_true] at hc
  cases hc

/-- A character that is no letter parts a text for the search of such a word. -/
theorem isInfix_lower_append_iff (hAscii : c.toNat < 128) (hc : c.isAlpha = false) (s t : List Char) :
    w <:+: lower (s ++ c :: t) ↔ w <:+: lower s ∨ w <:+: lower t := by
  have hAll : ∀ n < 128, (Char.ofNat n).isAlpha = false →
      (Char.ofNat n).toLower = Char.ofNat n := by decide
  have hSame := hAll c.toNat hAscii
  rw [Char.ofNat_toNat] at hSame
  simp only [isInfix_lower_iff h.ascii, List.flatMap_append, List.flatMap_cons,
    plainLower_of_ascii hAscii, hSame hc, List.singleton_append]
  exact isInfix_append_cons_iff (h.not_mem hc)

theorem isInfix_lower_cons_iff (hAscii : c.toNat < 128) (hc : c.isAlpha = false) (t : List Char) :
    w <:+: lower (c :: t) ↔ w <:+: lower t := by
  simpa [h.not_isInfix_lower_nil] using h.isInfix_lower_append_iff hAscii hc [] t

/-- A small letter before a text adds a word to it only if the word begins with that letter. -/
theorem isInfix_lower_of_cons (hAscii : c.toNat < 128) (hc : c.isLower = true)
    (hw : w <:+: lower (c :: t)) :
    w.head? = some c ∨ w <:+: lower t := by
  have hAll : ∀ n < 128, (Char.ofNat n).isLower = true → (Char.ofNat n).toLower = Char.ofNat n := by
    decide
  have hSame := hAll c.toNat hAscii
  rw [Char.ofNat_toNat] at hSame
  rw [isInfix_lower_iff h.ascii, List.flatMap_cons, plainLower_of_ascii hAscii, hSame hc,
    List.singleton_append, List.infix_cons_iff] at hw
  rw [isInfix_lower_iff h.ascii]
  refine hw.imp_left fun hFront => ?_
  cases w with
  | nil => exact absurd rfl h.ne_nil
  | cons d w => rw [(List.cons_prefix_cons.mp hFront).1, List.head?_cons]

end IsSmallWord

end LogViewer.Text
