import Mathlib
import LogViewer.Proofs.Json.Printing
import LogViewer.Proofs.Text.Occurrence

/-! Words of small letters in the texts of objects. What stands between the names and the values of an
object are no letters, so such a word is within one of them. In a literal the word is in the text that
the literal stands for, or it begins with the letter that ends the escape of a control character. -/
namespace LogViewer.Json

open Text

variable {w s : List Char}

/-- A text as it is written between quotation marks. -/
def escaped (s : List Char) : List Char := s.flatMap escapedChar

/-- What an escape has before its last character. -/
def escapeFronts : List (List Char) := [['\\'], "\\u000".toList, "\\u001".toList]

/-- What the escape of a control character ends in. -/
def escapeEnds : List Char :=
  ['0', '1', '2', '3', '4', '5', '6', '7', '8', '9', 'a', 'b', 'c', 'd', 'e', 'f', 'n', 'r', 't']

/-- Only quotation marks, backslashes and control characters are escaped. -/
theorem escapedChar_eq_self {c : Char} (hQuote : c ≠ '"') (hBackslash : c ≠ '\\')
    (h : 0x20 ≤ c.toNat) : escapedChar c = [c] := by
  have hNot (d : Char) (hd : d.toNat < 0x20) : c ≠ d := by
    rintro rfl
    omega
  simp [escapedChar, hQuote, hBackslash, Nat.not_lt.mpr h, hNot '\n' (by decide),
    hNot '\r' (by decide), hNot '\t' (by decide), hNot '\x08' (by decide), hNot '\x0c' (by decide)]

/-- A character stands for itself or is escaped, and the escape ends in a letter only for a control
character. -/
theorem escapedChar_cases (c : Char) : escapedChar c = [c] ∨
    ∃ front ∈ escapeFronts, ∃ d, escapedChar c = front ++ [d] ∧ d.toNat < 128 ∧
      (d.isAlpha = true → d.isLower = true ∧ c.toNat < 0x20) := by
  by_cases hControl : c.toNat < 0x20
  · have hAll : ∀ n < 0x20, escapedChar (Char.ofNat n) ∈
        escapeFronts.flatMap fun front => escapeEnds.map fun d => front ++ [d] := by decide
    have hEnds : ∀ d ∈ escapeEnds, d.toNat < 128 ∧ (d.isAlpha = true → d.isLower = true) := by
      simp [escapeEnds]
    have hEscape := hAll c.toNat hControl
    rw [Char.ofNat_toNat] at hEscape
    obtain ⟨front, hFront, hEscape⟩ := List.mem_flatMap.mp hEscape
    obtain ⟨d, hd, hEscape⟩ := List.mem_map.mp hEscape
    obtain ⟨hAscii, hLower⟩ := hEnds d hd
    exact Or.inr ⟨front, hFront, d, hEscape.symm, hAscii, fun h => ⟨hLower h, hControl⟩⟩
  · by_cases hQuote : c = '"'
    · subst hQuote
      exact Or.inr ⟨_, List.mem_cons_self, '"', rfl, by decide, fun h => absurd h (by decide)⟩
    by_cases hBackslash : c = '\\'
    · subst hBackslash
      exact Or.inr ⟨_, List.mem_cons_self, '\\', rfl, by decide, fun h => absurd h (by decide)⟩
    exact Or.inl (escapedChar_eq_self hQuote hBackslash (Nat.le_of_not_lt hControl))

/-- No part of such a word is in the front of an escape. -/
theorem isInfix_lower_of_escape (h : IsSmallWord w) {front t : List Char}
    (hFront : front ∈ escapeFronts) (hw : w <:+: lower (s ++ (front ++ t))) :
    w <:+: lower s ∨ w <:+: lower t := by
  have hShort : ¬w <:+: lower ['u'] := by
    intro hu
    have hLe := hu.length_le
    have hTwo := h.two_le_length
    have hOne : (lower ['u']).length = 1 := by decide
    omega
  have hNumber {x : Char} (hAscii : x.toNat < 128) (hx : x.isAlpha = false)
      (hw : w <:+: lower (['u'] ++ '0' :: '0' :: x :: t)) : w <:+: lower t := by
    rw [h.isInfix_lower_append_iff (by decide) (by decide), or_iff_right hShort,
      h.isInfix_lower_cons_iff (by decide) (by decide), h.isInfix_lower_cons_iff hAscii hx] at hw
    exact hw
  have hFront : front = '\\' :: [] ∨ front = '\\' :: (['u'] ++ '0' :: '0' :: '0' :: []) ∨
      front = '\\' :: (['u'] ++ '0' :: '0' :: '1' :: []) := by simpa [escapeFronts] using hFront
  rcases hFront with rfl | rfl | rfl
  · exact (h.isInfix_lower_append_iff (by decide) (by decide) s t).mp hw
  · rw [List.cons_append, h.isInfix_lower_append_iff (by decide) (by decide)] at hw
    exact hw.imp_right (hNumber (by decide) (by decide))
  · rw [List.cons_append, h.isInfix_lower_append_iff (by decide) (by decide)] at hw
    exact hw.imp_right (hNumber (by decide) (by decide))

/-- A word in a text as it is written between quotation marks is in the text itself, unless it begins
with the letter that ends the escape of a control character. -/
theorem isInfix_lower_escaped (h : IsSmallWord w) (front : List Char)
    (hw : w <:+: lower (front ++ escaped s)) :
    w <:+: lower (front ++ s) ∨
      ∃ c ∈ s, c.toNat < 0x20 ∧ (escapedChar c).getLast? = w.head? := by
  induction s generalizing front with
  | nil => exact Or.inl hw
  | cons c s ih =>
      have hWhole : escaped (c :: s) = escapedChar c ++ escaped s := rfl
      rcases escapedChar_cases c with hSelf | ⟨q, hq, d, hEscape, hAscii, hLetter⟩
      · have hMoved : front ++ c :: s = (front ++ [c]) ++ s := by simp
        rw [hWhole, hSelf, ← List.append_assoc] at hw
        rw [hMoved]
        exact (ih _ hw).imp_right fun ⟨e, he, hEnd⟩ => ⟨e, List.mem_cons_of_mem c he, hEnd⟩
      · have hFront : w <:+: lower front → w <:+: lower (front ++ c :: s) :=
          isInfix_lower_of_isInfix h.ascii (List.prefix_append _ _).isInfix
        have hBack : w <:+: lower s → w <:+: lower (front ++ c :: s) :=
          isInfix_lower_of_isInfix h.ascii
            ((List.suffix_cons c s).trans (List.suffix_append front _)).isInfix
        rw [hWhole, hEscape, List.append_assoc] at hw
        rcases isInfix_lower_of_escape h hq hw with hw | hw
        · exact Or.inl (hFront hw)
        · rcases ih [d] hw with hw | ⟨e, he, hEnd⟩
          · by_cases hd : d.isAlpha = true
            · obtain ⟨hLower, hControl⟩ := hLetter hd
              rcases h.isInfix_lower_of_cons hAscii hLower hw with hHead | hw
              · refine Or.inr ⟨c, List.mem_cons_self, hControl, ?_⟩
                rw [hEscape, List.getLast?_concat, hHead]
              · exact Or.inl (hBack hw)
            · rw [Bool.not_eq_true] at hd
              exact Or.inl (hBack ((h.isInfix_lower_cons_iff hAscii hd s).mp hw))
          · exact Or.inr ⟨e, List.mem_cons_of_mem c he, hEnd⟩

theorem isInfix_lower_append_furtherEntries_iff (h : IsSmallWord w) (text : List Char)
    (texts : List (List Char)) : w <:+: lower (text ++ furtherEntries texts) ↔
      w <:+: lower text ∨ w <:+: lower (furtherEntries texts) := by
  cases texts with
  | nil =>
      rw [furtherEntries, h.isInfix_lower_append_iff (by decide) (by decide),
        h.isInfix_lower_cons_iff (by decide) (by decide)]
  | cons other texts =>
      rw [furtherEntries, List.cons_append, h.isInfix_lower_append_iff (by decide) (by decide),
        h.isInfix_lower_cons_iff (by decide) (by decide) (_ ++ _)]

theorem isInfix_lower_furtherEntries_iff (h : IsSmallWord w) {texts : List (List Char)} :
    w <:+: lower (furtherEntries texts) ↔ ∃ text ∈ texts, w <:+: lower text := by
  induction texts with
  | nil =>
      rw [furtherEntries, h.isInfix_lower_cons_iff (by decide) (by decide)]
      simp [h.not_isInfix_lower_nil]
  | cons text texts ih =>
      rw [furtherEntries, List.cons_append, List.cons_append,
        h.isInfix_lower_cons_iff (by decide) (by decide),
        h.isInfix_lower_cons_iff (by decide) (by decide),
        isInfix_lower_append_furtherEntries_iff h, ih, List.exists_mem_cons_iff]

/-- A word in the text of an object is in that of one of its entries. -/
theorem isInfix_lower_objectText_iff (h : IsSmallWord w) {texts : List (List Char)} :
    w <:+: lower (objectText texts) ↔ ∃ text ∈ texts, w <:+: lower text := by
  cases texts with
  | nil =>
      rw [objectText, h.isInfix_lower_cons_iff (by decide) (by decide),
        h.isInfix_lower_cons_iff (by decide) (by decide)]
      simp [h.not_isInfix_lower_nil]
  | cons text texts =>
      rw [objectText, List.cons_append, h.isInfix_lower_cons_iff (by decide) (by decide),
        isInfix_lower_append_furtherEntries_iff h, isInfix_lower_furtherEntries_iff h,
        List.exists_mem_cons_iff]

/-- A word in a literal is between its quotation marks. -/
theorem isInfix_lower_literal_append_iff (h : IsSmallWord w) (s : String) (t : List Char) :
    w <:+: lower (literal s ++ t) ↔ w <:+: lower (escaped s.toList) ∨ w <:+: lower t := by
  have hLiteral : literal s ++ t = '"' :: (escaped s.toList ++ '"' :: t) := by
    simp [literal, escaped]
  rw [hLiteral, h.isInfix_lower_cons_iff (by decide) (by decide),
    h.isInfix_lower_append_iff (by decide) (by decide)]

theorem isInfix_lower_literal_iff (h : IsSmallWord w) (s : String) :
    w <:+: lower (literal s) ↔ w <:+: lower (escaped s.toList) := by
  have hWhole := isInfix_lower_literal_append_iff h s []
  rw [List.append_nil, or_iff_left h.not_isInfix_lower_nil] at hWhole
  exact hWhole

/-- A word in an entry of two texts is in its name or in its value. -/
theorem isInfix_lower_compactEntry_iff (h : IsSmallWord w) (name value : String) :
    w <:+: lower (compactEntry (name, .string value)) ↔
      w <:+: lower (escaped name.toList) ∨ w <:+: lower (escaped value.toList) := by
  have hValue : (string value).compact = literal value := rfl
  rw [compactEntry, hValue, isInfix_lower_literal_append_iff h,
    h.isInfix_lower_cons_iff (by decide) (by decide),
    h.isInfix_lower_cons_iff (by decide) (by decide), isInfix_lower_literal_iff h]

end LogViewer.Json
