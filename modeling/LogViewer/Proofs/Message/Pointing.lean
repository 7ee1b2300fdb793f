import Mathlib
import LogViewer.Proofs.Message.Highlight
import LogViewer.Proofs.Text.Stretch

/-! What the highlighted spans hold. They are spans of the small form of a text, and each of them
holds a term there. In the text itself they hold it too, as long as no dotted capital, whose small
form has two characters, stands before their end; behind one they point too far, even beyond the
end. -/
namespace LogViewer

open Text LogViewer.Span

namespace Span

/-- The characters of a text in a span. -/
def slice (m : Span) (s : List Char) : List Char := (s.drop m.start).take (m.stop - m.start)

/-- Whether a span points at one of some terms in a text: it lies in the text, and the small form of
what it holds there begins with the term. -/
structure PointsAt (m : Span) (terms : List (List Char)) (text : List Char) : Prop where
  start_lt_stop : m.start < m.stop
  stop_le_length : m.stop ≤ text.length
  begins : ∃ term ∈ terms, term <+: lower (m.slice text)

variable {m : Span}

theorem take_append_slice (hOrder : m.start ≤ m.stop) (s : List Char) :
    s.take m.start ++ m.slice s = s.take m.stop := by
  rw [slice, ← List.take_add, Nat.add_sub_cancel' hOrder]

/-- What a span holds of a small form, if no dotted capital stands before its end in the text. -/
theorem slice_lower {text : List Char} (h : 'İ' ∉ text.take m.stop) (hOrder : m.start ≤ m.stop)
    (hFits : m.stop ≤ text.length) :
    m.slice (lower text) =
      lowerBetween (casedAfter false (text.take m.start)) (startsCased (text.drop m.stop))
        (m.slice text) := by
  rw [← take_append_slice hOrder] at h
  have hStart : (text.take m.start).length = m.start := by
    rw [List.length_take]
    omega
  have hSlice : (m.slice text).length = m.stop - m.start := by
    rw [slice, List.length_take, List.length_drop]
    omega
  have hText : text.take m.start ++ (m.slice text ++ text.drop m.stop) = text := by
    rw [← List.append_assoc, take_append_slice hOrder, List.take_append_drop]
  have hLower := take_drop_lower h (text.drop m.stop)
  rw [hText, hStart, hSlice] at hLower
  exact hLower

end Span

variable {text : List Char} {terms : List (List Char)} {m : Span}

/-- Each highlighted span begins with an occurrence of a term, which lies inside of it. -/
theorem exists_prefix_drop_of_mem_highlightSpans (h : m ∈ highlightSpans text terms) :
    ∃ term ∈ terms, term ≠ [] ∧ term <+: (lower text).drop m.start ∧
      m.start + term.length ≤ m.stop := by
  have hApart := isSeparated_highlightSpans text terms
  have hNonempty := hApart.start_lt_stop m h
  obtain ⟨term, hTerm, hNil, i, hFront, hStart, hStop⟩ :=
    (covers_highlightSpans text terms m.start).mp ⟨m, h, Nat.le_refl _, hNonempty⟩
  have hOccurrence : ∀ q, i ≤ q → q < i + term.length → Covers (highlightSpans text terms) q := by
    intro q hFrom hTo
    exact (covers_highlightSpans text terms q).mpr ⟨term, hTerm, hNil, i, hFront, hFrom, hTo⟩
  obtain ⟨hFrom, hTo⟩ := hApart.holds_stretch hOccurrence h (p := m.start)
    ⟨Nat.le_refl _, hNonempty⟩ ⟨hStart, hStop⟩
  obtain rfl := Nat.le_antisymm hStart hFrom
  exact ⟨term, hTerm, hNil, hFront, hTo⟩

/-- In the small form of the text each highlighted span begins with one of the terms. -/
theorem exists_prefix_slice_lower (h : m ∈ highlightSpans text terms) :
    ∃ term ∈ terms, term <+: m.slice (lower text) := by
  obtain ⟨term, hTerm, -, hFront, hFits⟩ := exists_prefix_drop_of_mem_highlightSpans h
  refine ⟨term, hTerm, List.prefix_take_iff.mpr ⟨hFront, ?_⟩⟩
  omega

/-- No highlighted span goes beyond the small form of the text, since its last offset lies in an
occurrence of a term. -/
theorem stop_le_length_lower (h : m ∈ highlightSpans text terms) :
    m.stop ≤ (lower text).length := by
  have hNonempty := (isSeparated_highlightSpans text terms).start_lt_stop m h
  obtain ⟨term, -, hNil, i, hFront, hStart, hStop⟩ :=
    (covers_highlightSpans text terms (m.stop - 1)).mp ⟨m, h, by omega, by omega⟩
  have hLength := hFront.length_le
  have hTerm := List.length_pos_iff.mpr hNil
  rw [List.length_drop] at hLength
  omega

theorem stop_le_length_of_not_mem (h : m ∈ highlightSpans text terms)
    (hDotted : 'İ' ∉ text.take m.stop) : m.stop ≤ text.length := by
  by_contra hBeyond
  rw [List.take_of_length_le (by omega)] at hDotted
  exact hBeyond (length_lower_eq_iff.mpr hDotted ▸ stop_le_length_lower h)

/-- The small form of a text with a dotted capital is longer than the text, and as a term it has a
span that is too. -/
theorem exists_length_lt_stop (h : 'İ' ∈ text) :
    ∃ m ∈ highlightSpans text [lower text], text.length < m.stop := by
  have hLonger : text.length < (lower text).length :=
    Nat.lt_of_le_of_ne (length_le_length_lower text)
      fun hSame => length_lower_eq_iff.mp hSame.symm h
  have hNil : lower text ≠ [] := List.ne_nil_of_length_pos (by omega)
  obtain ⟨m, hm, -, hStop⟩ := (covers_highlightSpans text [lower text] text.length).mpr
    ⟨lower text, List.mem_singleton_self _, hNil, 0, List.prefix_rfl, Nat.zero_le _, by omega⟩
  exact ⟨m, hm, hStop⟩

/-- A highlighted span begins with one of the terms in the small form of the text, and so it does in
the text itself if no dotted capital stands before its end: always up to the form of small sigmas,
and to the letter if no capital sigma stands in it, or if no word goes on at either of its ends. A
text with a dotted capital has terms, small ones, whose spans go beyond its end. -/
theorem highlightSpans_pointsAt (text : List Char) (terms : List (List Char)) :
    (∀ m ∈ highlightSpans text terms,
      m.start < m.stop ∧ m.stop ≤ (lower text).length ∧
        (∃ term ∈ terms, term <+: m.slice (lower text)) ∧
        ('İ' ∉ text.take m.stop →
          m.stop ≤ text.length ∧
          (∃ term ∈ terms, term.map innerSigma <+: (lower (m.slice text)).map innerSigma) ∧
          ('Σ' ∉ m.slice text ∨
              casedAfter false (text.take m.start) = false ∧
                startsCased (text.drop m.stop) = false →
            m.PointsAt terms text))) ∧
      ('İ' ∈ text → lower (lower text) = lower text ∧
        ∃ m ∈ highlightSpans text [lower text], ¬m.PointsAt [lower text] text) := by
  constructor
  · intro m hm
    have hNonempty := (isSeparated_highlightSpans text terms).start_lt_stop m hm
    obtain ⟨term, hTerm, hFront⟩ := exists_prefix_slice_lower hm
    refine ⟨hNonempty, stop_le_length_lower hm, ⟨term, hTerm, hFront⟩, fun hDotted => ?_⟩
    have hFits := stop_le_length_of_not_mem hm hDotted
    rw [slice_lower hDotted hNonempty.le hFits] at hFront
    refine ⟨hFits, ⟨term, hTerm, ?_⟩, fun hSigma => ⟨hNonempty, hFits, term, hTerm, ?_⟩⟩
    · have hForms := hFront.map innerSigma
      rw [map_innerSigma_lowerBetween] at hForms
      rwa [lower, map_innerSigma_lowerAfter]
    · rcases hSigma with hNone | ⟨hBefore, hAfter⟩
      · rw [lowerBetween_eq_of_not_mem hNone] at hFront
        rwa [lower, ← lowerBetween_false, lowerBetween_eq_of_not_mem hNone]
      · rwa [hBefore, hAfter, lowerBetween_false] at hFront
  · intro hDotted
    obtain ⟨m, hm, hBeyond⟩ := exists_length_lt_stop hDotted
    exact ⟨lower_lower text, m, hm, fun h => absurd h.stop_le_length (Nat.not_le_of_lt hBeyond)⟩

/-- A word with a final sigma before a dotted capital: its span points at the term in the text, and
the whole small form is a term whose span does not. -/
theorem highlightSpans_pointsAt_finalSigma :
    PointsAt ⟨0, 4⟩ ["οδος".toList, "error".toList] "ΟΔΟΣ Error İ".toList ∧
      ∃ m ∈ highlightSpans "ΟΔΟΣ Error İ".toList [lower "ΟΔΟΣ Error İ".toList],
        ¬m.PointsAt [lower "ΟΔΟΣ Error İ".toList] "ΟΔΟΣ Error İ".toList := by
  obtain ⟨hPoints, hDotted⟩ :=
    highlightSpans_pointsAt "ΟΔΟΣ Error İ".toList ["οδος".toList, "error".toList]
  have hSpans : highlightSpans "ΟΔΟΣ Error İ".toList ["οδος".toList, "error".toList] =
      [⟨0, 4⟩, ⟨5, 10⟩] := by
    have hLower : lower "ΟΔΟΣ Error İ".toList = "οδος error i\u0307".toList := by decide +kernel
    rw [highlightSpans_eq, hLower]
    cbv
  have hWord := (hPoints ⟨0, 4⟩ (hSpans ▸ List.mem_cons_self)).2.2.2 (by decide)
  exact ⟨hWord.2.2 (Or.inr ⟨rfl, by decide +kernel⟩), (hDotted (by decide)).2⟩

/-- A dotted capital shifts the span of a word behind it by one character, and a capital sigma that
ends its span is read with another small form there. -/
theorem highlighted_beyond_dotted_capital :
    highlightSpans "İx error".toList ["error".toList] = [⟨4, 9⟩] ∧
      lower "error".toList = "error".toList ∧
      ¬PointsAt ⟨4, 9⟩ ["error".toList] "İx error".toList ∧
      highlightSpans "ΑΣΑ".toList ["ασ".toList] = [⟨0, 2⟩] ∧
      lower "ασ".toList = "ασ".toList ∧
      ¬PointsAt ⟨0, 2⟩ ["ασ".toList] "ΑΣΑ".toList := by
  have hLower : lower "İx error".toList = "i\u0307x error".toList ∧
      lower "ΑΣΑ".toList = "ασα".toList := by decide +kernel
  have hSpans : highlightSpans "İx error".toList ["error".toList] = [⟨4, 9⟩] ∧
      highlightSpans "ΑΣΑ".toList ["ασ".toList] = [⟨0, 2⟩] := by
    rw [highlightSpans_eq, highlightSpans_eq, hLower.1, hLower.2]
    exact ⟨by cbv, by cbv⟩
  refine ⟨hSpans.1, by decide +kernel, fun h => absurd h.stop_le_length (by decide), hSpans.2,
    by decide +kernel, fun h => ?_⟩
  obtain ⟨term, hTerm, hFront⟩ := h.begins
  rw [List.mem_singleton.mp hTerm, ← List.isPrefixOf_iff_prefix] at hFront
  exact absurd hFront (by decide +kernel)

end LogViewer
