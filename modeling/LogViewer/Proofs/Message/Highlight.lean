import Mathlib
import LogViewer.Proofs.Message.Spans

/-! What is highlighted in a text: the offsets at which the terms occur in its small form, no matter
in what order the terms come and how often. -/
namespace LogViewer

open Text LogViewer.Span

namespace Text

theorem mem_occurrences {part s : List Char} (hNil : part ≠ []) {offset i : Nat} :
    i ∈ occurrences part offset s ↔ offset ≤ i ∧ part <+: s.drop (i - offset) := by
  induction s generalizing offset with
  | nil => simp [occurrences, hNil]
  | cons c s ih =>
      have hStep : i ∈ occurrences part offset (c :: s) ↔
          (i = offset ∧ part <+: c :: s) ∨ i ∈ occurrences part (offset + 1) s := by
        rw [occurrences, ← List.isPrefixOf_iff_prefix]
        split <;> simp [*]
      rw [hStep, ih]
      constructor
      · rintro (⟨rfl, hFront⟩ | ⟨hAfter, hRest⟩)
        · simpa using hFront
        · have hOffset : i - offset = i - (offset + 1) + 1 := by omega
          exact ⟨by omega, by rwa [hOffset, List.drop_succ_cons]⟩
      · rintro ⟨hFrom, hFront⟩
        rcases Nat.eq_or_lt_of_le hFrom with rfl | hAfter
        · exact Or.inl ⟨rfl, by simpa using hFront⟩
        · have hOffset : i - offset = i - (offset + 1) + 1 := by omega
          rw [hOffset, List.drop_succ_cons] at hFront
          exact Or.inr ⟨hAfter, hFront⟩

/-- Whether an offset lies in an occurrence of a term, which may overlap with others. -/
def LiesIn (term s : List Char) (p : Nat) : Prop :=
  ∃ i, term <+: s.drop i ∧ i ≤ p ∧ p < i + term.length

end Text

variable {text : List Char} {terms : List (List Char)}

/-- The spans of the occurrences of the terms in a small form, before they are joined. -/
def occurrenceSpans (small : List Char) (terms : List (List Char)) : List Span :=
  terms.flatMap fun term =>
    if term.isEmpty then []
    else (occurrences term 0 small).map fun start => ⟨start, start + term.length⟩

theorem mem_occurrenceSpans {small : List Char} {s : Span} :
    s ∈ occurrenceSpans small terms ↔
      ∃ term ∈ terms, term ≠ [] ∧ term <+: small.drop s.start ∧ s.stop = s.start + term.length := by
  rw [occurrenceSpans, List.mem_flatMap]
  refine exists_congr fun term => and_congr_right fun _ => ?_
  by_cases hNil : term = []
  · simp [hNil]
  · rw [if_neg (by simpa using hNil), List.mem_map]
    constructor
    · rintro ⟨start, hStart, rfl⟩
      exact ⟨hNil, by simpa using ((mem_occurrences hNil).mp hStart).2, rfl⟩
    · rintro ⟨-, hFront, hStop⟩
      refine ⟨s.start, (mem_occurrences hNil).mpr ⟨Nat.zero_le _, by simpa using hFront⟩, ?_⟩
      rw [← hStop]

theorem highlightSpans_eq (text : List Char) (terms : List (List Char)) :
    highlightSpans text terms = mergeAll (occurrenceSpans (lower text) terms) := rfl

theorem isSeparated_highlightSpans (text : List Char) (terms : List (List Char)) :
    IsSeparated (highlightSpans text terms) := by
  rw [highlightSpans_eq]
  refine isSeparated_mergeAll fun s hs => ?_
  obtain ⟨term, -, hNil, -, hStop⟩ := mem_occurrenceSpans.mp hs
  have hLength := List.length_pos_iff.mpr hNil
  omega

theorem covers_highlightSpans (text : List Char) (terms : List (List Char)) (p : Nat) :
    Covers (highlightSpans text terms) p ↔
      ∃ term ∈ terms, term ≠ [] ∧ LiesIn term (lower text) p := by
  rw [highlightSpans_eq, covers_mergeAll]
  constructor
  · rintro ⟨s, hs, hStart, hStop⟩
    obtain ⟨term, hTerm, hNil, hFront, hLength⟩ := mem_occurrenceSpans.mp hs
    exact ⟨term, hTerm, hNil, s.start, hFront, hStart, hLength ▸ hStop⟩
  · rintro ⟨term, hTerm, hNil, i, hFront, hStart, hStop⟩
    exact ⟨⟨i, i + term.length⟩, mem_occurrenceSpans.mpr ⟨term, hTerm, hNil, hFront, rfl⟩,
      hStart, hStop⟩

/-- What is highlighted are separated spans that cover the offsets of the occurrences of the terms
in the small form of the text and no others. Neither the order of the terms nor how often they come
makes a difference. -/
theorem highlightSpans_isMergedCover (text : List Char) (terms : List (List Char)) :
    IsSeparated (highlightSpans text terms) ∧
      (∀ p, Covers (highlightSpans text terms) p ↔
        ∃ term ∈ terms, term ≠ [] ∧ LiesIn term (lower text) p) ∧
      ∀ others : List (List Char), (∀ term, term ∈ others ↔ term ∈ terms) →
        highlightSpans text others = highlightSpans text terms := by
  refine ⟨isSeparated_highlightSpans text terms, covers_highlightSpans text terms, ?_⟩
  intro others hSame
  refine (isSeparated_highlightSpans text others).eq_of_covers_iff
    (isSeparated_highlightSpans text terms) fun p => ?_
  simp only [covers_highlightSpans, hSame]

/-- Terms of which one is in the other, in the other order and one of them twice. -/
theorem highlightSpans_isMergedCover_repeated :
    highlightSpans "Payment".toList ["pay".toList, "payment".toList, "pay".toList] =
      highlightSpans "Payment".toList ["payment".toList, "pay".toList] := by
  refine (highlightSpans_isMergedCover _ _).2.2 _ fun term => ?_
  simp only [List.mem_cons, List.not_mem_nil, or_false]
  tauto

/-- Occurrences that overlap are one span. -/
example : highlightSpans "aAaa b aa".toList ["aa".toList] = [⟨0, 4⟩, ⟨7, 9⟩] := by cbv

end LogViewer
