import Mathlib
import LogViewer.Text.Case

/-! Small forms in pieces. A character that parts words keeps the small form of what stands before
it apart from that of what follows, so a piece of a text between two such characters has its own
small form there. -/
namespace LogViewer.Text

/-- What follows a text makes no difference to whether it starts cased, unless that does itself. -/
theorem startsCased_append {t : List Char} (h : startsCased t = false) (s : List Char) :
    startsCased (s ++ t) = startsCased s := by
  induction s with
  | nil => exact h
  | cons c s ih => rw [List.cons_append, startsCased, startsCased, ih]

/-- A character that parts words: it is neither cased nor skipped, and it is its own small form. -/
structure PartsWords (c : Char) : Prop where
  not_cased : isCased c = false
  not_ignorable : isCaseIgnorable c = false
  lowerChar_eq : lowerChar c = [c]

theorem partsWords_blank : PartsWords ' ' := ⟨by decide, by decide, by decide⟩

theorem partsWords_comma : PartsWords ',' := ⟨by decide, by decide, by decide⟩

theorem partsWords_opening : PartsWords '{' := ⟨by decide, by decide, by decide⟩

theorem partsWords_quotationMark : PartsWords '"' := ⟨by decide, by decide, by decide⟩

theorem partsWords_closing : PartsWords '}' := ⟨by decide, by decide, by decide⟩

theorem lowerAfter_append_of_partsWords {c : Char} (h : PartsWords c) (afterCased : Bool)
    (s t : List Char) :
    lowerAfter afterCased (s ++ c :: t) = lowerAfter afterCased s ++ c :: lower t := by
  have hStart : startsCased (c :: t) = false := by
    rw [startsCased, h.not_ignorable, h.not_cased]
    rfl
  induction s generalizing afterCased with
  | nil =>
      have hSigma : (c == 'Σ') = false := by
        rw [beq_eq_false_iff_ne]
        rintro rfl
        exact absurd h.not_cased (by decide +kernel)
      simp [lowerAfter, hSigma, h.lowerChar_eq, h.not_ignorable, h.not_cased, lower]
  | cons d s ih =>
      rw [List.cons_append, lowerAfter, lowerAfter, ih, startsCased_append hStart,
        List.append_assoc]

/-- The small form of a text is that of its parts on both sides of a character that parts words. -/
theorem lower_append_of_partsWords {c : Char} (h : PartsWords c) (s t : List Char) :
    lower (s ++ c :: t) = lower s ++ c :: lower t :=
  lowerAfter_append_of_partsWords h false s t

/-- Whether a piece stands in a text between two characters that part words. -/
def StandsApart (piece s : List Char) : Prop :=
  ∃ front back c d, PartsWords c ∧ PartsWords d ∧ s = front ++ c :: (piece ++ d :: back)

variable {piece s : List Char}

theorem StandsApart.append_left (h : StandsApart piece s) (t : List Char) :
    StandsApart piece (t ++ s) := by
  obtain ⟨front, back, c, d, hc, hd, rfl⟩ := h
  exact ⟨t ++ front, back, c, d, hc, hd, by simp⟩

/-- A piece that stands apart has its own small form in that of the text. -/
theorem StandsApart.isInfix_lower (h : StandsApart piece s) : lower piece <:+: lower s := by
  obtain ⟨front, back, c, d, hc, hd, rfl⟩ := h
  rw [lower_append_of_partsWords hc, lower_append_of_partsWords hd]
  exact ⟨lower front ++ [c], d :: lower back, by simp⟩

end LogViewer.Text
