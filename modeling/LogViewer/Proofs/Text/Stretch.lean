import Mathlib
import LogViewer.Proofs.Text.Occurrence

/-! The small form of a stretch of a text. All characters but the dotted capital have a small form
of one character, and all but the capital sigma have the same one wherever they stand. So up to the
first dotted capital the offsets of the small form are those of the text, and what stands there is
the small form of the stretch alone, up to the form of small sigmas. -/
namespace LogViewer.Text

/-- Whether a text of which this is the front goes on behind a word character. -/
def casedAfter (afterCased : Bool) : List Char → Bool
  | [] => afterCased
  | c :: s => casedAfter (if isCaseIgnorable c then afterCased else isCased c) s

/-- The small form of a stretch that follows a word character exactly if `afterCased` and comes
before one exactly if `beforeCased`. -/
def lowerBetween (afterCased beforeCased : Bool) : List Char → List Char
  | [] => []
  | c :: s =>
    let endsWord := !(startsCased s || s.all isCaseIgnorable && beforeCased)
    let image := if c == 'Σ' then [if afterCased && endsWord then 'ς' else 'σ'] else lowerChar c
    image ++ lowerBetween (if isCaseIgnorable c then afterCased else isCased c) beforeCased s

theorem startsCased_append_eq (s t : List Char) :
    startsCased (s ++ t) = (startsCased s || s.all isCaseIgnorable && startsCased t) := by
  induction s with
  | nil => rfl
  | cons c s ih =>
      rw [List.cons_append, startsCased, startsCased, ih, List.all_cons]
      cases isCaseIgnorable c <;> simp

/-- The small form of a text is put together from those of its stretches. -/
theorem lowerAfter_append (afterCased : Bool) (s t : List Char) :
    lowerAfter afterCased (s ++ t) =
      lowerBetween afterCased (startsCased t) s ++ lowerAfter (casedAfter afterCased s) t := by
  induction s generalizing afterCased with
  | nil => rfl
  | cons c s ih =>
      rw [List.cons_append, lowerAfter, ih, startsCased_append_eq]
      simp only [lowerBetween, casedAfter, List.append_assoc]

theorem lowerBetween_false (afterCased : Bool) (s : List Char) :
    lowerBetween afterCased false s = lowerAfter afterCased s := by
  have hWhole := lowerAfter_append afterCased s []
  rw [List.append_nil, lowerAfter, List.append_nil] at hWhole
  exact hWhole.symm

theorem lowerBetween_eq_of_not_mem {s : List Char} (h : 'Σ' ∉ s) (afterCased beforeCased : Bool) :
    lowerBetween afterCased beforeCased s = s.flatMap lowerChar := by
  induction s generalizing afterCased with
  | nil => rfl
  | cons c s ih =>
      obtain ⟨hHead, hTail⟩ := not_or.mp (List.mem_cons.not.mp h)
      have hSigma : (c == 'Σ') = false := beq_eq_false_iff_ne.mpr (Ne.symm hHead)
      simp only [lowerBetween, hSigma, ih hTail]
      rfl

theorem map_innerSigma_lowerBetween (afterCased beforeCased : Bool) (s : List Char) :
    (lowerBetween afterCased beforeCased s).map innerSigma = s.flatMap plainLower := by
  -- Any text that starts cased, or does not, stands for what follows the stretch.
  obtain ⟨t, rfl⟩ : ∃ t, startsCased t = beforeCased := by
    cases beforeCased with
    | false => exact ⟨[], rfl⟩
    | true => exact ⟨['a'], by decide⟩
  have hWhole := map_innerSigma_lowerAfter afterCased (s ++ t)
  rw [lowerAfter_append, List.map_append, List.flatMap_append, map_innerSigma_lowerAfter] at hWhole
  exact List.append_cancel_right hWhole

/-- A part of a text that has no capital sigma has its small form in that of the text. -/
theorem lower_isInfix_lower_of_not_mem {s t : List Char} (hSigma : 'Σ' ∉ s) (h : s <:+: t) :
    lower s <:+: lower t := by
  obtain ⟨front, back, rfl⟩ := h
  rw [lower, lower, List.append_assoc, lowerAfter_append, lowerAfter_append,
    lowerBetween_eq_of_not_mem hSigma, ← lowerBetween_false false s,
    lowerBetween_eq_of_not_mem hSigma, ← List.append_assoc]
  exact List.infix_append _ _ _

/-- A word without small sigmas that is in the small form of a part of a text is in that of the
text. -/
theorem isInfix_lower_of_no_sigma {w s t : List Char} (hSigma : 'σ' ∉ w ∧ 'ς' ∉ w) (h : s <:+: t)
    (hw : w <:+: lower s) : w <:+: lower t := by
  have hWord : w.map innerSigma = w := by
    refine (List.map_congr_left fun c hc => if_neg ?_).trans (List.map_id w)
    rintro rfl
    exact hSigma.2 hc
  have hForms : w <:+: (lower t).map innerSigma := by
    rw [lower, map_innerSigma_lowerAfter]
    refine List.IsInfix.trans ?_ (h.flatMap plainLower)
    rw [← map_innerSigma_lowerAfter false, ← hWord]
    exact hw.map innerSigma
  obtain ⟨piece, hPiece, rfl⟩ := List.infix_map_iff.mp hForms
  have hSame : piece.map innerSigma = piece := by
    refine (List.map_congr_left fun c hc => ?_).trans (List.map_id piece)
    refine if_neg fun hFinal => hSigma.1 ?_
    exact List.mem_map.mpr ⟨c, hc, if_pos hFinal⟩
  rwa [hSame]

theorem length_plainLower {c : Char} (h : c ≠ 'İ') : (plainLower c).length = 1 := by
  have hDotted : (c.toNat == 0x130) = false := by
    rw [beq_eq_false_iff_ne]
    exact fun hEq => h (Char.toNat_inj.mp hEq)
  rw [plainLower, List.length_map]
  dsimp only [lowerChar]
  rw [hDotted]
  split <;> rfl

theorem length_flatMap_plainLower {s : List Char} (h : 'İ' ∉ s) :
    (s.flatMap plainLower).length = s.length := by
  induction s with
  | nil => rfl
  | cons c s ih =>
      obtain ⟨hHead, hTail⟩ := not_or.mp (List.mem_cons.not.mp h)
      rw [List.flatMap_cons, List.length_append, length_plainLower (Ne.symm hHead), ih hTail,
        List.length_cons, Nat.add_comm]

theorem length_le_flatMap_plainLower (s : List Char) :
    s.length ≤ (s.flatMap plainLower).length := by
  induction s with
  | nil => exact Nat.le_refl _
  | cons c s ih =>
      have hHead : 0 < (plainLower c).length := by
        rw [plainLower, List.length_map]
        exact List.length_pos_iff.mpr (lowerChar_ne_nil c)
      rw [List.flatMap_cons, List.length_append, List.length_cons]
      omega

theorem length_lowerBetween {s : List Char} (h : 'İ' ∉ s) (afterCased beforeCased : Bool) :
    (lowerBetween afterCased beforeCased s).length = s.length := by
  rw [← length_flatMap_plainLower h, ← map_innerSigma_lowerBetween afterCased beforeCased,
    List.length_map]

/-- The small form of a text is as long as the text if there is no dotted capital in it. -/
theorem length_lower_eq_iff {s : List Char} : (lower s).length = s.length ↔ 'İ' ∉ s := by
  have hLength : (lower s).length = (s.flatMap plainLower).length := by
    rw [← map_innerSigma_lowerAfter false, List.length_map]
    rfl
  rw [hLength]
  constructor
  · intro hSame hMem
    obtain ⟨front, back, rfl⟩ := List.append_of_mem hMem
    have hTwo : (plainLower 'İ').length = 2 := by decide +kernel
    have hFront := length_le_flatMap_plainLower front
    have hBack := length_le_flatMap_plainLower back
    simp only [List.flatMap_append, List.flatMap_cons, List.length_append, List.length_cons,
      hTwo] at hSame
    omega
  · exact length_flatMap_plainLower

theorem length_le_length_lower (s : List Char) : s.length ≤ (lower s).length := by
  have hLength := congrArg List.length (map_innerSigma_lowerAfter false s)
  rw [List.length_map] at hLength
  exact hLength ▸ length_le_flatMap_plainLower s

/-- What stands in a small form where a stretch stands in the text, if there is no dotted capital up
to the end of the stretch. -/
theorem take_drop_lower {front piece : List Char} (h : 'İ' ∉ front ++ piece) (back : List Char) :
    ((lower (front ++ (piece ++ back))).drop front.length).take piece.length =
      lowerBetween (casedAfter false front) (startsCased back) piece := by
  obtain ⟨hFront, hPiece⟩ := not_or.mp (List.mem_append.not.mp h)
  rw [lower, lowerAfter_append, List.drop_left' (length_lowerBetween hFront _ _),
    lowerAfter_append, List.take_left' (length_lowerBetween hPiece _ _)]

end LogViewer.Text
