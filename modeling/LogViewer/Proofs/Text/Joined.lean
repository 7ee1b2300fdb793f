import Mathlib.Data.List.Basic
import LogViewer.Text.Substring

/-! Pieces that are joined by a separator and cut apart again. Cutting a text loses nothing, and it
finds the pieces again in which the second character of the separator does not stand. The last
occurrence of a part is told from what stands behind it, and a part that does not hold some character
stands on one side of it. -/
namespace LogViewer.Text

variable {α : Type}

theorem join_cons (separator piece : List α) {pieces : List (List α)} (h : pieces ≠ []) :
    join separator (piece :: pieces) = piece ++ separator ++ join separator pieces := by
  cases pieces with
  | nil => exact absurd rfl h
  | cons other pieces => rfl

section

variable [BEq α]

theorem splitAtEach_go_ne_nil (first : α) (others piece s : List α) :
    splitAtEach.go first others piece s ≠ [] := by
  induction piece, s using splitAtEach.go.induct first others with
  | case1 piece => simp [splitAtEach.go]
  | case2 piece c s hFront ih => simp [splitAtEach.go, hFront]
  | case3 piece c s hFront ih => simpa [splitAtEach.go, hFront] using ih

variable [LawfulBEq α]

theorem join_splitAtEach_go (first : α) (others piece s : List α) :
    join (first :: others) (splitAtEach.go first others piece s) = piece.reverse ++ s := by
  induction piece, s using splitAtEach.go.induct first others with
  | case1 piece => simp [splitAtEach.go, join]
  | case2 piece c s hFront ih =>
      obtain ⟨rest, hRest⟩ := List.isPrefixOf_iff_prefix.mp hFront
      obtain ⟨rfl, rfl⟩ := List.cons.inj hRest
      rw [splitAtEach.go, if_pos hFront, join_cons _ _ (splitAtEach_go_ne_nil _ _ _ _), ih]
      simp
  | case3 piece c s hFront ih =>
      rw [splitAtEach.go, if_neg hFront, ih]
      simp

/-- The pieces of a text, joined again, are the text. -/
theorem join_splitAtEach (first : α) (others s : List α) :
    join (first :: others) (splitAtEach first others s) = s :=
  join_splitAtEach_go first others [] s

variable {first second : α} {others : List α}

/-- A piece that does not hold the second character of the separator is cut off at its end: the
separator can begin neither inside of it nor at its last character. -/
theorem splitAtEach_append (hApart : first ≠ second) {piece : List α} (h : second ∉ piece)
    (s : List α) :
    splitAtEach first (second :: others) (piece ++ first :: second :: others ++ s) =
      piece :: splitAtEach first (second :: others) s := by
  have hGo : ∀ front, splitAtEach.go first (second :: others) front
      (piece ++ first :: second :: others ++ s) =
        (front.reverse ++ piece) :: splitAtEach first (second :: others) s := by
    induction piece with
    | nil =>
        intro front
        have hFront : (first :: second :: others).isPrefixOf
            (first :: second :: (others ++ s)) = true := by simp
        simp only [List.nil_append, List.cons_append, splitAtEach.go, if_pos hFront,
          List.append_nil, List.length_cons, List.drop_succ_cons, List.drop_left]
        rfl
    | cons c piece ih =>
        intro front
        obtain ⟨-, hPiece⟩ := not_or.mp (List.mem_cons.not.mp h)
        have hNot : ¬(first :: second :: others).isPrefixOf
            (c :: (piece ++ first :: second :: others ++ s)) = true := by
          cases piece with
          | nil => simp [Ne.symm hApart]
          | cons d piece =>
              have hSecond : second ≠ d := fun hEq => hPiece (hEq ▸ List.mem_cons_self)
              simp [hSecond]
        rw [List.cons_append, List.cons_append, splitAtEach.go, if_neg hNot, ih hPiece]
        simp
  exact hGo []

theorem splitAtEach_join (hApart : first ≠ second) {pieces : List (List α)}
    (h : ∀ piece ∈ pieces, second ∉ piece) (last : List α) :
    splitAtEach first (second :: others)
        (join (first :: second :: others) (pieces ++ [last])) =
      pieces ++ splitAtEach first (second :: others) last := by
  induction pieces with
  | nil => rfl
  | cons piece pieces ih =>
      obtain ⟨hPiece, hPieces⟩ := List.forall_mem_cons.mp h
      rw [List.cons_append, join_cons _ _ (by simp), splitAtEach_append hApart hPiece,
        ih hPieces, List.cons_append]

end

section

variable [BEq α]

/-- What precedes a text only adds occurrences in front of those in it. -/
theorem exists_occurrences_append (part : List α) (offset : Nat) (s t : List α) :
    ∃ front, occurrences part offset (s ++ t) =
      front ++ occurrences part (offset + s.length) t := by
  induction s generalizing offset with
  | nil => exact ⟨[], rfl⟩
  | cons c s ih =>
      obtain ⟨front, hFront⟩ := ih (offset + 1)
      have hOffset : offset + (c :: s).length = offset + 1 + s.length := by
        rw [List.length_cons]
        omega
      rw [hOffset, List.cons_append, occurrences, hFront]
      split
      · exact ⟨offset :: front, rfl⟩
      · exact ⟨front, rfl⟩

variable [LawfulBEq α] {part s t : List α}

theorem occurrences_eq_nil (offset : Nat) (h : ¬part <:+: s) : occurrences part offset s = [] := by
  induction s generalizing offset with
  | nil =>
      have hPart : part ≠ [] := by
        rintro rfl
        exact h (List.infix_refl [])
      simp [occurrences, hPart]
  | cons c s ih =>
      rw [List.infix_cons_iff, not_or, ← List.isPrefixOf_iff_prefix] at h
      rw [occurrences, if_neg h.1]
      exact ih (offset + 1) h.2

/-- A part that stands at the front of the rest of a text and nowhere else in it stands there for
the last time. -/
theorem lastOccurrence?_append {c : α} (hFront : part <+: c :: t) (hRest : ¬part <:+: t)
    (s : List α) : lastOccurrence? part (s ++ c :: t) = some s.length := by
  obtain ⟨front, hOffsets⟩ := exists_occurrences_append part 0 s (c :: t)
  rw [lastOccurrence?, hOffsets, occurrences, if_pos (List.isPrefixOf_iff_prefix.mpr hFront),
    occurrences_eq_nil _ hRest, List.getLast?_concat, Nat.zero_add]

end

theorem isInfix_join (separator : List α) {piece : List α} {pieces : List (List α)}
    (h : piece ∈ pieces) : piece <:+: join separator pieces := by
  induction pieces with
  | nil => cases h
  | cons first pieces ih =>
      by_cases hPieces : pieces = []
      · subst hPieces
        rw [List.mem_singleton.mp h]
        exact List.infix_refl first
      · rw [join_cons separator first hPieces]
        rcases List.mem_cons.mp h with rfl | h
        · rw [List.append_assoc]
          exact (List.prefix_append _ _).isInfix
        · exact (ih h).trans (List.suffix_append _ _).isInfix

/-- A front of a text that does not hold the character behind a part of it ends in this part. -/
theorem isPrefix_of_not_mem {p s t : List α} {c : α} (h : p <+: s ++ c :: t) (hMem : c ∉ p) :
    p <+: s := by
  rcases Nat.lt_or_ge s.length p.length with hLonger | hFits
  · obtain ⟨rest, hRest⟩ := h
    have hAt : p[s.length] = c := by
      have hGet := congrArg (·[s.length]?) hRest
      simp only [List.getElem?_append_left hLonger, List.getElem?_append_right (Nat.le_refl _),
        Nat.sub_self, List.getElem?_cons_zero, List.getElem?_eq_getElem hLonger] at hGet
      exact Option.some_inj.mp hGet
    exact absurd (hAt ▸ List.getElem_mem hLonger) hMem
  · exact List.prefix_of_prefix_length_le h (List.prefix_append _ _) hFits

theorem isInfix_append_cons_iff {p s t : List α} {c : α} (hMem : c ∉ p) :
    p <:+: s ++ c :: t ↔ p <:+: s ∨ p <:+: t := by
  constructor
  · intro h
    induction s with
    | nil =>
        rcases List.infix_cons_iff.mp h with hFront | hRest
        · exact Or.inl (isPrefix_of_not_mem (s := []) hFront hMem).isInfix
        · exact Or.inr hRest
    | cons d s ih =>
        rcases List.infix_cons_iff.mp h with hFront | hRest
        · exact Or.inl (isPrefix_of_not_mem (s := d :: s) hFront hMem).isInfix
        · exact (ih hRest).imp_left fun hs => hs.trans (List.suffix_cons d s).isInfix
  · rintro (hs | ht)
    · exact hs.trans (List.prefix_append s (c :: t)).isInfix
    · exact ht.trans ((List.suffix_cons c t).trans (List.suffix_append s _)).isInfix

end LogViewer.Text
