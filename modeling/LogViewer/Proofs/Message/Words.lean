import Mathlib
import LogViewer.Proofs.Message.Rounds

/-! The words that stand for rows of marks. A text with words holds no more than the text before,
but for the words, and a row of marks takes up all marks that only blanks part. So no two words of a
kind are neighbours but for blanks, and no brace comes back that the rounds have taken out. -/
namespace LogViewer.Message

open Text

namespace Bracket

/-- What a word shows of a row of marks, without the blank behind it. -/
def marker : Bracket → List Char
  | object => "[JSON]".toList
  | array => "[ARRAY]".toList

theorem word_eq (b : Bracket) : b.word = b.marker ++ [' '] := by cases b <;> rfl

theorem marker_eq_cons (b : Bracket) : b.marker = '[' :: b.marker.tail := by cases b <;> rfl

theorem not_mem_tail_marker (b : Bracket) : '[' ∉ b.marker.tail := by cases b <;> decide

end Bracket

variable {b : Bracket} {w s : List Char}

/-- A part of a text with words is in the text before, unless a word comes into it. -/
theorem sublist_of_sublist_wordsForMarks {afterMark : Bool} (hw : ∀ c ∈ w, c ∉ b.word)
    (h : w.Sublist (wordsForMarks b afterMark s)) : w.Sublist s := by
  -- The cases are the end of the text, a mark, a blank behind a mark, and any other character.
  fun_induction wordsForMarks b afterMark s generalizing w with
  | case1 => exact h
  | case2 afterMark c s _ ih =>
      obtain ⟨own, rest, rfl, hOwn, hRest⟩ := List.sublist_append_iff.mp h
      obtain rfl : own = [] := by
        refine List.eq_nil_iff_forall_not_mem.mpr fun d hd => ?_
        have hWord := hOwn.subset hd
        split at hWord
        · cases hWord
        · exact hw d (List.mem_append_left _ hd) hWord
      exact ((ih hw hRest).trans (List.drop_sublist _ s)).cons c
  | case3 afterMark c s _ _ ih => exact (ih hw h).cons c
  | case4 afterMark c s _ _ ih =>
      rcases List.sublist_cons_iff.mp h with hRest | ⟨rest, rfl, hRest⟩
      · exact (ih hw hRest).cons c
      · exact (ih (fun d hd => hw d (List.mem_cons_of_mem c hd)) hRest).cons_cons c

/-- Whether a part of a text neither holds the beginning of a word nor ends like one. -/
structure Avoids (b : Bracket) (w : List Char) : Prop where
  not_infix : ¬b.word.take 2 <:+: w
  not_last : w.getLast? ≠ some '['

theorem avoids_of_not_mem (h : '[' ∉ w) : Avoids b w := by
  refine ⟨fun hInfix => h (hInfix.subset ?_), fun hLast => h (List.mem_of_getLast? hLast)⟩
  cases b <;> decide

theorem Avoids.tail {c : Char} (h : Avoids b (c :: w)) : Avoids b w := by
  refine ⟨fun hInfix => h.not_infix (hInfix.trans (List.suffix_cons c w).isInfix), fun hLast => ?_⟩
  refine h.not_last ?_
  rw [List.getLast?_cons, hLast]
  rfl

/-- A part that words do not meet does not begin where a word begins. -/
theorem Avoids.eq_nil {rest : List Char} (h : Avoids b w) (hFront : w <+: b.word ++ rest) :
    w = [] := by
  obtain ⟨second, others, hWord⟩ : ∃ second others, b.word = '[' :: second :: others := by
    cases b <;> exact ⟨_, _, rfl⟩
  cases w with
  | nil => rfl
  | cons c w =>
      rw [hWord, List.cons_append, List.cons_append, List.cons_prefix_cons] at hFront
      obtain ⟨rfl, hFront⟩ := hFront
      cases w with
      | nil => exact absurd rfl h.not_last
      | cons d w =>
          obtain ⟨rfl, -⟩ := List.cons_prefix_cons.mp hFront
          refine absurd ?_ h.not_infix
          rw [hWord]
          exact (List.prefix_append ['[', d] w).isInfix

theorem isPrefix_of_isPrefix_wordsForMarks (hw : Avoids b w)
    (h : w <+: wordsForMarks b false s) : w <+: s := by
  induction s generalizing w with
  | nil =>
      rw [wordsForMarks] at h
      exact h
  | cons c s ih =>
      rw [wordsForMarks] at h
      split at h
      · rw [if_neg Bool.false_ne_true] at h
        rw [hw.eq_nil h]
        exact List.nil_prefix
      · rw [if_neg (by simp)] at h
        cases w with
        | nil => exact List.nil_prefix
        | cons d w =>
            obtain ⟨rfl, hRest⟩ := List.cons_prefix_cons.mp h
            exact List.cons_prefix_cons.mpr ⟨rfl, ih hw.tail hRest⟩

theorem drop_isInfix_cons (n : Nat) (c : Char) (s : List Char) : s.drop n <:+: c :: s :=
  ((List.drop_suffix n s).trans (List.suffix_cons c s)).isInfix

theorem isInfix_of_isInfix_append {front : List Char} (hFront : '[' ∉ front)
    (hHead : w.head? = some '[') (h : w <:+: front ++ s) : w <:+: s := by
  induction front with
  | nil => exact h
  | cons d front ih =>
      obtain ⟨hd, hRest⟩ := not_or.mp (List.mem_cons.not.mp hFront)
      rcases List.infix_cons_iff.mp h with hHere | hLater
      · obtain ⟨rest, rfl⟩ := List.head?_eq_some_iff.mp hHead
        exact absurd (List.cons_prefix_cons.mp hHere).1 hd
      · exact ih hRest hLater

/-- A part with a bracket at its front that stands in a word and what follows it begins with the
word or stands in what follows. -/
theorem isInfix_word_append (hHead : w.head? = some '[') (h : w <:+: b.word ++ s) :
    w <+: b.word ++ s ∨ w <:+: s := by
  have hTail : '[' ∉ b.marker.tail ++ [' '] := by cases b <;> decide
  have hWord : b.word = '[' :: (b.marker.tail ++ [' ']) := by cases b <;> rfl
  rw [hWord, List.cons_append, List.infix_cons_iff] at h
  rw [hWord, List.cons_append]
  exact h.imp_right (isInfix_of_isInfix_append hTail hHead)

/-- A part that words do not meet, with a bracket at its front, is put into no text by words. -/
theorem isInfix_of_isInfix_wordsForMarks {afterMark : Bool} (hw : Avoids b w)
    (hHead : w.head? = some '[') (h : w <:+: wordsForMarks b afterMark s) : w <:+: s := by
  have hNil : w ≠ [] := by
    rintro rfl
    cases hHead
  fun_induction wordsForMarks b afterMark s with
  | case1 => exact h
  | case2 afterMark c s _ ih =>
      refine (ih ?_).trans (drop_isInfix_cons _ c s)
      split at h
      · exact h
      · exact (isInfix_word_append hHead h).resolve_left fun hFront => hNil (hw.eq_nil hFront)
  | case3 afterMark c s _ _ ih => exact (ih h).trans (List.suffix_cons c s).isInfix
  | case4 afterMark c s _ _ ih =>
      rcases List.infix_cons_iff.mp h with hFront | hRest
      · obtain ⟨rest, rfl⟩ := List.head?_eq_some_iff.mp hHead
        obtain ⟨rfl, hRest⟩ := List.cons_prefix_cons.mp hFront
        have hSame := isPrefix_of_isPrefix_wordsForMarks hw.tail hRest
        exact (List.cons_prefix_cons.mpr ⟨rfl, hSame⟩).isInfix
      · exact (ih hRest).trans (List.suffix_cons c s).isInfix

/-- Where no mark begins, a marker begins only if it stood there before. -/
theorem not_marker_isPrefix_cons {c : Char} (hMarker : ¬b.marker <:+: c :: s) :
    ¬b.marker <+: c :: wordsForMarks b false s := by
  intro hFront
  rw [b.marker_eq_cons, List.cons_prefix_cons] at hFront
  obtain ⟨rfl, hRest⟩ := hFront
  have hSame := isPrefix_of_isPrefix_wordsForMarks (avoids_of_not_mem b.not_mem_tail_marker) hRest
  refine hMarker ?_
  rw [b.marker_eq_cons]
  exact (List.cons_prefix_cons.mpr ⟨rfl, hSame⟩).isInfix

variable {blanks : List Char}

/-- Behind a mark no further word follows but for blanks, since a mark there belongs to the row. -/
theorem not_blanks_marker_isPrefix {afterMark : Bool} (hAfter : afterMark = true)
    (hBlanks : ∀ c ∈ blanks, isBlank c = true) (hMarker : ¬b.marker <:+: s) :
    ¬blanks ++ b.marker <+: wordsForMarks b afterMark s := by
  fun_induction wordsForMarks b afterMark s with
  | case1 =>
      rw [List.prefix_nil, b.marker_eq_cons]
      simp
  | case2 afterMark c s _ ih =>
      rw [if_pos hAfter]
      exact ih rfl fun hInfix => hMarker (hInfix.trans (drop_isInfix_cons _ c s))
  | case3 afterMark c s _ _ ih =>
      exact ih rfl fun hInfix => hMarker (hInfix.trans (List.suffix_cons c s).isInfix)
  | case4 afterMark c s _ hNotBlank ih =>
      intro hFront
      cases blanks with
      | nil => exact not_marker_isPrefix_cons hMarker hFront
      | cons d blanks =>
          obtain ⟨rfl, -⟩ := List.cons_prefix_cons.mp hFront
          rw [hAfter, hBlanks d List.mem_cons_self] at hNotBlank
          exact hNotBlank rfl

/-- No two words of a kind are neighbours but for blanks, unless the text held such a word before.
-/
theorem not_row_isInfix_wordsForMarks {afterMark : Bool}
    (hBlanks : ∀ c ∈ blanks, isBlank c = true) (hMarker : ¬b.marker <:+: s) :
    ¬b.marker ++ (blanks ++ b.marker) <:+: wordsForMarks b afterMark s := by
  have hHead : (b.marker ++ (blanks ++ b.marker)).head? = some '[' := by
    rw [b.marker_eq_cons]
    rfl
  fun_induction wordsForMarks b afterMark s with
  | case1 =>
      rw [List.infix_nil, b.marker_eq_cons]
      simp
  | case2 afterMark c s _ ih =>
      have hRest : ¬b.marker <:+: s.drop (b.mark.length - 1) :=
        fun hInfix => hMarker (hInfix.trans (drop_isInfix_cons _ c s))
      intro hRow
      split at hRow
      · exact ih hRest hRow
      · rcases isInfix_word_append hHead hRow with hFront | hLater
        · rw [b.word_eq, List.append_assoc, List.prefix_append_right_inj] at hFront
          cases blanks with
          | nil =>
              rw [List.nil_append, b.marker_eq_cons] at hFront
              exact absurd (List.cons_prefix_cons.mp hFront).1 (by decide)
          | cons d blanks =>
              obtain ⟨-, hMore⟩ := List.forall_mem_cons.mp hBlanks
              obtain ⟨-, hFront⟩ := List.cons_prefix_cons.mp hFront
              exact not_blanks_marker_isPrefix rfl hMore hRest hFront
        · exact ih hRest hLater
  | case3 afterMark c s _ _ ih =>
      exact ih fun hInfix => hMarker (hInfix.trans (List.suffix_cons c s).isInfix)
  | case4 afterMark c s _ _ ih =>
      intro hRow
      rcases List.infix_cons_iff.mp hRow with hFront | hLater
      · exact not_marker_isPrefix_cons hMarker ((List.prefix_append _ _).trans hFront)
      · exact ih (fun hInfix => hMarker (hInfix.trans (List.suffix_cons c s).isInfix)) hLater

/-- A message in which nothing is left to be condensed. No brace of it closes, and no two words of a
kind are neighbours but for blanks. -/
structure IsCondensed (s : List Char) : Prop where
  not_closes : ¬Closes .object s
  not_row : ∀ (b : Bracket) (blanks : List Char), (∀ c ∈ blanks, isBlank c = true) →
    ¬b.marker ++ (blanks ++ b.marker) <:+: s

theorem not_marker_isInfix_of_not_closes (h : ¬Closes .array s) (b : Bracket) :
    ¬b.marker <:+: s := by
  intro hMarker
  refine h (List.Sublist.trans ?_ hMarker.sublist)
  cases b <;> decide

theorem closes_of_closes_wordsForMarks {afterMark : Bool}
    (h : Closes .object (wordsForMarks b afterMark s)) : Closes .object s := by
  have hApart : Bracket.object.opening ∉ b.word ∧ Bracket.object.closing ∉ b.word := by
    cases b <;> decide
  refine sublist_of_sublist_wordsForMarks (List.forall_mem_cons.mpr ⟨hApart.1, ?_⟩) h
  exact List.forall_mem_singleton.mpr hApart.2

/-- No word for an array comes into a row of words for objects: its second letter does not. -/
theorem avoids_row (hBlanks : ∀ c ∈ blanks, isBlank c = true) :
    Avoids .array (Bracket.object.marker ++ (blanks ++ Bracket.object.marker)) := by
  constructor
  · intro hInfix
    have hMem : 'A' ∈ Bracket.object.marker ++ (blanks ++ Bracket.object.marker) :=
      hInfix.subset (by decide)
    rw [List.mem_append, List.mem_append] at hMem
    rcases hMem with hMarker | hBlank | hMarker
    · exact absurd hMarker (by decide)
    · exact absurd (hBlanks 'A' hBlank) (by decide)
    · exact absurd hMarker (by decide)
  · rw [← List.append_assoc, List.getLast?_append_of_ne_nil _ (by decide)]
    decide

theorem isCondensed_wordsForMarks (h : ∀ b, ¬Closes b s) :
    IsCondensed (wordsForMarks .array false (wordsForMarks .object false s)) := by
  have hMarker := not_marker_isInfix_of_not_closes (h .array)
  constructor
  · intro hCloses
    exact h .object (closes_of_closes_wordsForMarks (closes_of_closes_wordsForMarks hCloses))
  · intro b blanks hBlanks hRow
    cases b with
    | object =>
        have hBefore := isInfix_of_isInfix_wordsForMarks (avoids_row hBlanks) rfl hRow
        exact not_row_isInfix_wordsForMarks hBlanks (hMarker .object) hBefore
    | array =>
        refine not_row_isInfix_wordsForMarks hBlanks (fun hInfix => hMarker .array ?_) hRow
        exact isInfix_of_isInfix_wordsForMarks ⟨by decide, by decide⟩ rfl hInfix

/-- Every round that changes a text takes an opening bracket away, so the rounds over a message end,
and what comes out of it is condensed. -/
theorem condensed_isCondensed (message : List Char) :
    (∀ s, round s = s ∨ openings (round s) < openings s) ∧
      (∃ count ≤ openings message + 1, Rounds message count (rounds message)) ∧
      IsCondensed (condensed message) := by
  obtain ⟨count, hCount, run⟩ := exists_rounds message
  exact ⟨round_eq_self_or_openings_lt, ⟨count, hCount, run⟩,
    isCondensed_wordsForMarks run.not_closes⟩

/-- A bracket without its end stays, and neighbouring arrays become one word. -/
example : condensed "x \x7b [1] [[2], [3]] y".toList = "x \x7b [ARRAY] y".toList := by
  decide +kernel

end LogViewer.Message
