import Mathlib.Data.List.TakeWhile
import LogViewer.Text.Blank

/-! Texts that are split at their blanks: where the pieces of a split stand, and which words a text
has. -/
namespace LogViewer

/-- A piece of a split has no separator in it, and a separator or an end of the list on each side. -/
theorem exists_append_of_mem_splitOnP {α : Type} {p : α → Bool} {l piece : List α}
    (h : piece ∈ l.splitOnP p) :
    ∃ front back, l = front ++ (piece ++ back) ∧ (∀ a ∈ piece, p a = false) ∧
      (∀ a ∈ front.getLast?, p a = true) ∧ (∀ a ∈ back.head?, p a = true) := by
  have hFirst : ∀ a ∈ l.takeWhile (!p ·), p a = false := by
    intro a ha
    simpa using List.mem_takeWhile_imp ha
  have hWhole := List.takeWhile_append_dropWhile (p := (!p ·)) (l := l)
  cases hRest : l.dropWhile (!p ·) with
  | nil =>
      rw [hRest, List.append_nil] at hWhole
      rw [hWhole] at hFirst
      rw [List.splitOnP_eq_singleton hFirst, List.mem_singleton] at h
      subst h
      exact ⟨[], [], by simp, hFirst, by simp, by simp⟩
  | cons separator rest =>
      have hSeparator : p separator = true := by
        have hHead := List.head?_dropWhile_not (!p ·) l
        rw [hRest] at hHead
        simpa using hHead
      rw [hRest] at hWhole
      rw [← hWhole, List.splitOnP_append_cons _ _ hSeparator, List.splitOnP_eq_singleton hFirst,
        List.singleton_append, List.mem_cons] at h
      rcases h with rfl | h
      · exact ⟨[], separator :: rest, hWhole.symm, hFirst, by simp, by simpa using hSeparator⟩
      · have hShorter : rest.length < l.length := by
          rw [← hWhole, List.length_append, List.length_cons]
          omega
        obtain ⟨front, back, hSplit, hPiece, hFront, hBack⟩ := exists_append_of_mem_splitOnP h
        refine ⟨l.takeWhile (!p ·) ++ separator :: front, back, ?_, hPiece, ?_, hBack⟩
        · rw [List.append_assoc, List.cons_append, ← hSplit, hWhole]
        · intro a ha
          cases front with
          | nil => simp_all
          | cons b front => simp_all
termination_by l.length

namespace Text

theorem words_eq (s : List Char) : words s = (s.splitOnP isBlank).filter (!·.isEmpty) := by
  have hGo : ∀ s word, words.go word s = s.splitOnPPrepend isBlank word := by
    intro s
    induction s with
    | nil => intro word; rfl
    | cons c s ih =>
        intro word
        rw [words.go, List.splitOnPPrepend_cons_eq_if, ih, ih]
        rfl
  rw [words, hGo, List.splitOnP_eq_splitOnPPrepend]

/-- A blank ends the words before it. -/
theorem words_append_blank {c : Char} (h : isBlank c = true) (s t : List Char) :
    words (s ++ c :: t) = words s ++ words t := by
  rw [words_eq, List.splitOnP_append_cons s t h, List.filter_append, ← words_eq, ← words_eq]

theorem words_of_not_blank {w : List Char} (hNil : w ≠ []) (h : ∀ c ∈ w, isBlank c = false) :
    words w = [w] := by
  rw [words_eq, List.splitOnP_eq_singleton h]
  simp [hNil]

theorem words_cons_blank {c : Char} (h : isBlank c = true) (s : List Char) :
    words (c :: s) = words s := words_append_blank h [] s

theorem words_blanks_append {gap : List Char} (h : ∀ c ∈ gap, isBlank c = true) (s : List Char) :
    words (gap ++ s) = words s := by
  induction gap with
  | nil => rfl
  | cons c gap ih =>
      obtain ⟨hHead, hTail⟩ := List.forall_mem_cons.mp h
      rw [List.cons_append, words_cons_blank hHead, ih hTail]

/-- A run of characters that are not blank is the first word if a blank or nothing follows it. -/
theorem words_append_of_head {w s : List Char} (hNil : w ≠ []) (h : ∀ c ∈ w, isBlank c = false)
    (hHead : ∀ c ∈ s.head?, isBlank c = true) : words (w ++ s) = w :: words s := by
  cases s with
  | nil =>
      rw [List.append_nil, words_of_not_blank hNil h]
      rfl
  | cons c s =>
      have hBlank : isBlank c = true := hHead c rfl
      rw [words_append_blank hBlank, words_of_not_blank hNil h, words_cons_blank hBlank]
      rfl

/-- A run of characters that are not blank is a word when blanks or the ends of the text are around
it. -/
theorem mem_words {w front back : List Char} (hNil : w ≠ []) (h : ∀ c ∈ w, isBlank c = false)
    (hFront : ∀ c ∈ front.getLast?, isBlank c = true)
    (hBack : ∀ c ∈ back.head?, isBlank c = true) : w ∈ words (front ++ (w ++ back)) := by
  have hRest : w ∈ words (w ++ back) := by
    rw [words_append_of_head hNil h hBack]
    exact List.mem_cons_self
  cases hLast : front.getLast? with
  | none =>
      rw [List.getLast?_eq_none_iff] at hLast
      subst hLast
      exact hRest
  | some c =>
      obtain ⟨s, rfl⟩ := List.getLast?_eq_some_iff.mp hLast
      have hBlank : isBlank c = true := hFront c hLast
      rw [List.append_assoc, List.singleton_append, words_append_blank hBlank]
      exact List.mem_append_right _ hRest

theorem dropWhile_isBlank_append {front s : List Char} (hFront : ∀ c ∈ front, isBlank c = true)
    (hHead : ∀ c ∈ s.head?, isBlank c = false) : (front ++ s).dropWhile isBlank = s := by
  rw [List.dropWhile_append_of_pos hFront]
  cases s with
  | nil => rfl
  | cons c s => simp [hHead c rfl]

/-- The blanks around a run of other characters are trimmed away. -/
theorem trim_append {front w back : List Char} (hFront : ∀ c ∈ front, isBlank c = true)
    (h : ∀ c ∈ w, isBlank c = false) (hBack : ∀ c ∈ back, isBlank c = true) :
    trim (front ++ (w ++ back)) = w := by
  have hEnd : trimEnd (w ++ back) = w := by
    rw [trimEnd, List.reverse_append, dropWhile_isBlank_append (by simpa using hBack),
      List.reverse_reverse]
    intro c hc
    exact h c (List.mem_reverse.mp (List.mem_of_mem_head? hc))
  cases w with
  | nil =>
      have hAll : ∀ c ∈ front ++ back, isBlank c = true := by
        intro c hc
        exact (List.mem_append.mp hc).elim (hFront c) (hBack c)
      have hNone := dropWhile_isBlank_append hAll (s := []) (by simp)
      rw [List.append_nil] at hNone
      rw [trim, trimStart, List.nil_append, hNone]
      rfl
  | cons c w =>
      have hHead : ∀ d ∈ (c :: w ++ back).head?, isBlank d = false := by
        intro d hd
        cases hd
        exact h c List.mem_cons_self
      rw [trim, trimStart, dropWhile_isBlank_append hFront hHead, hEnd]

/-- A text without blanks is trimmed already. -/
theorem trim_of_not_blank {s : List Char} (h : ∀ c ∈ s, isBlank c = false) : trim s = s := by
  have hTrim : trim ([] ++ (s ++ [])) = s := trim_append (by simp) h (by simp)
  rw [List.nil_append, List.append_nil] at hTrim
  exact hTrim

theorem trimStart_of_not_blank {s : List Char} (h : ∀ c ∈ s, isBlank c = false) :
    trimStart s = s := by
  have hNone : ∀ c ∈ ([] : List Char), isBlank c = true := by simp
  exact dropWhile_isBlank_append hNone fun c hc => h c (List.mem_of_mem_head? hc)

end Text

end LogViewer
