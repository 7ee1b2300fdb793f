import Mathlib
import LogViewer.Proofs.Query.Expression
import LogViewer.Proofs.Text.Digit
import LogViewer.Proofs.Text.Words

/-! How a query in writing is read back into its lexemes: the phrases are lifted out, the rest is
cut at blanks and parentheses, and what stands for a phrase is turned back into it. -/
namespace LogViewer.Query

open Text

theorem toNat_of_isAlphanum {c : Char} (h : c.isAlphanum = true) :
    65 ≤ c.toNat ∧ c.toNat ≤ 90 ∨ 97 ≤ c.toNat ∧ c.toNat ≤ 122 ∨
      48 ≤ c.toNat ∧ c.toNat ≤ 57 := by
  simpa [Char.isAlphanum, Char.isAlpha, Char.isUpper, Char.isLower, Char.isDigit,
    UInt32.le_iff_toNat_le, or_assoc] using h

theorem isPlain_of_isAlphanum {c : Char} (h : c.isAlphanum = true) : IsPlain c := by
  have hRange := toNat_of_isAlphanum h
  refine ⟨?_, ⟨?_, ?_⟩, ?_⟩
  · simp only [Text.isBlank, Bool.or_eq_false_iff, Bool.and_eq_false_iff, decide_eq_false_iff_not,
      beq_eq_false_iff_ne]
    omega
  all_goals
    rintro rfl
    exact absurd h (by decide)

theorem isPlain_underscore : IsPlain '_' := ⟨by decide, by decide, by decide⟩

theorem sameLetters_iff {s t : List Char} :
    sameLetters s t = true ↔ s.map Char.toUpper = t.map Char.toUpper := beq_iff_eq

theorem isAlphanum_of_mem_spelling {op : Operator} {spelling : List Char} {c : Char}
    (hSpells : sameLetters spelling op.letters = true) (hc : c ∈ spelling) :
    c.isAlphanum = true := by
  have hMem : c.toUpper ∈ op.letters.map Char.toUpper :=
    sameLetters_iff.mp hSpells ▸ List.mem_map_of_mem hc
  have hUpper : ∀ d ∈ op.letters.map Char.toUpper, d.isUpper = true := by
    cases op <;> simp [Operator.letters]
  have hAlpha : c.isAlpha = true := Char.isUpper_toUpper_eq_isAlpha c ▸ hUpper _ hMem
  rw [Char.isAlphanum, hAlpha, Bool.true_or]

theorem placeholder_ne_nil (n : Nat) : placeholder n ≠ [] := by
  unfold placeholder
  simp

theorem isAlphanum_of_mem_placeholder {n : Nat} {c : Char} (h : c ∈ placeholder n) :
    c.isAlphanum = true ∨ c = '_' := by
  have hFront : ∀ d ∈ "__PHRASE_".toList, d.isAlphanum = true ∨ d = '_' := by simp
  have hBack : ∀ d ∈ "__".toList, d = '_' := by simp
  unfold placeholder at h
  rw [List.mem_append, List.mem_append] at h
  rcases h with (hMem | hMem) | hMem
  · exact hFront c hMem
  · left
    rw [Char.isAlphanum, charIsDigit_of_mem_digitsOf hMem, Bool.or_true]
  · exact Or.inr (hBack c hMem)

theorem isPlain_of_mem_placeholder {n : Nat} {c : Char} (h : c ∈ placeholder n) : IsPlain c := by
  rcases isAlphanum_of_mem_placeholder h with hAlphanum | rfl
  · exact isPlain_of_isAlphanum hAlphanum
  · exact isPlain_underscore

theorem phrase?_append {p rest : List Char} (hNil : p ≠ []) (hQuote : ∀ c ∈ p, c ≠ '"') :
    phrase? (p ++ '"' :: rest) = some (p, rest) := by
  have hInside : ∀ c ∈ p, (c != '"') = true := by simpa using hQuote
  have hTake : (p ++ '"' :: rest).takeWhile (· != '"') = p := by
    rw [List.takeWhile_append_of_pos hInside]
    simp
  have hDrop : (p ++ '"' :: rest).dropWhile (· != '"') = '"' :: rest := by
    rw [List.dropWhile_append_of_pos hInside]
    simp
  unfold phrase?
  rw [hTake, hDrop]
  cases p with
  | nil => exact absurd rfl hNil
  | cons c p => rfl

theorem segments_phrase {p rest : List Char} (hNil : p ≠ []) (hQuote : ∀ c ∈ p, c ≠ '"') :
    segments ('"' :: (p ++ '"' :: rest)) = .phrase p :: segments rest := by
  rw [segments, if_pos rfl]
  split
  · rename_i phrase after hPhrase
    rw [phrase?_append hNil hQuote] at hPhrase
    cases hPhrase
    rfl
  · rename_i hPhrase
    rw [phrase?_append hNil hQuote] at hPhrase
    cases hPhrase

theorem segments_append {s rest : List Char} (h : ∀ c ∈ s, c ≠ '"') :
    segments (s ++ rest) = s.map .plain ++ segments rest := by
  induction s with
  | nil => rfl
  | cons c s ih =>
      rw [List.cons_append, segments, if_neg (h c List.mem_cons_self),
        ih fun d hd => h d (List.mem_cons_of_mem c hd)]
      rfl

theorem phrases_append (a b : List Segment) : phrases (a ++ b) = phrases a ++ phrases b :=
  List.filterMap_append

theorem phrases_plain (s : List Char) : phrases (s.map .plain) = [] := by simp [phrases]

/-- Lifting goes on behind some pieces with the phrases among them counted. -/
theorem withPlaceholders_append (n : Nat) (a b : List Segment) :
    withPlaceholders n (a ++ b) =
      withPlaceholders n a ++ withPlaceholders (n + (phrases a).length) b := by
  induction a generalizing n with
  | nil => rfl
  | cons s a ih =>
      cases s with
      | plain c =>
          rw [List.cons_append, withPlaceholders, withPlaceholders, ih]
          rfl
      | phrase p =>
          have hCount : (phrases (.phrase p :: a)).length = 1 + (phrases a).length := by
            simp [phrases, Nat.add_comm]
          rw [List.cons_append, withPlaceholders, withPlaceholders, ih, hCount, List.append_assoc,
            Nat.add_assoc]

theorem withPlaceholders_plain (n : Nat) (s : List Char) :
    withPlaceholders n (s.map .plain) = s := by
  induction s with
  | nil => rfl
  | cons c s ih => rw [List.map_cons, withPlaceholders, ih]

/-- A character at which a query is cut. -/
def IsBreak (c : Char) : Prop := c = '(' ∨ c = ')' ∨ c = ' ' ∨ c = '\t'

theorem IsPlain.not_break {c : Char} (h : IsPlain c) :
    ¬(c = '(' ∨ c = ')') ∧ ¬(c = ' ' ∨ c = '\t') := by
  refine ⟨not_or.mpr h.not_parenthesis, ?_⟩
  rintro (rfl | rfl) <;> exact absurd h.not_blank (by decide)

theorem IsPlain.not_isBreak {c : Char} (h : IsPlain c) : ¬IsBreak c := by
  rintro (hOpen | hClose | hBlank)
  · exact h.not_break.1 (Or.inl hOpen)
  · exact h.not_break.1 (Or.inr hClose)
  · exact h.not_break.2 hBlank

theorem cut_append {w : List Char} (h : ∀ c ∈ w, IsPlain c) (begun s : List Char) :
    cut begun (w ++ s) = cut (w.reverse ++ begun) s := by
  induction w generalizing begun with
  | nil => rfl
  | cons c w ih =>
      obtain ⟨hParenthesis, hBlank⟩ := (h c List.mem_cons_self).not_break
      rw [List.cons_append, cut, if_neg hParenthesis, if_neg hBlank,
        ih fun d hd => h d (List.mem_cons_of_mem c hd)]
      simp

theorem cut_of_break {s : List Char} (h : ∀ c ∈ s.head?, IsBreak c) (begun : List Char) :
    cut begun s = flush begun ++ cut [] s := by
  cases s with
  | nil => simp [cut, flush, trim, trimEnd, trimStart]
  | cons c s =>
      have hFlush : flush [] = [] := rfl
      by_cases hParenthesis : c = '(' ∨ c = ')'
      · rw [cut, cut, if_pos hParenthesis, if_pos hParenthesis, hFlush]
        simp
      · have hBlank : c = ' ' ∨ c = '\t' := by
          rcases h c rfl with rfl | rfl | hBlank
          · simp at hParenthesis
          · simp at hParenthesis
          · exact hBlank
        rw [cut, cut, if_neg hParenthesis, if_neg hParenthesis, if_pos hBlank, if_pos hBlank,
          hFlush]
        rfl

theorem trim_of_plain {w : List Char} (h : ∀ c ∈ w, IsPlain c) : trim w = w :=
  trim_of_not_blank fun c hc => (h c hc).not_blank

/-- A word that something breaks off is cut out as it is. -/
theorem cut_word {w s : List Char} (hNil : w ≠ []) (hPlain : ∀ c ∈ w, IsPlain c)
    (hBreak : ∀ c ∈ s.head?, IsBreak c) : cut [] (w ++ s) = w :: cut [] s := by
  have hFlush : flush w.reverse = [w] := by
    simp [flush, trim_of_plain hPlain, hNil]
  rw [cut_append hPlain, List.append_nil, cut_of_break hBreak, hFlush]
  rfl

theorem cut_gap {gap : List Char} (h : ∀ c ∈ gap, c = ' ' ∨ c = '\t') (s : List Char) :
    cut [] (gap ++ s) = cut [] s := by
  induction gap with
  | nil => rfl
  | cons c gap ih =>
      have hBlank := h c List.mem_cons_self
      have hParenthesis : ¬(c = '(' ∨ c = ')') := by
        rcases hBlank with rfl | rfl <;> decide
      rw [List.cons_append, cut, if_neg hParenthesis, if_pos hBlank,
        ih fun d hd => h d (List.mem_cons_of_mem c hd)]
      rfl

theorem cut_parenthesis {c : Char} (h : c = '(' ∨ c = ')') (s : List Char) :
    cut [] (c :: s) = [c] :: cut [] s := by
  rw [cut, if_pos h]
  rfl

namespace Lexeme

/-- The pieces of a lexeme in writing. -/
def pieces : Lexeme → List Segment
  | phrase p => [.phrase p.text]
  | l => l.text.map .plain

/-- What a lexeme leaves behind when `n` phrases have been lifted out before it. -/
def stub (n : Nat) : Lexeme → List Char
  | phrase _ => placeholder n
  | l => l.text

/-- The word that a lexeme comes back as. -/
def token : Lexeme → List Char
  | phrase p => lower p.text
  | l => l.text

theorem stub_plain {n : Nat} {l : Lexeme} (h : ¬l.IsParenthesis) :
    l.stub n ≠ [] ∧ ∀ c ∈ l.stub n, IsPlain c := by
  cases l with
  | openGroup => exact absurd trivial h
  | closeGroup => exact absurd trivial h
  | operator op spelling spells =>
      refine ⟨?_, fun c hc => isPlain_of_isAlphanum (isAlphanum_of_mem_spelling spells hc)⟩
      rintro rfl
      cases op <;> simp [sameLetters, Operator.letters] at spells
  | word w => exact ⟨w.ne_nil, w.plain⟩
  | phrase p =>
      exact ⟨placeholder_ne_nil n, fun c hc => isPlain_of_mem_placeholder hc⟩

theorem stub_parenthesis {n : Nat} {l : Lexeme} (h : l.IsParenthesis) :
    ∃ c, (c = '(' ∨ c = ')') ∧ l.stub n = [c] := by
  cases l with
  | openGroup => exact ⟨'(', Or.inl rfl, rfl⟩
  | closeGroup => exact ⟨')', Or.inr rfl, rfl⟩
  | operator op spelling spells => exact absurd h id
  | word w => exact absurd h id
  | phrase p => exact absurd h id

theorem segments_text (l : Lexeme) (s : List Char) :
    segments (l.text ++ s) = l.pieces ++ segments s := by
  cases l with
  | openGroup => exact segments_append (by simp [text])
  | closeGroup => exact segments_append (by simp [text])
  | operator op spelling spells =>
      exact segments_append fun c hc =>
        (isPlain_of_isAlphanum (isAlphanum_of_mem_spelling spells hc)).not_quote
  | word w => exact segments_append fun c hc => (w.plain c hc).not_quote
  | phrase p =>
      have hText : (phrase p).text ++ s = '"' :: (p.text ++ '"' :: s) := by simp [text]
      rw [hText, segments_phrase p.ne_nil p.unquoted]
      rfl

/-- Lifting the phrase out of a lexeme leaves its stub behind. -/
theorem withPlaceholders_pieces (n : Nat) (l : Lexeme) : withPlaceholders n l.pieces = l.stub n := by
  cases l with
  | phrase p => exact List.append_nil (placeholder n)
  | _ => exact withPlaceholders_plain n _

theorem phrases_pieces (l : Lexeme) : phrases l.pieces = phraseTexts [l] := by
  cases l <;> simp [pieces, phrases, phraseTexts]

end Lexeme

/-- The words that some lexemes leave behind when `n` phrases have been lifted out before them. -/
def stubs (n : Nat) : List Lexeme → List (List Char)
  | [] => []
  | l :: lexemes => l.stub n :: stubs (n + (phraseTexts [l]).length) lexemes

/-- The pieces of some lexemes in writing, and of the blanks behind the last one. -/
def piecesOf (placed : List Placed) (rest : List Char) : List Segment :=
  placed.flatMap (fun p => p.gap.map .plain ++ p.lexeme.pieces) ++ rest.map .plain

theorem piecesOf_cons (p : Placed) (placed : List Placed) (rest : List Char) :
    piecesOf (p :: placed) rest =
      p.gap.map .plain ++ (p.lexeme.pieces ++ piecesOf placed rest) := by
  simp [piecesOf, List.append_assoc]

theorem not_quote_of_blank {s : List Char} (h : ∀ c ∈ s, c = ' ' ∨ c = '\t') :
    ∀ c ∈ s, c ≠ '"' := by
  intro c hc
  rcases h c hc with rfl | rfl <;> decide

theorem segments_flatMap_text (placed : List Placed) {rest : List Char}
    (hRest : ∀ c ∈ rest, c = ' ' ∨ c = '\t') :
    segments (placed.flatMap Placed.text ++ rest) = piecesOf placed rest := by
  induction placed with
  | nil =>
      have hEmpty : segments [] = [] := by rw [segments]
      have hRead : segments (rest ++ []) = rest.map .plain ++ segments [] :=
        segments_append (not_quote_of_blank hRest)
      rw [hEmpty, List.append_nil, List.append_nil] at hRead
      exact hRead
  | cons p placed ih =>
      rw [piecesOf_cons, List.flatMap_cons, Placed.text, List.append_assoc, List.append_assoc,
        segments_append (not_quote_of_blank p.gap_blank), Lexeme.segments_text, ih]

theorem withPlaceholders_piecesOf_cons (n : Nat) (p : Placed) (placed : List Placed)
    (rest : List Char) :
    withPlaceholders n (piecesOf (p :: placed) rest) =
      p.gap ++ (p.lexeme.stub n ++
        withPlaceholders (n + (phraseTexts [p.lexeme]).length) (piecesOf placed rest)) := by
  rw [piecesOf_cons, withPlaceholders_append, withPlaceholders_append, withPlaceholders_plain,
    phrases_plain, Lexeme.withPlaceholders_pieces, Lexeme.phrases_pieces, List.length_nil,
    Nat.add_zero]

theorem withPlaceholders_piecesOf_nil (n : Nat) (rest : List Char) :
    withPlaceholders n (piecesOf [] rest) = rest := withPlaceholders_plain n rest

/-- Behind a lexeme that is no parenthesis something breaks off. -/
theorem isBreak_head {n : Nat} {p : Placed} {placed : List Placed} {rest : List Char}
    (hParted : (p :: placed).IsChain Placed.Precedes) (hLexeme : ¬p.lexeme.IsParenthesis)
    (hRest : ∀ c ∈ rest, c = ' ' ∨ c = '\t') :
    ∀ c ∈ (withPlaceholders n (piecesOf placed rest)).head?, IsBreak c := by
  intro c hc
  cases placed with
  | nil =>
      rw [withPlaceholders_piecesOf_nil] at hc
      exact Or.inr (Or.inr (hRest c (List.mem_of_mem_head? hc)))
  | cons q placed =>
      rw [withPlaceholders_piecesOf_cons] at hc
      rw [List.isChain_cons_cons] at hParted
      cases hGap : q.gap with
      | cons d gap =>
          have hEq : d = c := by simpa [hGap] using hc
          exact Or.inr (Or.inr (q.gap_blank c (by simp [hGap, hEq])))
      | nil =>
          have hParenthesis : q.lexeme.IsParenthesis := by
            rcases hParted.1 with h | h | h
            · exact absurd h hLexeme
            · exact h
            · exact absurd hGap h
          obtain ⟨d, hd, hStub⟩ := Lexeme.stub_parenthesis (n := n) hParenthesis
          have hEq : d = c := by simpa [hGap, hStub] using hc
          subst hEq
          exact hd.imp_right Or.inl

/-- A rendering without its phrases is cut into the stubs of its lexemes. -/
theorem cut_withPlaceholders {n : Nat} {placed : List Placed} {rest : List Char}
    (hParted : placed.IsChain Placed.Precedes) (hRest : ∀ c ∈ rest, c = ' ' ∨ c = '\t') :
    cut [] (withPlaceholders n (piecesOf placed rest)) = stubs n (placed.map (·.lexeme)) := by
  induction placed generalizing n with
  | nil =>
      have hCut := cut_gap hRest []
      rw [List.append_nil] at hCut
      rw [withPlaceholders_piecesOf_nil, hCut]
      rfl
  | cons p placed ih =>
      rw [withPlaceholders_piecesOf_cons, cut_gap p.gap_blank, List.map_cons, stubs,
        ← ih hParted.tail]
      by_cases hParenthesis : p.lexeme.IsParenthesis
      · obtain ⟨c, hc, hStub⟩ := Lexeme.stub_parenthesis (n := n) hParenthesis
        rw [hStub]
        exact cut_parenthesis hc _
      · obtain ⟨hNil, hPlain⟩ := Lexeme.stub_plain (n := n) hParenthesis
        exact cut_word hNil hPlain (isBreak_head hParted hParenthesis hRest)

theorem after?_append (front s : List Char) : after? front (front ++ s) = some s := by
  simp [after?]

theorem placeholderDigits?_placeholder (n : Nat) :
    placeholderDigits? (placeholder n) = some (digitsOf n) := by
  have hDigits : ∀ c ∈ digitsOf n, isDigit c = true := fun _ => isDigit_of_mem_digitsOf
  have hBack : isDigit '_' = false := by decide
  have hTake : (digitsOf n ++ "__".toList).takeWhile isDigit = digitsOf n := by
    rw [List.takeWhile_append_of_pos hDigits]
    simp [hBack]
  have hDrop : (digitsOf n ++ "__".toList).dropWhile isDigit = "__".toList := by
    rw [List.dropWhile_append_of_pos hDigits]
    simp [hBack]
  unfold placeholderDigits? placeholder
  rw [List.append_assoc, after?_append]
  simp only [Option.bind_eq_bind, Option.bind_some, hTake, hDrop]
  simp [digitsOf_ne_nil]

theorem isPlaceholder_of_placeholderDigits?_eq_some {s digits : List Char}
    (h : placeholderDigits? s = some digits) : IsPlaceholder s := by
  unfold placeholderDigits? after? at h
  split at h
  · rename_i hPrefix
    obtain ⟨rest, rfl⟩ := List.isPrefixOf_iff_prefix.mp hPrefix
    rw [List.drop_left] at h
    simp only [Option.bind_eq_bind, Option.bind_some] at h
    by_cases hRest : rest.takeWhile isDigit ≠ [] ∧ rest.dropWhile isDigit = "__".toList
    · refine ⟨rest.takeWhile isDigit, hRest.1, fun c hc => List.mem_takeWhile_imp hc, ?_⟩
      rw [← hRest.2, List.append_assoc, List.takeWhile_append_dropWhile]
    · simp only [guard, if_neg hRest] at h
      cases h
  · cases h

theorem restore_of_not_isPlaceholder {phrases : List (List Char)} {w : List Char}
    (h : ¬IsPlaceholder w) : restore phrases w = .ok w := by
  unfold restore
  cases hDigits : placeholderDigits? w with
  | none => rfl
  | some digits => exact absurd (isPlaceholder_of_placeholderDigits?_eq_some hDigits) h

theorem length_digitsOf_le_digitLimit {n : Nat} :
    (digitsOf n).length ≤ digitLimit ↔ n < 10 ^ digitLimit :=
  length_digitsOf_le_iff (by decide)

/-- What stands for a phrase is turned back into it while its number is short enough to be read. -/
theorem restore_placeholder {phrases : List (List Char)} {n : Nat} {phrase : List Char}
    (h : phrases[n]? = some phrase) (hShort : n < 10 ^ digitLimit) :
    restore phrases (placeholder n) = .ok (lower phrase) := by
  have hLimit : ¬digitLimit < (digitsOf n).length :=
    Nat.not_lt.mpr (length_digitsOf_le_digitLimit.mpr hShort)
  unfold restore
  rw [placeholderDigits?_placeholder]
  simp only [readWithinLimit, if_neg hLimit, numberOf_digitsOf]
  simp [h, bind, Except.bind, pure, Except.pure]

theorem restore_placeholder_overlong {phrases : List (List Char)} {n : Nat}
    (hLong : digitLimit < (digitsOf n).length) :
    restore phrases (placeholder n) = .error ⟨(digitsOf n).length⟩ := by
  unfold restore
  rw [placeholderDigits?_placeholder]
  simp only [readWithinLimit, if_pos hLong]
  rfl

/-- The first number that is too long to be read has one digit too many. -/
theorem restore_first_overlong (phrases : List (List Char)) :
    restore phrases (placeholder (10 ^ digitLimit)) = .error ⟨digitLimit + 1⟩ := by
  have hLength := length_digitsOf_pow digitLimit
  have hLong : digitLimit < (digitsOf (10 ^ digitLimit)).length := by omega
  rw [restore_placeholder_overlong hLong, hLength]

/-- A placeholder starts with a line, which no parenthesis and no letter is. -/
theorem not_isPlaceholder {s : List Char} (h : ∀ c ∈ s, c ≠ '_') : ¬IsPlaceholder s := by
  rintro ⟨digits, -, -, rfl⟩
  exact h '_' (by simp) rfl

theorem Lexeme.restore_token {phrases : List (List Char)} {l : Lexeme} (hLiteral : l.IsLiteral)
    (n : Nat) (h : ∀ p, l ≠ .phrase p) : restore phrases (l.stub n) = .ok l.token := by
  cases l with
  | openGroup => exact restore_of_not_isPlaceholder (not_isPlaceholder (by simp [stub, text]))
  | closeGroup => exact restore_of_not_isPlaceholder (not_isPlaceholder (by simp [stub, text]))
  | operator op spelling spells =>
      refine restore_of_not_isPlaceholder (not_isPlaceholder ?_)
      rintro c hc rfl
      exact absurd (isAlphanum_of_mem_spelling spells hc) (by decide)
  | word w => exact restore_of_not_isPlaceholder hLiteral
  | phrase p => exact absurd rfl (h p)

theorem phraseTexts_cons (l : Lexeme) (lexemes : List Lexeme) :
    phraseTexts (l :: lexemes) = phraseTexts [l] ++ phraseTexts lexemes :=
  List.filterMap_append (l := [l])

/-- The phrases that are lifted out of a rendering are those of its lexemes. -/
theorem phrases_piecesOf (placed : List Placed) (rest : List Char) :
    phrases (piecesOf placed rest) = phraseTexts (placed.map (·.lexeme)) := by
  induction placed with
  | nil => exact phrases_plain rest
  | cons p placed ih =>
      rw [piecesOf_cons, phrases_append, phrases_append, phrases_plain, Lexeme.phrases_pieces, ih,
        List.nil_append, List.map_cons, phraseTexts_cons p.lexeme (placed.map (·.lexeme))]

/-- The stubs come back as the words of their lexemes, when those of `all` from number `n` on are
the phrases among them. The first phrase whose number is too long to be read stops this. -/
theorem mapM_restore_stubs {all : List (List Char)} {n : Nat} {lexemes : List Lexeme}
    (hLiteral : ∀ l ∈ lexemes, l.IsLiteral) (hAll : all.drop n = phraseTexts lexemes)
    (hStart : n ≤ 10 ^ digitLimit) :
    (stubs n lexemes).mapM (restore all) =
      if n + (phraseTexts lexemes).length ≤ 10 ^ digitLimit then .ok (lexemes.map Lexeme.token)
      else .error ⟨digitLimit + 1⟩ := by
  induction lexemes generalizing n with
  | nil =>
      have hNone : phraseTexts [] = [] := rfl
      rw [hNone, List.length_nil, Nat.add_zero, if_pos hStart]
      rfl
  | cons l lexemes ih =>
      have hRest : ∀ k ∈ lexemes, k.IsLiteral := fun k hk => hLiteral k (List.mem_cons_of_mem l hk)
      rw [phraseTexts_cons l lexemes] at hAll ⊢
      rw [stubs, List.mapM_cons, List.length_append, ← Nat.add_assoc]
      have hDrop : all.drop (n + (phraseTexts [l]).length) = phraseTexts lexemes := by
        rw [← List.drop_drop, hAll, List.drop_left]
      by_cases hPhrase : ∃ p, l = .phrase p
      · obtain ⟨p, rfl⟩ := hPhrase
        have hText : phraseTexts [.phrase p] = [p.text] := rfl
        rw [hText] at hAll hDrop ⊢
        have hGet : all[n]? = some p.text := by
          rw [← List.head?_drop, hAll]
          rfl
        rcases Nat.lt_or_eq_of_le hStart with hShort | hLong
        · rw [Lexeme.stub, restore_placeholder hGet hShort, ih hRest hDrop hShort]
          split
          · rfl
          · rfl
        · have hOver (m : Nat) : ¬m + 1 + (phraseTexts lexemes).length ≤ m := by omega
          rw [hLong, Lexeme.stub, restore_first_overlong, List.length_singleton,
            if_neg (hOver _)]
          rfl
      · have hOther : ∀ p, l ≠ .phrase p := fun p hp => hPhrase ⟨p, hp⟩
        have hNone : phraseTexts [l] = [] := by
          cases l with
          | phrase p => exact absurd rfl (hOther p)
          | _ => rfl
        rw [hNone, List.length_nil, Nat.add_zero] at hDrop ⊢
        rw [Lexeme.restore_token (hLiteral l List.mem_cons_self) n hOther, ih hRest hDrop hStart]
        split
        · rfl
        · rfl

/-- A rendering of literal lexemes is read back as them. -/
theorem tokens_text {e : Expression} (hLiteral : e.IsLiteral) (r : Rendering e) :
    tokens r.text =
      if (phraseTexts e.lexemes).length ≤ 10 ^ digitLimit then .ok (e.lexemes.map Lexeme.token)
      else .error ⟨digitLimit + 1⟩ := by
  have hPieces : segments r.text = piecesOf r.placed r.rest :=
    segments_flatMap_text r.placed r.rest_blank
  unfold tokens
  simp only [hPieces, cut_withPlaceholders r.parted r.rest_blank, phrases_piecesOf, r.placed_eq]
  have h := mapM_restore_stubs hLiteral (List.drop_zero (l := phraseTexts e.lexemes))
    (Nat.zero_le _)
  rw [Nat.zero_add] at h
  exact h

end LogViewer.Query
