import Mathlib
import LogViewer.Proofs.Query.Terms

/-! The leaves of a query. The terms of a query in writing are found in two passes, one for the
phrases and one for the words outside them, and they are the leaves of its tree, whatever stands
between the leaves and inside the phrases. -/
namespace LogViewer.Query

open Text

mutual

/-- The words and phrases of an operand, from the left to the right. -/
def Operand.leaves : Operand → List (Word ⊕ Phrase)
  | .word w => [.inl w]
  | .phrase p => [.inr p]
  | .group content => content.leaves

/-- The words and phrases of a query, from the left to the right. -/
def Expression.leaves : Expression → List (Word ⊕ Phrase)
  | .operand x => x.leaves
  | .join front _ last => front.leaves ++ last.leaves

end

/-- The words of a query in small letters. -/
def Expression.smallWords (e : Expression) : List (List Char) :=
  (e.leaves.filterMap Sum.getLeft?).map (lower ·.text)

/-- The phrases of a query in small letters. -/
def Expression.smallPhrases (e : Expression) : List (List Char) :=
  (e.leaves.filterMap Sum.getRight?).map (lower ·.text)

namespace Lexeme

/-- Whether a lexeme shows where it begins and ends, as parentheses and phrases do. -/
def IsMarked : Lexeme → Prop
  | openGroup | closeGroup | phrase _ => True
  | _ => False

end Lexeme

/-- Whether a lexeme may follow another one if only those without marks must not touch. -/
def Placed.MayFollow (p q : Placed) : Prop :=
  p.lexeme.IsMarked ∨ q.lexeme.IsMarked ∨ q.gap ≠ []

/-- A way to write a query down in which phrases may touch what stands beside them. -/
structure LooseRendering (e : Expression) where
  placed : List Placed
  placed_eq : placed.map (·.lexeme) = e.lexemes
  parted : placed.IsChain Placed.MayFollow
  /-- The spaces and tabs behind the last lexeme. -/
  rest : List Char
  rest_blank : ∀ c ∈ rest, c = ' ' ∨ c = '\t'

/-- The text of a query in writing. -/
def LooseRendering.text {e : Expression} (r : LooseRendering e) : List Char :=
  r.placed.flatMap Placed.text ++ r.rest

theorem Lexeme.IsParenthesis.isMarked {l : Lexeme} (h : l.IsParenthesis) : l.IsMarked := by
  cases l <;> trivial

/-- A rendering in which nothing but parentheses touches is one in which phrases may touch. -/
def Rendering.loosened {e : Expression} (r : Rendering e) : LooseRendering e where
  placed := r.placed
  placed_eq := r.placed_eq
  parted := r.parted.imp fun _ _ h => h.imp Lexeme.IsParenthesis.isMarked
    (Or.imp_left Lexeme.IsParenthesis.isMarked)
  rest := r.rest
  rest_blank := r.rest_blank

/-- The words and operators among some lexemes, as they are written. -/
def bareTexts (lexemes : List Lexeme) : List (List Char) :=
  lexemes.filterMap fun
    | .operator _ spelling _ => some spelling
    | .word w => some w.text
    | _ => none

theorem bareTexts_cons (l : Lexeme) (lexemes : List Lexeme) :
    bareTexts (l :: lexemes) = bareTexts [l] ++ bareTexts lexemes :=
  List.filterMap_append (l := [l])

theorem outsidePhrases_gap {gap : List Char} (h : ∀ c ∈ gap, c = ' ' ∨ c = '\t') :
    outsidePhrases (gap.map .plain) = gap := by
  unfold outsidePhrases
  rw [List.map_map]
  refine (List.map_congr_left fun c hc => ?_).trans (List.map_id gap)
  rcases h c hc with rfl | rfl <;> rfl

theorem isBlank_of_gap {gap : List Char} (h : ∀ c ∈ gap, c = ' ' ∨ c = '\t') :
    ∀ c ∈ gap, Text.isBlank c = true := by
  intro c hc
  rcases h c hc with rfl | rfl <;> decide

/-- A lexeme with marks is a space for the second pass. -/
theorem Lexeme.outsidePhrases_marked {l : Lexeme} (h : l.IsMarked) :
    outsidePhrases l.pieces = [' '] ∧ bareTexts [l] = [] := by
  cases l with
  | openGroup => exact ⟨rfl, rfl⟩
  | closeGroup => exact ⟨rfl, rfl⟩
  | phrase p => exact ⟨rfl, rfl⟩
  | operator op spelling spells => exact absurd h id
  | word w => exact absurd h id

/-- A lexeme without marks is its own text for the second pass. -/
theorem Lexeme.outsidePhrases_bare {l : Lexeme} (h : ¬l.IsMarked) :
    outsidePhrases l.pieces = l.text ∧ bareTexts [l] = [l.text] ∧ l.text ≠ [] ∧
      ∀ c ∈ l.text, IsPlain c := by
  have hParenthesis : ¬l.IsParenthesis := fun hp => h hp.isMarked
  obtain ⟨hNil, hPlain⟩ := stub_plain (n := 0) hParenthesis
  cases l with
  | openGroup => exact absurd trivial h
  | closeGroup => exact absurd trivial h
  | phrase p => exact absurd trivial h
  | operator op spelling spells =>
      exact ⟨outsidePhrases_plain fun c hc hBreak => (hPlain c hc).not_isBreak hBreak, rfl, hNil,
        hPlain⟩
  | word w =>
      exact ⟨outsidePhrases_plain fun c hc hBreak => (hPlain c hc).not_isBreak hBreak, rfl, hNil,
        hPlain⟩

/-- Behind a lexeme without marks the second pass comes upon a blank. -/
theorem isBlank_head_outsidePhrases {p : Placed} {placed : List Placed} {rest : List Char}
    (hParted : (p :: placed).IsChain Placed.MayFollow) (hLexeme : ¬p.lexeme.IsMarked)
    (hRest : ∀ c ∈ rest, c = ' ' ∨ c = '\t') :
    ∀ c ∈ (outsidePhrases (piecesOf placed rest)).head?, Text.isBlank c = true := by
  intro c hc
  cases placed with
  | nil =>
      rw [piecesOf, List.flatMap_nil, List.nil_append, outsidePhrases_gap hRest] at hc
      exact isBlank_of_gap hRest c (List.mem_of_mem_head? hc)
  | cons q placed =>
      rw [piecesOf_cons, outsidePhrases_append, outsidePhrases_append,
        outsidePhrases_gap q.gap_blank] at hc
      rw [List.isChain_cons_cons] at hParted
      cases hGap : q.gap with
      | cons d gap =>
          rw [hGap] at hc
          cases hc
          exact isBlank_of_gap q.gap_blank c (by simp [hGap])
      | nil =>
          have hMarked : q.lexeme.IsMarked := by
            rcases hParted.1 with h | h | h
            · exact absurd h hLexeme
            · exact h
            · exact absurd hGap h
          rw [hGap, (Lexeme.outsidePhrases_marked hMarked).1] at hc
          cases hc
          decide

/-- The second pass finds the words and the operators. -/
theorem words_outsidePhrases_piecesOf {placed : List Placed} {rest : List Char}
    (hParted : placed.IsChain Placed.MayFollow) (hRest : ∀ c ∈ rest, c = ' ' ∨ c = '\t') :
    words (outsidePhrases (piecesOf placed rest)) = bareTexts (placed.map (·.lexeme)) := by
  induction placed with
  | nil =>
      have hBlank := words_blanks_append (isBlank_of_gap hRest) []
      rw [List.append_nil] at hBlank
      rw [piecesOf, List.flatMap_nil, List.nil_append, outsidePhrases_gap hRest, hBlank]
      rfl
  | cons p placed ih =>
      rw [piecesOf_cons, outsidePhrases_append, outsidePhrases_append,
        outsidePhrases_gap p.gap_blank, words_blanks_append (isBlank_of_gap p.gap_blank),
        List.map_cons, bareTexts_cons, ← ih hParted.tail]
      by_cases hMarked : p.lexeme.IsMarked
      · obtain ⟨hText, hBare⟩ := Lexeme.outsidePhrases_marked hMarked
        rw [hText, hBare, List.singleton_append, words_cons_blank (by decide)]
        rfl
      · obtain ⟨hText, hBare, hNil, hPlain⟩ := Lexeme.outsidePhrases_bare hMarked
        rw [hText, hBare, words_append_of_head hNil (fun c hc => (hPlain c hc).not_blank)
          (isBlank_head_outsidePhrases hParted hMarked hRest)]
        rfl

/-- The leaf that a lexeme is, if it is one. -/
def Lexeme.leaf? : Lexeme → Option (Word ⊕ Phrase)
  | word w => some (.inl w)
  | phrase p => some (.inr p)
  | _ => none

mutual

theorem Operand.filterMap_leaf? (x : Operand) : x.lexemes.filterMap Lexeme.leaf? = x.leaves := by
  cases x with
  | word w => rfl
  | phrase p => rfl
  | group content =>
      rw [Operand.lexemes, List.filterMap_cons_none rfl, List.filterMap_append,
        content.filterMap_leaf?]
      exact List.append_nil content.leaves

/-- The leaves of a tree stand in its written forms in the same order. -/
theorem Expression.filterMap_leaf? (e : Expression) :
    e.lexemes.filterMap Lexeme.leaf? = e.leaves := by
  cases e with
  | operand x => exact x.filterMap_leaf?
  | join front link last =>
      have hLink : link.lexemes.filterMap Lexeme.leaf? = [] := by cases link <;> rfl
      rw [Expression.lexemes, List.filterMap_append, List.filterMap_append,
        front.filterMap_leaf?, hLink, last.filterMap_leaf?]
      rfl

end

theorem Expression.map_lower_phraseTexts (e : Expression) :
    (phraseTexts e.lexemes).map lower = e.smallPhrases := by
  rw [smallPhrases, ← e.filterMap_leaf?, List.filterMap_filterMap, phraseTexts,
    List.map_filterMap, List.map_filterMap]
  refine List.filterMap_congr fun l _ => ?_
  cases l <;> rfl

/-- Whether a word in small letters is no operator. -/
def IsNoOperator (word : List Char) : Prop := word ≠ "and".toList ∧ word ≠ "or".toList

instance : DecidablePred IsNoOperator := fun word =>
  inferInstanceAs (Decidable (word ≠ "and".toList ∧ word ≠ "or".toList))

theorem not_isNoOperator_of_spelling {op : Operator} {spelling : List Char}
    (h : sameLetters spelling op.letters = true) : ¬IsNoOperator (lower spelling) := by
  have hSmall : lower spelling = op.letters.map Char.toLower := by
    have hLetters := congrArg (List.map Char.toLower) (sameLetters_iff.mp h)
    simp only [List.map_map, Function.comp_def, Char.toLower_toUpper_eq_toLower] at hLetters
    rw [lower_of_ascii fun c hc => ?_]
    · exact hLetters
    · have hRange := toNat_of_isAlphanum (isAlphanum_of_mem_spelling h hc)
      omega
  rintro ⟨hAnd, hOr⟩
  cases op with
  | and => exact hAnd hSmall
  | or => exact hOr hSmall

/-- Of what the second pass finds, the words are left when the operators are gone. -/
theorem Expression.filter_bareTexts (e : Expression) :
    ((bareTexts e.lexemes).map lower).filter IsNoOperator = e.smallWords := by
  rw [smallWords, ← e.filterMap_leaf?, List.filterMap_filterMap, bareTexts, List.map_filterMap,
    List.map_filterMap, List.filter_filterMap]
  refine List.filterMap_congr fun l _ => ?_
  cases l with
  | operator op spelling spells =>
      exact Option.filter_some_neg (by simpa using not_isNoOperator_of_spelling spells)
  | word w =>
      have hWord : IsNoOperator (lower w.text) := lower_ne_operator w.not_operator
      exact Option.filter_some_pos (by simpa using hWord)
  | _ => rfl

/-- Adding terms one after the other keeps the first of equal ones. -/
theorem foldl_addTerm (words : List (List Char)) : words.foldl addTerm [] = words.eraseDups := by
  induction words using List.reverseRecOn with
  | nil => rfl
  | append_singleton words word ih =>
      rw [List.foldl_concat, ih, List.eraseDups_append, addTerm]
      by_cases hThere : word ∈ words
      · rw [if_pos (List.mem_eraseDups.mpr hThere)]
        simp [List.removeAll, hThere]
      · rw [if_neg (mt List.mem_eraseDups.mp hThere), List.removeAll,
          List.filter_cons_of_pos (by simpa)]
        rfl

theorem nodup_foldl_addTerm {words terms : List (List Char)} (h : terms.Nodup) :
    (words.foldl addTerm terms).Nodup := by
  induction words generalizing terms with
  | nil => exact h
  | cons word words ih =>
      refine ih ?_
      unfold addTerm
      split
      · exact h
      · rename_i hNew
        exact List.nodup_append.mpr ⟨h, List.nodup_singleton _, by
          rintro a ha b hb rfl
          exact hNew (List.mem_singleton.mp hb ▸ ha)⟩

/-- The terms of a query in writing, as they are found one after the other. -/
theorem LooseRendering.terms_eq_foldl {e : Expression} (r : LooseRendering e) :
    terms (String.ofList r.text) = (e.smallPhrases ++ e.smallWords).foldl addTerm [] := by
  have hPieces : segments r.text = piecesOf r.placed r.rest :=
    segments_flatMap_text r.placed r.rest_blank
  have hBlank : isBlank (String.ofList r.text) = false := not_blank_of_lexemes r.placed_eq r.rest
  unfold terms
  simp only [hBlank, String.toList_ofList, hPieces, phrases_piecesOf,
    words_outsidePhrases_piecesOf r.parted r.rest_blank, r.placed_eq, e.map_lower_phraseTexts]
  rw [List.foldl_append, ← e.filter_bareTexts]
  rfl

theorem Expression.mem_smallWords {e : Expression} {term : List Char} :
    term ∈ e.smallWords ↔ ∃ w, .inl w ∈ e.leaves ∧ lower w.text = term := by
  simp [smallWords, Sum.getLeft?_eq_some_iff]

theorem Expression.mem_smallPhrases {e : Expression} {term : List Char} :
    term ∈ e.smallPhrases ↔ ∃ p, .inr p ∈ e.leaves ∧ lower p.text = term := by
  simp [smallPhrases, Sum.getRight?_eq_some_iff]

/-- Whether some terms are the leaves of a query in small letters. -/
structure ListsLeaves (found : List (List Char)) (e : Expression) : Prop where
  nodup : found.Nodup
  /-- The phrases come first, then the words that are not among them, each where it first
  appears. -/
  in_order : found = e.smallPhrases.eraseDups ++ (e.smallWords.removeAll e.smallPhrases).eraseDups
  /-- Every leaf is there, and nothing else is. -/
  mem_iff : ∀ term, term ∈ found ↔ ∃ leaf ∈ e.leaves, lower (leaf.elim Word.text Phrase.text) = term

/-- The terms of a query are its leaves, however it is written down. -/
theorem terms_listsLeaves (e : Expression) :
    (∀ r : LooseRendering e, ListsLeaves (terms (String.ofList r.text)) e) ∧
      ∀ r : Rendering e, ListsLeaves (terms (String.ofList r.text)) e := by
  have hLoose (r : LooseRendering e) : ListsLeaves (terms (String.ofList r.text)) e := by
    rw [r.terms_eq_foldl]
    refine ⟨nodup_foldl_addTerm List.nodup_nil, ?_, fun term => ?_⟩
    · rw [foldl_addTerm, List.eraseDups_append]
    · rw [mem_foldl_addTerm, List.mem_append, Expression.mem_smallPhrases,
        Expression.mem_smallWords]
      simp [or_comm]
  exact ⟨hLoose, fun r => hLoose r.loosened⟩

end LogViewer.Query
