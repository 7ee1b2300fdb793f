import Mathlib
import LogViewer.Proofs.Query.Terms

/-! Queries that are one phrase in quotation marks. What stands between the marks is one word of the
query, whatever it is; but this word is then taken for what it would be without the marks, so that a
phrase which is a parenthesis or an operator is not looked for. -/
namespace LogViewer.Query

open Text

/-- A phrase alone, in writing. -/
def Phrase.quoted (p : Phrase) : String := String.ofList (Lexeme.phrase p).text

/-- A phrase alone is one word of the query. -/
theorem Phrase.tokens_quoted (p : Phrase) : tokens p.quoted.toList = .ok [lower p.text] := by
  have hPieces : segments p.quoted.toList = [.phrase p.text] := by
    have hText := (Lexeme.phrase p).segments_text []
    rw [List.append_nil] at hText
    rw [quoted, String.toList_ofList, hText, segments, List.append_nil]
    rfl
  have hCut : cut [] (placeholder 0) = [placeholder 0] := by
    have hPlain : ∀ c ∈ placeholder 0, IsPlain c := fun c hc => isPlain_of_mem_placeholder hc
    have hWord := cut_word (s := []) (placeholder_ne_nil 0) hPlain (by simp)
    rw [List.append_nil] at hWord
    exact hWord
  have hRestore : restore [p.text] (placeholder 0) = .ok (lower p.text) :=
    restore_placeholder rfl (Nat.pow_pos (by decide))
  unfold tokens
  simp only [hPieces, withPlaceholders, List.append_nil, hCut]
  rw [List.mapM_cons, List.mapM_nil]
  change (restore [p.text] (placeholder 0) >>= _) = _
  rw [hRestore]
  rfl

theorem Phrase.not_blank_quoted (p : Phrase) : isBlank p.quoted = false := by
  obtain ⟨c, hMem, hBlank⟩ := (Lexeme.phrase p).exists_not_blank
  rw [isBlank, quoted, String.toList_ofList, blankOnly, List.all_eq_false]
  exact ⟨c, hMem, by simp [hBlank]⟩

/-- The small form of an operator in any spelling is an operator. -/
theorem sameLetters_lower {s : List Char} {op : Operator}
    (h : sameLetters s op.letters = true) : sameLetters (lower s) op.letters = true := by
  have hSmall : lower s = s.map Char.toLower := by
    refine lower_of_ascii fun c hc => ?_
    have hRange := toNat_of_isAlphanum (isAlphanum_of_mem_spelling h hc)
    omega
  rw [sameLetters_iff] at h ⊢
  rw [← h, hSmall, List.map_map]
  exact List.map_congr_left fun c _ => Char.toUpper_toLower_eq_toUpper c

theorem Phrase.not_isLiteral_iff {p : Phrase} :
    ¬(Lexeme.phrase p).IsLiteral ↔ p.text = ['('] ∨ p.text = [')'] ∨ IsOperator p.text := by
  change ¬(p.text ≠ ['('] ∧ p.text ≠ [')'] ∧ ¬IsOperator p.text) ↔ _
  simp only [not_and_or, not_not]

/-- A phrase that is not literal comes back as what is no term. -/
theorem Phrase.ofToken_of_not_isLiteral {p : Phrase} (h : ¬(Lexeme.phrase p).IsLiteral) :
    Symbol.ofToken (lower p.text) = .openGroup ∨ Symbol.ofToken (lower p.text) = .closeGroup ∨
      ∃ op, Symbol.ofToken (lower p.text) = .operator op := by
  rcases not_isLiteral_iff.mp h with hOpen | hClose | ⟨op, hOperator⟩
  · rw [hOpen]
    exact Or.inl (by decide)
  · rw [hClose]
    exact Or.inr (Or.inl (by decide))
  · exact Or.inr (Or.inr ⟨op, ofToken_of_spelling (sameLetters_lower hOperator)⟩)

/-- A query of one word that is no term is satisfied by no text. -/
theorem evaluateTokens_of_no_term {word : List Char}
    (h : Symbol.ofToken word = .openGroup ∨ Symbol.ofToken word = .closeGroup ∨
      ∃ op, Symbol.ofToken word = .operator op) (text : List Char) :
    evaluateTokens [word] text = false := by
  rw [evaluateTokens, List.map_singleton]
  rcases h with h | h | ⟨op, h⟩
  · rw [h, evaluateFrom]
    simp [groupSpan, interior, evaluateFrom, combine]
  · rw [h, evaluateFrom, evaluateFrom]
    rfl
  · rw [h, evaluateFrom, evaluateFrom]
    rfl

/-- A phrase that is not literal is satisfied by no text. -/
theorem Phrase.evaluate_quoted_of_not_isLiteral {p : Phrase} (h : ¬(Lexeme.phrase p).IsLiteral)
    (text : List Char) : evaluate p.quoted text = .ok false := by
  have hValue := evaluateTokens_of_no_term (p.ofToken_of_not_isLiteral h) (lower text)
  have hEvaluate : evaluate p.quoted text = .ok (evaluateTokens [lower p.text] (lower text)) := by
    rw [evaluate, p.not_blank_quoted, p.tokens_quoted]
    rfl
  rw [hEvaluate, hValue]

/-- A phrase alone is satisfied by exactly the texts that hold it, in small letters, unless it is a
parenthesis or an operator in any spelling: such a phrase is satisfied by no text, not even by
itself. -/
theorem evaluate_quoted (p : Phrase) :
    ((∀ text, evaluate p.quoted text = .ok (decide (lower p.text <:+: lower text))) ↔
      p.text ≠ ['('] ∧ p.text ≠ [')'] ∧ ¬IsOperator p.text) ∧
    (p.text = ['('] ∨ p.text = [')'] ∨ IsOperator p.text →
      ∀ text, evaluate p.quoted text = .ok false) := by
  refine ⟨⟨?_, ?_⟩, ?_⟩
  · intro hAll
    by_contra hStructure
    have hItself := (p.evaluate_quoted_of_not_isLiteral hStructure p.text).symm.trans (hAll p.text)
    simp at hItself
  · intro (hLiteral : (Lexeme.phrase p).IsLiteral) text
    have hTerm : Symbol.ofToken (lower p.text) = .term (lower p.text) :=
      Lexeme.ofToken_token hLiteral
    have hValue := evaluate_singleton p.not_blank_quoted p.tokens_quoted hTerm text
    rw [lower_lower] at hValue
    exact hValue
  · intro hStructure text
    exact Phrase.evaluate_quoted_of_not_isLiteral (Phrase.not_isLiteral_iff.mpr hStructure) text

private def operatorPhrase : Phrase := ⟨['a', 'n', 'd'], by simp, by simp⟩

/-- An operator in quotation marks is not looked for, although the text here holds it. -/
theorem quoted_operator_is_not_sought :
    evaluate "\"and\"" "sand".toList = .ok false ∧ lower "and".toList <:+: lower "sand".toList := by
  have hQuery : "\"and\"" = operatorPhrase.quoted := by decide
  have hOperator : ¬(Lexeme.phrase operatorPhrase).IsLiteral :=
    fun h => h.2.2 ⟨.and, by decide⟩
  have hHeld : lower "and".toList <:+: lower "sand".toList := ⟨['s'], [], by decide⟩
  refine ⟨?_, hHeld⟩
  rw [hQuery]
  exact Phrase.evaluate_quoted_of_not_isLiteral hOperator _

end LogViewer.Query
