import Mathlib
import LogViewer.Proofs.Query.Reading
import LogViewer.Proofs.Text.SmallForm

/-! A query in writing is evaluated to what its tree says. Groups are found by counting
parentheses, which is right because those of a tree are balanced. -/
namespace LogViewer.Query

open Text

/-- What a lexeme is to the evaluation. -/
def Lexeme.symbol : Lexeme → Symbol
  | openGroup => .openGroup
  | closeGroup => .closeGroup
  | operator op _ _ => .operator op
  | word w => .term w.text
  | phrase p => .term (lower p.text)

theorem toLower_eq_parenthesis {c d : Char} (hd : d = '(' ∨ d = ')') (h : c.toLower = d) :
    c = d := by
  have hAlpha : c.isAlpha = false := by
    rw [← Char.isAlpha_toLower_eq_isAlpha, h]
    rcases hd with rfl | rfl <;> decide
  have hUpper : ¬c.isUpper = true := by
    rw [Char.isAlpha, Bool.or_eq_false_iff] at hAlpha
    simp [hAlpha.1]
  rw [← h, Char.toLower_eq_of_not_isUpper hUpper]

/-- Only a parenthesis has a parenthesis as its small form. -/
theorem eq_of_lower_eq_parenthesis {s : List Char} {d : Char} (hd : d = '(' ∨ d = ')')
    (h : lower s = [d]) : s = [d] := by
  have hSmall : lower s = s.map Char.toLower := by
    refine lower_eq_map_toLower fun e he => ?_
    rw [h, List.mem_singleton] at he
    subst he
    rcases hd with rfl | rfl <;> decide
  obtain ⟨c, rfl, hc⟩ := List.map_eq_singleton_iff.mp (hSmall.symm.trans h)
  rw [toLower_eq_parenthesis hd hc]

/-- A text whose small form spells an operator spells it itself. -/
theorem sameLetters_of_lower {s : List Char} {op : Operator}
    (h : sameLetters (lower s) op.letters = true) : sameLetters s op.letters = true := by
  rw [sameLetters_iff] at h ⊢
  have hLetters : ∀ e ∈ op.letters.map Char.toUpper, e ≠ 'I' ∧ e ≠ 'K' := by
    cases op <;> simp [Operator.letters]
  have hSmall : lower s = s.map Char.toLower := by
    refine lower_eq_map_toLower fun d hd => ?_
    have hMem : d.toUpper ∈ op.letters.map Char.toUpper := h ▸ List.mem_map_of_mem hd
    refine ⟨?_, ?_, ?_⟩
    · have hRange := toNat_of_isAlphanum (isAlphanum_of_mem_spelling (sameLetters_iff.mpr h) hd)
      omega
    · rintro rfl
      exact (hLetters _ hMem).1 (by decide)
    · rintro rfl
      exact (hLetters _ hMem).2 (by decide)
  rw [← h, hSmall, List.map_map]
  exact List.map_congr_left fun c _ => (Char.toUpper_toLower_eq_toUpper c).symm

theorem ofToken_of_not_operator {s : List Char} (hOpen : s ≠ ['(']) (hClose : s ≠ [')'])
    (hOperator : ¬IsOperator s) : Symbol.ofToken s = .term s := by
  have hAnd : ¬sameLetters s "AND".toList = true := fun h => hOperator ⟨.and, h⟩
  have hOr : ¬sameLetters s "OR".toList = true := fun h => hOperator ⟨.or, h⟩
  rw [Symbol.ofToken, if_neg hOpen, if_neg hClose, if_neg hAnd, if_neg hOr]

theorem ofToken_of_spelling {op : Operator} {s : List Char}
    (h : sameLetters s op.letters = true) : Symbol.ofToken s = .operator op := by
  have hAlphanum : ∀ c ∈ s, c.isAlphanum = true := fun c hc => isAlphanum_of_mem_spelling h hc
  have hOpen : s ≠ ['('] := by
    rintro rfl
    exact absurd (hAlphanum '(' (by simp)) (by decide)
  have hClose : s ≠ [')'] := by
    rintro rfl
    exact absurd (hAlphanum ')' (by simp)) (by decide)
  rw [Symbol.ofToken, if_neg hOpen, if_neg hClose]
  cases op with
  | and => exact if_pos h
  | or =>
      have hAnd : ¬sameLetters s "AND".toList = true := by
        intro hSame
        have hLengths := (sameLetters_iff.mp h).symm.trans (sameLetters_iff.mp hSame)
        exact absurd (congrArg List.length hLengths) (by simp [Operator.letters])
      rw [if_neg hAnd]
      exact if_pos h

/-- The evaluation takes a literal lexeme that was read back for what it is. -/
theorem Lexeme.ofToken_token {l : Lexeme} (h : l.IsLiteral) :
    Symbol.ofToken l.token = l.symbol := by
  cases l with
  | openGroup => rfl
  | closeGroup => rfl
  | operator op spelling spells => exact ofToken_of_spelling spells
  | word w =>
      refine ofToken_of_not_operator ?_ ?_ w.not_operator
      · intro (hText : w.text = ['('])
        have hMem : '(' ∈ w.text := hText ▸ List.mem_singleton_self '('
        exact (w.plain '(' hMem).not_parenthesis.1 rfl
      · intro (hText : w.text = [')'])
        have hMem : ')' ∈ w.text := hText ▸ List.mem_singleton_self ')'
        exact (w.plain ')' hMem).not_parenthesis.2 rfl
  | phrase p =>
      obtain ⟨hOpen, hClose, hOperator⟩ := h
      refine ofToken_of_not_operator ?_ ?_ ?_
      · exact fun hText => hOpen (eq_of_lower_eq_parenthesis (Or.inl rfl) hText)
      · exact fun hText => hClose (eq_of_lower_eq_parenthesis (Or.inr rfl) hText)
      · rintro ⟨op, hSame⟩
        exact hOperator ⟨op, sameLetters_of_lower hSame⟩

/-- Whether the groups that are open before some symbols are open after them as well and none of
them was closed in between. -/
def IsBalanced (symbols : List Symbol) : Prop :=
  ∀ depth rest, groupSpan (depth + 1) (symbols ++ rest) =
    (symbols ++ (groupSpan (depth + 1) rest).1, (groupSpan (depth + 1) rest).2)

theorem IsBalanced.nil : IsBalanced [] := fun _ _ => rfl

theorem IsBalanced.append {s t : List Symbol} (hs : IsBalanced s) (ht : IsBalanced t) :
    IsBalanced (s ++ t) := by
  intro depth rest
  rw [List.append_assoc, hs, ht, List.append_assoc]

theorem IsBalanced.singleton {s : Symbol} (h : ∀ depth, s.depthAfter depth = depth) :
    IsBalanced [s] := by
  intro depth rest
  rw [List.singleton_append, groupSpan]
  simp only [h]
  rw [if_neg (Nat.succ_ne_zero depth)]
  rfl

theorem IsBalanced.group {s : List Symbol} (hs : IsBalanced s) :
    IsBalanced (.openGroup :: (s ++ [.closeGroup])) := by
  intro depth rest
  have hInside : groupSpan (depth + 2) (s ++ .closeGroup :: rest) =
      (s ++ .closeGroup :: (groupSpan (depth + 1) rest).1, (groupSpan (depth + 1) rest).2) := by
    rw [hs, groupSpan]
    simp [Symbol.depthAfter]
  rw [List.cons_append, List.append_assoc, groupSpan]
  simp [Symbol.depthAfter, hInside]

/-- The symbols up to the end of a balanced group are those inside it and the one that closes it. -/
theorem groupSpan_one {s : List Symbol} (hs : IsBalanced s) (rest : List Symbol) :
    groupSpan 1 (s ++ .closeGroup :: rest) = (s ++ [.closeGroup], rest) := by
  have hClose : groupSpan 1 (.closeGroup :: rest) = ([.closeGroup], rest) := by
    rw [groupSpan]
    exact if_pos rfl
  rw [hs 0, hClose]

theorem interior_closed (s : List Symbol) : interior (s ++ [.closeGroup]) = s := by
  simp [interior]

/-- The symbols of a query. -/
def symbolsOf (lexemes : List Lexeme) : List Symbol := lexemes.map Lexeme.symbol

theorem symbolsOf_append (a b : List Lexeme) :
    symbolsOf (a ++ b) = symbolsOf a ++ symbolsOf b := List.map_append

theorem symbolsOf_group (content : Expression) :
    symbolsOf (Operand.group content).lexemes =
      .openGroup :: (symbolsOf content.lexemes ++ [.closeGroup]) := by
  simp [Operand.lexemes, symbolsOf, Lexeme.symbol]

theorem Connective.isBalanced (link : Connective) : IsBalanced (symbolsOf link.lexemes) := by
  cases link with
  | adjacent => exact IsBalanced.nil
  | operator op spelling spells => exact IsBalanced.singleton fun _ => rfl

mutual

theorem Operand.isBalanced (x : Operand) : IsBalanced (symbolsOf x.lexemes) := by
  cases x with
  | word w => exact IsBalanced.singleton fun _ => rfl
  | phrase p => exact IsBalanced.singleton fun _ => rfl
  | group content =>
      rw [symbolsOf_group]
      exact content.isBalanced.group

/-- The parentheses of a query are balanced. -/
theorem Expression.isBalanced (e : Expression) : IsBalanced (symbolsOf e.lexemes) := by
  cases e with
  | operand x => exact x.isBalanced
  | join front link last =>
      rw [Expression.lexemes, symbolsOf_append, symbolsOf_append]
      exact front.isBalanced.append (link.isBalanced.append last.isBalanced)

end

theorem evaluateFrom_group (holds : List Char → Bool) (result : Option Bool)
    (pending : Option Operator) {s : List Symbol} (hs : IsBalanced s) (rest : List Symbol) :
    evaluateFrom holds result pending (.openGroup :: (s ++ .closeGroup :: rest)) =
      evaluateFrom holds (some (combine result pending (evaluateFrom holds none none s))) none
        rest := by
  rw [evaluateFrom]
  simp only [groupSpan_one hs, interior_closed]

/-- A text holds a word exactly if the small form of the word is a part of it. -/
theorem holdsIn_eq (text word : List Char) :
    holdsIn text word = decide (lower word <:+: text) := by
  rw [Bool.eq_iff_iff, decide_eq_true_iff]
  exact occursIn_iff

theorem combine_link (link : Connective) (front last : Bool) (holds : List Char → Bool)
    (s : List Symbol) :
    ∃ pending, evaluateFrom holds (some front) none (symbolsOf link.lexemes ++ s) =
        evaluateFrom holds (some front) pending s ∧
      combine (some front) pending last = link.apply front last := by
  cases link with
  | adjacent => exact ⟨none, rfl, rfl⟩
  | operator op spelling spells =>
      refine ⟨some op, ?_, ?_⟩
      · rw [Connective.lexemes, symbolsOf, List.map_singleton, List.singleton_append,
          Lexeme.symbol, evaluateFrom]
      · cases op <;> rfl

mutual

/-- The symbols of an operand combine its value with what came before. -/
theorem evaluateFrom_operand (text : List Char) (x : Operand) (result : Option Bool)
    (pending : Option Operator) (rest : List Symbol) :
    evaluateFrom (holdsIn text) result pending (symbolsOf x.lexemes ++ rest) =
      evaluateFrom (holdsIn text) (some (combine result pending (x.denote text))) none rest := by
  cases x with
  | word w =>
      rw [Operand.lexemes, symbolsOf, List.map_singleton, List.singleton_append, Lexeme.symbol,
        evaluateFrom, holdsIn_eq, Operand.denote]
  | phrase p =>
      rw [Operand.lexemes, symbolsOf, List.map_singleton, List.singleton_append, Lexeme.symbol,
        evaluateFrom, holdsIn_eq, lower_lower, Operand.denote]
  | group content =>
      have hContent := evaluateFrom_expression text content []
      rw [List.append_nil] at hContent
      rw [symbolsOf_group, List.cons_append, List.append_assoc, List.singleton_append,
        evaluateFrom_group _ _ _ content.isBalanced, hContent, evaluateFrom, Option.getD_some,
        Operand.denote]

theorem evaluateFrom_expression (text : List Char) (e : Expression) (rest : List Symbol) :
    evaluateFrom (holdsIn text) none none (symbolsOf e.lexemes ++ rest) =
      evaluateFrom (holdsIn text) (some (e.denote text)) none rest := by
  cases e with
  | operand x =>
      rw [Expression.lexemes, evaluateFrom_operand, Expression.denote]
      rfl
  | join front link last =>
      obtain ⟨pending, hLink, hCombine⟩ := combine_link link (front.denote text)
        (last.denote text) (holdsIn text) (symbolsOf last.lexemes ++ rest)
      rw [Expression.lexemes, symbolsOf_append, symbolsOf_append, List.append_assoc,
        List.append_assoc, evaluateFrom_expression text front, hLink,
        evaluateFrom_operand text last, hCombine, Expression.denote]

end

theorem evaluateTokens_tokens {e : Expression} (hLiteral : e.IsLiteral) (text : List Char) :
    evaluateTokens (e.lexemes.map Lexeme.token) text = e.denote text := by
  have hSymbols : (e.lexemes.map Lexeme.token).map Symbol.ofToken = symbolsOf e.lexemes := by
    rw [List.map_map]
    exact List.map_congr_left fun l hl => Lexeme.ofToken_token (hLiteral l hl)
  have h := evaluateFrom_expression text e []
  rw [List.append_nil] at h
  rw [evaluateTokens, hSymbols, h, evaluateFrom, Option.getD_some]

theorem Lexeme.exists_not_blank (l : Lexeme) : ∃ c ∈ l.text, Text.isBlank c = false := by
  cases l with
  | openGroup => exact ⟨'(', by simp [text], by decide⟩
  | closeGroup => exact ⟨')', by simp [text], by decide⟩
  | operator op spelling spells =>
      obtain ⟨hNil, hPlain⟩ := stub_plain (n := 0) (l := .operator op spelling spells) id
      obtain ⟨c, hc⟩ := List.exists_mem_of_ne_nil _ hNil
      exact ⟨c, hc, (hPlain c hc).not_blank⟩
  | word w =>
      obtain ⟨c, hc⟩ := List.exists_mem_of_ne_nil _ w.ne_nil
      exact ⟨c, hc, (w.plain c hc).not_blank⟩
  | phrase p => exact ⟨'"', by simp [text], by decide⟩

theorem Operand.lexemes_ne_nil (x : Operand) : x.lexemes ≠ [] := by
  cases x <;> simp [Operand.lexemes]

theorem Expression.lexemes_ne_nil (e : Expression) : e.lexemes ≠ [] := by
  cases e with
  | operand x => exact x.lexemes_ne_nil
  | join front link last =>
      rw [Expression.lexemes]
      simp [last.lexemes_ne_nil]

theorem not_blank_of_lexemes {e : Expression} {placed : List Placed}
    (hPlaced : placed.map (·.lexeme) = e.lexemes) (rest : List Char) :
    isBlank (String.ofList (placed.flatMap Placed.text ++ rest)) = false := by
  cases placed with
  | nil => exact absurd hPlaced.symm e.lexemes_ne_nil
  | cons p placed =>
      obtain ⟨c, hc, hBlank⟩ := p.lexeme.exists_not_blank
      rw [isBlank, String.toList_ofList, blankOnly, List.all_eq_false]
      exact ⟨c, by simp [Placed.text, hc], by simp [hBlank]⟩

theorem Rendering.not_blank {e : Expression} (r : Rendering e) :
    isBlank (String.ofList r.text) = false := not_blank_of_lexemes r.placed_eq r.rest

/-- However a query is written down, a text satisfies it exactly if the small form of the text does
by the meaning of the query as a tree. The one thing that can stop the evaluation is a phrase with a
number of more digits than are read, for which a query must have more than `10 ^ 4300` phrases. -/
theorem evaluate_text {e : Expression} (hLiteral : e.IsLiteral) (r : Rendering e)
    (text : List Char) :
    evaluate (String.ofList r.text) text =
      if (phraseTexts e.lexemes).length ≤ 10 ^ digitLimit then .ok (e.denote (lower text))
      else .error ⟨digitLimit + 1⟩ := by
  rw [evaluate, r.not_blank, String.toList_ofList, tokens_text hLiteral r]
  simp only [Bool.false_eq_true, if_false]
  split
  · rw [← evaluateTokens_tokens hLiteral (lower text)]
    rfl
  · rfl

private theorem isOperator_iff {s : List Char} :
    IsOperator s ↔ sameLetters s "AND".toList = true ∨ sameLetters s "OR".toList = true := by
  constructor
  · rintro ⟨op, h⟩
    cases op with
    | and => exact Or.inl h
    | or => exact Or.inr h
  · rintro (h | h)
    · exact ⟨.and, h⟩
    · exact ⟨.or, h⟩

private def letter (c : Char) (hAlphanum : c.isAlphanum = true) : Word where
  text := [c]
  ne_nil := by simp
  plain := by
    intro d hd
    rw [List.mem_singleton.mp hd]
    exact isPlain_of_isAlphanum hAlphanum
  not_operator := by
    simp [isOperator_iff, sameLetters]

/-- A phrase, or a group of two words. -/
private def phraseOrGroup : Expression :=
  .join (.operand (.phrase ⟨['a', ' ', 'B'], by simp, by simp⟩))
    (.operator .or ['O', 'r'] (by decide))
    (.group (.join (.operand (.word (letter 'c' (by decide)))) .adjacent
      (.word (letter 'd' (by decide)))))

theorem evaluate_text_phraseOrGroup :
    phraseOrGroup.IsLiteral ∧
      evaluate (String.ofList (Rendering.spaced phraseOrGroup).text) ['D', 'C'] = .ok true := by
  have hLetter (c : Char) (hc : c.isAlphanum = true) : ¬IsPlaceholder (letter c hc).text := by
    refine not_isPlaceholder ?_
    rintro d hd rfl
    have hSame : '_' = c := List.mem_singleton.mp hd
    subst hSame
    exact absurd hc (by decide)
  have hLiteral : phraseOrGroup.IsLiteral := by
    simp [Expression.IsLiteral, phraseOrGroup, Expression.lexemes, Operand.lexemes,
      Connective.lexemes, Lexeme.IsLiteral, isOperator_iff, sameLetters, hLetter]
  refine ⟨hLiteral, ?_⟩
  have hFew : (phraseTexts phraseOrGroup.lexemes).length ≤ 10 ^ digitLimit :=
    Nat.pow_pos (by decide)
  rw [evaluate_text hLiteral, if_pos hFew]
  decide

end LogViewer.Query
