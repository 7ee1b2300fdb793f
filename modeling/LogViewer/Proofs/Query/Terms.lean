import Mathlib
import LogViewer.Query.Terms
import LogViewer.Proofs.Query.Meaning
import LogViewer.Proofs.Query.Runs
import LogViewer.Proofs.Success

/-! What a query looks for in a text, and its terms. The evaluation and the terms read a query each
in their own way. Both find the same words as long as every run of the query is whole; where one is
not, the evaluation looks for something that is not among the terms. -/
namespace LogViewer.Query

open Text

theorem groupSpan_append (depth : Nat) (symbols : List Symbol) :
    (groupSpan depth symbols).1 ++ (groupSpan depth symbols).2 = symbols := by
  induction symbols generalizing depth with
  | nil => rfl
  | cons s rest ih =>
      rw [groupSpan]
      split
      · rfl
      · rw [List.cons_append, ih]

theorem mem_of_mem_interior {s : Symbol} {span : List Symbol} (h : s ∈ interior span) :
    s ∈ span := by
  unfold interior at h
  split at h
  · exact List.mem_of_mem_dropLast h
  · exact h

/-- The value of a query depends only on the values of the words in it. -/
theorem evaluateFrom_congr {holds holds' : List Char → Bool} {symbols : List Symbol}
    (h : ∀ w, .term w ∈ symbols → holds w = holds' w) (result : Option Bool)
    (pending : Option Operator) :
    evaluateFrom holds result pending symbols = evaluateFrom holds' result pending symbols := by
  fun_induction evaluateFrom holds result pending symbols with
  | case1 result pending => rw [evaluateFrom]
  | case2 result pending rest value ihGroup ihAfter =>
      have hMem : ∀ s, s ∈ (groupSpan 1 rest).1 ∨ s ∈ (groupSpan 1 rest).2 → s ∈ rest := by
        intro s hs
        rw [← groupSpan_append 1 rest]
        exact List.mem_append.mpr hs
      have hGroup := ihGroup fun w hw =>
        h w (List.mem_cons_of_mem _ (hMem _ (Or.inl (mem_of_mem_interior hw))))
      have hAfter := ihAfter fun w hw => h w (List.mem_cons_of_mem _ (hMem _ (Or.inr hw)))
      rw [evaluateFrom, hAfter]
      simp only [value, hGroup]
  | case3 result pending rest ih =>
      rw [evaluateFrom, ih fun w hw => h w (List.mem_cons_of_mem _ hw)]
  | case4 result pending op rest ih =>
      rw [evaluateFrom, ih fun w hw => h w (List.mem_cons_of_mem _ hw)]
  | case5 result pending word rest ih =>
      rw [evaluateFrom, ih fun w hw => h w (List.mem_cons_of_mem _ hw), h word List.mem_cons_self]

theorem ofToken_eq_term {word w : List Char} (h : Symbol.ofToken word = .term w) :
    w = word ∧ word ≠ ['('] ∧ word ≠ [')'] ∧ ¬IsOperator word := by
  unfold Symbol.ofToken at h
  split_ifs at h with hOpen hClose hAnd hOr
  refine ⟨(Symbol.term.inj h).symm, hOpen, hClose, ?_⟩
  rintro ⟨op, hOp⟩
  cases op with
  | and => exact hAnd hOp
  | or => exact hOr hOp

theorem mem_addTerm {terms : List (List Char)} {term word : List Char} :
    word ∈ addTerm terms term ↔ word ∈ terms ∨ word = term := by
  unfold addTerm
  split
  · rename_i hMem
    refine ⟨Or.inl, ?_⟩
    rintro (h | rfl)
    · exact h
    · exact hMem
  · simp

theorem mem_foldl_addTerm {words terms : List (List Char)} {word : List Char} :
    word ∈ words.foldl addTerm terms ↔ word ∈ terms ∨ word ∈ words := by
  induction words generalizing terms with
  | nil => simp
  | cons first words ih => rw [List.foldl_cons, ih, mem_addTerm, List.mem_cons, or_assoc]

/-- The terms are the small forms of the phrases and of the words outside them, without the two that
are operators. -/
theorem mem_terms_iff {query : String} (hBlank : isBlank query = false) {term : List Char} :
    term ∈ terms query ↔
      (∃ p ∈ phrases (segments query.toList), lower p = term) ∨
        (∃ w ∈ words (outsidePhrases (segments query.toList)), lower w = term) ∧
          term ≠ "and".toList ∧ term ≠ "or".toList := by
  unfold terms
  simp only [hBlank, Bool.false_eq_true, if_false, mem_foldl_addTerm, List.not_mem_nil, false_or,
    List.mem_map, List.mem_filter, decide_eq_true_eq]

theorem outsidePhrases_append (a b : List Segment) :
    outsidePhrases (a ++ b) = outsidePhrases a ++ outsidePhrases b := List.map_append

theorem outsidePhrases_plain {s : List Char} (h : ∀ c ∈ s, ¬IsBreak c) :
    outsidePhrases (s.map .plain) = s := by
  unfold outsidePhrases
  rw [List.map_map]
  refine (List.map_congr_left fun c hc => ?_).trans (List.map_id s)
  have hParenthesis : ¬(c = '(' ∨ c = ')') := by
    rintro (rfl | rfl)
    · exact h _ hc (Or.inl rfl)
    · exact h _ hc (Or.inr (Or.inl rfl))
  simp [hParenthesis]

theorem isBlank_outsidePhrases {s : Segment} (h : s.isBreak = true) :
    ∀ c ∈ outsidePhrases [s], Text.isBlank c = true := by
  cases s with
  | phrase p => cases h
  | plain c =>
      have hBreak : IsBreak c := by simpa [Segment.isBreak] using h
      intro d hd
      have hImage : d = if c = '(' ∨ c = ')' then ' ' else c := by
        simpa [outsidePhrases] using hd
      subst hImage
      rcases hBreak with rfl | rfl | rfl | rfl <;> decide

theorem isBlank_getLast?_outsidePhrases {pieces : List Segment}
    (h : ∀ s ∈ pieces.getLast?, s.isBreak = true) :
    ∀ c ∈ (outsidePhrases pieces).getLast?, Text.isBlank c = true := by
  intro c hc
  unfold outsidePhrases at hc
  rw [List.getLast?_map, Option.mem_def, Option.map_eq_some_iff] at hc
  obtain ⟨s, hs, rfl⟩ := hc
  exact isBlank_outsidePhrases (h s hs) _ (List.mem_singleton_self _)

theorem isBlank_head?_outsidePhrases {pieces : List Segment}
    (h : ∀ s ∈ pieces.head?, s.isBreak = true) :
    ∀ c ∈ (outsidePhrases pieces).head?, Text.isBlank c = true := by
  intro c hc
  unfold outsidePhrases at hc
  rw [List.head?_map, Option.mem_def, Option.map_eq_some_iff] at hc
  obtain ⟨s, hs, rfl⟩ := hc
  exact isBlank_outsidePhrases (h s hs) _ (List.mem_singleton_self _)

/-- The word of a run is one of the words outside the phrases. -/
theorem mem_words_of_run {pieces run : List Segment} {front w back : List Char}
    (hRun : run ∈ pieces.splitOnP Segment.isBreak)
    (hParts : run = front.map .plain ++ (w.map .plain ++ back.map .plain)) (hNil : w ≠ [])
    (hFront : ∀ c ∈ front, Text.isBlank c = true) (h : ∀ c ∈ w, Text.isBlank c = false)
    (hBack : ∀ c ∈ back, Text.isBlank c = true) : w ∈ words (outsidePhrases pieces) := by
  obtain ⟨before, after, rfl, hInside, hBefore, hAfter⟩ := exists_append_of_mem_splitOnP hRun
  subst hParts
  have hText : outsidePhrases (front.map .plain ++ (w.map .plain ++ back.map .plain)) =
      front ++ (w ++ back) := by
    rw [← List.map_append, ← List.map_append]
    refine outsidePhrases_plain fun c hc => ?_
    have hPlain := hInside (.plain c) (by simpa using hc)
    simpa [Segment.isBreak] using hPlain
  rw [outsidePhrases_append, outsidePhrases_append, hText, List.append_assoc, List.append_assoc,
    ← List.append_assoc]
  refine mem_words hNil h ?_ ?_
  · intro c hc
    rw [List.getLast?_append, Option.mem_def, Option.or_eq_some_iff] at hc
    rcases hc with hc | ⟨-, hc⟩
    · exact hFront c (List.mem_of_getLast? hc)
    · exact isBlank_getLast?_outsidePhrases hBefore c hc
  · intro c hc
    rw [List.head?_append, Option.mem_def, Option.or_eq_some_iff] at hc
    rcases hc with hc | ⟨-, hc⟩
    · exact hBack c (List.mem_of_head? hc)
    · exact isBlank_head?_outsidePhrases hAfter c hc

theorem restore_eq_ok {phrases : List (List Char)} {w word : List Char}
    (h : restore phrases w = .ok word) : word = w ∨ ∃ p ∈ phrases, word = lower p := by
  unfold restore at h
  split at h
  · cases h
    exact Or.inl rfl
  · obtain ⟨n, -, h⟩ := bind_eq_ok h
    cases h
    cases hPhrase : phrases[n]? with
    | none => exact Or.inl rfl
    | some p => exact Or.inr ⟨p, List.mem_of_getElem? hPhrase, rfl⟩

/-- What stands for a phrase that is there is turned back into it, if at all. -/
theorem restore_placeholder_eq_ok {phrases : List (List Char)} {n : Nat} {word : List Char}
    (h : restore phrases (placeholder n) = .ok word) (hCount : n < phrases.length) :
    ∃ p ∈ phrases, word = lower p := by
  obtain ⟨p, hPhrase⟩ : ∃ p, phrases[n]? = some p := ⟨_, List.getElem?_eq_getElem hCount⟩
  by_cases hShort : n < 10 ^ digitLimit
  · rw [restore_placeholder hPhrase hShort] at h
    cases h
    exact ⟨p, List.mem_of_getElem? hPhrase, rfl⟩
  · have hLong : digitLimit < (digitsOf n).length := by
      rw [← length_digitsOf_le_digitLimit] at hShort
      omega
    rw [restore_placeholder_overlong hLong] at h
    cases h

theorem exists_of_mem_tokens {query word : List Char} {words : List (List Char)}
    (h : tokens query = .ok words) (hMem : word ∈ words) :
    ∃ w ∈ cut [] (withPlaceholders 0 (segments query)),
      restore (phrases (segments query)) w = .ok word := by
  have hMap := map_of_mapM_eq_ok h
  have hOk : Except.ok word ∈ words.map (Except.ok (ε := OverlongNumber)) :=
    List.mem_map_of_mem hMem
  rw [← hMap] at hOk
  exact List.mem_map.mp hOk

theorem lower_ne_operator {w : List Char} (h : ¬IsOperator w) :
    lower w ≠ "and".toList ∧ lower w ≠ "or".toList := by
  constructor
  · intro hAnd
    refine h ⟨.and, sameLetters_of_lower ?_⟩
    rw [hAnd]
    decide
  · intro hOr
    refine h ⟨.or, sameLetters_of_lower ?_⟩
    rw [hOr]
    decide

/-- The word of a whole run is what stands for a phrase, or a word outside the phrases. -/
theorem whole_run_cases {pieces run : List Segment} {k : Nat}
    (hRun : run ∈ pieces.splitOnP Segment.isBreak) (hWhole : isWhole (withoutEdges run) = true)
    (hNil : trim (withPlaceholders k run) ≠ []) :
    (0 < (phrases run).length ∧ trim (withPlaceholders k run) = placeholder k) ∨
      trim (withPlaceholders k run) ∈ words (outsidePhrases pieces) := by
  obtain ⟨front, back, hParts, hFront, hBack⟩ := exists_edges run
  rcases isWhole_cases hWhole with ⟨p, hPhrase⟩ | ⟨w, hWord, hInk⟩
  · left
    have hText : withPlaceholders k (withoutEdges run) = placeholder k := by
      rw [hPhrase, withPlaceholders, withPlaceholders, List.append_nil]
    refine ⟨?_, ?_⟩
    · rw [hParts, hPhrase]
      simp [phrases]
    · rw [trim_withPlaceholders, hText]
      intro c hc
      rw [hText] at hc
      exact (isPlain_of_mem_placeholder hc).not_blank
  · right
    have hText : withPlaceholders k (withoutEdges run) = w := by
      rw [hWord, withPlaceholders_plain]
    have hTrim : trim (withPlaceholders k run) = w := by
      rw [trim_withPlaceholders, hText]
      rw [hText]
      exact hInk
    rw [hTrim] at hNil ⊢
    rw [hWord] at hParts
    exact mem_words_of_run hRun hParts hNil hFront hInk hBack

/-- What a query looks for are its terms and its fused words. -/
theorem mem_terms_or_mem_fusedWords {query : String} (hBlank : isBlank query = false)
    {words : List (List Char)} (hTokens : tokens query.toList = .ok words) {word w : List Char}
    (hMem : word ∈ words) (hTerm : Symbol.ofToken word = .term w) :
    lower w ∈ terms query ∨ lower w ∈ fusedWords query := by
  obtain ⟨rfl, hOpen, hClose, hOperator⟩ := ofToken_eq_term hTerm
  obtain ⟨v, hCut, hRestore⟩ := exists_of_mem_tokens hTokens hMem
  have hPhrase : (∃ p ∈ phrases (segments query.toList), w = lower p) → lower w ∈ terms query := by
    rintro ⟨p, hp, rfl⟩
    rw [mem_terms_iff hBlank]
    exact Or.inl ⟨p, hp, (lower_lower p).symm⟩
  rcases restore_eq_ok hRestore with rfl | hRestored
  · rcases mem_cut hCut with rfl | rfl | ⟨k, run, hRun, hCount, hWord, hNil⟩
    · exact absurd rfl hOpen
    · exact absurd rfl hClose
    · cases hWhole : isWhole (withoutEdges run) with
      | false =>
          right
          rw [fusedWords, List.mem_map]
          exact ⟨(k, run), List.mem_filter.mpr ⟨hRun, by simp [hWhole]⟩, by rw [hWord]⟩
      | true =>
          left
          rw [hWord] at hNil
          rcases whole_run_cases (mem_of_mem_numberRuns hRun) hWhole hNil with
            ⟨hPos, hStub⟩ | hListed
          · have hThere : k < (phrases (segments query.toList)).length := by omega
            rw [hStub] at hWord
            subst hWord
            exact hPhrase (restore_placeholder_eq_ok hRestore hThere)
          · rw [mem_terms_iff hBlank]
            exact Or.inr ⟨⟨w, hWord ▸ hListed, rfl⟩, lower_ne_operator hOperator⟩
  · exact Or.inl (hPhrase hRestored)

/-- Whether two texts hold the same of some words, in small letters. -/
@[reducible]
def HoldAlike (words : List (List Char)) (text text' : List Char) : Prop :=
  ∀ word ∈ words, word <:+: lower text ↔ word <:+: lower text'

/-- Two texts that hold the same terms of a query, and the same of its fused words if it has any,
are the same to it. -/
theorem evaluate_eq_of_terms {query : String} {text text' : List Char}
    (hTerms : HoldAlike (terms query) text text')
    (hFused : HoldAlike (fusedWords query) text text') :
    evaluate query text = evaluate query text' := by
  unfold evaluate
  cases hBlank : isBlank query with
  | true => rfl
  | false =>
      cases hTokens : tokens query.toList with
      | error e => rfl
      | ok words =>
          have hHolds : ∀ w, .term w ∈ words.map Symbol.ofToken →
              holdsIn (lower text) w = holdsIn (lower text') w := by
            intro w hw
            obtain ⟨word, hMem, hTerm⟩ := List.mem_map.mp hw
            rw [holdsIn_eq, holdsIn_eq, decide_eq_decide]
            rcases mem_terms_or_mem_fusedWords hBlank hTokens hMem hTerm with hListed | hRun
            · exact hTerms _ hListed
            · exact hFused _ hRun
          have hSame := evaluateFrom_congr hHolds none none
          simp only [Bool.false_eq_true, if_false]
          exact congrArg Except.ok hSame

/-- A word, and a phrase that touches another word. -/
private def touching : String := "a OR b\"c\""

theorem segments_touching :
    segments touching.toList =
      [.plain 'a', .plain ' ', .plain 'O', .plain 'R', .plain ' ', .plain 'b', .phrase ['c']] := by
  cbv

theorem terms_touching : terms touching = [['c'], ['a'], ['b']] := by
  unfold terms
  rw [segments_touching]
  decide

theorem fusedWords_touching : fusedWords touching = ["b__phrase_0__".toList] := by
  unfold fusedWords
  rw [segments_touching]
  decide

theorem evaluate_eq_of_terms_touching :
    HoldAlike (terms touching) "A".toList "xa".toList ∧
      HoldAlike (fusedWords touching) "A".toList "xa".toList ∧
      evaluate touching "A".toList = evaluate touching "xa".toList := by
  have hTerms : HoldAlike (terms touching) "A".toList "xa".toList := by
    rw [terms_touching]
    decide
  have hFused : HoldAlike (fusedWords touching) "A".toList "xa".toList := by
    rw [fusedWords_touching]
    decide
  exact ⟨hTerms, hFused, evaluate_eq_of_terms hTerms hFused⟩

/-- A query of one word is satisfied by the texts that hold this word. -/
theorem evaluate_singleton {query : String} {w : List Char} (hBlank : isBlank query = false)
    (hTokens : tokens query.toList = .ok [w]) (hTerm : Symbol.ofToken w = .term w)
    (text : List Char) : evaluate query text = .ok (decide (lower w <:+: lower text)) := by
  have hValue : evaluateTokens [w] (lower text) = decide (lower w <:+: lower text) := by
    rw [evaluateTokens, List.map_singleton, hTerm, evaluateFrom, evaluateFrom, holdsIn_eq]
    rfl
  rw [evaluate, hBlank, hTokens, ← hValue]
  rfl

/-- The terms alone do not tell what a query says: a phrase that touches a word is looked for as
what stands for it, and a line break parts two terms but not two words. -/
theorem terms_miss_fused_words :
    HoldAlike (terms "foo\"bar\"") "foo__phrase_0__ bar".toList "foo bar".toList ∧
      evaluate "foo\"bar\"" "foo__phrase_0__ bar".toList = .ok true ∧
      evaluate "foo\"bar\"" "foo bar".toList = .ok false ∧
      HoldAlike (terms "a\nb") "a\nb".toList "a b".toList ∧
      evaluate "a\nb" "a\nb".toList = .ok true ∧ evaluate "a\nb" "a b".toList = .ok false := by
  have hPhrase : segments "foo\"bar\"".toList =
      [.plain 'f', .plain 'o', .plain 'o', .phrase "bar".toList] := by cbv
  have hBreak : segments "a\nb".toList = [.plain 'a', .plain '\n', .plain 'b'] := by cbv
  have hStub : tokens "foo\"bar\"".toList = .ok ["foo__PHRASE_0__".toList] := by
    unfold tokens
    rw [hPhrase]
    rfl
  have hWord : tokens "a\nb".toList = .ok ["a\nb".toList] := by
    unfold tokens
    rw [hBreak]
    rfl
  have hStubSought := evaluate_singleton (by decide) hStub (by decide)
  have hWordSought := evaluate_singleton (by decide) hWord (by decide)
  refine ⟨?_, ?_, ?_, ?_, ?_, ?_⟩
  · unfold terms
    rw [hPhrase]
    decide
  · rw [hStubSought]
    decide
  · rw [hStubSought]
    decide
  · unfold terms
    rw [hBreak]
    decide
  · rw [hWordSought]
    decide
  · rw [hWordSought]
    decide

end LogViewer.Query
