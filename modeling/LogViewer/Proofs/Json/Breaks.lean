import Mathlib
import LogViewer.Json.Reader
import LogViewer.Proofs.Json.Locality
import LogViewer.Proofs.Success

/-! Reading documents whose line breaks are unified. Breaks stand only between the words of a text
that can be read, so it has the same words and is read as the same document whichever breaks it has.
No other control character than a space stands anywhere in it. -/
namespace LogViewer.Json

section

variable {expected : Expected} {stack : List Open} {word word' : Placed}
  {result : Expected × List Open} {size size' : Nat} {words words' : List Placed} {v : Json}

theorem isReadable_of_takeWord (h : takeWord expected stack word = .ok result) :
    word.token.IsReadable := by
  obtain ⟨token, offset⟩ := word
  cases token with
  | brokenText fault at_ => cases expected <;> cases h
  | stray => cases expected <;> cases h
  | _ => trivial

theorem takeValue_of_token_eq (h : takeValue stack word = .ok result)
    (hToken : word'.token = word.token) : takeValue stack word' = .ok result := by
  unfold takeValue at h ⊢
  rw [hToken]
  split at h <;> first | exact h | cases h

theorem takeName_of_token_eq (h : takeName stack word = .ok result)
    (hToken : word'.token = word.token) : takeName stack word' = .ok result := by
  unfold takeName at h ⊢
  rw [hToken]
  split at h <;> first | exact h | cases h

/-- A word that is taken is taken wherever it stands. -/
theorem takeWord_of_token_eq (h : takeWord expected stack word = .ok result)
    (hToken : word'.token = word.token) : takeWord expected stack word' = .ok result := by
  unfold takeWord at h ⊢
  rw [hToken]
  split at h
  · exact takeValue_of_token_eq h hToken
  · split at h
    · exact h
    · exact takeValue_of_token_eq h hToken
  · exact takeName_of_token_eq h hToken
  · split at h
    · exact h
    · exact takeName_of_token_eq h hToken
  · split at h <;> first | exact h | cases h
  · split at h <;> first | exact h | cases h
  · cases h

theorem isReadable_of_takeAll (h : takeAll size expected stack words = .ok v) :
    ∀ word ∈ words, word.token.IsReadable := by
  induction words generalizing expected stack with
  | nil => simp
  | cons word words ih =>
      obtain ⟨next, hNext, h⟩ := bind_eq_ok h
      exact List.forall_mem_cons.mpr ⟨isReadable_of_takeWord hNext, ih h⟩

/-- What words are taken as does not depend on where they stand. -/
theorem takeAll_of_tokens_eq (h : takeAll size expected stack words = .ok v)
    (hTokens : words'.map (·.token) = words.map (·.token)) :
    takeAll size' expected stack words' = .ok v := by
  induction words generalizing expected stack words' with
  | nil =>
      obtain rfl := List.map_eq_nil_iff.mp hTokens
      rw [takeAll] at h ⊢
      rw [mapError_eq_ok h]
      rfl
  | cons word words ih =>
      obtain ⟨word', words', rfl, hToken, hTokens⟩ := List.map_eq_cons_iff.mp hTokens
      obtain ⟨next, hNext, h⟩ := bind_eq_ok h
      rw [takeAll, takeWord_of_token_eq hNext hToken]
      exact ih h hTokens

end

theorem unifyBreaks_return (s : List Char) :
    Text.unifyBreaks ('\r' :: s) = Text.unifyBreaks s ∨
      Text.unifyBreaks ('\r' :: s) = '\n' :: Text.unifyBreaks s := by
  by_cases hPair : ∃ t, s = '\n' :: t
  · obtain ⟨t, rfl⟩ := hPair
    exact Or.inl (Text.unifyBreaks_cons_of_ne (by decide) t).symm
  · refine Or.inr ?_
    rw [Text.unifyBreaks]
    exact fun t ht => hPair ⟨t, ht⟩

variable [Text.StandIns] {s : List Char}

/-- Where all words can be read, unified breaks leave the words as they are. -/
theorem tokens_unifyBreaks {offset : Nat} (h : ∀ word ∈ tokens offset s, word.token.IsReadable)
    (offset' : Nat) : (tokens offset' (Text.unifyBreaks s)).map (·.token) =
      (tokens offset s).map (·.token) := by
  fun_induction tokens offset s generalizing offset' with
  | case1 => rw [Text.unifyBreaks, tokens]
  | case2 offset c s hSpace ih =>
      by_cases hReturn : c = '\r'
      · subst hReturn
        rcases unifyBreaks_return s with hEq | hEq
        · rw [hEq]
          exact ih h offset'
        · rw [hEq, tokens, if_pos (by decide)]
          exact ih h (offset' + 1)
      · rw [Text.unifyBreaks_cons_of_ne hReturn, tokens, if_pos hSpace]
        exact ih h (offset' + 1)
  | case3 offset c s hSpace token extra hScan ih =>
      obtain ⟨hWord, hWords⟩ := List.forall_mem_cons.mp h
      have hReadable : (scanToken offset c s).1.IsReadable := by rwa [hScan]
      obtain ⟨hShown, hLocal⟩ := scanToken_local hReadable
      have hReturn : c ≠ '\r' := fun hc => hShown.head.not_isBreak (Or.inr hc)
      have hDrop := hShown.drop_unifyBreaks
      rw [Text.unifyBreaks_cons_of_ne hReturn] at hDrop
      rw [Text.unifyBreaks_cons_of_ne hReturn, tokens, if_neg hSpace,
        hLocal offset' _ (Text.sameLine_unifyBreaks s), hScan]
      simp only [List.map_cons]
      rw [hScan] at hDrop
      congr 1
      have hRest : (Text.unifyBreaks s).drop extra = Text.unifyBreaks (s.drop extra) := hDrop
      rw [hRest]
      exact ih hWords _

/-- A text of words that can be read has no control characters but spaces. -/
theorem isSpace_or_isShown_of_mem {offset : Nat}
    (h : ∀ word ∈ tokens offset s, word.token.IsReadable) :
    ∀ c ∈ s, isSpace c = true ∨ IsShown c := by
  fun_induction tokens offset s with
  | case1 => simp
  | case2 offset c s hSpace ih => exact List.forall_mem_cons.mpr ⟨Or.inl hSpace, ih h⟩
  | case3 offset c s hSpace token extra hScan ih =>
      obtain ⟨hWord, hWords⟩ := List.forall_mem_cons.mp h
      have hReadable : (scanToken offset c s).1.IsReadable := by rwa [hScan]
      obtain ⟨front, back, hEq, hLength, hFront⟩ := (scanToken_local hReadable).1
      have hBack : s.drop extra = back := by
        have hDrop := congrArg (List.drop (extra + 1)) hEq
        rw [hScan] at hLength
        rw [List.drop_left' hLength] at hDrop
        exact hDrop
      rw [hEq]
      exact List.forall_mem_append.mpr ⟨fun d hd => Or.inr (hFront d hd), hBack ▸ ih hWords⟩

/-- A document that is read is read as well when the breaks of its text are unified. -/
theorem readMarked_unifyBreaks {v : Json} (h : readMarked s = .ok v) :
    readMarked (Text.unifyBreaks s) = .ok v := by
  have hTake := mapError_eq_ok h
  have hTokens := tokens_unifyBreaks (isReadable_of_takeAll hTake) 0
  unfold readMarked
  rw [takeAll_of_tokens_eq hTake hTokens]
  rfl

theorem isSpace_or_isShown_of_readMarked {v : Json} (h : readMarked s = .ok v) :
    ∀ c ∈ s, isSpace c = true ∨ IsShown c :=
  isSpace_or_isShown_of_mem (isReadable_of_takeAll (mapError_eq_ok h))

/-- What is no text is the front of no document. -/
theorem readMarked_replacement_ne_ok (s : List Char) (v : Json) :
    readMarked (Text.replacement :: s) ≠ .ok v := by
  intro h
  have hReadable := isReadable_of_takeAll (mapError_eq_ok h)
  have hStray : scanToken 0 Text.replacement s = (.stray, 0) := by
    have hNumeral : scanNumeral? (Text.replacement :: s) = none := by
      rw [scanNumeral?_of_ne_minus (by simp [Text.replacement])]
      rfl
    rw [scanToken_of_notMem_marks (by decide), hNumeral]
    rfl
  rw [tokens, if_neg (by decide), hStray] at hReadable
  exact hReadable _ List.mem_cons_self

end LogViewer.Json
