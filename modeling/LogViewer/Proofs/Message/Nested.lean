import Mathlib
import LogViewer.Proofs.Message.Words

/-! Objects and arrays with properly nested brackets inside, to any depth. A pass either puts a mark
in the place of such a part or leaves one of the kind, and no stretch that it replaces reaches over
a bracket that encloses it. So the rounds take the inner parts out first, and in the end a single
word stands for the whole. -/
namespace LogViewer.Message

open Text

/-- The brackets of both kinds. -/
def brackets : List Char := ['{', '}', '[', ']']

/-- Texts whose brackets are properly nested. They are made of characters that are no brackets and
of objects and arrays around such texts. -/
inductive IsNested : List Char → Prop where
  | nil : IsNested []
  | plain {c : Char} {s : List Char} (hc : c ∉ brackets) (rest : IsNested s) : IsNested (c :: s)
  | group (b : Bracket) {inner s : List Char} (inside : IsNested inner) (rest : IsNested s) :
      IsNested (b.opening :: (inner ++ b.closing :: s))

theorem ne_bracket {c : Char} (h : c ∉ brackets) (b : Bracket) :
    c ≠ b.closing ∧ c ≠ b.opening := by
  cases b <;> simp_all [brackets, Bracket.opening, Bracket.closing]

theorem bracket_ne_bracket {b other : Bracket} (h : other ≠ b) :
    (other.opening ≠ b.closing ∧ other.opening ≠ b.opening) ∧
      other.closing ≠ b.closing ∧ other.closing ≠ b.opening := by
  cases b with
  | object =>
      cases other with
      | object => exact absurd rfl h
      | array => decide
  | array =>
      cases other with
      | object => decide
      | array => exact absurd rfl h

theorem opening_ne_closing (b : Bracket) : b.opening ≠ b.closing := by cases b <;> decide

variable {b kind : Bracket} {inner p s t u : List Char}

/-- A scan that skips all characters but the brackets of a kind, and that fails at a part in these
brackets or goes on behind it, fails at a nested text or goes on behind it. -/
theorem fails_or_skips {f : List Char → Option (List Char)}
    (hOther : ∀ c t, c ≠ b.closing ∧ c ≠ b.opening → f (c :: t) = f t)
    (hOwn : ∀ inner, IsNested inner →
      (∀ t, f (b.opening :: (inner ++ b.closing :: t)) = none) ∨
        ∀ t, f (b.opening :: (inner ++ b.closing :: t)) = f t)
    (h : IsNested s) : (∀ t, f (s ++ t) = none) ∨ ∀ t, f (s ++ t) = f t := by
  induction h with
  | nil => exact Or.inr fun _ => rfl
  | @plain c s hc _ ih =>
      have hStep : ∀ t, f (c :: s ++ t) = f (s ++ t) := fun t => hOther c _ (ne_bracket hc b)
      exact ih.imp (fun hFails t => (hStep t).trans (hFails t))
        fun hSkips t => (hStep t).trans (hSkips t)
  | @group other inner s inside _ ihInner ih =>
      have hGroup : (∀ t, f (other.opening :: (inner ++ other.closing :: t)) = none) ∨
          ∀ t, f (other.opening :: (inner ++ other.closing :: t)) = f t := by
        by_cases hKind : other = b
        · subst hKind
          exact hOwn inner inside
        · obtain ⟨hOpening, hClosing⟩ := bracket_ne_bracket hKind
          refine ihInner.imp (fun hFails t => ?_) fun hSkips t => ?_
          · rw [hOther _ _ hOpening, hFails]
          · rw [hOther _ _ hOpening, hSkips, hOther _ _ hClosing]
      have hStep : ∀ t, other.opening :: (inner ++ other.closing :: s) ++ t =
          other.opening :: (inner ++ other.closing :: (s ++ t)) := by simp
      rcases hGroup with hFails | hSkips
      · exact Or.inl fun t => by rw [hStep, hFails]
      · refine ih.imp (fun hFails t => ?_) fun hSkips' t => ?_
        · rw [hStep, hSkips, hFails]
        · rw [hStep, hSkips, hSkips']

theorem afterFlat?_append (h : IsNested s) (b : Bracket) :
    (∀ t, afterFlat? b (s ++ t) = none) ∨ ∀ t, afterFlat? b (s ++ t) = afterFlat? b t := by
  refine fails_or_skips (b := b) ?_ ?_ h
  · intro c t hc
    rw [afterFlat?, if_neg hc.1, if_neg hc.2]
  · intro inner _
    refine Or.inl fun t => ?_
    rw [afterFlat?, if_neg (opening_ne_closing b), if_pos rfl]

theorem afterNested?_closing (b : Bracket) (t : List Char) :
    afterNested? b (b.closing :: t) = some t := by
  rw [afterNested?, if_pos rfl]

theorem afterNested?_append (h : IsNested s) (b : Bracket) :
    (∀ t, afterNested? b (s ++ t) = none) ∨ ∀ t, afterNested? b (s ++ t) = afterNested? b t := by
  refine fails_or_skips (b := b) ?_ ?_ h
  · intro c t hc
    rw [afterNested?, if_neg hc.1, if_neg hc.2]
  · intro inner inside
    have hStep : ∀ t, afterNested? b (b.opening :: (inner ++ b.closing :: t)) =
        (afterFlat? b (inner ++ b.closing :: t)).bind (afterNested? b) := by
      intro t
      rw [afterNested?, if_neg (opening_ne_closing b), if_pos rfl]
      split <;> simp [*]
    refine (afterFlat?_append inside b).imp (fun hFails t => ?_) fun hSkips t => ?_
    · rw [hStep, hFails]
      rfl
    · rw [hStep, hSkips, afterFlat?, if_pos rfl]
      rfl

/-- What becomes of an object or array: one around a nested text still, or the mark of its kind. -/
inductive IsPart (b : Bracket) : List Char → Prop where
  | mark : IsPart b b.mark
  | group {inner : List Char} (inside : IsNested inner) :
      IsPart b (b.opening :: (inner ++ [b.closing]))

theorem IsNested.plain_append (hp : ∀ c ∈ p, c ∉ brackets) (h : IsNested s) :
    IsNested (p ++ s) := by
  induction p with
  | nil => exact h
  | cons c p ih =>
      obtain ⟨hc, hp⟩ := List.forall_mem_cons.mp hp
      exact IsNested.plain hc (ih hp)

theorem mark_plain (b : Bracket) : ∀ c ∈ b.mark, c ∉ brackets := by
  have hAll : (b.mark.all fun c => decide (c ∉ brackets)) = true := by cases b <;> decide
  simpa using hAll

theorem IsPart.isNested_append (h : IsPart b u) (hs : IsNested s) : IsNested (u ++ s) := by
  cases h with
  | mark => exact IsNested.plain_append (mark_plain b) hs
  | group inside =>
      rw [List.cons_append, List.append_assoc]
      exact IsNested.group b inside hs

theorem pass_cons_of_ne {c : Char} (h : c ≠ b.opening) (t : List Char) :
    pass b (c :: t) = c :: pass b t := by
  rw [pass, if_neg h]

theorem pass_plain_append (hp : ∀ c ∈ p, c ∉ brackets) (t : List Char) :
    pass b (p ++ t) = p ++ pass b t := by
  induction p with
  | nil => rfl
  | cons c p ih =>
      obtain ⟨hc, hp⟩ := List.forall_mem_cons.mp hp
      rw [List.cons_append, pass_cons_of_ne (ne_bracket hc b).2, ih hp, List.cons_append]

theorem pass_group_of_some (h : afterNested? b inner = some t) :
    pass b (b.opening :: inner) = b.mark ++ pass b t := by
  rw [pass, if_pos rfl]
  split <;> simp_all

theorem pass_group_of_none (h : afterNested? b inner = none) :
    pass b (b.opening :: inner) = b.opening :: pass b inner := by
  rw [pass, if_pos rfl]
  split <;> simp_all

/-- A pass takes an object or array as a whole: it puts a mark in its place, or it goes over what is
inside. -/
theorem exists_pass_group (kind : Bracket) (inside : IsNested inner)
    (hInner : ∃ u, IsNested u ∧ ∀ t, pass b (inner ++ t) = u ++ pass b t) :
    ∃ u, IsPart kind u ∧
      ∀ t, pass b (kind.opening :: (inner ++ kind.closing :: t)) = u ++ pass b t := by
  obtain ⟨u, hu, hPass⟩ := hInner
  by_cases hMark : kind = b ∧ ∀ t, afterNested? b (inner ++ t) = afterNested? b t
  · obtain ⟨rfl, hSkips⟩ := hMark
    refine ⟨kind.mark, IsPart.mark, fun t => pass_group_of_some ?_⟩
    rw [hSkips, afterNested?_closing]
  · refine ⟨_, IsPart.group hu, fun t => ?_⟩
    have hClosing : kind.closing ≠ b.opening := by cases kind <;> cases b <;> decide
    have hOpening : pass b (kind.opening :: (inner ++ kind.closing :: t)) =
        kind.opening :: pass b (inner ++ kind.closing :: t) := by
      by_cases hKind : kind = b
      · subst hKind
        have hFails := (afterNested?_append inside kind).resolve_right fun h => hMark ⟨rfl, h⟩
        exact pass_group_of_none (hFails _)
      · exact pass_cons_of_ne (bracket_ne_bracket hKind).1.2 _
    rw [hOpening, hPass, pass_cons_of_ne hClosing]
    simp

/-- A pass over a nested text leaves a nested text, whatever comes behind it. -/
theorem exists_pass_append (b : Bracket) (h : IsNested s) :
    ∃ u, IsNested u ∧ ∀ t, pass b (s ++ t) = u ++ pass b t := by
  induction h with
  | nil => exact ⟨[], IsNested.nil, fun _ => rfl⟩
  | @plain c s hc _ ih =>
      obtain ⟨u, hu, hPass⟩ := ih
      refine ⟨c :: u, IsNested.plain hc hu, fun t => ?_⟩
      rw [List.cons_append, pass_cons_of_ne (ne_bracket hc b).2, hPass, List.cons_append]
  | @group kind inner s inside _ ihInner ih =>
      obtain ⟨v, hv, hGroup⟩ := exists_pass_group kind inside ihInner
      obtain ⟨u, hu, hPass⟩ := ih
      refine ⟨v ++ u, hv.isNested_append hu, fun t => ?_⟩
      rw [List.cons_append, List.append_assoc, List.cons_append, hGroup, hPass, List.append_assoc]

theorem IsPart.exists_pass (b : Bracket) (h : IsPart kind u) :
    ∃ v, IsPart kind v ∧ ∀ t, pass b (u ++ t) = v ++ pass b t := by
  cases h with
  | mark => exact ⟨kind.mark, IsPart.mark, pass_plain_append (mark_plain kind)⟩
  | @group inner inside =>
      obtain ⟨v, hv, hGroup⟩ := exists_pass_group kind inside (exists_pass_append b inside)
      refine ⟨v, hv, fun t => ?_⟩
      rw [List.cons_append, List.append_assoc, List.singleton_append, hGroup]

/-- A round over a text with a single part leaves what is around the part. -/
theorem IsPart.exists_round (hp : ∀ c ∈ p, c ∉ brackets) (hs : ∀ c ∈ s, c ∉ brackets)
    (h : IsPart kind u) : ∃ v, IsPart kind v ∧ round (p ++ (u ++ s)) = p ++ (v ++ s) := by
  have hRest : ∀ b, pass b s = s := by
    intro b
    have hAll := pass_plain_append (b := b) hs []
    rwa [List.append_nil, pass, List.append_nil] at hAll
  obtain ⟨v, hv, hObject⟩ := h.exists_pass .object
  obtain ⟨w, hw, hArray⟩ := hv.exists_pass .array
  refine ⟨w, hw, ?_⟩
  rw [round, pass_plain_append hp, hObject, hRest, pass_plain_append hp, hArray, hRest]

theorem Rounds.exists_isPart {message : List Char} {count : Nat} (run : Rounds message count t)
    (hp : ∀ c ∈ p, c ∉ brackets) (hs : ∀ c ∈ s, c ∉ brackets) (h : IsPart kind u)
    (hMessage : message = p ++ (u ++ s)) : ∃ v, IsPart kind v ∧ t = p ++ (v ++ s) := by
  induction run generalizing u with
  | last _ =>
      obtain ⟨v, hv, hRound⟩ := h.exists_round hp hs
      exact ⟨v, hv, by rw [hMessage, hRound]⟩
  | next _ _ ih =>
      obtain ⟨v, hv, hRound⟩ := h.exists_round hp hs
      exact ih hv (by rw [hMessage, hRound])

/-- The rounds leave a mark in the place of a single part: any other part would still close. -/
theorem rounds_part (hp : ∀ c ∈ p, c ∉ brackets) (hs : ∀ c ∈ s, c ∉ brackets)
    (h : IsPart kind u) : rounds (p ++ (u ++ s)) = p ++ (kind.mark ++ s) := by
  obtain ⟨count, -, run⟩ := exists_rounds (p ++ (u ++ s))
  obtain ⟨v, hv, hEnd⟩ := run.exists_isPart hp hs h rfl
  cases hv with
  | mark => exact hEnd
  | @group inner inside =>
      refine absurd ?_ (run.not_closes kind)
      rw [hEnd]
      have hGroup : Closes kind (kind.opening :: (inner ++ [kind.closing])) :=
        closes_cons_iff.mpr (Or.inr ⟨rfl, by simp⟩)
      exact hGroup.trans ((List.sublist_append_left _ s).trans (List.sublist_append_right p _))

theorem wordsForMarks_cons_of_not {c : Char} (h : ¬b.mark <+: c :: s) :
    wordsForMarks b false (c :: s) = c :: wordsForMarks b false s := by
  rw [wordsForMarks, if_neg (List.isPrefixOf_iff_prefix.not.mpr h), if_neg (by simp)]

theorem not_mark_isPrefix_cons {c : Char} (h : '\x00' ≠ c) : ¬b.mark <+: c :: s := by
  rw [b.mark_eq_cons, List.cons_prefix_cons]
  exact fun hFront => h hFront.1

theorem wordsForMarks_append (hp : '\x00' ∉ p) (t : List Char) :
    wordsForMarks b false (p ++ t) = p ++ wordsForMarks b false t := by
  induction p with
  | nil => rfl
  | cons c p ih =>
      obtain ⟨hc, hp⟩ := not_or.mp (List.mem_cons.not.mp hp)
      rw [List.cons_append, wordsForMarks_cons_of_not (not_mark_isPrefix_cons hc), ih hp,
        List.cons_append]

theorem wordsForMarks_eq_self (hs : '\x00' ∉ s) : wordsForMarks b false s = s := by
  have hAll := wordsForMarks_append (b := b) hs []
  rwa [List.append_nil, wordsForMarks, List.append_nil] at hAll

theorem wordsForMarks_true (hs : '\x00' ∉ s) : wordsForMarks b true s = trimStart s := by
  induction s with
  | nil =>
      rw [wordsForMarks]
      rfl
  | cons c s ih =>
      obtain ⟨hc, hs⟩ := not_or.mp (List.mem_cons.not.mp hs)
      have hMark := List.isPrefixOf_iff_prefix.not.mpr (not_mark_isPrefix_cons (b := b) (s := s) hc)
      rw [wordsForMarks, if_neg hMark, trimStart]
      by_cases hBlank : isBlank c = true
      · rw [if_pos (by rw [hBlank]; rfl), ih hs, List.dropWhile_cons_of_pos hBlank]
        rfl
      · rw [if_neg (by simpa using hBlank), wordsForMarks_eq_self hs,
          List.dropWhile_cons_of_neg hBlank]

theorem wordsForMarks_mark_append (b : Bracket) (s : List Char) :
    wordsForMarks b false (b.mark ++ s) = b.word ++ wordsForMarks b true s := by
  have hFront : b.mark.isPrefixOf ('\x00' :: (b.mark.tail ++ s)) = true := by
    rw [← List.cons_append, ← b.mark_eq_cons, List.isPrefixOf_iff_prefix]
    exact List.prefix_append _ _
  have hDrop : (b.mark.tail ++ s).drop (b.mark.length - 1) = s :=
    List.drop_left' List.length_tail
  conv_lhs => rw [b.mark_eq_cons, List.cons_append, wordsForMarks, if_pos hFront, hDrop]
  rfl

/-- A mark for an array stays where words are put for objects. -/
theorem wordsForMarks_array_mark (hs : '\x00' ∉ s) :
    wordsForMarks .object false (Bracket.array.mark ++ s) = Bracket.array.mark ++ s := by
  have hSplit : Bracket.array.mark ++ s = '\x00' :: ("ARRAY".toList ++ '\x00' :: s) := rfl
  have hFirst : ¬Bracket.object.mark <+: '\x00' :: ("ARRAY".toList ++ '\x00' :: s) := by
    intro hFront
    have hLetters : "JSON\x00".toList <+: "ARRAY".toList ++ '\x00' :: s :=
      (List.cons_prefix_cons.mp hFront).2
    exact absurd (List.cons_prefix_cons.mp hLetters).1 (by decide)
  have hLast : ¬Bracket.object.mark <+: '\x00' :: s := by
    intro hFront
    have hRest : "JSON\x00".toList <+: s := (List.cons_prefix_cons.mp hFront).2
    exact hs (hRest.subset (by decide))
  rw [hSplit, wordsForMarks_cons_of_not hFirst, wordsForMarks_append (by decide),
    wordsForMarks_cons_of_not hLast, wordsForMarks_eq_self hs]

/-- A single mark becomes the word of its kind, which takes the blanks behind it up. -/
theorem words_of_mark (hp : '\x00' ∉ p) (hs : '\x00' ∉ s) (b : Bracket) :
    wordsForMarks .array false (wordsForMarks .object false (p ++ (b.mark ++ s))) =
      p ++ (b.word ++ trimStart s) := by
  have hTrimmed : '\x00' ∉ trimStart s := fun hMem => hs ((List.dropWhile_sublist _).subset hMem)
  cases b with
  | object =>
      have hWord : '\x00' ∉ Bracket.object.word ++ trimStart s :=
        List.mem_append.not.mpr (not_or.mpr ⟨by decide, hTrimmed⟩)
      rw [wordsForMarks_append hp, wordsForMarks_mark_append, wordsForMarks_true hs,
        wordsForMarks_append hp, wordsForMarks_eq_self hWord]
  | array =>
      rw [wordsForMarks_append hp, wordsForMarks_array_mark hs, wordsForMarks_append hp,
        wordsForMarks_mark_append, wordsForMarks_true hs]

/-- An object or an array in a text without other brackets becomes one word, whatever is nested in
it and however deep, and the blanks behind it go. -/
theorem condensed_nested (b : Bracket) {inner front back : List Char} (inside : IsNested inner)
    (hFront : ∀ c ∈ front, c ∉ brackets ∧ c ≠ '\x00')
    (hBack : ∀ c ∈ back, c ∉ brackets ∧ c ≠ '\x00') :
    condensed (front ++ (b.opening :: (inner ++ [b.closing]) ++ back)) =
      front ++ (b.word ++ trimStart back) := by
  have hRounds := rounds_part (fun c hc => (hFront c hc).1) (fun c hc => (hBack c hc).1)
    (IsPart.group (b := b) inside)
  rw [condensed, hRounds]
  exact words_of_mark (fun hMem => (hFront _ hMem).2 rfl) (fun hMem => (hBack _ hMem).2 rfl) b

/-- An array around an object around an array, with a word before and behind it. -/
theorem condensed_nested_mixed :
    IsNested "1, \x7bk: [2]\x7d".toList ∧
      condensed ("got ".toList ++ ('[' :: ("1, \x7bk: [2]\x7d".toList ++ [']']) ++
        "  end".toList)) = "got [ARRAY] end".toList := by
  have hFlat : IsNested "2".toList := IsNested.plain (by decide) IsNested.nil
  have hObject : IsNested "k: [2]".toList :=
    IsNested.plain_append (p := "k: ".toList) (by simp [brackets])
      (IsNested.group .array hFlat IsNested.nil)
  have hDeep : IsNested "1, \x7bk: [2]\x7d".toList :=
    IsNested.plain_append (p := "1, ".toList) (by simp [brackets])
      (IsNested.group .object hObject IsNested.nil)
  exact ⟨hDeep, condensed_nested .array hDeep (by simp [brackets]) (by simp [brackets])⟩

end LogViewer.Message
