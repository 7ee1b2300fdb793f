import Mathlib
import LogViewer.Proofs.Json.Numerals

/-! Words and what stands behind them. A word that can be read has no control characters in it, so
it ends within its line, and what it is depends on this line only. -/
namespace LogViewer.Json

open Text (SameLine)

/-- Whether a word can be read. -/
def Token.IsReadable : Token → Prop
  | brokenText .. | stray => False
  | _ => True

theorem isShown_of_mem_namedValues {word : List Char} {v : Json} (h : (word, v) ∈ namedValues) :
    word ≠ [] ∧ ∀ c ∈ word, IsShown c := by
  have hAll : ∀ p ∈ namedValues, p.1 ≠ [] ∧ ∀ c ∈ p.1, IsShown c := by
    simp [namedValues, IsShown]
  exact hAll _ h

theorem namedValue?_of_sameLine {s t : List Char} (h : SameLine s t) :
    (namedValues.find? fun (word, _) => word.isPrefixOf s) =
      namedValues.find? fun (word, _) => word.isPrefixOf t := by
  refine List.find?_congr fun p hp => ?_
  exact h.isPrefixOf_eq fun c hc => ((isShown_of_mem_namedValues hp).2 c hc).not_isBreak

variable [Text.StandIns]

theorem scanText_of_isReadable {start taken : Nat} {before s : List Char}
    (h : (scanText start taken before s).1.IsReadable) :
    ∃ x n, scanText start taken before s = (.text x, n) := by
  fun_induction scanText start taken before s with
  | case1 => exact absurd h id
  | case2 => exact ⟨_, _, rfl⟩
  | case3 _ _ _ _ _ _ _ ih => exact ih h
  | case4 => exact absurd h id
  | case5 => exact absurd h id

/-- The characters that are a word or begin a text literal. -/
def marks : List Char := ['{', '}', '[', ']', ':', ',', '"']

/-- Any other character begins a named value or a number, if it begins a word. -/
theorem scanToken_of_notMem_marks {c : Char} (h : c ∉ marks) (offset : Nat) (s : List Char) :
    scanToken offset c s =
      match namedValues.find? fun (word, _) => word.isPrefixOf (c :: s) with
      | some (word, value) => (.scalar value, word.length - 1)
      | none => match scanNumeral? (c :: s) with
        | some n => (n.token, n.size - 1)
        | none => (.stray, 0) := by
  unfold scanToken
  split
  case h_8 => rfl
  all_goals exact absurd (by decide) h

/-- A word that can be read has no control character in it, and it is the same word before other
lines. -/
theorem scanToken_local {offset : Nat} {c : Char} {s : List Char}
    (h : (scanToken offset c s).1.IsReadable) :
    HasShown ((scanToken offset c s).2 + 1) (c :: s) ∧
      ∀ offset' t, SameLine s t → scanToken offset' c t = scanToken offset c s := by
  by_cases hMark : c ∈ marks
  · have hc : IsShown c := by
      have hAll : ∀ d ∈ marks, IsShown d := by simp [marks, IsShown]
      exact hAll c hMark
    by_cases hQuote : c = '"'
    · subst hQuote
      obtain ⟨x, n, hText⟩ := scanText_of_isReadable h
      obtain ⟨front, back, rfl, hLength, hShown, hLocal⟩ := scanText_eq_text hText
      have hScan : scanToken offset '"' (front ++ back) = (.text x, n) := hText
      rw [hScan, hLength, Nat.zero_add]
      refine ⟨.cons hc (.of_isPrefix (List.prefix_append front back) hShown),
        fun offset' t hLine => ?_⟩
      obtain ⟨back', rfl, -⟩ := hLine.of_append fun d hd => (hShown d hd).not_isBreak
      rw [← Nat.zero_add front.length, ← hLength]
      exact hLocal offset' back'
    · have hAlone (offset' : Nat) (t : List Char) :
          scanToken offset' c t = scanToken offset c s ∧ (scanToken offset c s).2 = 0 := by
        simp only [marks, List.mem_cons, List.not_mem_nil, or_false] at hMark
        rcases hMark with rfl | rfl | rfl | rfl | rfl | rfl | rfl
        all_goals first | exact ⟨rfl, rfl⟩ | exact absurd rfl hQuote
      rw [(hAlone offset s).2]
      exact ⟨.cons hc (.zero s), fun offset' t _ => (hAlone offset' t).1⟩
  · rw [scanToken_of_notMem_marks hMark] at h ⊢
    have hOther {offset' : Nat} {t : List Char} (hc : IsShown c) (hLine : SameLine s t) :
        scanToken offset' c t = scanToken offset c s := by
      have hWhole : SameLine (c :: s) (c :: t) := .cons hc.not_isBreak hLine
      rw [scanToken_of_notMem_marks hMark, scanToken_of_notMem_marks hMark,
        namedValue?_of_sameLine hWhole, scanNumeral?_of_sameLine hWhole]
    rw [scanToken_of_notMem_marks hMark] at hOther
    split at h
    · rename_i word value hFind
      rw [hFind] at hOther
      obtain ⟨hSome, hWord⟩ := isShown_of_mem_namedValues (List.mem_of_find?_eq_some hFind)
      have hFound := List.find?_some hFind
      have hIsPrefix : word <+: c :: s := List.isPrefixOf_iff_prefix.mp hFound
      have hShown : HasShown (word.length - 1 + 1) (c :: s) := by
        rw [Nat.sub_add_cancel (List.length_pos_iff.mpr hSome)]
        exact .of_isPrefix hIsPrefix hWord
      exact ⟨hShown, fun offset' t hLine => hOther hShown.head hLine⟩
    · rename_i hFind
      split at h
      · rename_i n hNumeral
        rw [hFind, hNumeral] at hOther
        obtain ⟨hPos, hShown⟩ := hasShown_of_scanNumeral? hNumeral
        rw [← Nat.sub_add_cancel hPos] at hShown
        exact ⟨hShown, fun offset' t hLine => hOther hShown.head hLine⟩
      · exact absurd h id

end LogViewer.Json
