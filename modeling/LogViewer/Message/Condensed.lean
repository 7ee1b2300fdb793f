import LogViewer.Text.Blank
import LogViewer.Text.Substring

/-! Messages with short marks in place of the objects and arrays inside them. A pass replaces every
bracketed stretch that holds at most one further level of its own kind of bracket by a mark without
brackets; passes go on until nothing changes or no bracket is left. Neighbouring marks then become
one word. -/
namespace LogViewer.Message

open Text

/-- The two kinds of brackets. -/
inductive Bracket where
  | object
  | array
deriving DecidableEq, Repr

namespace Bracket

def opening : Bracket → Char
  | object => '\x7b'
  | array => '['

def closing : Bracket → Char
  | object => '\x7d'
  | array => ']'

/-- What stands for a bracketed stretch while there are passes. -/
def mark : Bracket → List Char
  | object => "\x00JSON\x00".toList
  | array => "\x00ARRAY\x00".toList

/-- What stands for a row of marks in the end. -/
def word : Bracket → List Char
  | object => "[JSON] ".toList
  | array => "[ARRAY] ".toList

end Bracket

/-- The text after the closing bracket, if no bracket of the kind comes before it. -/
def afterFlat? (b : Bracket) : List Char → Option (List Char)
  | [] => none
  | c :: s => if c = b.closing then some s else if c = b.opening then none else afterFlat? b s

theorem length_of_afterFlat?_eq_some {b : Bracket} {s rest : List Char}
    (h : afterFlat? b s = some rest) : rest.length < s.length := by
  induction s with
  | nil => simp [afterFlat?] at h
  | cons c s ih =>
    rw [afterFlat?] at h
    split at h
    · cases h
      simp
    · split at h
      · cases h
      · have := ih h
        simp only [List.length_cons]
        omega

theorem suffix_of_afterFlat?_eq_some {b : Bracket} {s rest : List Char}
    (h : afterFlat? b s = some rest) : rest <:+ s := by
  induction s with
  | nil => simp [afterFlat?] at h
  | cons c s ih =>
    rw [afterFlat?] at h
    split at h
    · cases h
      exact List.suffix_cons _ _
    · split at h
      · cases h
      · exact (ih h).trans (List.suffix_cons c s)

/-- The text after the closing bracket, if every bracket of the kind before it opens or closes a
flat stretch. -/
def afterNested? (b : Bracket) : List Char → Option (List Char)
  | [] => none
  | c :: s =>
    if c = b.closing then some s
    else if c = b.opening then
      match _ : afterFlat? b s with
      | some rest => afterNested? b rest
      | none => none
    else afterNested? b s
termination_by s => s.length
decreasing_by
  · have := length_of_afterFlat?_eq_some ‹_›
    simp only [List.length_cons]
    omega
  · simp

theorem length_of_afterNested?_eq_some {b : Bracket} {s rest : List Char}
    (h : afterNested? b s = some rest) : rest.length < s.length := by
  fun_induction afterNested? b s with
  | case1 => cases h
  | case2 =>
    cases h
    simp
  | case3 _ _ flat _ ih =>
    have := ih h
    have := length_of_afterFlat?_eq_some flat
    simp only [List.length_cons]
    omega
  | case4 => cases h
  | case5 _ _ _ _ ih =>
    have := ih h
    simp only [List.length_cons]
    omega

theorem suffix_of_afterNested?_eq_some {b : Bracket} {s rest : List Char}
    (h : afterNested? b s = some rest) : rest <:+ s := by
  fun_induction afterNested? b s with
  | case1 => cases h
  | case2 =>
    cases h
    exact List.suffix_cons _ _
  | case3 s _ flat _ ih =>
    exact ((ih h).trans (suffix_of_afterFlat?_eq_some flat)).trans (List.suffix_cons b.opening s)
  | case4 => cases h
  | case5 c s _ _ ih => exact (ih h).trans (List.suffix_cons c s)

/-- The text with a mark in place of every stretch in brackets of a kind. -/
def pass (b : Bracket) : List Char → List Char
  | [] => []
  | c :: s =>
    if c = b.opening then
      match _ : afterNested? b s with
      | some rest => b.mark ++ pass b rest
      | none => c :: pass b s
    else c :: pass b s
termination_by s => s.length
decreasing_by
  · have := length_of_afterNested?_eq_some ‹_›
    simp only [List.length_cons]
    omega
  · simp
  · simp

/-- The count of opening brackets in a text. -/
def openings (s : List Char) : Nat := s.countP fun c => c == '\x7b' || c == '['

theorem openings_mark_append (b : Bracket) (s : List Char) :
    openings (b.mark ++ s) = openings s := by
  have hMark : openings b.mark = 0 := by cases b <;> decide
  rw [openings, List.countP_append, ← openings, ← openings, hMark, Nat.zero_add]

theorem openings_opening_cons (b : Bracket) (s : List Char) :
    openings (b.opening :: s) = openings s + 1 := by
  refine List.countP_cons_of_pos ?_
  cases b <;> decide

/-- A pass leaves the text as it is or takes an opening bracket away. -/
theorem pass_eq_self_or_openings_lt (b : Bracket) (s : List Char) :
    pass b s = s ∨ openings (pass b s) < openings s := by
  fun_induction pass b s with
  | case1 => exact Or.inl rfl
  | case2 s rest nested ih =>
    have hRest : openings rest ≤ openings s :=
      (suffix_of_afterNested?_eq_some nested).sublist.countP_le
    have hPass : openings (pass b rest) ≤ openings rest := by
      rcases ih with hSame | hLess
      · exact Nat.le_of_eq (congrArg openings hSame)
      · exact Nat.le_of_lt hLess
    rw [openings_mark_append, openings_opening_cons]
    exact Or.inr (by omega)
  | case3 s _ ih =>
    rw [openings_opening_cons, openings_opening_cons]
    exact ih.imp (congrArg (b.opening :: ·)) Nat.succ_lt_succ
  | case4 c s _ ih =>
    refine ih.imp (congrArg (c :: ·)) fun hLess => ?_
    rw [openings, openings, List.countP_cons, List.countP_cons]
    exact Nat.add_lt_add_right hLess _

theorem openings_pass_le (b : Bracket) (s : List Char) : openings (pass b s) ≤ openings s := by
  rcases pass_eq_self_or_openings_lt b s with hSame | hLess
  · exact Nat.le_of_eq (congrArg openings hSame)
  · exact Nat.le_of_lt hLess

/-- A pass over the objects and one over the arrays. -/
def round (s : List Char) : List Char := pass .array (pass .object s)

/-- A round leaves the text as it is or takes an opening bracket away. -/
theorem round_eq_self_or_openings_lt (s : List Char) :
    round s = s ∨ openings (round s) < openings s := by
  rcases pass_eq_self_or_openings_lt .object s with hSame | hLess
  · rw [round, hSame]
    exact pass_eq_self_or_openings_lt .array s
  · exact Or.inr (Nat.lt_of_le_of_lt (openings_pass_le .array (pass .object s)) hLess)

/-- Rounds until one changes nothing or leaves no opening bracket. -/
def rounds (s : List Char) : List Char :=
  let after := round s
  if after = s ∨ openings after = 0 then after else rounds after
termination_by openings s
decreasing_by exact (round_eq_self_or_openings_lt s).resolve_left (not_or.mp ‹_›).1

/-- The text with one word for each row of marks of a kind and the blanks after them. The flag tells
whether a mark came right before, but for blanks. -/
def wordsForMarks (b : Bracket) (afterMark : Bool) : List Char → List Char
  | [] => []
  | c :: s =>
    if b.mark.isPrefixOf (c :: s) then
      (if afterMark then [] else b.word) ++
        wordsForMarks b true (s.drop (b.mark.length - 1))
    else if afterMark && isBlank c then wordsForMarks b true s
    else c :: wordsForMarks b false s
termination_by s => s.length
decreasing_by all_goals simp only [List.length_drop, List.length_cons]; omega

/-- The message with a word in place of its objects and arrays. -/
def condensed (message : List Char) : List Char :=
  wordsForMarks .array false (wordsForMarks .object false (rounds message))

end LogViewer.Message
