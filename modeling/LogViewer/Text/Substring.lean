/-! Search for one text inside another. Offsets count characters from the front. -/
namespace LogViewer.Text

variable {α : Type} [BEq α]

/-- Whether `part` occurs in a text as a run of neighbouring characters. -/
def occursIn (part : List α) : List α → Bool
  | [] => part.isEmpty
  | c :: s => part.isPrefixOf (c :: s) || occursIn part s

/-- The offsets, counted from `offset` on, at which `part` occurs; occurrences may overlap. -/
def occurrences (part : List α) (offset : Nat) : List α → List Nat
  | [] => if part.isEmpty then [offset] else []
  | c :: s =>
    let rest := occurrences part (offset + 1) s
    if part.isPrefixOf (c :: s) then offset :: rest else rest

/-- The last offset at which `part` occurs. -/
def lastOccurrence? (part s : List α) : Option Nat := (occurrences part 0 s).getLast?

/-- Cuts a text at every occurrence of a separator, from the left and without overlap. The
separator is `first` followed by `others`, so it is never empty. -/
def splitAtEach (first : α) (others : List α) (s : List α) : List (List α) :=
  go [] s
where
  /-- Cuts the rest of a text whose present piece, backwards, is `piece`. -/
  go (piece : List α) : List α → List (List α)
    | [] => [piece.reverse]
    | c :: s =>
      if (first :: others).isPrefixOf (c :: s) then
        piece.reverse :: go [] (s.drop others.length)
      else go (c :: piece) s
  termination_by s => s.length
  decreasing_by all_goals simp only [List.length_drop, List.length_cons]; omega

/-- The pieces of a text with a separator between each two. -/
def join (separator : List α) : List (List α) → List α
  | [] => []
  | [piece] => piece
  | piece :: pieces => piece ++ separator ++ join separator pieces

theorem occursIn_iff [LawfulBEq α] {part s : List α} : occursIn part s = true ↔ part <:+: s := by
  induction s with
  | nil => simp [occursIn]
  | cons c s ih =>
    rw [occursIn, Bool.or_eq_true, List.isPrefixOf_iff_prefix, ih, List.infix_cons_iff]

end LogViewer.Text
