import Mathlib
import LogViewer.Text.Encoding

/-! Line breaks that are unified. Nothing but the breaks changes, so a text and the text with
unified breaks have one first line. -/
namespace LogViewer.Text

/-- Whether a character breaks a line. -/
def IsBreak (c : Char) : Prop := c = '\n' ∨ c = '\r'

/-- Whether two texts have one first line, with a break behind it in both or in neither. -/
inductive SameLine : List Char → List Char → Prop where
  | nil : SameLine [] []
  | cons {c : Char} {s t : List Char} (hNot : ¬IsBreak c) (h : SameLine s t) :
      SameLine (c :: s) (c :: t)
  | atBreak {c d : Char} (hc : IsBreak c) (hd : IsBreak d) (s t : List Char) :
      SameLine (c :: s) (d :: t)

namespace SameLine

variable {s t : List Char}

theorem head?_eq_or (h : SameLine s t) :
    t.head? = s.head? ∨ ∃ d, t.head? = some d ∧ IsBreak d := by
  cases h with
  | nil => exact Or.inl rfl
  | cons => exact Or.inl rfl
  | atBreak hc hd => exact Or.inr ⟨_, rfl, hd⟩

/-- What stands in the first line is the same in both texts. -/
theorem takeWhile_eq (h : SameLine s t) {p : Char → Bool} (hp : ∀ c, IsBreak c → p c = false) :
    s.takeWhile p = t.takeWhile p := by
  induction h with
  | nil => rfl
  | cons hNot h ih => rw [List.takeWhile_cons, List.takeWhile_cons, ih]
  | atBreak hc hd => rw [List.takeWhile_cons, List.takeWhile_cons, hp _ hc, hp _ hd]; rfl

theorem isPrefixOf_eq (h : SameLine s t) {word : List Char} (hWord : ∀ c ∈ word, ¬IsBreak c) :
    word.isPrefixOf s = word.isPrefixOf t := by
  induction h generalizing word with
  | nil => rfl
  | cons hNot h ih =>
      cases word with
      | nil => rfl
      | cons w word =>
          rw [List.isPrefixOf_cons_cons, List.isPrefixOf_cons_cons,
            ih fun c hc => hWord c (List.mem_cons_of_mem _ hc)]
  | @atBreak c d hc hd s t =>
      cases word with
      | nil => rfl
      | cons w word =>
          have hw := hWord w List.mem_cons_self
          have hOther {b : Char} (hb : IsBreak b) : (w == b) = false :=
            beq_false_of_ne fun hSame => hw (hSame ▸ hb)
          rw [List.isPrefixOf_cons_cons, List.isPrefixOf_cons_cons, hOther hc, hOther hd]
          rfl

/-- Behind a part of the first line the texts have the rest of it in common. -/
theorem of_append {front back : List Char} (h : SameLine (front ++ back) t)
    (hFront : ∀ c ∈ front, ¬IsBreak c) : ∃ back', t = front ++ back' ∧ SameLine back back' := by
  induction front generalizing t with
  | nil => exact ⟨t, rfl, h⟩
  | cons c front ih =>
      obtain ⟨hc, hFront⟩ := List.forall_mem_cons.mp hFront
      cases h with
      | cons _ h =>
          obtain ⟨back', rfl, hBack⟩ := ih h hFront
          exact ⟨back', rfl, hBack⟩
      | atBreak hBreak => exact absurd hBreak hc

end SameLine

theorem unifyBreaks_cons_of_ne {c : Char} (h : c ≠ '\r') (s : List Char) :
    unifyBreaks (c :: s) = c :: unifyBreaks s := by
  rw [unifyBreaks]
  · exact fun _ hEq => absurd hEq h
  · exact h

theorem unifyBreaks_append {front : List Char} (h : '\r' ∉ front) (back : List Char) :
    unifyBreaks (front ++ back) = front ++ unifyBreaks back := by
  induction front with
  | nil => rfl
  | cons c front ih =>
      rw [List.mem_cons, not_or] at h
      rw [List.cons_append, unifyBreaks_cons_of_ne (Ne.symm h.1), ih h.2, List.cons_append]

theorem mem_unifyBreaks {c : Char} {s : List Char} (h : c ∈ s) (hc : c ≠ '\r') :
    c ∈ unifyBreaks s := by
  fun_induction unifyBreaks s with
  | case1 => exact h
  | case2 s ih =>
      rcases List.mem_cons.mp h with rfl | h
      · exact absurd rfl hc
      · exact (List.mem_cons.mp h).elim (fun h => h ▸ List.mem_cons_self)
          fun h => List.mem_cons_of_mem _ (ih h)
  | case3 s _ ih =>
      rcases List.mem_cons.mp h with rfl | h
      · exact absurd rfl hc
      · exact List.mem_cons_of_mem _ (ih h)
  | case4 d s _ _ ih =>
      rcases List.mem_cons.mp h with rfl | h
      · exact List.mem_cons_self
      · exact List.mem_cons_of_mem _ (ih h)

theorem sameLine_unifyBreaks (s : List Char) : SameLine s (unifyBreaks s) := by
  fun_induction unifyBreaks s with
  | case1 => exact .nil
  | case2 s => exact .atBreak (Or.inr rfl) (Or.inl rfl) _ _
  | case3 s => exact .atBreak (Or.inr rfl) (Or.inl rfl) _ _
  | case4 c s _ hc ih =>
      by_cases hBreak : IsBreak c
      · exact .atBreak hBreak hBreak _ _
      · exact .cons hBreak ih

end LogViewer.Text
