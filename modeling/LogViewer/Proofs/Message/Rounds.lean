import Mathlib.Data.List.Basic
import LogViewer.Message.Condensed

/-! The rounds that take the objects and arrays out of a message. Every round that changes the text
takes an opening bracket away, so the rounds end. They leave no opening bracket with a closing one
of its kind anywhere behind it, since the last opening one before a closing one opens a flat
stretch. -/
namespace LogViewer.Message

namespace Bracket

theorem mark_eq_cons (b : Bracket) : b.mark = '\x00' :: b.mark.tail := by cases b <;> rfl

theorem opening_ne_nul (b : Bracket) : b.opening ≠ '\x00' := by cases b <;> decide

end Bracket

variable {b : Bracket} {s t : List Char}

/-- Whether an opening bracket of a text has a closing one of its kind anywhere behind it. -/
def Closes (b : Bracket) (s : List Char) : Prop := [b.opening, b.closing].Sublist s

theorem closes_cons_iff {c : Char} :
    Closes b (c :: s) ↔ Closes b s ∨ (c = b.opening ∧ b.closing ∈ s) := by
  rw [Closes, List.sublist_cons_iff, ← Closes]
  simp [eq_comm]

/-- Without an opening bracket before the first closing one, the text up to it is one stretch. -/
theorem afterNested?_ne_none (hMem : b.closing ∈ s) (hNot : ¬Closes b s) :
    afterNested? b s ≠ none := by
  induction s with
  | nil => cases hMem
  | cons c s ih =>
      rw [afterNested?]
      by_cases hClosing : c = b.closing
      · simp [hClosing]
      · have hRest : b.closing ∈ s := (List.mem_cons.mp hMem).resolve_left (Ne.symm hClosing)
        obtain ⟨hLater, hOwn⟩ := not_or.mp (closes_cons_iff.not.mp hNot)
        rw [if_neg hClosing, if_neg fun hOpening => hOwn ⟨hOpening, hRest⟩]
        exact ih hRest hLater

/-- A pass changes every text with an opening bracket and a closing one behind it. -/
theorem pass_ne_self (h : Closes b s) : pass b s ≠ s := by
  fun_induction pass b s with
  | case1 => cases h
  | case2 =>
      intro hSame
      rw [b.mark_eq_cons] at hSame
      exact b.opening_ne_nul (List.cons.inj hSame).1.symm
  | case3 s none ih =>
      intro hSame
      by_cases hLater : Closes b s
      · exact ih hLater (List.cons.inj hSame).2
      · obtain ⟨-, hMem⟩ := (closes_cons_iff.mp h).resolve_left hLater
        exact afterNested?_ne_none hMem hLater none
  | case4 c s hNot ih =>
      intro hSame
      rcases closes_cons_iff.mp h with hLater | ⟨hOpening, -⟩
      · exact ih hLater (List.cons.inj hSame).2
      · exact hNot hOpening

/-- The brackets of a text that no round changes do not close. -/
theorem not_closes_of_round_eq_self (h : round s = s) (b : Bracket) :
    ¬Closes b s := by
  have hObject : pass .object s = s := by
    refine (pass_eq_self_or_openings_lt .object s).resolve_right fun hLess => ?_
    have hRound := openings_pass_le .array (pass .object s)
    rw [← round, h] at hRound
    omega
  have hArray : pass .array s = s := by
    rw [round, hObject] at h
    exact h
  cases b with
  | object => exact fun hCloses => pass_ne_self hCloses hObject
  | array => exact fun hCloses => pass_ne_self hCloses hArray

theorem not_closes_of_openings_eq_zero (h : openings s = 0) (b : Bracket) :
    ¬Closes b s := by
  intro hCloses
  have hMem : b.opening ∈ s := List.Sublist.subset hCloses List.mem_cons_self
  have hNone := List.countP_eq_zero.mp h b.opening hMem
  cases b <;> simp [Bracket.opening] at hNone

/-- What a number of rounds make of a text, of which the last one is the first that changes nothing
or leaves no opening bracket. -/
inductive Rounds : List Char → Nat → List Char → Prop where
  | last {s : List Char} (stops : round s = s ∨ openings (round s) = 0) : Rounds s 1 (round s)
  | next {s t : List Char} {count : Nat} (goesOn : ¬(round s = s ∨ openings (round s) = 0))
      (rest : Rounds (round s) count t) : Rounds s (count + 1) t

/-- The rounds end, after at most one more of them than there are opening brackets. -/
theorem exists_rounds (s : List Char) : ∃ count ≤ openings s + 1, Rounds s count (rounds s) := by
  fun_induction rounds s with
  | case1 s after stops => exact ⟨1, Nat.le_add_left 1 _, Rounds.last stops⟩
  | case2 s after goesOn ih =>
      obtain ⟨count, hCount, rest⟩ :
          ∃ count ≤ openings (round s) + 1, Rounds (round s) count (rounds (round s)) := ih
      have hLess : openings (round s) < openings s :=
        (round_eq_self_or_openings_lt s).resolve_left (not_or.mp goesOn).1
      exact ⟨count + 1, by omega, Rounds.next goesOn rest⟩

/-- When the rounds end, no opening bracket is left with a closing one of its kind behind it. -/
theorem Rounds.not_closes {count : Nat} (run : Rounds s count t) (b : Bracket) :
    ¬Closes b t := by
  induction run with
  | last stops =>
      rcases stops with hSame | hNone
      · rw [hSame]
        exact not_closes_of_round_eq_self hSame b
      · exact not_closes_of_openings_eq_zero hNone b
  | next _ _ ih => exact ih

end LogViewer.Message
