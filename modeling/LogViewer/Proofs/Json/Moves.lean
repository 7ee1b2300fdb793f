import Mathlib
import LogViewer.Json.Reader
import LogViewer.Proofs.Success

/-! What a word does to a reading. Whatever is expected, it opens a container, adds a value to the one
that is open or closes it, or else no value comes or goes. What a whole reading keeps follows from
what each of these moves keeps. -/
namespace LogViewer.Json

/-- The moves of a reading: the containers that are open, what is expected after a word, and the
containers that are open then. -/
inductive Move (token : Token) : List Open → Expected → List Open → Prop where
  | opens {stack : List Open} {o : Open} {expected : Expected}
      (hEmpty : o = .array [] ∨ o = .object []) (hMore : ∀ v, expected ≠ .nothing v) :
      Move token stack expected (o :: stack)
  /-- The word is the name of an entry, or parts one from the next. -/
  | parts {stack : List Open} {expected : Expected} (hMore : ∀ v, expected ≠ .nothing v) :
      Move token stack expected stack
  /-- The word stands between the name of an entry and its value. -/
  | begins {entries : List (String × Json)} {key : String} {rest : List Open} :
      Move token (.object entries :: rest) .value (.entry entries key :: rest)
  | adds {stack : List Open} {v : Json} (hValue : (∃ s, v = string s) ∨ token = .scalar v) :
      Move token stack (complete v stack).1 (complete v stack).2
  | closesArray {items : List Json} {rest : List Open} :
      Move token (.array items :: rest) (complete (array items.reverse) rest).1
        (complete (array items.reverse) rest).2
  | closesObject {entries : List (String × Json)} {rest : List Open} :
      Move token (.object entries :: rest) (complete (object entries) rest).1
        (complete (object entries) rest).2

section

variable {stack stack' : List Open} {word : Placed} {expected expected' : Expected}

theorem move_of_takeValue (h : takeValue stack word = .ok (expected', stack')) :
    Move word.token stack expected' stack' := by
  unfold takeValue at h
  split at h
  · cases h
    exact .opens (Or.inr rfl) (by simp)
  · cases h
    exact .opens (Or.inl rfl) (by simp)
  · rename_i s _
    obtain ⟨rfl, rfl⟩ := Prod.ext_iff.mp (Except.ok.inj h)
    exact .adds (Or.inl ⟨s, rfl⟩)
  · rename_i hScalar
    obtain ⟨rfl, rfl⟩ := Prod.ext_iff.mp (Except.ok.inj h)
    exact .adds (Or.inr hScalar)
  all_goals cases h

theorem move_of_takeName (h : takeName stack word = .ok (expected', stack')) :
    Move word.token stack expected' stack' := by
  unfold takeName at h
  split at h
  · cases h
    exact .parts (by simp)
  all_goals cases h

/-- Taking a word is one of the moves, and nothing is taken behind a document. -/
theorem move_of_takeWord (h : takeWord expected stack word = .ok (expected', stack')) :
    Move word.token stack expected' stack' ∧ ∀ v, expected ≠ .nothing v := by
  unfold takeWord at h
  split at h
  · exact ⟨move_of_takeValue h, by simp⟩
  · refine ⟨?_, by simp⟩
    split at h
    · obtain ⟨rfl, rfl⟩ := Prod.ext_iff.mp (Except.ok.inj h)
      exact .closesArray
    · exact move_of_takeValue h
  · exact ⟨move_of_takeName h, by simp⟩
  · refine ⟨?_, by simp⟩
    split at h
    · obtain ⟨rfl, rfl⟩ := Prod.ext_iff.mp (Except.ok.inj h)
      exact .closesObject
    · exact move_of_takeName h
  · refine ⟨?_, by simp⟩
    split at h
    · cases h
      exact .begins
    · cases h
  · refine ⟨?_, by simp⟩
    split at h
    · cases h
      exact .parts (by simp)
    · cases h
      exact .parts (by simp)
    · obtain ⟨rfl, rfl⟩ := Prod.ext_iff.mp (Except.ok.inj h)
      exact .closesArray
    · obtain ⟨rfl, rfl⟩ := Prod.ext_iff.mp (Except.ok.inj h)
      exact .closesObject
    · cases h
  · cases h

/-- What holds at the start of a reading and is kept by every move holds of where it ends, with the
document. -/
theorem takeAll_keeps {P : Expected → List Open → Prop} {size : Nat} {words : List Placed} {v : Json}
    (hStart : P expected stack)
    (hMove : ∀ word ∈ words, ∀ expected stack expected' stack', (∀ v, expected ≠ .nothing v) →
      Move word.token stack expected' stack' → P expected stack → P expected' stack')
    (h : takeAll size expected stack words = .ok v) : ∃ stack, P (.nothing v) stack := by
  induction words generalizing expected stack with
  | nil =>
      cases expected with
      | nothing document =>
          cases h
          exact ⟨stack, hStart⟩
      | _ => cases h
  | cons word words ih =>
      obtain ⟨hWord, hWords⟩ := List.forall_mem_cons.mp hMove
      obtain ⟨next, hNext, h⟩ := bind_eq_ok h
      obtain ⟨hTaken, hMore⟩ := move_of_takeWord hNext
      exact ih (hWord _ _ _ _ hMore hTaken hStart) hWords h

end

end LogViewer.Json
