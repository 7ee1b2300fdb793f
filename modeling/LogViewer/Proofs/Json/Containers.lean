import Mathlib
import LogViewer.Document.Containers
import LogViewer.Proofs.Json.Moves

/-! Containers in texts. A text that begins with the mark that opens an object or an array is read as
one of them or not at all, for a reading ends only when everything that was opened is closed. -/
namespace LogViewer.Json

/-- Whether a reading can end with nothing but a container: one is open, or the document is one. -/
inductive EndsInContainer : Expected → List Open → Prop where
  | inside {expected : Expected} {stack : List Open} (hOpen : stack ≠ [])
      (hMore : ∀ v, expected ≠ .nothing v) : EndsInContainer expected stack
  | ended {v : Json} {stack : List Open} (hContainer : v.isContainer = true) :
      EndsInContainer (.nothing v) stack

theorem endsInContainer_complete {v : Json} {stack : List Open}
    (h : stack = [] → v.isContainer = true) :
    EndsInContainer (complete v stack).1 (complete v stack).2 := by
  unfold Json.complete
  split
  · exact .ended (h rfl)
  all_goals exact .inside (by simp) (by simp)

/-- No move closes the last container that is open but to make it the document. -/
theorem EndsInContainer.move {expected expected' : Expected} {stack stack' : List Open}
    {token : Token} (h : EndsInContainer expected stack) (hMore : ∀ v, expected ≠ .nothing v)
    (hMove : Move token stack expected' stack') : EndsInContainer expected' stack' := by
  have hOpen : stack ≠ [] := by
    cases h with
    | inside hOpen _ => exact hOpen
    | ended _ => exact absurd rfl (hMore _)
  cases hMove with
  | opens _ hMore => exact .inside (by simp) hMore
  | parts hMore => exact .inside hOpen hMore
  | begins => exact .inside (by simp) (by simp)
  | adds _ => exact endsInContainer_complete fun hEmpty => absurd hEmpty hOpen
  | closesArray => exact endsInContainer_complete fun _ => rfl
  | closesObject => exact endsInContainer_complete fun _ => rfl

theorem EndsInContainer.takeAll {size : Nat} {expected : Expected} {stack : List Open}
    {words : List Placed} {v : Json} (h : EndsInContainer expected stack)
    (hTake : takeAll size expected stack words = .ok v) : v.isContainer = true := by
  obtain ⟨_, hEnd⟩ := takeAll_keeps h
    (fun _ _ _ _ _ _ hMore hMove hEnds => hEnds.move hMore hMove) hTake
  cases hEnd with
  | inside _ hMore => exact absurd rfl (hMore v)
  | ended hContainer => exact hContainer

/-- A text that begins like an object or an array is read as one of them. -/
theorem isContainer_of_read [Text.StandIns] {s : List Char} {v : Json}
    (hHead : s.head? = some '\x7b' ∨ s.head? = some '[') (h : read s = .ok v) :
    v.isContainer = true := by
  unfold read at h
  split at h
  · cases h
  have hTake : takeAll s.length .value [] (tokens 0 s) = .ok v := mapError_eq_ok h
  cases s with
  | nil => simp at hHead
  | cons c s =>
      have hFirst {token : Token} (hSpace : isSpace c = false)
          (hToken : scanToken 0 c s = (token, 0)) : tokens 0 (c :: s) = ⟨token, 0⟩ :: tokens 1 s := by
        rw [tokens, hSpace, hToken]
        rfl
      simp only [List.head?_cons, Option.some_inj] at hHead
      rcases hHead with rfl | rfl
      · rw [hFirst rfl rfl] at hTake
        have hInside : EndsInContainer .nameOrClose [.object []] := .inside (by simp) (by simp)
        exact hInside.takeAll hTake
      · rw [hFirst rfl rfl] at hTake
        have hInside : EndsInContainer .valueOrClose [.array []] := .inside (by simp) (by simp)
        exact hInside.takeAll hTake

end LogViewer.Json
