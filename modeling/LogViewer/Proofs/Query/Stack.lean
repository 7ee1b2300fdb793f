import LogViewer.Proofs.Query.Terms

/-! The evaluation of words as one pass from the left that keeps a stack: a frame for each group that
is open, with its value so far and the operator after it. Groups need not be balanced: what closes no
group is passed over, and the groups that are open at the end are closed there. -/
namespace LogViewer.Query

open Text

/-- What is known of a group that is open: its value so far, and the operator after it. -/
structure Frame where
  result : Option Bool := none
  pending : Option Operator := none
deriving DecidableEq, Repr

namespace Frame

/-- A further value is combined with the value so far; the operator is then used up. -/
def add (f : Frame) (value : Bool) : Frame := { result := some (combine f.result f.pending value) }

/-- The value of a group that ends here; an empty one is false. -/
def value (f : Frame) : Bool := f.result.getD false

end Frame

/-- The frames of the groups that are open, and at the bottom that of the query itself. -/
structure Stack where
  top : Frame := {}
  /-- The other frames, that of the innermost group first. -/
  below : List Frame := []
deriving DecidableEq, Repr

namespace Stack

/-- The innermost group ends and its value goes into the frame below, if a group is open. -/
def close (s : Stack) : Stack :=
  match s.below with
  | [] => s
  | f :: below => ⟨f.add s.top.value, below⟩

/-- What a symbol does to the frames, when a word has the value that `holds` gives it. -/
def step (holds : List Char → Bool) (s : Stack) : Symbol → Stack
  | .openGroup => ⟨{}, s.top :: s.below⟩
  | .closeGroup => s.close
  | .operator op => { s with top := { s.top with pending := some op } }
  | .term word => { s with top := s.top.add (holds word) }

/-- The frames after some symbols. -/
def run (holds : List Char → Bool) (s : Stack) (symbols : List Symbol) : Stack :=
  symbols.foldl (step holds) s

/-- The value at the bottom once all groups are closed, the innermost one first. -/
def value (s : Stack) : Bool :=
  s.below.foldl (fun value f => (f.add value).value) s.top.value

/-- A stack that stands on some further frames. -/
def on (s : Stack) (base : List Frame) : Stack := { s with below := s.below ++ base }

variable {holds : List Char → Bool}

theorem run_append (s : Stack) (symbols rest : List Symbol) :
    run holds s (symbols ++ rest) = run holds (run holds s symbols) rest := List.foldl_append

/-- Closing a group now or at the end makes no difference to the value. -/
theorem value_close (s : Stack) : s.close.value = s.value := by
  obtain ⟨top, below⟩ := s
  cases below with
  | nil => rfl
  | cons f below => rfl

theorem value_run_closed (s : Stack) (symbols : List Symbol) :
    (run holds s (symbols ++ [.closeGroup])).value = (run holds s symbols).value := by
  rw [run_append]
  exact value_close _

theorem value_run_interior (s : Stack) (span : List Symbol) :
    (run holds s (interior span)).value = (run holds s span).value := by
  unfold interior
  split
  · rename_i hLast
    obtain ⟨symbols, rfl⟩ := List.getLast?_eq_some_iff.mp hLast
    rw [List.dropLast_concat, value_run_closed]
  · rfl

/-- The frame below an open group gets the value of the group at the end. -/
theorem value_on (s : Stack) (f : Frame) : (s.on [f]).value = (f.add s.value).value := by
  rw [on, value, List.foldl_append]
  rfl

/-- A symbol that closes no frame of the base leaves the base as it is. -/
theorem step_on {s : Stack} {x : Symbol} (h : x.depthAfter (s.below.length + 1) ≠ 0)
    (base : List Frame) : step holds (s.on base) x = (step holds s x).on base := by
  obtain ⟨top, below⟩ := s
  cases x with
  | closeGroup =>
      cases below with
      | nil => exact absurd rfl h
      | cons f below => rfl
  | _ => rfl

theorem depthAfter_eq {s : Stack} {x : Symbol} (h : x.depthAfter (s.below.length + 1) ≠ 0) :
    x.depthAfter (s.below.length + 1) = (step holds s x).below.length + 1 := by
  obtain ⟨top, below⟩ := s
  cases x with
  | closeGroup =>
      cases below with
      | nil => exact absurd rfl h
      | cons f below => rfl
  | _ => rfl

/-- The symbols up to the end of the groups that are open, one for each frame, work on these frames
alone. Either the last of these symbols closes the outermost of the groups, or they are all there
are. -/
theorem groupSpan_cases (holds : List Char → Bool) (s : Stack) (symbols : List Symbol) :
    (∃ inner rest, groupSpan (s.below.length + 1) symbols = (inner ++ [.closeGroup], rest) ∧
      (run holds s inner).below = [] ∧
      ∀ base, run holds (s.on base) inner = (run holds s inner).on base) ∨
    groupSpan (s.below.length + 1) symbols = (symbols, []) ∧
      ∀ base, run holds (s.on base) symbols = (run holds s symbols).on base := by
  induction symbols generalizing s with
  | nil => exact Or.inr ⟨rfl, fun _ => rfl⟩
  | cons x symbols ih =>
      rw [groupSpan]
      by_cases hEnd : x.depthAfter (s.below.length + 1) = 0
      · obtain ⟨top, below⟩ := s
        left
        cases x with
        | closeGroup =>
            cases below with
            | nil => exact ⟨[], symbols, rfl, rfl, fun _ => rfl⟩
            | cons f below => exact absurd hEnd (Nat.succ_ne_zero below.length)
        | _ => exact absurd hEnd (Nat.succ_ne_zero _)
      · have hRun (base : List Frame) (l : List Symbol)
            (h : run holds ((step holds s x).on base) l = (run holds (step holds s x) l).on base) :
            run holds (s.on base) (x :: l) = (run holds s (x :: l)).on base := by
          rw [run, List.foldl_cons, step_on hEnd base]
          exact h
        rw [if_neg hEnd, depthAfter_eq hEnd]
        rcases ih (step holds s x) with ⟨inner, rest, hSpan, hBottom, hOn⟩ | ⟨hSpan, hOn⟩
        · left
          refine ⟨x :: inner, rest, ?_, hBottom, fun base => hRun base inner (hOn base)⟩
          rw [hSpan]
          rfl
        · right
          refine ⟨?_, fun base => hRun base symbols (hOn base)⟩
          rw [hSpan]

/-- A group works on a frame of its own, and its value goes into the frame around it. -/
theorem value_run_group (holds : List Char → Bool) (f : Frame) (symbols : List Symbol) :
    (run holds ⟨{}, [f]⟩ symbols).value =
      (run holds ⟨f.add (run holds {} (interior (groupSpan 1 symbols).1)).value, []⟩
        (groupSpan 1 symbols).2).value := by
  have hWhole := groupSpan_append 1 symbols
  rw [value_run_interior]
  rcases groupSpan_cases holds {} symbols with ⟨inner, rest, hSpan, hBottom, hOn⟩ | ⟨hSpan, hOn⟩
  · have hSpan : groupSpan 1 symbols = (inner ++ [.closeGroup], rest) := hSpan
    have hClose : ((run holds {} inner).on [f]).close =
        ⟨f.add (run holds {} inner).value, []⟩ := by
      simp [close, on, value, hBottom]
    rw [hSpan] at hWhole ⊢
    rw [value_run_closed, ← hWhole, run_append, run_append, ← hClose, ← hOn]
    rfl
  · have hSpan : groupSpan 1 symbols = (symbols, []) := hSpan
    rw [hSpan]
    exact (congrArg value (hOn [f])).trans (value_on _ f)

/-- Some symbols have the value that is at the bottom of the stack after them. -/
theorem value_run (holds : List Char → Bool) (result : Option Bool) (pending : Option Operator)
    (symbols : List Symbol) :
    (run holds ⟨⟨result, pending⟩, []⟩ symbols).value =
      evaluateFrom holds result pending symbols := by
  fun_induction evaluateFrom holds result pending symbols with
  | case1 result pending => rfl
  | case2 result pending rest value ihGroup ihAfter =>
      have hGroup := value_run_group holds ⟨result, pending⟩ rest
      rw [ihGroup] at hGroup
      exact hGroup.trans ihAfter
  | case3 result pending rest ih => exact ih
  | case4 result pending op rest ih => exact ih
  | case5 result pending word rest ih => exact ih

end Stack

/-- A row of words, balanced or not, has the value that one pass with a stack finds. So parentheses
that close a group make no difference at the end. -/
theorem evaluateTokens_eq_value (words : List (List Char)) (text : List Char) :
    evaluateTokens words text =
      (Stack.run (holdsIn text) {} (words.map Symbol.ofToken)).value ∧
    ∀ n, evaluateTokens (words ++ List.replicate n [')']) text = evaluateTokens words text := by
  have hValue (words : List (List Char)) :
      evaluateTokens words text =
        (Stack.run (holdsIn text) {} (words.map Symbol.ofToken)).value :=
    (Stack.value_run (holdsIn text) none none _).symm
  refine ⟨hValue words, ?_⟩
  intro n
  induction n with
  | zero => rw [List.replicate_zero, List.append_nil]
  | succ n ih =>
      rw [← ih, hValue, hValue, List.replicate_succ', ← List.append_assoc, List.map_append]
      exact Stack.value_run_closed {} _

end LogViewer.Query
