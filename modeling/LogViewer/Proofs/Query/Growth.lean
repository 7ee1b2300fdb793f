import Mathlib
import LogViewer.Proofs.Query.Stack

/-! Texts that hold more. There is no operator that turns a value around, so a word that comes to
hold can only turn the value of a query from false to true. The frames of the evaluation stay in
order with each symbol: neither the groups that are open nor the operators depend on a text. -/
namespace LogViewer.Query

open Text

variable {holds holds' : List Char → Bool}

theorem combine_le_combine {result result' : Option Bool}
    (hResult : Option.Rel (· ≤ ·) result result') (pending : Option Operator)
    {value value' : Bool} (hValue : value ≤ value') :
    combine result pending value ≤ combine result' pending value' := by
  cases hResult with
  | none => exact hValue
  | some hResult =>
      cases pending with
      | none => exact inf_le_inf hResult hValue
      | some op =>
          cases op with
          | and => exact inf_le_inf hResult hValue
          | or => exact sup_le_sup hResult hValue

/-- Whether two frames differ at most in their values, and the first is true only where the second
is. -/
structure Frame.AtMost (f g : Frame) : Prop where
  result : Option.Rel (· ≤ ·) f.result g.result
  pending_eq : f.pending = g.pending

namespace Frame.AtMost

variable {f g : Frame}

theorem empty : Frame.AtMost {} {} := ⟨Option.Rel.none, rfl⟩

theorem add (h : f.AtMost g) {value value' : Bool} (hValue : value ≤ value') :
    (f.add value).AtMost (g.add value') := by
  refine ⟨Option.Rel.some ?_, rfl⟩
  rw [← h.pending_eq]
  exact combine_le_combine h.result f.pending hValue

theorem value_le (h : f.AtMost g) : f.value ≤ g.value := by
  obtain ⟨result, pending⟩ := f
  obtain ⟨result', pending'⟩ := g
  cases h.result with
  | none => exact le_refl _
  | some hResult => exact hResult

end Frame.AtMost

/-- Whether two stacks have as many frames, each of the first at most that of the second. -/
structure Stack.AtMost (s t : Stack) : Prop where
  top : s.top.AtMost t.top
  below : List.Forall₂ Frame.AtMost s.below t.below

namespace Stack.AtMost

variable {s t : Stack}

theorem empty : Stack.AtMost {} {} := ⟨Frame.AtMost.empty, List.Forall₂.nil⟩

theorem close (h : s.AtMost t) : s.close.AtMost t.close := by
  obtain ⟨top, below⟩ := s
  obtain ⟨top', below'⟩ := t
  cases h.below with
  | nil => exact h
  | cons hFrame hBelow => exact ⟨hFrame.add h.top.value_le, hBelow⟩

/-- A symbol keeps two stacks in order, if a word that it holds in the first text holds in the
second. -/
theorem step (h : s.AtMost t) {x : Symbol} (hx : ∀ w, x = .term w → holds w ≤ holds' w) :
    (step holds s x).AtMost (step holds' t x) := by
  cases x with
  | openGroup => exact ⟨Frame.AtMost.empty, List.Forall₂.cons h.top h.below⟩
  | closeGroup => exact h.close
  | operator op => exact ⟨⟨h.top.result, rfl⟩, h.below⟩
  | term w => exact ⟨h.top.add (hx w rfl), h.below⟩

theorem run (h : s.AtMost t) {symbols : List Symbol}
    (hHolds : ∀ w, .term w ∈ symbols → holds w ≤ holds' w) :
    (run holds s symbols).AtMost (run holds' t symbols) := by
  induction symbols generalizing s t with
  | nil => exact h
  | cons x symbols ih =>
      have hStep : (Stack.step holds s x).AtMost (Stack.step holds' t x) :=
        h.step fun w hw => hHolds w (hw ▸ List.mem_cons_self)
      exact ih hStep fun w hw => hHolds w (List.mem_cons_of_mem x hw)

/-- Closing the groups that are open at the end keeps the order as well. -/
theorem value_le (h : s.AtMost t) : s.value ≤ t.value := by
  have hClosed {below below' : List Frame} (hBelow : List.Forall₂ Frame.AtMost below below')
      {value value' : Bool} (hValue : value ≤ value') :
      below.foldl (fun value f => (f.add value).value) value ≤
        below'.foldl (fun value f => (f.add value).value) value' := by
    induction hBelow generalizing value value' with
    | nil => exact hValue
    | cons hFrame _ ih => exact ih (hFrame.add hValue).value_le
  exact hClosed h.below h.top.value_le

end Stack.AtMost

/-- The value of some symbols, balanced or not, grows with the words that hold. -/
theorem evaluateFrom_le {symbols : List Symbol}
    (hHolds : ∀ w, .term w ∈ symbols → holds w ≤ holds' w) :
    evaluateFrom holds none none symbols ≤ evaluateFrom holds' none none symbols := by
  rw [← Stack.value_run, ← Stack.value_run]
  exact (Stack.AtMost.empty.run hHolds).value_le

/-- Some words that are true of a text are true of every text that holds, in small letters, those of
them that the first one holds. -/
theorem evaluateTokens_of_holds {words : List (List Char)} {text text' : List Char}
    (hWords : ∀ word ∈ words, lower word <:+: text → lower word <:+: text')
    (h : evaluateTokens words text = true) : evaluateTokens words text' = true := by
  refine Bool.eq_true_of_true_le (h.symm.le.trans (evaluateFrom_le fun w hw => ?_))
  obtain ⟨word, hMem, hTerm⟩ := List.mem_map.mp hw
  obtain ⟨rfl, -⟩ := ofToken_eq_term hTerm
  rw [Bool.le_iff_imp, holdsIn, holdsIn, occursIn_iff, occursIn_iff]
  exact hWords w hMem

/-- Whether a text holds those words of a query that another one holds, in small letters. -/
def KeepsWords (query : String) (text text' : List Char) : Prop :=
  ∀ words, tokens query.toList = .ok words →
    ∀ word ∈ words, lower word <:+: lower text → lower word <:+: lower text'

theorem KeepsWords.of_isInfix {text text' : List Char} (h : lower text <:+: lower text')
    (query : String) : KeepsWords query text text' :=
  fun _ _ _ _ hWord => hWord.trans h

/-- A query that a text satisfies is satisfied by every text that keeps the words of it. -/
theorem KeepsWords.evaluate {query : String} {text text' : List Char}
    (hKeeps : KeepsWords query text text') (h : evaluate query text = .ok true) :
    evaluate query text' = .ok true := by
  unfold Query.evaluate at h ⊢
  split at h
  · cases h
  · rename_i hBlank
    obtain ⟨words, hTokens, hValue⟩ := map_eq_ok h
    rw [if_neg hBlank, hTokens]
    exact congrArg Except.ok (evaluateTokens_of_holds (hKeeps words hTokens) hValue.symm)

end LogViewer.Query
