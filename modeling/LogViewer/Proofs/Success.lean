import Mathlib.Data.List.Basic
import Mathlib.Data.List.Forall2

/-! Computations that may fail, in steps or on the members of a list one after the other. They
succeed only if every step does, and their result is made of those of the steps. -/
namespace LogViewer

variable {α β γ ε : Type}

theorem bind_eq_ok {result : Except ε β} {g : β → Except ε γ} {c : γ}
    (h : result >>= g = .ok c) : ∃ b, result = .ok b ∧ g b = .ok c := by
  cases result with
  | error e => cases h
  | ok b => exact ⟨b, rfl, h⟩

theorem map_eq_ok {result : Except ε β} {g : β → γ} {c : γ} (h : g <$> result = .ok c) :
    ∃ b, result = .ok b ∧ c = g b := by
  cases result with
  | error e => cases h
  | ok b =>
      cases h
      exact ⟨b, rfl, rfl⟩

theorem mapError_eq_ok {δ : Type} {result : Except ε β} {g : ε → δ} {b : β}
    (h : result.mapError g = .ok b) : result = .ok b := by
  cases result with
  | error e => cases h
  | ok c =>
      cases h
      rfl

theorem toOption_eq_some {result : Except ε β} {b : β} :
    result.toOption = some b ↔ result = .ok b := by
  cases result <;> simp [Except.toOption]

theorem toOption_map_eq_some {result : Except ε β} {g : β → γ} {c : γ}
    (h : result.toOption.map g = some c) : ∃ b, result = .ok b ∧ g b = c := by
  obtain ⟨b, hb, hc⟩ := Option.map_eq_some_iff.mp h
  exact ⟨b, toOption_eq_some.mp hb, hc⟩

theorem forall₂_and {P Q : α → β → Prop} {l : List α} {m : List β} :
    List.Forall₂ (fun a b => P a b ∧ Q a b) l m ↔ List.Forall₂ P l m ∧ List.Forall₂ Q l m := by
  refine ⟨fun h => ⟨h.imp fun _ _ => And.left, h.imp fun _ _ => And.right⟩, ?_⟩
  rintro ⟨hFirst, hSecond⟩
  induction hFirst with
  | nil => exact .nil
  | cons hHead _ ih =>
      cases hSecond with
      | cons hOther hSecond => exact .cons ⟨hHead, hOther⟩ (ih hSecond)

/-- Where every single reading succeeds, all of them do. -/
theorem mapM_eq_ok_map {f : α → Except ε β} {g : α → β} {l : List α}
    (h : ∀ a ∈ l, f a = .ok (g a)) : l.mapM f = .ok (l.map g) := by
  induction l with
  | nil => rfl
  | cons a l ih =>
      obtain ⟨hHead, hTail⟩ := List.forall_mem_cons.mp h
      rw [List.mapM_cons, hHead, ih hTail]
      rfl

section

variable {f : α → Except ε β} {l : List α} {results : List β}

theorem map_of_mapM_eq_ok (h : l.mapM f = .ok results) : l.map f = results.map .ok := by
  induction l generalizing results with
  | nil =>
      cases h
      rfl
  | cons a l ih =>
      rw [List.mapM_cons] at h
      obtain ⟨b, hHead, h⟩ := bind_eq_ok h
      obtain ⟨rest, hTail, h⟩ := bind_eq_ok h
      cases h
      rw [List.map_cons, List.map_cons, hHead, ih hTail]

theorem mapM_eq_ok_iff :
    l.mapM f = .ok results ↔ List.Forall₂ (fun a b => f a = .ok b) l results := by
  refine ⟨fun h => ?_, fun h => ?_⟩
  · have hMap := map_of_mapM_eq_ok h
    rwa [← List.forall₂_eq_eq_eq, List.forall₂_map_left_iff, List.forall₂_map_right_iff] at hMap
  · induction h with
    | nil => rfl
    | cons hHead _ ih =>
        rw [List.mapM_cons, hHead, ih]
        rfl

/-- All are read exactly if each of them can be. -/
theorem exists_mapM_eq_ok_iff :
    (∃ results, l.mapM f = .ok results) ↔ ∀ a ∈ l, ∃ b, f a = .ok b := by
  refine ⟨?_, fun h => ?_⟩
  · rintro ⟨results, h⟩ a ha
    have hMem : f a ∈ results.map .ok := map_of_mapM_eq_ok h ▸ List.mem_map_of_mem ha
    obtain ⟨b, -, hb⟩ := List.mem_map.mp hMem
    exact ⟨b, hb.symm⟩
  · induction l with
    | nil => exact ⟨[], rfl⟩
    | cons a l ih =>
        obtain ⟨hHead, hTail⟩ := List.forall_mem_cons.mp h
        obtain ⟨b, hb⟩ := hHead
        obtain ⟨results, hResults⟩ := ih hTail
        exact ⟨b :: results, by rw [List.mapM_cons, hb, hResults]; rfl⟩

/-- Once all are read, each has a result of its own. -/
theorem filterMap_of_mapM_eq_ok (h : l.mapM f = .ok results) (g : β → Option γ) :
    results.filterMap g = l.filterMap fun a => (f a).toOption.bind g := by
  have hMap := congrArg (List.filterMap fun result => result.toOption.bind g)
    (map_of_mapM_eq_ok h)
  rw [List.filterMap_map, List.filterMap_map] at hMap
  exact hMap.symm

/-- What is counted of the results is counted of what they are read from. -/
theorem countP_of_map_eq {p : β → Bool} {q : α → Bool} (h : l.map f = results.map .ok)
    (hEach : ∀ a ∈ l, ∀ b, f a = .ok b → p b = q a) : results.countP p = l.countP q := by
  induction l generalizing results with
  | nil =>
      rw [List.map_nil, eq_comm, List.map_eq_nil_iff] at h
      rw [h]
      rfl
  | cons a l ih =>
      cases results with
      | nil => cases h
      | cons b results =>
          obtain ⟨hHead, hTail⟩ := List.cons.inj h
          obtain ⟨hOwn, hOthers⟩ := List.forall_mem_cons.mp hEach
          rw [List.countP_cons, List.countP_cons, hOwn b hHead, ih hTail hOthers]

end

/-- Whether a test is passed. A test that fails is not. -/
def holdsUnder (test : α → Except ε Bool) (a : α) : Bool :=
  match test a with
  | .ok b => b
  | .error _ => false

theorem holdsUnder_iff {test : α → Except ε Bool} {a : α} :
    holdsUnder test a = true ↔ test a = .ok true := by
  unfold holdsUnder
  cases test a <;> simp

theorem filterAuxM_eq_ok {test : α → Except ε Bool} {l kept result : List α}
    (h : l.filterAuxM test kept = .ok result) :
    (∀ a ∈ l, ∃ b, test a = .ok b) ∧
      result = (l.filter (holdsUnder test)).reverse ++ kept := by
  induction l generalizing kept with
  | nil =>
      cases h
      exact ⟨by simp, rfl⟩
  | cons a l ih =>
      rw [List.filterAuxM] at h
      obtain ⟨b, hTest, h⟩ := bind_eq_ok h
      obtain ⟨hRest, hResult⟩ := ih h
      refine ⟨?_, ?_⟩
      · intro c hc
        rcases List.mem_cons.mp hc with rfl | hc
        · exact ⟨b, hTest⟩
        · exact hRest c hc
      · cases b <;> simp [hResult, holdsUnder, hTest]

/-- Filtering succeeds only if the test succeeds everywhere, and keeps what passes it. -/
theorem filterM_eq_ok {test : α → Except ε Bool} {l result : List α}
    (h : l.filterM test = .ok result) :
    (∀ a ∈ l, ∃ b, test a = .ok b) ∧ result = l.filter (holdsUnder test) := by
  rw [List.filterM] at h
  obtain ⟨kept, hAux, h⟩ := bind_eq_ok h
  cases h
  obtain ⟨hTests, hKept⟩ := filterAuxM_eq_ok hAux
  refine ⟨hTests, ?_⟩
  rw [hKept, List.append_nil, List.reverse_reverse]

theorem exists_of_filterAuxM_eq_error {test : α → Except ε Bool} {l kept : List α} {e : ε}
    (h : l.filterAuxM test kept = .error e) : ∃ a ∈ l, test a = .error e := by
  induction l generalizing kept with
  | nil => cases h
  | cons a l ih =>
      rw [List.filterAuxM] at h
      cases hTest : test a with
      | error e' =>
          rw [hTest] at h
          cases h
          exact ⟨a, List.mem_cons_self, hTest⟩
      | ok b =>
          rw [hTest] at h
          obtain ⟨c, hc, hError⟩ := ih h
          exact ⟨c, List.mem_cons_of_mem a hc, hError⟩

/-- Filtering fails only where the test does. -/
theorem exists_of_filterM_eq_error {test : α → Except ε Bool} {l : List α} {e : ε}
    (h : l.filterM test = .error e) : ∃ a ∈ l, test a = .error e := by
  rw [List.filterM] at h
  cases hAux : l.filterAuxM test [] with
  | error e' =>
      rw [hAux] at h
      cases h
      exact exists_of_filterAuxM_eq_error hAux
  | ok kept =>
      rw [hAux] at h
      cases h

/-- Filtering succeeds if the test succeeds everywhere. -/
theorem exists_filterM_eq_ok {test : α → Except ε Bool} {l : List α}
    (h : ∀ a ∈ l, ∃ b, test a = .ok b) : ∃ result, l.filterM test = .ok result := by
  have hAux (kept : List α) : ∃ result, l.filterAuxM test kept = .ok result := by
    induction l generalizing kept with
    | nil => exact ⟨kept, rfl⟩
    | cons a l ih =>
        obtain ⟨⟨b, hHead⟩, hTail⟩ := List.forall_mem_cons.mp h
        rw [List.filterAuxM, hHead]
        exact ih hTail _
  obtain ⟨kept, hKept⟩ := hAux []
  refine ⟨kept.reverse, ?_⟩
  rw [List.filterM, hKept]
  rfl

end LogViewer
