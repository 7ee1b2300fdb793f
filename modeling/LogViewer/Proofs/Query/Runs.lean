import Mathlib
import LogViewer.Proofs.Query.Reading

/-! The runs of a query: what stands in it between two of the characters at which it is cut. A run is
whole if it is a word or a phrase, apart from blanks at its ends; any other one is read as a single
word, which is none that the query was meant to have. -/
namespace LogViewer.Query

open Text

instance : DecidablePred IsBreak := fun c =>
  inferInstanceAs (Decidable (c = '(' ∨ c = ')' ∨ c = ' ' ∨ c = '\t'))

/-- Whether a query is cut at a piece. -/
def Segment.isBreak : Segment → Bool
  | .plain c => IsBreak c
  | .phrase _ => false

def Segment.isBlank : Segment → Bool
  | .plain c => Text.isBlank c
  | .phrase _ => false

/-- Whether some pieces are one phrase or the characters of one word. -/
def isWhole : List Segment → Bool
  | [.phrase _] => true
  | pieces => pieces.all fun s => match s with
    | .plain c => !Text.isBlank c
    | .phrase _ => false

/-- Some pieces without the blanks at either end. -/
def withoutEdges (pieces : List Segment) : List Segment :=
  (pieces.dropWhile Segment.isBlank).rdropWhile Segment.isBlank

/-- Runs of pieces with the count of the phrases before each one. -/
def numberRuns (n : Nat) : List (List Segment) → List (Nat × List Segment)
  | [] => []
  | run :: runs => (n, run) :: numberRuns (n + (phrases run).length) runs

/-- The words, in small letters, that are read where a query has more than one word or phrase
between two breaks: they hold the blanks in between, and placeholders for the phrases. -/
def fusedWords (query : String) : List (List Char) :=
  let runs := numberRuns 0 ((segments query.toList).splitOnP Segment.isBreak)
  (runs.filter fun (_, run) => !isWhole (withoutEdges run)).map fun (n, run) =>
    lower (trim (withPlaceholders n run))

theorem map_snd_numberRuns (n : Nat) (runs : List (List Segment)) :
    (numberRuns n runs).map (·.2) = runs := by
  induction runs generalizing n with
  | nil => rfl
  | cons run runs ih => rw [numberRuns, List.map_cons, ih]

theorem mem_of_mem_numberRuns {n k : Nat} {run : List Segment} {runs : List (List Segment)}
    (h : (k, run) ∈ numberRuns n runs) : run ∈ runs := by
  rw [← map_snd_numberRuns n runs]
  exact List.mem_map_of_mem (f := (·.2)) h

theorem mem_flush {w begun : List Char} (h : w ∈ flush begun) :
    w = trim begun.reverse ∧ w ≠ [] := by
  unfold flush at h
  dsimp only at h
  split at h
  · cases h
  · rename_i hNil
    rw [List.mem_singleton] at h
    subst h
    exact ⟨rfl, by simpa using hNil⟩

theorem mem_cut_of_break {c : Char} (hBreak : IsBreak c) {begun s w : List Char}
    (h : w ∈ cut begun (c :: s)) : w ∈ flush begun ∨ w = ['('] ∨ w = [')'] ∨ w ∈ cut [] s := by
  have hHead : ∀ d ∈ (c :: s).head?, IsBreak d := by
    rintro d ⟨⟩
    exact hBreak
  rw [cut_of_break hHead, List.mem_append] at h
  refine h.imp_right fun h => ?_
  by_cases hParenthesis : c = '(' ∨ c = ')'
  · rw [cut_parenthesis hParenthesis, List.mem_cons] at h
    rcases h with rfl | h
    · rcases hParenthesis with rfl | rfl
      · exact Or.inl rfl
      · exact Or.inr (Or.inl rfl)
    · exact Or.inr (Or.inr h)
  · have hBlank : c = ' ' ∨ c = '\t' := by
      rcases hBreak with hOpen | hClose | hBlank
      · exact absurd (Or.inl hOpen) hParenthesis
      · exact absurd (Or.inr hClose) hParenthesis
      · exact hBlank
    have hGap : cut [] ([c] ++ s) = cut [] s := cut_gap (by simpa using hBlank) s
    rw [List.singleton_append] at hGap
    rw [hGap] at h
    exact Or.inr (Or.inr h)

/-- A piece at which the query is not cut goes to the word that has begun. -/
theorem cut_push {s : Segment} (hBreak : s.isBreak = false) (m : Nat) (begun pieces : List Segment) :
    cut (withPlaceholders m begun).reverse
        (withPlaceholders (m + (phrases begun).length) (s :: pieces)) =
      cut (withPlaceholders m (begun ++ [s])).reverse
        (withPlaceholders (m + (phrases (begun ++ [s])).length) pieces) := by
  rw [withPlaceholders_append m begun [s], phrases_append]
  cases s with
  | plain c =>
      have hOther : ¬IsBreak c := by simpa [Segment.isBreak] using hBreak
      rw [IsBreak, ← or_assoc, not_or] at hOther
      rw [withPlaceholders, cut, if_neg hOther.1, if_neg hOther.2]
      simp [withPlaceholders, phrases]
  | phrase p =>
      rw [withPlaceholders, cut_append fun c hc => isPlain_of_mem_placeholder hc]
      simp [withPlaceholders, phrases, Nat.add_assoc]

theorem splitOnP_of_break {s : Segment} (hBreak : s.isBreak = true) {begun : List Segment}
    (hBegun : ∀ t ∈ begun, t.isBreak = false) (pieces : List Segment) :
    (begun ++ s :: pieces).splitOnP Segment.isBreak =
      begun :: pieces.splitOnP Segment.isBreak := by
  rw [List.splitOnP_append_cons _ _ hBreak, List.splitOnP_eq_singleton hBegun,
    List.singleton_append]

theorem phrases_of_break {s : Segment} (hBreak : s.isBreak = true) (begun pieces : List Segment) :
    phrases (begun ++ s :: pieces) = phrases begun ++ phrases pieces := by
  cases s with
  | plain c => exact phrases_append begun (.plain c :: pieces)
  | phrase p => cases hBreak

/-- When the pieces `begun` have been read since the last break, every further word is a parenthesis
or one of the runs from there on, without the blanks at its ends. -/
theorem mem_cut_begun {m : Nat} {begun pieces : List Segment} {w : List Char}
    (hBegun : ∀ s ∈ begun, s.isBreak = false)
    (h : w ∈ cut (withPlaceholders m begun).reverse
      (withPlaceholders (m + (phrases begun).length) pieces)) :
    w = ['('] ∨ w = [')'] ∨
      ∃ k run, (k, run) ∈ numberRuns m ((begun ++ pieces).splitOnP Segment.isBreak) ∧
        k + (phrases run).length ≤ m + (phrases (begun ++ pieces)).length ∧
        w = trim (withPlaceholders k run) ∧ w ≠ [] := by
  induction pieces generalizing m begun with
  | nil =>
      rw [withPlaceholders, cut] at h
      obtain ⟨rfl, hNil⟩ := mem_flush h
      refine Or.inr (Or.inr ⟨m, begun, ?_, by simp, by rw [List.reverse_reverse], hNil⟩)
      rw [List.append_nil, List.splitOnP_eq_singleton hBegun]
      exact List.mem_singleton_self _
  | cons s pieces ih =>
      cases hBreak : s.isBreak with
      | false =>
          rw [cut_push hBreak] at h
          have hPushed : ∀ t ∈ begun ++ [s], t.isBreak = false := by
            intro t ht
            rcases List.mem_append.mp ht with ht | ht
            · exact hBegun t ht
            · exact List.mem_singleton.mp ht ▸ hBreak
          rw [List.append_cons]
          exact ih hPushed h
      | true =>
          rw [splitOnP_of_break hBreak hBegun, phrases_of_break hBreak, List.length_append]
          cases s with
          | phrase p => cases hBreak
          | plain c =>
              have hBreak : IsBreak c := by simpa [Segment.isBreak] using hBreak
              rw [withPlaceholders] at h
              rcases mem_cut_of_break hBreak h with hFlush | hOpen | hClose | hRest
              · obtain ⟨rfl, hNil⟩ := mem_flush hFlush
                refine Or.inr (Or.inr ⟨m, begun, List.mem_cons_self, by omega, ?_, hNil⟩)
                rw [List.reverse_reverse]
              · exact Or.inl hOpen
              · exact Or.inr (Or.inl hClose)
              · have hLater := @ih (m + (phrases begun).length) [] (by simp) hRest
                rw [List.nil_append] at hLater
                refine hLater.imp_right (Or.imp_right ?_)
                rintro ⟨k, run, hMem, hLe, hWord⟩
                exact ⟨k, run, List.mem_cons_of_mem _ hMem, by omega, hWord⟩

/-- Every word that a query is cut into is a parenthesis or a run without the blanks at its ends. -/
theorem mem_cut {pieces : List Segment} {w : List Char}
    (h : w ∈ cut [] (withPlaceholders 0 pieces)) :
    w = ['('] ∨ w = [')'] ∨
      ∃ k run, (k, run) ∈ numberRuns 0 (pieces.splitOnP Segment.isBreak) ∧
        k + (phrases run).length ≤ (phrases pieces).length ∧
        w = trim (withPlaceholders k run) ∧ w ≠ [] := by
  have hWords := @mem_cut_begun 0 [] pieces w (by simp) h
  rw [List.nil_append, Nat.zero_add] at hWords
  exact hWords

theorem exists_plain {P : Char → Prop} {pieces : List Segment}
    (h : ∀ s ∈ pieces, ∃ c, s = .plain c ∧ P c) :
    ∃ text : List Char, pieces = text.map .plain ∧ ∀ c ∈ text, P c := by
  induction pieces with
  | nil => exact ⟨[], rfl, by simp⟩
  | cons s pieces ih =>
      obtain ⟨⟨c, rfl, hc⟩, hRest⟩ := List.forall_mem_cons.mp h
      obtain ⟨text, rfl, hText⟩ := ih hRest
      refine ⟨c :: text, rfl, ?_⟩
      rw [List.forall_mem_cons]
      exact ⟨hc, hText⟩

theorem Segment.exists_of_isBlank {s : Segment} (h : s.isBlank = true) :
    ∃ c, s = .plain c ∧ Text.isBlank c = true := by
  cases s with
  | plain c => exact ⟨c, rfl, h⟩
  | phrase p => cases h

theorem isWhole_cases {pieces : List Segment} (h : isWhole pieces = true) :
    (∃ p, pieces = [.phrase p]) ∨
      ∃ w : List Char, pieces = w.map .plain ∧ ∀ c ∈ w, Text.isBlank c = false := by
  unfold isWhole at h
  split at h
  · rename_i p
    exact Or.inl ⟨p, rfl⟩
  · refine Or.inr (exists_plain fun s hs => ?_)
    have hLetter := List.all_eq_true.mp h s hs
    cases s with
    | plain c => exact ⟨c, rfl, by simpa using hLetter⟩
    | phrase p => cases hLetter

/-- A run is what is left of it without its edges, and blanks on both sides. -/
theorem exists_edges (run : List Segment) :
    ∃ front back : List Char, run = front.map .plain ++ (withoutEdges run ++ back.map .plain) ∧
      (∀ c ∈ front, Text.isBlank c = true) ∧ ∀ c ∈ back, Text.isBlank c = true := by
  have hTaken : ∀ s ∈ run.takeWhile Segment.isBlank, s.isBlank = true :=
    fun s hs => List.mem_takeWhile_imp hs
  have hRight : ∀ s ∈ (run.dropWhile Segment.isBlank).rtakeWhile Segment.isBlank,
      s.isBlank = true := fun s hs => List.mem_rtakeWhile_imp hs
  obtain ⟨front, hFront, hFrontBlank⟩ :=
    exists_plain fun s hs => Segment.exists_of_isBlank (hTaken s hs)
  obtain ⟨back, hBack, hBackBlank⟩ :=
    exists_plain fun s hs => Segment.exists_of_isBlank (hRight s hs)
  refine ⟨front, back, ?_, hFrontBlank, hBackBlank⟩
  rw [← hFront, ← hBack, withoutEdges, List.rdropWhile_append_rtakeWhile,
    List.takeWhile_append_dropWhile]

/-- The word of a run whose characters are no blanks but at its edges. -/
theorem trim_withPlaceholders {k : Nat} {run : List Segment}
    (h : ∀ c ∈ withPlaceholders k (withoutEdges run), Text.isBlank c = false) :
    trim (withPlaceholders k run) = withPlaceholders k (withoutEdges run) := by
  obtain ⟨front, back, hRun, hFront, hBack⟩ := exists_edges run
  have hText : withPlaceholders k run =
      front ++ (withPlaceholders k (withoutEdges run) ++ back) := by
    conv_lhs => rw [hRun]
    rw [withPlaceholders_append, withPlaceholders_append, withPlaceholders_plain,
      withPlaceholders_plain, phrases_plain, List.length_nil, Nat.add_zero]
  rw [hText, trim_append hFront h hBack]

end LogViewer.Query
