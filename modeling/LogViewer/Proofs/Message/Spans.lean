import Mathlib.Data.List.Basic
import Mathlib.Order.MinMax
import LogViewer.Message.Highlight

/-! Spans that neither overlap nor touch. Joining spans keeps the offsets that they cover. Spans
that stand apart are settled by the offsets they cover, and each of them holds whatever stretch of
covered offsets it meets. -/
namespace LogViewer.Span

/-- Whether an offset lies in one of some spans. -/
def Covers (spans : List Span) (p : Nat) : Prop := ∃ s ∈ spans, s.start ≤ p ∧ p < s.stop

/-- Spans in order, none of them empty, with at least one offset between each two. -/
structure IsSeparated (spans : List Span) : Prop where
  start_lt_stop : ∀ s ∈ spans, s.start < s.stop
  stop_lt_start : spans.Pairwise fun a b => a.stop < b.start

theorem covers_cons {s : Span} {spans : List Span} {p : Nat} :
    Covers (s :: spans) p ↔ (s.start ≤ p ∧ p < s.stop) ∨ Covers spans p := by
  simp [Covers]

theorem isSeparated_cons {s : Span} {spans : List Span} :
    IsSeparated (s :: spans) ↔
      s.start < s.stop ∧ (∀ other ∈ spans, s.stop < other.start) ∧ IsSeparated spans := by
  constructor
  · rintro ⟨hNonempty, hApart⟩
    obtain ⟨hFirst, hRest⟩ := List.forall_mem_cons.mp hNonempty
    obtain ⟨hNext, hLater⟩ := List.pairwise_cons.mp hApart
    exact ⟨hFirst, hNext, hRest, hLater⟩
  · rintro ⟨hFirst, hNext, hRest, hLater⟩
    exact ⟨List.forall_mem_cons.mpr ⟨hFirst, hRest⟩, List.pairwise_cons.mpr ⟨hNext, hLater⟩⟩

/-- Spans in the order of their starts. -/
def InOrder (spans : List Span) : Prop := spans.Pairwise fun a b => a.start ≤ b.start

theorem inOrder_joined {last s : Span} {spans : List Span} (h : InOrder (last :: s :: spans)) :
    InOrder ({ last with stop := max last.stop s.stop } :: spans) := by
  obtain ⟨hLast, hSpans⟩ := List.pairwise_cons.mp h
  refine List.pairwise_cons.mpr ⟨?_, hSpans.of_cons⟩
  intro other hOther
  exact hLast other (List.mem_cons_of_mem s hOther)

theorem covers_merge {last : Span} {spans : List Span} (h : InOrder (last :: spans)) (p : Nat) :
    Covers (merge last spans) p ↔ Covers (last :: spans) p := by
  induction spans generalizing last with
  | nil => rfl
  | cons s spans ih =>
      rw [merge]
      split
      · rename_i hMeets
        have hOrder : last.start ≤ s.start :=
          (List.pairwise_cons.mp h).1 s List.mem_cons_self
        rw [ih (inOrder_joined h), covers_cons, covers_cons, covers_cons, ← or_assoc]
        refine or_congr_left ?_
        simp only [lt_max_iff]
        omega
      · rw [covers_cons, covers_cons, ih h.of_cons]

theorem start_le_of_mem_merge {last : Span} {spans : List Span} (h : InOrder (last :: spans)) :
    ∀ m ∈ merge last spans, last.start ≤ m.start := by
  induction spans generalizing last with
  | nil => simp [merge]
  | cons s spans ih =>
      rw [merge]
      split
      · exact ih (inOrder_joined h)
      · have hOrder : last.start ≤ s.start :=
          (List.pairwise_cons.mp h).1 s List.mem_cons_self
        intro m hm
        rcases List.mem_cons.mp hm with rfl | hm
        · exact Nat.le_refl _
        · exact Nat.le_trans hOrder (ih h.of_cons m hm)

theorem isSeparated_merge {last : Span} {spans : List Span} (h : InOrder (last :: spans))
    (hNonempty : ∀ s ∈ last :: spans, s.start < s.stop) : IsSeparated (merge last spans) := by
  induction spans generalizing last with
  | nil => exact ⟨hNonempty, List.pairwise_singleton _ _⟩
  | cons s spans ih =>
      obtain ⟨hLast, hRest⟩ := List.forall_mem_cons.mp hNonempty
      rw [merge]
      split
      · refine ih (inOrder_joined h) (List.forall_mem_cons.mpr ⟨?_, ?_⟩)
        · exact lt_max_of_lt_left hLast
        · exact (List.forall_mem_cons.mp hRest).2
      · rename_i hApart
        refine isSeparated_cons.mpr ⟨hLast, ?_, ih h.of_cons hRest⟩
        intro m hm
        exact Nat.lt_of_lt_of_le (Nat.lt_of_not_le hApart) (start_le_of_mem_merge h.of_cons m hm)

theorem precedes_trans (a b c : Span) (hab : precedes a b = true) (hbc : precedes b c = true) :
    precedes a c = true := by
  simp only [precedes, Bool.or_eq_true, Bool.and_eq_true, decide_eq_true_eq, beq_iff_eq] at *
  omega

theorem precedes_total (a b : Span) : (precedes a b || precedes b a) = true := by
  simp only [precedes, Bool.or_eq_true, Bool.and_eq_true, decide_eq_true_eq, beq_iff_eq]
  omega

theorem inOrder_mergeSort (spans : List Span) : InOrder (spans.mergeSort precedes) := by
  refine (List.pairwise_mergeSort precedes_trans precedes_total spans).imp ?_
  intro a b h
  simp only [precedes, Bool.or_eq_true, Bool.and_eq_true, decide_eq_true_eq, beq_iff_eq] at h
  omega

theorem covers_congr {spans others : List Span} (h : ∀ s, s ∈ spans ↔ s ∈ others) (p : Nat) :
    Covers spans p ↔ Covers others p := by
  simp only [Covers, h]

/-- Spans that are joined cover what they covered before. -/
theorem covers_mergeAll (spans : List Span) (p : Nat) :
    Covers (mergeAll spans) p ↔ Covers spans p := by
  have hSame : ∀ s, s ∈ spans.mergeSort precedes ↔ s ∈ spans := fun _ => List.mem_mergeSort
  rw [← covers_congr hSame p]
  have hOrder := inOrder_mergeSort spans
  unfold mergeAll
  split
  · rename_i hNone
    rw [hNone]
  · rename_i s rest hSorted
    rw [hSorted] at hOrder ⊢
    exact covers_merge hOrder p

/-- Spans that are joined stand apart. -/
theorem isSeparated_mergeAll {spans : List Span} (h : ∀ s ∈ spans, s.start < s.stop) :
    IsSeparated (mergeAll spans) := by
  have hOrder := inOrder_mergeSort spans
  have hNonempty : ∀ s ∈ spans.mergeSort precedes, s.start < s.stop :=
    fun s hs => h s (List.mem_mergeSort.mp hs)
  unfold mergeAll
  split
  · exact ⟨by simp, List.Pairwise.nil⟩
  · rename_i s rest hSorted
    rw [hSorted] at hOrder hNonempty
    exact isSeparated_merge hOrder hNonempty

theorem IsSeparated.start_le_of_covers {s : Span} {spans : List Span} {p : Nat}
    (h : IsSeparated (s :: spans)) (hp : Covers (s :: spans) p) : s.start ≤ p := by
  obtain ⟨hFirst, hNext, -⟩ := isSeparated_cons.mp h
  rcases covers_cons.mp hp with hOwn | ⟨other, hOther, hStart, -⟩
  · exact hOwn.1
  · have := hNext other hOther
    omega

/-- The first span of separated ones ends where the offsets that they cover first end. -/
theorem IsSeparated.covers_tail_iff {s : Span} {spans : List Span} (h : IsSeparated (s :: spans))
    (p : Nat) : Covers spans p ↔ Covers (s :: spans) p ∧ s.stop < p := by
  obtain ⟨-, hNext, -⟩ := isSeparated_cons.mp h
  rw [covers_cons]
  constructor
  · rintro ⟨other, hOther, hStart, hStop⟩
    exact ⟨Or.inr ⟨other, hOther, hStart, hStop⟩, Nat.lt_of_lt_of_le (hNext other hOther) hStart⟩
  · rintro ⟨hOwn | hLater, hBeyond⟩
    · omega
    · exact hLater

theorem IsSeparated.not_covers_stop {s : Span} {spans : List Span}
    (h : IsSeparated (s :: spans)) : ¬Covers (s :: spans) s.stop := by
  intro hStop
  rcases covers_cons.mp hStop with hOwn | hLater
  · exact absurd hOwn.2 (Nat.lt_irrefl _)
  · exact absurd ((h.covers_tail_iff s.stop).mp hLater).2 (Nat.lt_irrefl _)

/-- The first of separated spans goes as far as any span from its start whose offsets they cover. -/
theorem IsSeparated.stop_le_of_covers {s other : Span} {spans : List Span}
    (h : IsSeparated (s :: spans)) (hStart : other.start ≤ s.stop)
    (hCovers : ∀ p, other.start ≤ p → p < other.stop → Covers (s :: spans) p) :
    other.stop ≤ s.stop := by
  by_contra hBeyond
  exact h.not_covers_stop (hCovers s.stop hStart (Nat.lt_of_not_le hBeyond))

/-- Separated spans are settled by the offsets that they cover. -/
theorem IsSeparated.eq_of_covers_iff {as bs : List Span} (ha : IsSeparated as)
    (hb : IsSeparated bs) (h : ∀ p, Covers as p ↔ Covers bs p) : as = bs := by
  induction as generalizing bs with
  | nil =>
      cases bs with
      | nil => rfl
      | cons b bs =>
          have hFirst := (isSeparated_cons.mp hb).1
          have hCovers := (h b.start).mpr (covers_cons.mpr (Or.inl ⟨Nat.le_refl _, hFirst⟩))
          simp [Covers] at hCovers
  | cons a as ih =>
      have hFirst := (isSeparated_cons.mp ha).1
      cases bs with
      | nil =>
          have hCovers := (h a.start).mp (covers_cons.mpr (Or.inl ⟨Nat.le_refl _, hFirst⟩))
          simp [Covers] at hCovers
      | cons b bs =>
          have hOther := (isSeparated_cons.mp hb).1
          have hOwn : ∀ p, a.start ≤ p → p < a.stop → Covers (b :: bs) p :=
            fun p hStart hStop => (h p).mp (covers_cons.mpr (Or.inl ⟨hStart, hStop⟩))
          have hOthers : ∀ p, b.start ≤ p → p < b.stop → Covers (a :: as) p :=
            fun p hStart hStop => (h p).mpr (covers_cons.mpr (Or.inl ⟨hStart, hStop⟩))
          have hStart : a.start = b.start := by
            apply Nat.le_antisymm
            · exact ha.start_le_of_covers (hOthers b.start (Nat.le_refl _) hOther)
            · exact hb.start_le_of_covers (hOwn a.start (Nat.le_refl _) hFirst)
          have hStop : a.stop = b.stop := by
            apply Nat.le_antisymm
            · exact hb.stop_le_of_covers (by omega) hOwn
            · exact ha.stop_le_of_covers (by omega) hOthers
          have hRest : as = bs := by
            refine ih (isSeparated_cons.mp ha).2.2 (isSeparated_cons.mp hb).2.2 fun p => ?_
            rw [ha.covers_tail_iff, hb.covers_tail_iff, h p, hStop]
          rw [hRest, show a = b from congrArg₂ Span.mk hStart hStop]

theorem IsSeparated.eq_or_apart {spans : List Span} (h : IsSeparated spans) {m other : Span}
    (hm : m ∈ spans) (hOther : other ∈ spans) :
    m = other ∨ m.stop < other.start ∨ other.stop < m.start := by
  induction spans with
  | nil => cases hm
  | cons s spans ih =>
      obtain ⟨-, hNext, hRest⟩ := isSeparated_cons.mp h
      rw [List.mem_cons] at hm hOther
      rcases hm with rfl | hm
      · rcases hOther with rfl | hOther
        · exact Or.inl rfl
        · exact Or.inr (Or.inl (hNext other hOther))
      · rcases hOther with rfl | hOther
        · exact Or.inr (Or.inr (hNext m hm))
        · exact ih hRest hm hOther

/-- A stretch of covered offsets lies inside of each separated span that it meets, since neither the
offset before a span nor the one at its end is covered. -/
theorem IsSeparated.holds_stretch {spans : List Span} (h : IsSeparated spans) {i j p : Nat}
    (hCovers : ∀ q, i ≤ q → q < j → Covers spans q) {m : Span} (hm : m ∈ spans)
    (hHeld : m.start ≤ p ∧ p < m.stop) (hMeets : i ≤ p ∧ p < j) : m.start ≤ i ∧ j ≤ m.stop := by
  constructor
  · by_contra hBefore
    obtain ⟨other, hOther, hAround⟩ := hCovers (m.start - 1) (by omega) (by omega)
    rcases h.eq_or_apart hm hOther with rfl | hApart
    · omega
    · omega
  · by_contra hBeyond
    obtain ⟨other, hOther, hAround⟩ := hCovers m.stop (by omega) (by omega)
    rcases h.eq_or_apart hm hOther with rfl | hApart
    · omega
    · omega

end LogViewer.Span
