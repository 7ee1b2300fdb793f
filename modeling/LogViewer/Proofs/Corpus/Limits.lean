import Mathlib
import LogViewer.Proofs.Corpus.Places

/-! The limits that a filter sets. The ends of a range are told by the texts that they are given as,
and a record is put to the query only if it lies between them. -/
namespace LogViewer

/-- Whether an end of a range is what a text says: an empty text leaves the range open, and any
other one names an instant. -/
def IsLimit (text : String) (limit : Option Int) : Prop :=
  if text = "" then limit = none
  else ∃ instant, Timestamp.instant? text = .ok (some instant) ∧ limit = some instant

/-- Whether a record lies between two limits, which are included. -/
def Record.liesBetween (r : Record) (first last : Option Int) : Bool :=
  first.all (· ≤ r.instant) && last.all (r.instant ≤ ·)

theorem Bound.ofText?_of_ne_empty {text : String} (h : text ≠ "") :
    ofText? (some text) = do
      let some instant ← (Timestamp.instant? text).mapError .calendar
        | throw (.invalidBound text)
      return some { text, instant } := by
  unfold ofText?
  split
  · rename_i hNone
    cases hNone
  · rename_i hEmpty
    exact absurd (Option.some_inj.mp hEmpty) h
  · rename_i hSome
    cases hSome
    rfl

theorem exists_ofText?_iff {text : String} {limit : Option Int} :
    (∃ bound, Bound.ofText? (some text) = .ok bound ∧ bound.map (·.instant) = limit) ↔
      IsLimit text limit := by
  unfold IsLimit
  by_cases hEmpty : text = ""
  · rw [if_pos hEmpty, hEmpty, Bound.ofText?]
    simp [eq_comm]
  · rw [if_neg hEmpty, Bound.ofText?_of_ne_empty hEmpty]
    cases Timestamp.instant? text with
    | error e => simp [Except.mapError, bind, Except.bind]
    | ok instant =>
        cases instant with
        | none => simp [Except.mapError, bind, Except.bind, throw, throwThe, MonadExceptOf.throw]
        | some instant => simp [Except.mapError, bind, Except.bind, pure, Except.pure, eq_comm]

theorem exists_ofTexts?_iff {start finish : String} {first last : Option Int} :
    (∃ range, TimeRange.ofTexts? (some start) (some finish) = .ok range ∧
      range.start.map (·.instant) = first ∧ range.finish.map (·.instant) = last) ↔
      IsLimit start first ∧ IsLimit finish last := by
  rw [← exists_ofText?_iff, ← exists_ofText?_iff]
  constructor
  · rintro ⟨range, hRange, hFirst, hLast⟩
    obtain ⟨bound, hStart, hRange⟩ := bind_eq_ok hRange
    obtain ⟨other, hFinish, hRange⟩ := bind_eq_ok hRange
    cases hRange
    exact ⟨⟨bound, hStart, hFirst⟩, ⟨other, hFinish, hLast⟩⟩
  · rintro ⟨⟨bound, hStart, hFirst⟩, ⟨other, hFinish, hLast⟩⟩
    refine ⟨⟨bound, other⟩, ?_, hFirst, hLast⟩
    rw [TimeRange.ofTexts?, hStart, hFinish]
    rfl

theorem TimeRange.contains_eq (range : TimeRange) (r : Record) :
    range.contains r.instant =
      r.liesBetween (range.start.map (·.instant)) (range.finish.map (·.instant)) := by
  unfold contains Record.liesBetween
  rw [Option.all_map, Option.all_map]

namespace Filter

variable {range : TimeRange} {query : String} {r : Record}

theorem passes_eq (range : TimeRange) (query : String) (r : Record) :
    ({ range := some range, query } : Filter).passes r =
      if range.contains r.instant then
        if Query.isBlank query then .ok true else r.satisfies query
      else .ok false := rfl

theorem holdsUnder_passes :
    holdsUnder ({ range := some range, query } : Filter).passes r =
      (range.contains r.instant && (Query.isBlank query || holdsUnder (·.satisfies query) r)) := by
  unfold holdsUnder
  rw [passes_eq]
  cases range.contains r.instant <;> cases Query.isBlank query <;> simp

theorem exists_passes_iff :
    (∃ b, ({ range := some range, query } : Filter).passes r = .ok b) ↔
      (range.contains r.instant = true → Query.isBlank query = false →
        ∃ b, r.satisfies query = .ok b) := by
  rw [passes_eq]
  cases range.contains r.instant <;> cases Query.isBlank query <;> simp

end Filter

/-- A text that is missing or empty leaves an end of a range open. -/
theorem Bound.ofText?_of_missing {text : Option String} (h : text.getD "" = "") :
    ofText? text = .ok none := by
  cases text with
  | none => rfl
  | some text =>
      have hEmpty : text = "" := h
      rw [hEmpty]
      rfl

theorem TimeRange.ofTexts?_of_missing {start finish : Option String} (hStart : start.getD "" = "")
    (hFinish : finish.getD "" = "") : ofTexts? start finish = .ok {} := by
  rw [ofTexts?, Bound.ofText?_of_missing hStart, Bound.ofText?_of_missing hFinish]
  rfl

theorem TimeRange.contains_of_isOpen {range : TimeRange} (h : range.isOpen = true)
    (instant : Int) : range.contains instant = true := by
  rw [isOpen, Bool.and_eq_true, Option.isNone_iff_eq_none, Option.isNone_iff_eq_none] at h
  obtain ⟨hStart, hFinish⟩ := h
  rw [contains, hStart, hFinish]
  rfl

/-- A filter without a range puts every record to its query. -/
theorem Filter.passes_of_isOpen {f : Filter} (hOpen : f.range.all (·.isOpen) = true)
    (hBlank : Query.isBlank f.query = false) (r : Record) : f.passes r = r.satisfies f.query := by
  have hInside : f.range.all (·.contains r.instant) = true := by
    cases hRange : f.range with
    | none => rfl
    | some range =>
        rw [hRange] at hOpen
        exact TimeRange.contains_of_isOpen hOpen r.instant
  rw [passes, hInside, hBlank]
  rfl

theorem Corpus.filter_of_isOpen {f : Filter} (hOpen : f.range.all (·.isOpen) = true)
    (hBlank : Query.isBlank f.query = false) (c : Corpus) :
    c.filter f = placesOf c.records (·.satisfies f.query) :=
  congrArg (placesOf c.records) (funext (Filter.passes_of_isOpen hOpen hBlank))

end LogViewer
