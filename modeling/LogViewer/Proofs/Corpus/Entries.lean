import Mathlib
import LogViewer.Corpus.Load
import LogViewer.Proofs.Calendar.Zone

/-! What becomes of an entry is decided by its timestamp alone: it is a record if the timestamp names
an instant, it is counted if there is no timestamp or none that names an instant, and it stops the
reading if its zone leads out of the calendar. -/
namespace LogViewer

variable {ν : Type} [Payload ν]

/-- The timestamp of a hit with a line, in case it has one: the one that the line carries, else the
one beside it. -/
def datingOfHit? (hit : ν) : Option (Option String) :=
  (lineOf? hit).map fun (source, line) =>
    (Line.timestamp? line).or
      (((Payload.member? source "timestamp").bind (Payload.shape · |>.timestamp?)).filter (· != ""))

/-- The timestamp of an object that is an entry, in case it is a text or a number. -/
def datingOfObject? (fields : List (String × ν)) : Option (Option String) :=
  (timestampOf? fields).map (Payload.shape · |>.timestamp?)

/-- What becomes of something that is an entry with a timestamp, an entry without one, or no entry
that has to be dated. -/
inductive Becomes : Option (Option String) → Except CalendarError (Option Outcome) → Prop where
  | undated {result : Option Outcome}
      (hTimestamp : ∀ outcome ∈ result, outcome.isNoTimestamp = false)
      (hRecord : ∀ outcome ∈ result, outcome.record? = none) : Becomes none (.ok result)
  | missing : Becomes (some none) (.ok (some .noTimestamp))
  | unusable {timestamp : String} (hInstant : Timestamp.instant? timestamp = .ok none) :
      Becomes (some (some timestamp)) (.ok (some .noTimestamp))
  | outside {timestamp : String} (hInstant : Timestamp.instant? timestamp = .error .outOfRange) :
      Becomes (some (some timestamp)) (.error .outOfRange)
  | record {timestamp : String} {r : Record}
      (hInstant : Timestamp.instant? timestamp = .ok (some r.instant))
      (hTimestamp : r.timestamp = timestamp) :
      Becomes (some (some timestamp)) (.ok (some (.record r)))

theorem becomes_nothing : Becomes none (.ok none) := by
  refine Becomes.undated ?_ ?_
  · rintro _ ⟨⟩
  · rintro _ ⟨⟩

/-- A line is asked for its own timestamp again, so only an empty one beside it would be lost. -/
theorem or_filter_or_filter {own beside : Option String} {timestamp : String}
    (h : own.or (beside.filter (· != "")) = some timestamp) :
    own.or ((some timestamp).filter (· != "")) = some timestamp := by
  cases own with
  | some t => exact h
  | none =>
      rw [Option.none_or] at h ⊢
      have hFilled := (Option.filter_eq_some_iff.mp h).2
      simp [hFilled]

/-- The record of a line is dated by the timestamp that the line was given, whatever grammar it
follows. -/
theorem recordOfLine?_cases {line timestamp : String}
    (h : (Line.timestamp? line).or ((some timestamp).filter (· != "")) = some timestamp) :
    (Timestamp.instant? timestamp = .error .outOfRange ∧
      recordOfLine? line timestamp = .error .outOfRange) ∨
    (Timestamp.instant? timestamp = .ok none ∧ recordOfLine? line timestamp = .ok none) ∨
    ∃ r, Timestamp.instant? timestamp = .ok (some r.instant) ∧ r.timestamp = timestamp ∧
      recordOfLine? line timestamp = .ok (some r) := by
  unfold recordOfLine? Line.record?
  rw [h]
  dsimp only
  cases hInstant : Timestamp.instant? timestamp with
  | error e =>
      refine Or.inl ⟨rfl, ?_⟩
      cases Line.structure? line <;> rfl
  | ok instant? =>
      refine Or.inr ?_
      cases instant? with
      | none =>
          refine Or.inl ⟨rfl, ?_⟩
          cases Line.structure? line <;> rfl
      | some instant =>
          refine Or.inr ?_
          cases Line.structure? line with
          | none => exact ⟨_, rfl, rfl, rfl⟩
          | some parts => exact ⟨_, rfl, rfl, rfl⟩

/-- What becomes of a hit. -/
theorem becomes_outcomeOfHit (hit : ν) (index : Nat) :
    Becomes (datingOfHit? hit) ((outcomeOfHit hit index).map some) := by
  unfold outcomeOfHit datingOfHit?
  cases hLine : lineOf? hit with
  | none =>
      refine Becomes.undated ?_ ?_
      · rintro _ ⟨⟩
        rfl
      · rintro _ ⟨⟩
        rfl
  | some sourceAndLine =>
      obtain ⟨source, line⟩ := sourceAndLine
      dsimp only [Option.map_some]
      cases hTimestamp : (Line.timestamp? line).or (((Payload.member? source "timestamp").bind
          (Payload.shape · |>.timestamp?)).filter (· != "")) with
      | none => exact Becomes.missing
      | some timestamp =>
          dsimp only
          rcases recordOfLine?_cases (or_filter_or_filter hTimestamp) with
            ⟨hInstant, hRecord⟩ | ⟨hInstant, hRecord⟩ | ⟨r, hInstant, hSame, hRecord⟩
          · rw [hRecord]
            exact Becomes.outside hInstant
          · rw [hRecord]
            exact Becomes.unusable hInstant
          · rw [hRecord]
            exact Becomes.record hInstant hSame

/-- What becomes of an object. -/
theorem becomes_outcomeOfObject? (path : String) (fields : List (String × ν)) :
    Becomes (datingOfObject? fields) (outcomeOfObject? path fields) := by
  unfold outcomeOfObject? datingOfObject?
  cases hValue : timestampOf? fields with
  | none => exact becomes_nothing
  | some value =>
      dsimp only [Option.map_some]
      cases hTimestamp : (Payload.shape value).timestamp? with
      | none => exact Becomes.missing
      | some timestamp =>
          dsimp only
          cases hInstant : Timestamp.instant? timestamp with
          | error e => exact Becomes.outside hInstant
          | ok instant? =>
              cases instant? with
              | none => exact Becomes.unusable hInstant
              | some instant => exact Becomes.record hInstant rfl

/-- Whether an entry has a timestamp that names an instant. -/
def isDated : Option String → Bool
  | none => false
  | some timestamp => match Timestamp.instant? timestamp with
    | .ok (some _) => true
    | _ => false

theorem Becomes.eq_error {dating : Option (Option String)}
    {result : Except CalendarError (Option Outcome)} (h : Becomes dating result) :
    result = .error .outOfRange ↔
      ∃ timestamp, dating = some (some timestamp) ∧ Timestamp.LeavesCalendar timestamp := by
  simp only [← Timestamp.instant?_eq_error_iff]
  cases h with
  | undated => simp
  | missing => simp
  | unusable hInstant => simp [hInstant]
  | outside hInstant => simp [hInstant]
  | record hInstant => simp [hInstant]

/-- An entry is counted among those without a timestamp, or becomes a record, as it is dated. -/
theorem Becomes.counts {dating : Option (Option String)} {outcome : Option Outcome}
    (h : Becomes dating (.ok outcome)) :
    outcome.toList.countP Outcome.isNoTimestamp = dating.toList.countP (!isDated ·) ∧
      (outcome.toList.filterMap Outcome.record?).length = dating.toList.countP isDated := by
  cases h with
  | undated hTimestamp hRecord =>
      cases outcome with
      | none => exact ⟨rfl, rfl⟩
      | some outcome => simp [hTimestamp outcome rfl, hRecord outcome rfl]
  | missing => exact ⟨rfl, rfl⟩
  | unusable hInstant => simp [isDated, hInstant, Outcome.isNoTimestamp, Outcome.record?]
  | record hInstant => simp [isDated, hInstant, Outcome.isNoTimestamp, Outcome.record?]

theorem filterMap_cons_toList {α β : Type} (f : α → Option β) (a : α) (l : List α) :
    (a :: l).filterMap f = (f a).toList ++ l.filterMap f := by
  rw [List.filterMap_cons]
  cases f a <;> rfl

section

variable {α β : Type} {f : α → Except CalendarError β} {out : β → Option Outcome}
  {dating : α → Option (Option String)} {l : List α}

/-- One entry with a zone that leads out of the calendar stops the reading of all. -/
theorem mapM_becomes_error (hBecomes : ∀ a ∈ l, Becomes (dating a) ((f a).map out))
    {timestamp : String} (hMem : some timestamp ∈ l.filterMap dating)
    (hLeaves : Timestamp.LeavesCalendar timestamp) : l.mapM f = .error .outOfRange := by
  induction l with
  | nil => cases hMem
  | cons a l ih =>
      have hHead := hBecomes a List.mem_cons_self
      rw [List.mapM_cons]
      cases hResult : f a with
      | error e => rfl
      | ok b =>
          rw [hResult] at hHead
          have hTail : some timestamp ∈ l.filterMap dating := by
            rw [filterMap_cons_toList, List.mem_append] at hMem
            refine hMem.resolve_left fun hDating => ?_
            have hError := hHead.eq_error.mpr
              ⟨timestamp, Option.mem_toList.mp hDating, hLeaves⟩
            cases hError
          rw [ih (fun c hc => hBecomes c (List.mem_cons_of_mem a hc)) hTail]
          rfl

/-- Without such an entry all are read, and each is counted as it is dated. -/
theorem mapM_becomes_ok (hBecomes : ∀ a ∈ l, Becomes (dating a) ((f a).map out))
    (hStay : ∀ timestamp, some timestamp ∈ l.filterMap dating →
      ¬Timestamp.LeavesCalendar timestamp) :
    ∃ results, l.mapM f = .ok results ∧
      (results.filterMap out).countP Outcome.isNoTimestamp =
        (l.filterMap dating).countP (!isDated ·) ∧
      ((results.filterMap out).filterMap Outcome.record?).length =
        (l.filterMap dating).countP isDated := by
  induction l with
  | nil => exact ⟨[], rfl, rfl, rfl⟩
  | cons a l ih =>
      have hHead := hBecomes a List.mem_cons_self
      simp only [filterMap_cons_toList dating, List.mem_append] at hStay ⊢
      obtain ⟨results, hResults, hSkipped, hRecords⟩ :=
        ih (fun c hc => hBecomes c (List.mem_cons_of_mem a hc))
          (fun timestamp hMem => hStay timestamp (Or.inr hMem))
      cases hResult : f a with
      | error e =>
          rw [hResult] at hHead
          obtain ⟨timestamp, hDating, hLeaves⟩ := hHead.eq_error.mp rfl
          exact absurd hLeaves (hStay timestamp (Or.inl (Option.mem_toList.mpr hDating)))
      | ok b =>
          rw [hResult] at hHead
          obtain ⟨hHeadSkipped, hHeadRecords⟩ := Becomes.counts hHead
          refine ⟨b :: results, ?_, ?_, ?_⟩
          · rw [List.mapM_cons, hResult, hResults]
            rfl
          · rw [filterMap_cons_toList, List.countP_append, List.countP_append, hHeadSkipped,
              hSkipped]
          · rw [filterMap_cons_toList, List.filterMap_append, List.length_append,
              List.countP_append, hHeadRecords, hRecords]

end

end LogViewer
