import Mathlib
import LogViewer.Line.Timestamp

/-! The times that lines carry. What is read as the time of a line is told without the reading: a
time, a zone and a line number are texts of certain shapes, the time of an anchored line stands with
its zone right behind the number, and any other time is the first one that the word `at` marks. -/
namespace LogViewer

/-- A list is cut in two behind the longest front of which a test holds. -/
theorem span_eq_iff {α : Type} {p : α → Bool} {l front back : List α} :
    l.span p = (front, back) ↔
      l = front ++ back ∧ (∀ a ∈ front, p a = true) ∧ ∀ a ∈ back.head?, p a = false := by
  rw [List.span_eq_takeWhile_dropWhile, Prod.mk.injEq]
  constructor
  · rintro ⟨rfl, rfl⟩
    refine ⟨List.takeWhile_append_dropWhile.symm, fun a ha => List.mem_takeWhile_imp ha, ?_⟩
    intro a ha
    have hHead := List.head?_dropWhile_not p l
    rw [Option.mem_def.mp ha] at hHead
    exact hHead
  · rintro ⟨rfl, hFront, hBack⟩
    rw [List.takeWhile_append_of_pos hFront, List.dropWhile_append_of_pos hFront]
    cases back with
    | nil => simp
    | cons a back => simp [hBack a rfl]

/-- A text is cut in two at the first place where a character stands. -/
theorem span_ne_eq_iff {c : Char} {s front back : List Char} :
    s.span (· != c) = (front, back) ↔ s = front ++ back ∧ c ∉ front ∧ ∀ d ∈ back.head?, d = c := by
  simp only [span_eq_iff, bne_iff_ne, bne_eq_false_iff_eq, List.forall_mem_ne']

namespace Line

open Text Timestamp

/-- Whether a character may stand where a shape has `p`: any digit for the letter `d`, and nothing
but `p` itself for any other `p`. -/
def fits (p c : Char) : Bool := if p = 'd' then isDigit c else p == c

/-- Whether a text has a shape. -/
def HasShape (shape s : List Char) : Prop := List.Forall₂ (fun p c => fits p c = true) shape s

instance (shape s : List Char) : Decidable (HasShape shape s) :=
  inferInstanceAs (Decidable (List.Forall₂ _ shape s))

theorem afterShape?_cons (p c : Char) (shape s : List Char) :
    afterShape? (p :: shape) (c :: s) = if fits p c then afterShape? shape s else none := by
  rw [afterShape?]
  rfl

theorem afterShape?_eq_some_iff {shape s rest : List Char} :
    afterShape? shape s = some rest ↔ ∃ front, HasShape shape front ∧ s = front ++ rest := by
  induction shape generalizing s with
  | nil => simp [afterShape?, HasShape, @eq_comm _ s]
  | cons p shape ih =>
      cases s with
      | nil => simp [afterShape?, HasShape, List.forall₂_cons_left_iff]
      | cons c s =>
          rw [afterShape?_cons]
          constructor
          · intro h
            split at h
            · rename_i hFits
              obtain ⟨front, hShape, rfl⟩ := ih.mp h
              exact ⟨c :: front, List.Forall₂.cons hFits hShape, rfl⟩
            · cases h
          · rintro ⟨front, hShape, hFront⟩
            cases hShape with
            | cons hFits hShape =>
                cases hFront
                rw [if_pos hFits]
                exact ih.mpr ⟨_, hShape, rfl⟩

theorem afterShape?_append (shape others s : List Char) :
    afterShape? (shape ++ others) s = (afterShape? shape s).bind (afterShape? others) := by
  induction shape generalizing s with
  | nil => rfl
  | cons p shape ih =>
      cases s with
      | nil => rfl
      | cons c s =>
          rw [List.cons_append, afterShape?_cons, afterShape?_cons]
          split
          · exact ih s
          · rfl

/-- A shape in two parts is that of a text in two parts. -/
theorem hasShape_append_iff {shape others s : List Char} :
    HasShape (shape ++ others) s ↔
      ∃ front back, HasShape shape front ∧ HasShape others back ∧ s = front ++ back := by
  have hWhole (shape s : List Char) : afterShape? shape s = some [] ↔ HasShape shape s := by
    simp [afterShape?_eq_some_iff]
  rw [← hWhole, afterShape?_append, Option.bind_eq_some_iff]
  simp only [afterShape?_eq_some_iff, List.append_nil, exists_eq_right']
  constructor
  · rintro ⟨back, ⟨front, hFront, rfl⟩, hBack⟩
    exact ⟨front, back, hFront, hBack, rfl⟩
  · rintro ⟨front, back, hFront, hBack, rfl⟩
    exact ⟨back, ⟨front, hFront, rfl⟩, hBack⟩

/-- A character that is no digit is in a text only if it is in its shape. -/
theorem HasShape.not_mem {shape s : List Char} (h : HasShape shape s) {c : Char}
    (hDigit : isDigit c = false) (hShape : c ∉ shape) : c ∉ s := by
  induction h with
  | nil => simp
  | @cons p d shape s hFits h ih =>
      rw [List.mem_cons, not_or] at hShape ⊢
      refine ⟨?_, ih hShape.2⟩
      rintro rfl
      unfold fits at hFits
      split at hFits
      · simp [hDigit] at hFits
      · exact hShape.1 (beq_iff_eq.mp hFits).symm

/-- A shape without the letter `d` is a text of its own. -/
theorem hasShape_iff_eq {shape s : List Char} (h : 'd' ∉ shape) : HasShape shape s ↔ s = shape := by
  induction shape generalizing s with
  | nil => simp [HasShape]
  | cons p shape ih =>
      rw [List.mem_cons, not_or] at h
      cases s with
      | nil => simp [HasShape]
      | cons c s =>
          have hFits : fits p c = true ↔ c = p := by
            rw [fits, if_neg (Ne.symm h.1), beq_iff_eq, eq_comm]
          rw [HasShape, List.forall₂_cons, hFits, List.cons.injEq]
          exact and_congr_right' (ih h.2)

/-- The shape of a row of digits. -/
theorem hasShape_replicate_iff {n : Nat} {s : List Char} :
    HasShape (List.replicate n 'd') s ↔ s.length = n ∧ ∀ c ∈ s, isDigit c = true := by
  induction n generalizing s with
  | zero => cases s <;> simp [HasShape]
  | succ n ih =>
      cases s with
      | nil => simp [HasShape, List.replicate_succ]
      | cons c s =>
          have hFits : fits 'd' c = isDigit c := rfl
          have hRest : List.Forall₂ (fun p c => fits p c = true) (List.replicate n 'd') s ↔ _ := ih
          rw [HasShape, List.replicate_succ, List.forall₂_cons, hFits, hRest, List.length_cons,
            List.forall_mem_cons, Nat.add_right_cancel_iff]
          exact and_left_comm

/-- Whether a text is a line number. -/
structure IsNumber (number : List Char) : Prop where
  ne_nil : number ≠ []
  isDigit : ∀ c ∈ number, isDigit c = true

/-- Whether a text is a date and a time of the day with a fraction of the second of one digit or
more. The character `mark` stands between date and time. -/
def IsTime (mark : Char) (time : List Char) : Prop :=
  ∃ front digits, HasShape ("dddd-dd-dd".toList ++ mark :: "dd:dd:dd.d".toList) front ∧
    (∀ c ∈ digits, isDigit c = true) ∧ time = front ++ digits

/-- Whether a text is a zone. -/
def IsZone (zone : List Char) : Prop :=
  ∃ sign clock, (sign = '+' ∨ sign = '-') ∧ HasShape "dd:dd".toList clock ∧ zone = sign :: clock

/-- A time holds nothing but digits, the characters of its shape and its mark. -/
theorem IsTime.not_mem {mark c : Char} {time : List Char} (h : IsTime mark time)
    (hDigit : isDigit c = false) (hShape : c ∉ "dddd-dd-dd".toList ++ mark :: "dd:dd:dd.d".toList) :
    c ∉ time := by
  obtain ⟨front, digits, hFront, hDigits, rfl⟩ := h
  rw [List.mem_append, not_or]
  constructor
  · exact hFront.not_mem hDigit hShape
  · intro hMem
    rw [hDigits c hMem] at hDigit
    cases hDigit

theorem IsTime.bar_not_mem {mark : Char} {time : List Char} (h : IsTime mark time)
    (hMark : '|' ≠ mark) : '|' ∉ time := by
  apply h.not_mem (by decide)
  simp [hMark]

theorem IsZone.bar_not_mem {zone : List Char} (h : IsZone zone) : '|' ∉ zone := by
  obtain ⟨sign, clock, hSign, hClock, rfl⟩ := h
  rw [List.mem_cons, not_or]
  constructor
  · rintro rfl
    exact absurd hSign (by decide)
  · exact hClock.not_mem (by decide) (by decide)

theorem IsNumber.bar_not_mem_append {number : List Char} (h : IsNumber number) :
    '|' ∉ number ++ [':'] := by
  rw [List.mem_append, not_or]
  refine ⟨fun hMem => ?_, by decide⟩
  exact absurd (h.isDigit '|' hMem) (by decide)

theorem IsTime.bar_not_mem_append {time zone : List Char} (hTime : IsTime 'T' time)
    (hZone : IsZone zone) : '|' ∉ time ++ zone := by
  rw [List.mem_append, not_or]
  exact ⟨hTime.bar_not_mem (by decide), hZone.bar_not_mem⟩

theorem stamp?_append {mark : Char} {time rest : List Char} (hTime : IsTime mark time)
    (hRest : ∀ c ∈ rest.head?, isDigit c = false) :
    stamp? mark (time ++ rest) = some (time, rest) := by
  obtain ⟨front, digits, hFront, hDigits, rfl⟩ := hTime
  have hShape := afterShape?_eq_some_iff.mpr
    ⟨front, hFront, List.append_assoc front digits rest⟩
  have hSpan := span_eq_iff.mpr ⟨rfl, hDigits, hRest⟩
  rw [List.span_eq_takeWhile_dropWhile, Prod.mk.injEq] at hSpan
  unfold stamp?
  simp only [hShape, hSpan.2]
  rw [List.length_append, Nat.add_sub_cancel, List.take_left]

/-- A time is read to the last digit of its fraction. -/
theorem stamp?_eq_some_iff {mark : Char} {s time rest : List Char} :
    stamp? mark s = some (time, rest) ↔
      IsTime mark time ∧ (∀ c ∈ rest.head?, isDigit c = false) ∧ s = time ++ rest := by
  constructor
  · intro h
    cases hShape : afterShape? ("dddd-dd-dd".toList ++ mark :: "dd:dd:dd.d".toList) s with
    | none =>
        rw [stamp?, hShape] at h
        cases h
    | some t =>
        obtain ⟨front, hFront, rfl⟩ := afterShape?_eq_some_iff.mp hShape
        obtain ⟨hSplit, hDigits, hRest⟩ :=
          span_eq_iff.mp (List.span_eq_takeWhile_dropWhile isDigit t)
        rw [hSplit, ← List.append_assoc] at h ⊢
        have hTime : IsTime mark (front ++ t.takeWhile isDigit) := ⟨front, _, hFront, hDigits, rfl⟩
        rw [stamp?_append hTime hRest] at h
        cases h
        exact ⟨hTime, hRest, rfl⟩
  · rintro ⟨hTime, hRest, rfl⟩
    exact stamp?_append hTime hRest

theorem IsNumber.takeWhile_append {number : List Char} (h : IsNumber number) (rest : List Char) :
    (number ++ ':' :: rest).takeWhile Text.isDigit = number := by
  have hSpan : (number ++ ':' :: rest).span Text.isDigit = (number, ':' :: rest) :=
    span_eq_iff.mpr ⟨rfl, h.isDigit, by rintro c ⟨⟩; decide⟩
  rw [List.span_eq_takeWhile_dropWhile] at hSpan
  exact congrArg Prod.fst hSpan

theorem afterNumber?_append {number : List Char} (h : IsNumber number) (rest : List Char) :
    afterNumber? (number ++ ':' :: '|' :: rest) = some rest := by
  have hDrop : (number ++ ':' :: '|' :: rest).dropWhile isDigit = ':' :: '|' :: rest := by
    rw [List.dropWhile_append_of_pos h.isDigit]
    rfl
  have hLength := List.length_pos_iff.mpr h.ne_nil
  unfold afterNumber?
  simp only [hDrop, List.length_append, List.length_cons]
  rw [if_neg (by omega)]

/-- What is read behind the number of an anchored line. -/
theorem afterNumber?_eq_some_iff {s rest : List Char} :
    afterNumber? s = some rest ↔ IsNumber (s.takeWhile isDigit) ∧
      s = s.takeWhile isDigit ++ ':' :: '|' :: rest := by
  constructor
  · intro h
    obtain ⟨hSplit, hDigits, -⟩ := span_eq_iff.mp (List.span_eq_takeWhile_dropWhile isDigit s)
    unfold afterNumber? at h
    split at h
    · rename_i t hRest
      split at h
      · cases h
      · rename_i hLength
        cases h
        rw [hRest] at hSplit
        refine ⟨⟨?_, hDigits⟩, hSplit⟩
        intro hNil
        rw [hNil, List.nil_append] at hSplit
        exact hLength (congrArg List.length hSplit).symm
    · cases h
  · rintro ⟨hNumber, hSplit⟩
    rw [hSplit]
    exact afterNumber?_append hNumber rest

theorem isSome_afterShape?_zone {s : List Char} :
    (afterShape? "dd:dd|".toList s).isSome = true ↔
      ∃ clock rest, HasShape "dd:dd".toList clock ∧ s = clock ++ '|' :: rest := by
  have hBar (front : List Char) : HasShape ['|'] front ↔ front = ['|'] :=
    hasShape_iff_eq (by decide)
  have hShape : "dd:dd|".toList = "dd:dd".toList ++ ['|'] := by decide
  simp only [hShape, afterShape?_append, Option.isSome_iff_exists, Option.bind_eq_some_iff,
    afterShape?_eq_some_iff, hBar]
  constructor
  · rintro ⟨rest, _, ⟨clock, hClock, rfl⟩, _, rfl, rfl⟩
    exact ⟨clock, rest, hClock, rfl⟩
  · rintro ⟨clock, rest, hClock, rfl⟩
    exact ⟨rest, _, ⟨clock, hClock, rfl⟩, _, rfl, rfl⟩

/-- The time of an anchored line stands with its zone between the number and the next bar. -/
theorem anchoredTime?_eq_some_iff {s time : List Char} :
    anchoredTime? s = some time ↔ ∃ number zone rest, IsNumber number ∧ IsTime 'T' time ∧
      IsZone zone ∧ s = number ++ ':' :: '|' :: (time ++ (zone ++ '|' :: rest)) := by
  unfold anchoredTime?
  simp only [Option.bind_eq_bind, Option.bind_eq_some_iff, Prod.exists]
  constructor
  · rintro ⟨t, hAfter, time', zone, hStamp, hZone⟩
    obtain ⟨hNumber, hLine⟩ := afterNumber?_eq_some_iff.mp hAfter
    obtain ⟨hTime, -, rfl⟩ := stamp?_eq_some_iff.mp hStamp
    cases zone with
    | nil => cases hZone
    | cons sign zone =>
        simp only [Option.bind_eq_some_iff, Option.guard_eq_some', Option.pure_def,
          Option.some.injEq, isSome_afterShape?_zone] at hZone
        obtain ⟨-, hSign, -, ⟨clock, rest, hClock, rfl⟩, rfl⟩ := hZone
        exact ⟨_, sign :: clock, rest, hNumber, hTime, ⟨sign, clock, hSign, hClock, rfl⟩, hLine⟩
  · rintro ⟨number, zone, rest, hNumber, hTime, ⟨sign, clock, hSign, hClock, rfl⟩, rfl⟩
    refine ⟨_, afterNumber?_append hNumber _, time, _, stamp?_append hTime ?_, ?_⟩
    · rintro c ⟨⟩
      rcases hSign with rfl | rfl <;> decide
    · simp only [List.cons_append, Option.bind_eq_some_iff, Option.guard_eq_some', Option.pure_def,
        isSome_afterShape?_zone]
      exact ⟨(), hSign, (), ⟨clock, rest, hClock, rfl⟩, trivial⟩

/-- Whether a text begins with a time that the word `at` marks. -/
def BeginsMarked (s time : List Char) : Prop :=
  ∃ rest, s = "at ".toList ++ (time ++ rest) ∧ IsTime ' ' time ∧
    ∀ c ∈ rest.head?, isDigit c = false

/-- Whether a time is the first one in a text that the word `at` marks. -/
def IsFirstMarked (s time : List Char) : Prop :=
  ∃ n, BeginsMarked (s.drop n) time ∧ ∀ m < n, ∀ other, ¬BeginsMarked (s.drop m) other

theorem beginsMarked_iff {s time : List Char} :
    BeginsMarked s time ↔
      ∃ rest, (afterShape? "at ".toList s >>= stamp? ' ') = some (time, rest) := by
  have hShape (front : List Char) : HasShape "at ".toList front ↔ front = "at ".toList :=
    hasShape_iff_eq (by decide)
  simp only [BeginsMarked, Option.bind_eq_bind, Option.bind_eq_some_iff, afterShape?_eq_some_iff,
    hShape, stamp?_eq_some_iff]
  constructor
  · rintro ⟨rest, rfl, hTime, hRest⟩
    exact ⟨rest, _, ⟨_, rfl, rfl⟩, hTime, hRest, rfl⟩
  · rintro ⟨rest, _, ⟨_, rfl, rfl⟩, hTime, hRest, rfl⟩
    exact ⟨rest, rfl, hTime, hRest⟩

/-- A text begins with no more than one marked time. -/
theorem BeginsMarked.unique {s time other : List Char} (h : BeginsMarked s time)
    (hOther : BeginsMarked s other) : time = other := by
  obtain ⟨rest, hRest⟩ := beginsMarked_iff.mp h
  obtain ⟨rest', hRest'⟩ := beginsMarked_iff.mp hOther
  rw [hRest] at hRest'
  cases hRest'
  rfl

/-- The search for a marked time finds the first one. -/
theorem markedTime?_eq_some_iff {s time : List Char} :
    markedTime? s = some time ↔ IsFirstMarked s time := by
  induction s with
  | nil =>
      refine iff_of_false (by simp [markedTime?]) ?_
      rintro ⟨n, ⟨rest, hNil, -⟩, -⟩
      simp at hNil
  | cons c s ih =>
      rw [markedTime?]
      split
      · rename_i own rest hOwn
        have hBegins : BeginsMarked (c :: s) own := beginsMarked_iff.mpr ⟨rest, hOwn⟩
        rw [Option.some_inj]
        constructor
        · rintro rfl
          exact ⟨0, hBegins, by simp⟩
        · rintro ⟨n, hTime, hFirst⟩
          cases n with
          | zero => exact hBegins.unique hTime
          | succ n => exact absurd hBegins (hFirst 0 (Nat.succ_pos n) own)
      · rename_i hNone
        have hNot (other : List Char) : ¬BeginsMarked (c :: s) other := by
          intro hBegins
          obtain ⟨rest, hSome⟩ := beginsMarked_iff.mp hBegins
          rw [hNone] at hSome
          cases hSome
        rw [ih]
        constructor
        · rintro ⟨n, hTime, hFirst⟩
          refine ⟨n + 1, hTime, fun m hm => ?_⟩
          cases m with
          | zero => exact hNot
          | succ m => exact hFirst m (Nat.lt_of_succ_lt_succ hm)
        · rintro ⟨n, hTime, hFirst⟩
          cases n with
          | zero => exact absurd hTime (hNot time)
          | succ n => exact ⟨n, hTime, fun m hm => hFirst (m + 1) (Nat.succ_lt_succ hm)⟩

theorem IsFirstMarked.unique {s time other : List Char} (h : IsFirstMarked s time)
    (hOther : IsFirstMarked s other) : time = other := by
  rw [← markedTime?_eq_some_iff] at h hOther
  exact Option.some_inj.mp (h.symm.trans hOther)

end Line

end LogViewer
