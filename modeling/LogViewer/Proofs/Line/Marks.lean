import Mathlib
import LogViewer.Proofs.Line.Times
import LogViewer.Proofs.Text.Joined

/-! Marked times in texts that are put together. A blank before a character that no marked time holds
parts a text so that every marked time stands on one side of it: the first one of the whole text is
the first one of the left side, and if there is none, the first one of the right side. -/
namespace LogViewer.Line

open Text

variable {s time : List Char}

theorem markedTime?_of_beginsMarked (h : BeginsMarked s time) : markedTime? s = some time := by
  rw [markedTime?_eq_some_iff]
  exact ⟨0, h, by simp⟩

theorem markedTime?_cons_of_not {c : Char} (h : ∀ time, ¬BeginsMarked (c :: s) time) :
    markedTime? (c :: s) = markedTime? s := by
  rw [markedTime?]
  split
  · rename_i own rest hOwn
    exact absurd (beginsMarked_iff.mpr ⟨rest, hOwn⟩) (h own)
  · rfl

/-- Whether a time that the word `at` marks stands somewhere in a text. -/
def HoldsMark (s : List Char) : Prop := ∃ time, IsTime ' ' time ∧ "at ".toList ++ time <:+: s

/-- A time goes on for as long as digits follow it. -/
theorem exists_beginsMarked (h : IsTime ' ' time) (rest : List Char) :
    ∃ whole, BeginsMarked ("at ".toList ++ (time ++ rest)) whole := by
  obtain ⟨front, digits, hFront, hDigits, rfl⟩ := h
  obtain ⟨hSplit, hMore, hRest⟩ := span_eq_iff.mp (List.span_eq_takeWhile_dropWhile isDigit rest)
  refine ⟨front ++ (digits ++ rest.takeWhile isDigit), rest.dropWhile isDigit, ?_, ?_, hRest⟩
  · conv_lhs => rw [hSplit]
    simp
  · refine ⟨front, _, hFront, ?_, rfl⟩
    intro c hc
    exact (List.mem_append.mp hc).elim (hDigits c) (hMore c)

theorem markedTime?_append_ne_none (h : BeginsMarked s time) (front : List Char) :
    markedTime? (front ++ s) ≠ none := by
  induction front with
  | nil => simp [markedTime?_of_beginsMarked h]
  | cons c front ih =>
      rw [List.cons_append]
      by_cases hBegins : ∃ other, BeginsMarked (c :: (front ++ s)) other
      · obtain ⟨other, hOther⟩ := hBegins
        simp [markedTime?_of_beginsMarked hOther]
      · rw [markedTime?_cons_of_not (not_exists.mp hBegins)]
        exact ih

theorem markedTime?_eq_none_iff : markedTime? s = none ↔ ¬HoldsMark s := by
  constructor
  · rintro hNone ⟨time, hTime, front, rest, rfl⟩
    obtain ⟨whole, hBegins⟩ := exists_beginsMarked hTime rest
    rw [List.append_assoc, List.append_assoc] at hNone
    exact markedTime?_append_ne_none hBegins front hNone
  · intro hNot
    rw [Option.eq_none_iff_forall_ne_some]
    intro time h
    obtain ⟨n, ⟨rest, hDrop, hTime, -⟩, -⟩ := markedTime?_eq_some_iff.mp h
    refine hNot ⟨time, hTime, ?_⟩
    have hFront : "at ".toList ++ time <+: s.drop n := ⟨rest, by rw [hDrop, List.append_assoc]⟩
    exact hFront.isInfix.trans (List.drop_suffix n s).isInfix

/-- A time ends in a digit. -/
theorem IsTime.exists_eq_concat {mark : Char} (h : IsTime mark time) :
    ∃ front c, isDigit c = true ∧ time = front ++ [c] := by
  obtain ⟨shaped, digits, hShaped, hDigits, rfl⟩ := h
  rcases List.eq_nil_or_concat digits with rfl | ⟨digits, c, rfl⟩
  · have hShape : "dddd-dd-dd".toList ++ mark :: "dd:dd:dd.d".toList =
        ("dddd-dd-dd".toList ++ mark :: "dd:dd:dd.".toList) ++ List.replicate 1 'd' := rfl
    rw [hShape, hasShape_append_iff] at hShaped
    obtain ⟨front, last, -, hLast, rfl⟩ := hShaped
    obtain ⟨hLength, hDigit⟩ := hasShape_replicate_iff.mp hLast
    obtain ⟨c, rfl⟩ := List.length_eq_one_iff.mp hLength
    exact ⟨front, c, hDigit c (List.mem_singleton_self c), List.append_nil _⟩
  · refine ⟨shaped ++ digits, c, hDigits c (by simp), by simp⟩

/-- Whether a character stands nowhere in a marked time but at its front. -/
structure PartsMarks (c : Char) : Prop where
  not_digit : isDigit c = false
  not_mem : c ∉ "t dddd-dd-dd dd:dd:dd.d".toList

theorem partsMarks_bar : PartsMarks '|' := ⟨by decide, by decide⟩

theorem partsMarks_letter : PartsMarks 'a' := ⟨by decide, by decide⟩

variable {c : Char}

theorem PartsMarks.not_mem_append (h : PartsMarks c) (hTime : IsTime ' ' time) :
    c ∉ "t ".toList ++ time := by
  have hSplit : "t dddd-dd-dd dd:dd:dd.d".toList =
      "t ".toList ++ ("dddd-dd-dd".toList ++ ' ' :: "dd:dd:dd.d".toList) := by decide
  have hNot := h.not_mem
  rw [hSplit, List.mem_append, not_or] at hNot
  rw [List.mem_append, not_or]
  exact ⟨hNot.1, hTime.not_mem h.not_digit hNot.2⟩

/-- Behind its first character no marked time reaches over a blank before such a character. -/
theorem beginsMarked_append_iff (h : PartsMarks c) (hNil : s ≠ []) (t : List Char) :
    BeginsMarked (s ++ ' ' :: c :: t) time ↔ BeginsMarked s time := by
  obtain ⟨d, s, rfl⟩ := List.exists_cons_of_ne_nil hNil
  constructor
  · rintro ⟨rest, hWhole, hTime, hRest⟩
    obtain ⟨rfl, hTail⟩ : d = 'a' ∧ s ++ ' ' :: c :: t = "t ".toList ++ (time ++ rest) :=
      List.cons.inj hWhole
    have hFront : "t ".toList ++ time <+: s ++ [' '] := by
      apply isPrefix_of_not_mem (c := c) (t := t) ⟨rest, ?_⟩ (h.not_mem_append hTime)
      simp [hTail]
    rcases List.prefix_concat_iff.mp hFront with hBlank | ⟨more, rfl⟩
    · obtain ⟨front, last, hDigit, rfl⟩ := hTime.exists_eq_concat
      rw [← List.append_assoc] at hBlank
      obtain rfl := List.singleton_inj.mp (List.append_inj_right' hBlank rfl)
      exact absurd hDigit (by decide)
    · rw [List.append_assoc, List.append_assoc, List.append_cancel_left_eq,
        List.append_cancel_left_eq] at hTail
      refine ⟨more, by simp, hTime, ?_⟩
      cases more with
      | nil => simp
      | cons e more =>
          rw [← hTail] at hRest
          simpa using hRest
  · rintro ⟨rest, hWhole, hTime, hRest⟩
    refine ⟨rest ++ ' ' :: c :: t, by rw [hWhole]; simp, hTime, ?_⟩
    cases rest with
    | nil =>
        rintro c ⟨⟩
        decide
    | cons e rest => simpa using hRest

theorem markedTime?_cons_of_ne (h : c ≠ 'a') (s : List Char) :
    markedTime? (c :: s) = markedTime? s := by
  apply markedTime?_cons_of_not
  rintro time ⟨rest, hWhole, -⟩
  exact h (List.cons.inj hWhole).1

/-- The first marked time of a text that such a blank parts. -/
theorem markedTime?_append (h : PartsMarks c) (s t : List Char) :
    markedTime? (s ++ ' ' :: c :: t) = (markedTime? s).or (markedTime? (c :: t)) := by
  induction s with
  | nil =>
      rw [List.nil_append, markedTime?_cons_of_ne (by decide)]
      rfl
  | cons d s ih =>
      have hSame (time : List Char) :
          BeginsMarked (d :: s ++ ' ' :: c :: t) time ↔ BeginsMarked (d :: s) time :=
        beginsMarked_append_iff h (List.cons_ne_nil d s) t
      by_cases hBegins : ∃ time, BeginsMarked (d :: s) time
      · obtain ⟨time, hTime⟩ := hBegins
        rw [markedTime?_of_beginsMarked hTime, markedTime?_of_beginsMarked ((hSame time).mpr hTime)]
        rfl
      · rw [markedTime?_cons_of_not (not_exists.mp hBegins), ← ih]
        simp only [← hSame] at hBegins
        exact markedTime?_cons_of_not (not_exists.mp hBegins)

/-- A time with a letter in place of the blank between date and time of the day. -/
def lettered (time : List Char) : List Char := time.map fun c => if c = ' ' then 'T' else c

theorem lettered_of_not_mem (h : ' ' ∉ s) : lettered s = s := by
  have hEach : ∀ c ∈ s, (if c = ' ' then 'T' else c) = id c := by
    intro c hc
    exact if_neg (ne_of_mem_of_not_mem hc h)
  rw [lettered, List.map_congr_left hEach, List.map_id]

theorem withLetter_eq_lettered (h : IsTime ' ' time) : withLetter time = lettered time := by
  obtain ⟨shaped, digits, hShaped, hDigits, rfl⟩ := h
  obtain ⟨date, back, hDate, hBack, rfl⟩ := hasShape_append_iff.mp hShaped
  obtain ⟨blank, clock, hBlank, hClock, rfl⟩ := List.forall₂_cons_left_iff.mp hBack
  obtain rfl : ' ' = blank := by simpa [fits] using hBlank
  have hDateBlank : ' ' ∉ date := hDate.not_mem (by decide) (by decide)
  have hClockBlank : ' ' ∉ clock ++ digits := by
    rw [List.mem_append, not_or]
    refine ⟨HasShape.not_mem hClock (by decide) (by decide), fun hMem => ?_⟩
    exact absurd (hDigits ' ' hMem) (by decide)
  have hSpan : (date ++ ' ' :: (clock ++ digits)).span (· != ' ') =
      (date, ' ' :: (clock ++ digits)) :=
    span_ne_eq_iff.mpr ⟨rfl, hDateBlank, by simp⟩
  rw [withLetter, List.append_assoc, List.cons_append, hSpan]
  have hLettered : lettered (date ++ ' ' :: (clock ++ digits)) =
      lettered date ++ 'T' :: lettered (clock ++ digits) := List.map_append
  rw [hLettered, lettered_of_not_mem hDateBlank, lettered_of_not_mem hClockBlank]
  rfl

theorem HasShape.lettered {shape : List Char} (h : HasShape shape s) :
    HasShape (lettered shape) (lettered s) := by
  rw [HasShape, Line.lettered, Line.lettered, List.forall₂_map_left_iff, List.forall₂_map_right_iff]
  refine h.imp fun p c hFits => ?_
  unfold fits at hFits
  split at hFits
  · rename_i hDigit
    have hBlank : c ≠ ' ' := by
      rintro rfl
      exact absurd hFits (by decide)
    rw [hDigit, if_neg (by decide), if_neg hBlank]
    exact hFits
  · rename_i hOther
    obtain rfl := beq_iff_eq.mp hFits
    have hLetter : (if p = ' ' then 'T' else p) ≠ 'd' := by
      split
      · decide
      · exact hOther
    rw [fits, if_neg hLetter, beq_self_eq_true]

theorem IsTime.lettered (h : IsTime ' ' time) : IsTime 'T' (lettered time) := by
  obtain ⟨front, digits, hFront, hDigits, rfl⟩ := h
  have hBlank : ' ' ∉ digits := fun hMem => absurd (hDigits ' ' hMem) (by decide)
  refine ⟨Line.lettered front, digits, ?_, hDigits, ?_⟩
  · exact hFront.lettered
  · have hParts : Line.lettered (front ++ digits) = Line.lettered front ++ Line.lettered digits :=
      List.map_append
    rw [hParts, lettered_of_not_mem hBlank]

/-- Different times are different as timestamps. -/
theorem eq_of_lettered_eq {other : List Char} (h : IsTime ' ' time) (hOther : IsTime ' ' other)
    (hSame : lettered time = lettered other) : time = other := by
  have hBack {t : List Char} (ht : IsTime ' ' t) :
      (lettered t).map (fun c => if c = 'T' then ' ' else c) = t := by
    have hLetter : 'T' ∉ t := ht.not_mem (by decide) (by decide)
    have hEach : ∀ c ∈ t, (if (if c = ' ' then 'T' else c) = 'T' then ' '
        else if c = ' ' then 'T' else c) = id c := by
      intro c hc
      by_cases hBlank : c = ' '
      · simp [hBlank]
      · rw [if_neg hBlank, if_neg (ne_of_mem_of_not_mem hc hLetter)]
        rfl
    rw [lettered, List.map_map]
    exact (List.map_congr_left hEach).trans (List.map_id t)
  rw [← hBack h, hSame, hBack hOther]

end LogViewer.Line
