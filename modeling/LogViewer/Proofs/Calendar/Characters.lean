import Mathlib
import LogViewer.Calendar.Timestamp

/-! The characters of timestamps. A text that names an instant holds nothing but digits, blanks, and
the marks and letters that stand between the parts of a time. -/
namespace LogViewer.Timestamp

open Text

variable {s t u : List Char}

/-- The marks and letters of timestamps. -/
def marks : List Char := ['-', ':', '.', '+', 'T', 't', 'Z', 'z', ' ']

/-- Whether a timestamp may hold a character. -/
def MayHold (c : Char) : Prop := isDigit c = true ∨ isBlank c = true ∨ c ∈ marks

theorem mayHold_colon : MayHold ':' := by simp [MayHold, marks]

/-- Whether a text goes on as another one behind characters of a timestamp. -/
def GoesOn (s t : List Char) : Prop := ∃ taken, s = taken ++ t ∧ ∀ c ∈ taken, MayHold c

theorem GoesOn.refl (s : List Char) : GoesOn s s := ⟨[], rfl, by simp⟩

theorem GoesOn.trans (hs : GoesOn s t) (ht : GoesOn t u) : GoesOn s u := by
  obtain ⟨taken, rfl, hTaken⟩ := hs
  obtain ⟨others, rfl, hOthers⟩ := ht
  refine ⟨taken ++ others, (List.append_assoc _ _ _).symm, fun c hc => ?_⟩
  exact (List.mem_append.mp hc).elim (hTaken c) (hOthers c)

theorem goesOn_cons {c : Char} (h : MayHold c) (s : List Char) : GoesOn (c :: s) s :=
  ⟨[c], rfl, by simpa using h⟩

theorem goesOn_dropWhile {p : Char → Bool} (h : ∀ c, p c = true → MayHold c) (s : List Char) :
    GoesOn s (s.dropWhile p) :=
  ⟨s.takeWhile p, List.takeWhile_append_dropWhile.symm, fun c hc =>
    h c (List.mem_takeWhile_imp hc)⟩

theorem goesOn_of_digits? {n value : Nat} (h : digits? n s = some (value, t)) : GoesOn s t := by
  unfold digits? at h
  dsimp only at h
  split at h
  · rename_i hFront
    cases h
    exact ⟨_, (List.take_append_drop n s).symm, fun c hc =>
      Or.inl (List.all_eq_true.mp hFront.2 c hc)⟩
  · cases h

theorem goesOn_of_after? {c : Char} (hc : MayHold c) (h : after? c s = some t) : GoesOn s t := by
  cases s with
  | nil => cases h
  | cons d s =>
      obtain ⟨hSame, hRest⟩ := Option.ite_none_right_eq_some.mp h
      rw [← Option.some_inj.mp hRest]
      exact goesOn_cons (hSame ▸ hc) s

theorem goesOn_of_markedDigits? {c : Char} (hc : MayHold c) {n value : Nat}
    (h : (after? c s >>= digits? n) = some (value, t)) : GoesOn s t := by
  obtain ⟨rest, hRest, hDigits⟩ := Option.bind_eq_some_iff.mp h
  exact (goesOn_of_after? hc hRest).trans (goesOn_of_digits? hDigits)

theorem goesOn_takeFraction (s : List Char) : GoesOn s (takeFraction s).2 := by
  unfold takeFraction
  split
  · rename_i s
    dsimp only
    split
    · exact GoesOn.refl _
    · exact (goesOn_cons (by simp [MayHold, marks]) s).trans (goesOn_dropWhile (fun c => Or.inl) s)
  · exact GoesOn.refl s

theorem goesOn_takeSeconds (s : List Char) : GoesOn s (takeSeconds s).2.2 := by
  unfold takeSeconds
  split
  · rename_i second rest hSecond
    exact (goesOn_of_markedDigits? mayHold_colon hSecond).trans (goesOn_takeFraction rest)
  · exact GoesOn.refl s

theorem goesOn_of_clock? {time : TimeOfDay} (h : clock? s = some (time, t)) : GoesOn s t := by
  cases s with
  | nil => cases h
  | cons mark s =>
      simp only [clock?, Option.bind_eq_bind, Option.bind_eq_some_iff, Option.guard_eq_some',
        Prod.exists, Option.pure_def, Option.some.injEq, Prod.mk.injEq] at h
      obtain ⟨-, hMark, hour, afterHour, hHour, minute, afterMinute, hMinute, -, rfl⟩ := h
      have hHold : MayHold mark := by
        right; right
        rcases hMark with rfl | rfl | rfl <;> simp [marks]
      have hToMinute := goesOn_of_markedDigits? mayHold_colon (Option.bind_eq_some_iff.mpr hMinute)
      exact (goesOn_cons hHold s).trans
        ((goesOn_of_digits? hHour).trans (hToMinute.trans (goesOn_takeSeconds _)))

theorem goesOn_of_zone? {ahead : Int} (h : zone? s = some ahead) : GoesOn s [] := by
  unfold zone? at h
  split at h
  · exact GoesOn.refl []
  · exact goesOn_cons (by simp [MayHold, marks]) []
  · exact goesOn_cons (by simp [MayHold, marks]) []
  · rename_i sign s _ _
    simp only [Option.bind_eq_bind, Option.bind_eq_some_iff, Option.guard_eq_some', Prod.exists,
      Option.pure_def, Option.some.injEq] at h
    obtain ⟨-, hSign, hours, afterHours, hHours, minutes, rest, hMinutes, -, hEmpty, -⟩ := h
    have hHold : MayHold sign := by
      right; right
      rcases hSign with rfl | rfl <;> simp [marks]
    have hColon : GoesOn afterHours ((after? ':' afterHours).getD afterHours) := by
      cases hAfter : after? ':' afterHours with
      | none => exact GoesOn.refl afterHours
      | some t => exact goesOn_of_after? mayHold_colon hAfter
    have hMinutesEnd := goesOn_of_digits? hMinutes
    rw [List.isEmpty_iff.mp hEmpty] at hMinutesEnd
    exact (goesOn_cons hHold s).trans
      ((goesOn_of_digits? hHours).trans (hColon.trans hMinutesEnd))

theorem goesOn_of_parts? {parts : Parts} (h : parts? s = some parts) : GoesOn s [] := by
  simp only [parts?, Option.bind_eq_bind, Option.bind_eq_some_iff, Prod.exists, Option.pure_def,
    Option.some.injEq] at h
  obtain ⟨year, afterYear, hYear, month, afterMonth, hMonth, day, afterDay, hDay, ahead, hZone,
    -⟩ := h
  have hDash : MayHold '-' := by simp [MayHold, marks]
  have hClock : GoesOn afterDay ((clock? afterDay).getD (⟨0, 0, 0, 0⟩, afterDay)).2 := by
    cases hTime : clock? afterDay with
    | none => exact GoesOn.refl afterDay
    | some clock => exact goesOn_of_clock? hTime
  have hToMonth := goesOn_of_markedDigits? hDash (Option.bind_eq_some_iff.mpr hMonth)
  have hToDay := goesOn_of_markedDigits? hDash (Option.bind_eq_some_iff.mpr hDay)
  have hBlanks := goesOn_dropWhile (fun c hc => Or.inr (Or.inl hc))
    ((clock? afterDay).getD (⟨0, 0, 0, 0⟩, afterDay)).2
  exact (goesOn_of_digits? hYear).trans
    (hToMonth.trans (hToDay.trans (hClock.trans (hBlanks.trans (goesOn_of_zone? hZone)))))

/-- What a text has around it when it is trimmed are blanks. -/
theorem mem_trim_of_not_blank {c : Char} (hc : isBlank c = false) (h : c ∈ s) : c ∈ trim s := by
  have hDrop {t : List Char} (ht : c ∈ t) : c ∈ t.dropWhile isBlank := by
    rw [← List.takeWhile_append_dropWhile (p := isBlank) (l := t), List.mem_append] at ht
    refine ht.resolve_left fun hTaken => ?_
    rw [List.mem_takeWhile_imp hTaken] at hc
    cases hc
  rw [trim, trimEnd, List.mem_reverse]
  exact hDrop (List.mem_reverse.mpr (hDrop h))

/-- A timestamp that names an instant holds no other characters. -/
theorem mayHold_of_instant? {timestamp : String} {instant : Int}
    (h : instant? timestamp = .ok (some instant)) : ∀ c ∈ timestamp.toList, MayHold c := by
  intro c hc
  unfold instant? at h
  split at h
  · cases h
  · rename_i parts hParts
    obtain ⟨taken, hTaken, hAll⟩ := goesOn_of_parts? hParts
    by_cases hBlank : isBlank c = true
    · exact Or.inr (Or.inl hBlank)
    · have hMem := mem_trim_of_not_blank (by simpa using hBlank) hc
      rw [hTaken, List.append_nil] at hMem
      exact hAll c hMem

end LogViewer.Timestamp
