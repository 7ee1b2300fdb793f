import Mathlib
import LogViewer.Json.Token
import LogViewer.Proofs.Text.Breaks

/-! Text literals and what stands behind them. A literal that can be read ends with its closing mark
and has no control character up to there, so it ends within its line and is read in the same way
whatever stands behind it. -/
namespace LogViewer.Json

open Text (IsBreak SameLine)

/-- Whether a character is none of the control characters. -/
def IsShown (c : Char) : Prop := 0x20 ≤ c.toNat

instance (c : Char) : Decidable (IsShown c) := inferInstanceAs (Decidable (0x20 ≤ c.toNat))

theorem IsShown.not_isBreak {c : Char} (h : IsShown c) : ¬IsBreak c := by
  rintro (rfl | rfl)
  · exact absurd h (by decide)
  · exact absurd h (by decide)

theorem IsShown.ne_of_isBreak {c d : Char} (hd : IsShown d) (hc : IsBreak c) : c ≠ d :=
  fun hEq => hd.not_isBreak (hEq ▸ hc)

/-- Whether a text has so many characters at its front, none of which is a control character. -/
def HasShown (n : Nat) (s : List Char) : Prop :=
  ∃ front back, s = front ++ back ∧ front.length = n ∧ ∀ c ∈ front, IsShown c

namespace HasShown

variable {m n : Nat} {s t : List Char}

theorem zero (s : List Char) : HasShown 0 s := ⟨[], s, rfl, rfl, by simp⟩

theorem cons {c : Char} (hc : IsShown c) (h : HasShown n s) : HasShown (n + 1) (c :: s) := by
  obtain ⟨front, back, rfl, rfl, hFront⟩ := h
  exact ⟨c :: front, back, rfl, rfl, List.forall_mem_cons.mpr ⟨hc, hFront⟩⟩

theorem add (h : HasShown m s) (h' : HasShown n (s.drop m)) : HasShown (m + n) s := by
  obtain ⟨front, rest, rfl, rfl, hFront⟩ := h
  rw [List.drop_left] at h'
  obtain ⟨mid, back, rfl, rfl, hMid⟩ := h'
  exact ⟨front ++ mid, back, (List.append_assoc ..).symm, List.length_append,
    List.forall_mem_append.mpr ⟨hFront, hMid⟩⟩

theorem of_isPrefix {front : List Char} (h : front <+: s) (hFront : ∀ c ∈ front, IsShown c) :
    HasShown front.length s := by
  obtain ⟨back, rfl⟩ := h
  exact ⟨front, back, rfl, rfl, hFront⟩

theorem head {c : Char} (h : HasShown (n + 1) (c :: s)) : IsShown c := by
  obtain ⟨front, back, hEq, hLength, hFront⟩ := h
  cases front with
  | nil => cases hLength
  | cons d front =>
      obtain ⟨rfl, -⟩ := List.cons.inj hEq
      exact hFront _ List.mem_cons_self

theorem sameLine_drop (h : HasShown n s) (hLine : SameLine s t) :
    SameLine (s.drop n) (t.drop n) := by
  obtain ⟨front, back, rfl, rfl, hFront⟩ := h
  obtain ⟨back', rfl, hBack⟩ := hLine.of_append fun c hc => (hFront c hc).not_isBreak
  rwa [List.drop_left, List.drop_left]

theorem drop_unifyBreaks (h : HasShown n s) :
    (Text.unifyBreaks s).drop n = Text.unifyBreaks (s.drop n) := by
  obtain ⟨front, back, rfl, rfl, hFront⟩ := h
  have hNone : '\r' ∉ front := fun hMem => (hFront _ hMem).not_isBreak (Or.inr rfl)
  rw [Text.unifyBreaks_append hNone, List.drop_left, List.drop_left]

end HasShown

theorem isShown_of_hexValue? {c : Char} {n : Nat} (h : hexValue? c = some n) : IsShown c := by
  unfold hexValue? at h
  have hFrom {a : Char} (ha : 0x20 ≤ a.toNat) (hLe : (decide (a ≤ c)) = true) : IsShown c :=
    ha.trans (of_decide_eq_true hLe)
  split at h
  · rename_i hc
    exact hFrom (by decide) (Bool.and_eq_true_iff.mp hc).1
  · split at h
    · rename_i hc
      exact hFrom (by decide) (Bool.and_eq_true_iff.mp hc).1
    · split at h
      · rename_i hc
        exact hFrom (by decide) (Bool.and_eq_true_iff.mp hc).1
      · cases h

theorem isShown_of_fourHex? {a b c d : Char} {n : Nat} (h : fourHex? a b c d = some n) :
    ∀ e ∈ [a, b, c, d], IsShown e := by
  obtain ⟨_, ha, h⟩ := Option.bind_eq_some_iff.mp h
  obtain ⟨_, hb, h⟩ := Option.bind_eq_some_iff.mp h
  obtain ⟨_, hc, h⟩ := Option.bind_eq_some_iff.mp h
  obtain ⟨_, hd, -⟩ := Option.bind_eq_some_iff.mp h
  simp only [List.forall_mem_cons]
  exact ⟨isShown_of_hexValue? ha, isShown_of_hexValue? hb, isShown_of_hexValue? hc,
    isShown_of_hexValue? hd, by simp⟩

/-- The unit that an escape of a code point at the front of a text denotes; it must be followed by
something. -/
def escapedUnit? : List Char → Option (Option Nat)
  | '\\' :: 'u' :: a :: b :: c :: d :: _ :: _ => some (fourHex? a b c d)
  | _ => none

theorem escapedUnit?_eq_none {s : List Char} (h : ∀ t, s ≠ '\\' :: 'u' :: t) :
    escapedUnit? s = none := by
  unfold escapedUnit?
  split
  · exact absurd rfl (h _)
  · rfl

theorem isShown_of_escapes {e d : Char} (h : escapes.lookup e = some d) : IsShown e := by
  have hAll : ∀ p ∈ escapes, 0x20 ≤ p.1.toNat := by decide
  obtain ⟨front, back, hEscapes, -⟩ := List.lookup_eq_some_iff.mp h
  exact hAll (e, d) (hEscapes ▸ List.mem_append_right _ List.mem_cons_self)

variable [Text.StandIns]

theorem unicodeEscape_eq {a b c d : Char} {s : List Char} (hs : s ≠ []) :
    unicodeEscape (a :: b :: c :: d :: s) = match fourHex? a b c d with
      | none => .broken .badUnicodeEscape 1
      | some unit =>
        if 0xD800 ≤ unit && unit ≤ 0xDBFF then
          match escapedUnit? s with
          | some none => .broken .badUnicodeEscape 7
          | some (some low) =>
            if 0xDC00 ≤ low && low ≤ 0xDFFF then
              .char (Char.ofNat (0x10000 + (unit - 0xD800) * 0x400 + (low - 0xDC00))) 11
            else .char (Text.StandIns.char unit) 5
          | none => .char (Text.StandIns.char unit) 5
        else if 0xDC00 ≤ unit && unit ≤ 0xDFFF then
          .char (Text.StandIns.char unit) 5
        else .char (Char.ofNat unit) 5 := by
  obtain ⟨e, s, rfl⟩ := List.exists_cons_of_ne_nil hs
  rw [unicodeEscape]
  cases fourHex? a b c d with
  | none => rfl
  | some unit =>
      dsimp only
      congr 1
      split
      · rename_i a' b' c' d' f t hEq
        rw [hEq, escapedUnit?]
        cases fourHex? a' b' c' d' <;> rfl
      · rename_i hNot
        have hNone : escapedUnit? (e :: s) = none := by
          unfold escapedUnit?
          split
          · rename_i hEq
            exact absurd hEq (hNot _ _ _ _ _ _)
          · rfl
        rw [hNone]

/-- The escape of a code point has four digits with something behind them, and there are two of them
if it has eleven characters behind the backslash. -/
theorem exists_of_unicodeEscape {t : List Char} {x : Char} {extra : Nat}
    (h : unicodeEscape t = .char x extra) :
    ∃ a b c d s, t = a :: b :: c :: d :: s ∧ s ≠ [] ∧ (∀ e ∈ [a, b, c, d], IsShown e) ∧
      (extra = 5 ∨ extra = 11 ∧ ∃ a' b' c' d' s', s = '\\' :: 'u' :: a' :: b' :: c' :: d' :: s' ∧
        s' ≠ [] ∧ ∀ e ∈ [a', b', c', d'], IsShown e) := by
  unfold unicodeEscape at h
  split at h
  · rename_i a b c d e s
    split at h
    · cases h
    · rename_i unit hUnit
      refine ⟨a, b, c, d, e :: s, rfl, List.cons_ne_nil e s, isShown_of_fourHex? hUnit, ?_⟩
      split at h
      · split at h
        · rename_i a' b' c' d' f s' hEq
          split at h
          · cases h
          · rename_i low hLow
            split at h
            · exact Or.inr ⟨(Piece.char.inj h).2.symm, a', b', c', d', f :: s', hEq,
                List.cons_ne_nil f s', isShown_of_fourHex? hLow⟩
            · exact Or.inl (Piece.char.inj h).2.symm
        · exact Or.inl (Piece.char.inj h).2.symm
      · split at h
        · exact Or.inl (Piece.char.inj h).2.symm
        · exact Or.inl (Piece.char.inj h).2.symm
  · cases h

theorem unicodeEscape_ne_close (t : List Char) : unicodeEscape t ≠ .close := by
  unfold unicodeEscape
  repeat' split
  all_goals exact Piece.noConfusion

/-- Whether a text is the rest of a text literal up to its closing mark, perhaps with more behind
it. -/
def EndsLiteral (s : List Char) : Prop :=
  ∃ start taken before x n, scanText start taken before s = (.text x, n)

theorem EndsLiteral.ne_nil {s : List Char} (h : EndsLiteral s) : s ≠ [] := by
  obtain ⟨start, taken, before, x, n, h⟩ := h
  rintro rfl
  rw [scanText] at h
  cases h

theorem EndsLiteral.piece {c : Char} {s : List Char} (h : EndsLiteral (c :: s)) :
    piece c s = .close ∨ ∃ d extra, piece c s = .char d extra := by
  obtain ⟨start, taken, before, x, n, h⟩ := h
  rw [scanText] at h
  split at h
  · rename_i hPiece
    exact Or.inl hPiece
  · rename_i hPiece
    exact Or.inr ⟨_, _, hPiece⟩
  · cases h
  · cases h

/-- What is behind a literal does not change the escape at its front. -/
theorem EndsLiteral.escapedUnit?_append {s : List Char} (h : EndsLiteral s) (back : List Char) :
    escapedUnit? (s ++ back) = escapedUnit? s := by
  obtain ⟨c, s, rfl⟩ := List.exists_cons_of_ne_nil h.ne_nil
  by_cases hEscape : ∃ t, c :: s = '\\' :: 'u' :: t
  · obtain ⟨t, hEq⟩ := hEscape
    obtain ⟨rfl, rfl⟩ := List.cons.inj hEq
    obtain hPiece | ⟨d, extra, hPiece⟩ := h.piece
    · exact absurd hPiece (unicodeEscape_ne_close t)
    · obtain ⟨a, b, c, d, s, rfl, hs, -⟩ := exists_of_unicodeEscape hPiece
      obtain ⟨e, s, rfl⟩ := List.exists_cons_of_ne_nil hs
      rfl
  · have hNone : escapedUnit? (c :: s) = none :=
      escapedUnit?_eq_none fun t hEq => hEscape ⟨t, hEq⟩
    rw [hNone, escapedUnit?_eq_none]
    intro t hEq
    obtain ⟨rfl, hRest⟩ := List.cons.inj hEq
    cases s with
    | nil =>
        obtain hPiece | ⟨d, extra, hPiece⟩ := h.piece
        · cases hPiece
        · cases hPiece
    | cons d s =>
        obtain ⟨rfl, -⟩ := List.cons.inj hRest
        exact hEscape ⟨s, rfl⟩

theorem piece_backslash {e : Char} (he : e ≠ 'u') (t : List Char) :
    piece '\\' (e :: t) = match escapes.lookup e with
      | some d => .char d 1
      | none => .broken .unknownEscape 0 := by
  unfold piece
  rw [if_neg (by decide), if_pos (by decide)]
  split
  · rename_i hEq
    cases hEq
  · rename_i hEq
    exact absurd (List.cons.inj hEq).1 he
  · rename_i hEq
    obtain ⟨rfl, -⟩ := List.cons.inj hEq
    rfl

theorem piece_of_ne_backslash {c : Char} (hc : c ≠ '\\') (t : List Char) :
    piece c t = if c == '"' then .close
      else if c.toNat < 0x20 then .broken .controlCharacter 0 else .char c 0 := by
  have hFalse : (c == '\\') = false := beq_false_of_ne hc
  simp only [piece, hFalse, Bool.false_eq_true, if_false]

theorem eq_quote_of_piece {c : Char} {s : List Char} (h : piece c s = .close) : c = '"' := by
  by_cases hBackslash : c = '\\'
  · subst hBackslash
    cases s with
    | nil => cases h
    | cons e t =>
        by_cases he : e = 'u'
        · subst he
          exact absurd h (unicodeEscape_ne_close t)
        · rw [piece_backslash he] at h
          split at h <;> cases h
  · rw [piece_of_ne_backslash hBackslash] at h
    split at h
    · rename_i hQuote
      exact beq_iff_eq.mp hQuote
    · split at h <;> cases h

/-- A character stands for itself, or it is a backslash with the escape of a character or of a code
point behind it. -/
theorem piece_eq_char {c d : Char} {s : List Char} {extra : Nat} (h : piece c s = .char d extra) :
    IsShown c ∧ ((extra = 0 ∧ ∀ t, piece c t = .char d 0) ∨
      (∃ e t, s = e :: t ∧ IsShown e ∧ extra = 1 ∧ ∀ t, piece c (e :: t) = .char d 1) ∨
      ∃ t, c = '\\' ∧ s = 'u' :: t ∧ unicodeEscape t = .char d extra) := by
  by_cases hBackslash : c = '\\'
  · subst hBackslash
    refine ⟨by decide, Or.inr ?_⟩
    cases s with
    | nil => cases h
    | cons e t =>
        by_cases he : e = 'u'
        · subst he
          exact Or.inr ⟨t, rfl, rfl, h⟩
        · rw [piece_backslash he] at h
          split at h
          · rename_i hLookup
            obtain ⟨rfl, rfl⟩ := Piece.char.inj h
            refine Or.inl ⟨e, t, rfl, isShown_of_escapes hLookup, rfl, fun t => ?_⟩
            rw [piece_backslash he, hLookup]
          · cases h
  · rw [piece_of_ne_backslash hBackslash] at h
    split at h
    · cases h
    · rename_i hQuote
      split at h
      · cases h
      · rename_i hShown
        obtain ⟨rfl, rfl⟩ := Piece.char.inj h
        refine ⟨not_lt.mp hShown, Or.inl ⟨rfl, fun t => ?_⟩⟩
        rw [piece_of_ne_backslash hBackslash, if_neg hQuote, if_neg hShown]

/-- The escape of a code point within a literal does not depend on what is behind the literal. -/
theorem unicodeEscape_append {a b c d : Char} {front : List Char} (h : EndsLiteral front)
    (back : List Char) :
    unicodeEscape (a :: b :: c :: d :: (front ++ back)) =
      unicodeEscape (a :: b :: c :: d :: front) := by
  rw [unicodeEscape_eq h.ne_nil, unicodeEscape_eq (List.append_ne_nil_of_left_ne_nil h.ne_nil back),
    h.escapedUnit?_append]

/-- A character within a literal is written in the same way whatever stands behind the literal. -/
theorem piece_append {c d : Char} {s front back : List Char} {extra : Nat}
    (h : piece c s = .char d extra) (hEnds : EndsLiteral front)
    (hDrop : s.drop extra = front ++ back) :
    ∃ mid, s = mid ++ (front ++ back) ∧ mid.length = extra ∧ (∀ x ∈ c :: mid, IsShown x) ∧
      ∀ back', piece c (mid ++ (front ++ back')) = .char d extra := by
  obtain ⟨hShown, ⟨rfl, hPiece⟩ | ⟨e, t, rfl, he, rfl, hPiece⟩ | ⟨t, rfl, rfl, hEscape⟩⟩ :=
    piece_eq_char h
  · exact ⟨[], hDrop, rfl, by simpa using hShown, fun _ => hPiece _⟩
  · refine ⟨[e], ?_, rfl, by simp [hShown, he], fun _ => hPiece _⟩
    rw [← hDrop]
    rfl
  · have hu : IsShown 'u' := by decide
    obtain ⟨a, b, c, d', s, rfl, hs, hDigits, rfl | ⟨rfl, a', b', c', d'', s', rfl, hs', hMore⟩⟩ :=
      exists_of_unicodeEscape hEscape
    · obtain rfl : s = front ++ back := hDrop
      refine ⟨['u', a, b, c, d'], rfl, rfl, ?_, fun back' => ?_⟩
      · exact List.forall_mem_cons.mpr ⟨hShown, List.forall_mem_cons.mpr ⟨hu, hDigits⟩⟩
      · change unicodeEscape (a :: b :: c :: d' :: (front ++ back')) = _
        rw [unicodeEscape_append hEnds, ← unicodeEscape_append hEnds back]
        exact hEscape
    · obtain rfl : s' = front ++ back := hDrop
      refine ⟨['u', a, b, c, d', '\\', 'u', a', b', c', d''], rfl, rfl, ?_, fun back' => ?_⟩
      · exact List.forall_mem_cons.mpr ⟨hShown, List.forall_mem_cons.mpr ⟨hu,
          List.forall_mem_append.mpr ⟨hDigits, List.forall_mem_cons.mpr ⟨hShown,
            List.forall_mem_cons.mpr ⟨hu, hMore⟩⟩⟩⟩⟩
      · obtain ⟨f, front, rfl⟩ := List.exists_cons_of_ne_nil hEnds.ne_nil
        rw [← hEscape]
        rfl

/-- A text literal ends with its closing mark, has no control character up to there and does not
depend on what is behind. -/
theorem scanText_eq_text {start taken n : Nat} {before s : List Char} {x : String}
    (h : scanText start taken before s = (.text x, n)) :
    ∃ front back, s = front ++ back ∧ n = taken + front.length ∧ (∀ c ∈ front, IsShown c) ∧
      ∀ start' back', scanText start' taken before (front ++ back') = (.text x, n) := by
  fun_induction scanText start taken before s with
  | case1 => cases h
  | case2 taken before c s hPiece =>
      obtain rfl := eq_quote_of_piece hPiece
      obtain ⟨hText, hTaken⟩ := Prod.ext_iff.mp h
      refine ⟨['"'], s, rfl, hTaken.symm, by simp [IsShown], fun start' back' => ?_⟩
      rw [List.singleton_append, scanText]
      exact h
  | case3 taken before c s d extra hPiece ih =>
      obtain ⟨front, back, hDrop, hLength, hFront, hText⟩ := ih h
      have hEnds : EndsLiteral front := ⟨start, _, _, x, n, by simpa using hText start []⟩
      obtain ⟨mid, rfl, hMid, hShown, hPiece'⟩ := piece_append hPiece hEnds hDrop
      refine ⟨c :: mid ++ front, back, by simp, ?_, ?_, fun start' back' => ?_⟩
      · rw [hLength, List.length_append, List.length_cons, hMid]
        omega
      · exact List.forall_mem_append.mpr ⟨hShown, hFront⟩
      · rw [List.append_assoc, List.cons_append, scanText, hPiece']
        simp only
        rw [← hMid, List.drop_left, hMid]
        exact hText start' back'
  | case4 => cases h
  | case5 => cases h

end LogViewer.Json
