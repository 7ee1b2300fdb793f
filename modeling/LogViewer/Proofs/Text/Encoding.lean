import Mathlib
import LogViewer.Proofs.Text.Breaks

/-! Texts in units of one byte, and bytes that are in larger units. A text that is written in bytes
is read back from them by either way of reading, whatever is done about bytes that are no character.
Where bytes are told to be in larger units, the text read from them as single bytes begins with no
character or has the null character in it, and where they have a mark in front it begins with it. -/
namespace LogViewer.Text

/-- The bytes of a character. -/
def encodedChar (c : Char) : List Nat := (String.utf8EncodeChar c).map UInt8.toNat

/-- The bytes of a text in units of one byte. -/
def encoded (text : List Char) : List Nat := text.flatMap encodedChar

/-- The code points of characters are those that are no surrogates. -/
theorem toNat_cases (c : Char) : c.toNat < 0xD800 ∨ 0xDFFF < c.toNat ∧ c.toNat < 0x110000 := c.valid

theorem encodedChar_eq (c : Char) : encodedChar c =
    if c.toNat < 0x80 then [c.toNat]
    else if c.toNat < 0x800 then [c.toNat / 64 + 0xC0, c.toNat % 64 + 0x80]
    else if c.toNat < 0x10000 then
      [c.toNat / 4096 + 0xE0, c.toNat / 64 % 64 + 0x80, c.toNat % 64 + 0x80]
    else
      [c.toNat / 262144 + 0xF0, c.toNat / 4096 % 64 + 0x80, c.toNat / 64 % 64 + 0x80,
        c.toNat % 64 + 0x80] := by
  have hBound : c.toNat < 0x110000 := by
    have hCases := toNat_cases c
    omega
  have hOne : c.val.toNat = c.toNat := rfl
  unfold encodedChar String.utf8EncodeChar
  simp only [hOne]
  split_ifs
  all_goals
    simp only [List.map_cons, List.map_nil, UInt8.toNat_ofNat', List.cons.injEq, and_true]
    omega

theorem encodedChar_mark : encodedChar '\uFEFF' = [0xEF, 0xBB, 0xBF] := by
  rw [encodedChar_eq]
  decide

theorem encoded_cons (c : Char) (text : List Char) :
    encoded (c :: text) = encodedChar c ++ encoded text := List.flatMap_cons

/-- Bytes that are not told to be a text without a mark are in larger units or have a mark in front.
-/
theorem detect_cases {b : List Nat} (h : Encoding.detect b ≠ (.bytes, b)) :
    (Encoding.detect b).1 ≠ .bytes ∨ ∃ rest, b = encodedChar '\uFEFF' ++ rest := by
  rw [encodedChar_mark]
  generalize hDetect : Encoding.detect b = detected at h ⊢
  unfold Encoding.detect at hDetect
  split at hDetect
  all_goals subst hDetect
  case h_5 rest => exact Or.inr ⟨rest, rfl⟩
  case h_10 => exact absurd rfl h
  case h_6 | h_7 =>
    dsimp only
    split <;> exact Or.inl nofun
  all_goals exact Or.inl nofun

/-- A text that is told to have no byte order mark does not begin with one. -/
theorem head?_ne_mark_of_detect {text : List Char}
    (h : Encoding.detect (encoded text) = (.bytes, encoded text)) :
    text.head? ≠ some '\uFEFF' := by
  intro hMark
  obtain ⟨rest, rfl⟩ := List.head?_eq_some_iff.mp hMark
  rw [encoded_cons, encodedChar_mark] at h
  change (Encoding.bytes, encoded rest) = _ at h
  have hShorter := congrArg List.length (Prod.ext_iff.mp h).2
  simp only [List.length_append, List.length_cons, List.length_nil] at hShorter
  omega

variable [StandIns]

theorem charOf?_toNat (c : Char) : charOf? c.toNat = some c := by
  have hCases := toNat_cases c
  unfold charOf?
  rw [if_neg (by omega), if_neg (by simp only [Bool.and_eq_true, decide_eq_true_eq]; omega),
    Char.ofNat_toNat]

theorem continued_zero {low high n size : Nat} {c : Char} (hn : n = c.toNat) (rest : List Nat) :
    continued 0 low high n size rest = .char c size := by
  rw [hn, continued, charOf?_toNat]

theorem continued_succ {count low high n size b : Nat} (hb : low ≤ b ∧ b ≤ high)
    (rest : List Nat) : continued (count + 1) low high n size (b :: rest) =
      continued count 0x80 0xBF (n * 64 + (b - 0x80)) (size + 1) rest := by
  rw [continued]
  exact if_pos (by simpa using hb)

/-- The first character of a text is read from its bytes, whatever stands behind them. -/
theorem leading_encodedChar (surrogatesPass : Bool) (c : Char) (more : List Nat) :
    ∃ b rest, encodedChar c = b :: rest ∧
      leading surrogatesPass b (rest ++ more) = .char c (rest.length + 1) := by
  have hCases := toNat_cases c
  rw [encodedChar_eq]
  split_ifs with hOne hTwo hThree
  · refine ⟨_, [], rfl, ?_⟩
    rw [leading, if_pos hOne, Char.ofNat_toNat]
    rfl
  · refine ⟨_, _, rfl, ?_⟩
    rw [leading, if_neg (by omega), if_neg (by omega), if_pos (by omega), List.cons_append,
      continued_succ (by omega), continued_zero (c := c) (by omega)]
    rfl
  · refine ⟨_, _, rfl, ?_⟩
    rw [leading, if_neg (by omega), if_neg (by omega), if_neg (by omega), if_pos (by omega)]
    dsimp only
    rw [List.cons_append, continued_succ _, List.cons_append, continued_succ (by omega),
      continued_zero (c := c) (by omega)]
    · rfl
    · constructor
      · split <;> omega
      · split_ifs with hHigh
        · have hByte : c.toNat / 4096 + 0xE0 = 0xED := by
            simpa using (Bool.and_eq_true_iff.mp hHigh).1
          omega
        · omega
  · refine ⟨_, _, rfl, ?_⟩
    rw [leading, if_neg (by omega), if_neg (by omega), if_neg (by omega), if_neg (by omega),
      if_pos (by omega)]
    dsimp only
    rw [List.cons_append, continued_succ _, List.cons_append, continued_succ (by omega),
      List.cons_append, continued_succ (by omega), continued_zero (c := c) (by omega)]
    · rfl
    · constructor
      · split <;> omega
      · split <;> omega

theorem decodeReplacing_cons (c : Char) (more : List Nat) :
    decodeReplacing (encodedChar c ++ more) = c :: decodeReplacing more := by
  obtain ⟨b, rest, hBytes, hLeading⟩ := leading_encodedChar false c more
  rw [hBytes, List.cons_append, decodeReplacing, hLeading]
  simp only [Nat.add_sub_cancel, List.drop_left]

theorem decodeReplacing_encoded (text : List Char) : decodeReplacing (encoded text) = text := by
  induction text with
  | nil => rw [encoded, List.flatMap_nil, decodeReplacing]
  | cons c text ih =>
      rw [encoded_cons, decodeReplacing_cons, ih]

theorem decodeBytes?_encoded (text : List Char) : decodeBytes? (encoded text) = some text := by
  induction text with
  | nil => rw [encoded, List.flatMap_nil, decodeBytes?]
  | cons c text ih =>
      obtain ⟨b, rest, hBytes, hLeading⟩ := leading_encodedChar true c (encoded text)
      rw [encoded_cons, hBytes, List.cons_append, decodeBytes?, hLeading]
      simp only [Nat.add_sub_cancel, List.drop_left, ih, Option.map_some]

theorem decodeReplacing_zero (rest : List Nat) :
    decodeReplacing (0 :: rest) = '\x00' :: decodeReplacing rest := by
  rw [decodeReplacing]
  rfl

theorem decodeReplacing_of_no_leading {b : Nat} (hb : 0xF5 ≤ b) (rest : List Nat) :
    decodeReplacing (b :: rest) = replacement :: decodeReplacing rest := by
  have hLeading : leading false b rest = .broken 1 := by
    rw [leading, if_neg (by omega), if_neg (by omega), if_neg (by omega), if_neg (by omega),
      if_neg (by omega)]
  rw [decodeReplacing, hLeading]
  rfl

/-- Whether a text begins with no character or has the null character in it. -/
def IsGarbled (text : List Char) : Prop := text.head? = some replacement ∨ '\x00' ∈ text

theorem leading_zero_byte {b : Nat} (hb : 0x80 ≤ b) (rest : List Nat) :
    leading false b (0 :: rest) = .broken 1 := by
  unfold leading
  split_ifs
  · omega
  all_goals rfl

/-- A null byte behind the first one leaves this alone, or shows that it is no character. -/
theorem isGarbled_decodeReplacing_of_zero (b : Nat) (rest : List Nat) :
    IsGarbled (decodeReplacing (b :: 0 :: rest)) := by
  rw [decodeReplacing]
  by_cases hb : b < 0x80
  · rw [leading, if_pos hb]
    exact Or.inr (List.mem_cons_of_mem _ (decodeReplacing_zero rest ▸ List.mem_cons_self))
  · rw [leading_zero_byte (not_lt.mp hb)]
    exact Or.inl rfl

/-- Bytes that are in larger units read badly as single bytes. -/
theorem isGarbled_decodeReplacing {b : List Nat} (h : (Encoding.detect b).1 ≠ .bytes) :
    IsGarbled (decodeReplacing b) := by
  unfold Encoding.detect at h
  split at h
  · rw [decodeReplacing_zero]
    exact Or.inr List.mem_cons_self
  · rw [decodeReplacing_of_no_leading (by decide)]
    exact Or.inl rfl
  · rw [decodeReplacing_of_no_leading (by decide)]
    exact Or.inl rfl
  · rw [decodeReplacing_of_no_leading (by decide)]
    exact Or.inl rfl
  · exact absurd rfl h
  · rw [decodeReplacing_zero]
    exact Or.inr List.mem_cons_self
  · exact isGarbled_decodeReplacing_of_zero _ _
  · rw [decodeReplacing_zero]
    exact Or.inr List.mem_cons_self
  · exact isGarbled_decodeReplacing_of_zero _ _
  · exact absurd rfl h

end LogViewer.Text
