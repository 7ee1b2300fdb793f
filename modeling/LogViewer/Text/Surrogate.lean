import LogViewer.Text.Quoted

/-! Surrogates that stand alone. A surrogate is a code point but no character, and yet a text may
hold one: an escape can name it, or bytes that are let pass. It is given by a character that stands
for it. Which characters do so is left open; they are to be some that nothing else in a run has, so
that each surrogate is told apart from all other text. A text that holds one cannot be written as
bytes. -/
namespace LogViewer.Text

/-- Whether a code point is a surrogate. -/
def IsSurrogate (n : Nat) : Prop := 0xD800 ≤ n ∧ n ≤ 0xDFFF

/-- The characters that stand for the surrogates. They are private ones, which are neither letters
nor digits nor blanks. -/
class StandIns where
  char : Nat → Char
  /-- The surrogate that a character stands for. -/
  surrogate? : Char → Option Nat
  surrogate?_eq_some_iff : ∀ c n, surrogate? c = some n ↔ IsSurrogate n ∧ char n = c
  private_char : ∀ n, IsSurrogate n → 0xF0000 ≤ (char n).toNat

namespace StandIns

theorem toNat_ofNat_private {start n : Nat} (hStart : 0xF0000 ≤ start ∧ start + 0x800 ≤ 0x110000)
    (hn : IsSurrogate n) : (Char.ofNat (start + (n - 0xD800))).toNat = start + (n - 0xD800) := by
  unfold IsSurrogate at hn
  have hValid : (start + (n - 0xD800)).isValidChar := Or.inr (by omega)
  rw [Char.ofNat, dif_pos hValid]
  rfl

/-- The stand-ins that follow one another from a private character on. -/
@[reducible] def startingAt (start : Nat) (h : 0xF0000 ≤ start ∧ start + 0x800 ≤ 0x110000) :
    StandIns where
  char n := Char.ofNat (start + (n - 0xD800))
  surrogate? c :=
    if start ≤ c.toNat ∧ c.toNat < start + 0x800 then some (c.toNat - start + 0xD800) else none
  surrogate?_eq_some_iff c n := by
    constructor
    · intro hc
      split at hc
      · rename_i hBounds
        obtain rfl := Option.some.inj hc
        have hPlace : start + (c.toNat - start + 0xD800 - 0xD800) = c.toNat := by omega
        refine ⟨?_, by rw [hPlace, Char.ofNat_toNat]⟩
        unfold IsSurrogate
        omega
      · cases hc
    · rintro ⟨hn, rfl⟩
      rw [toNat_ofNat_private h hn]
      unfold IsSurrogate at hn
      rw [if_pos (by omega)]
      exact congrArg some (by omega)
  private_char n hn := by
    rw [toNat_ofNat_private h hn]
    omega

/-- A row of stand-ins; the rows divide the private characters of the last two planes. -/
@[reducible] def row (k : Fin 64) : StandIns := startingAt (0xF0000 + k * 0x800) (by omega)

/-- The stand-ins where none are chosen. -/
instance (priority := low) : StandIns := row 63

/-- Whether a text has none of a row of stand-ins. -/
def isFree (used : List Char) (k : Fin 64) : Bool :=
  used.all fun c => ((row k).surrogate? c).isNone

/-- The first row of stand-ins of which a text has none. -/
@[reducible] def awayFrom (used : List Char) : StandIns :=
  match (List.finRange 64).find? (isFree used) with
  | some k => row k
  | none => row 63

/-- Where a row is free, the characters of a text are told apart from the surrogates. -/
theorem surrogate?_awayFrom {used : List Char} (h : ∃ k, isFree used k = true) :
    ∀ c ∈ used, (awayFrom used).surrogate? c = none := by
  obtain ⟨k, hk⟩ := h
  obtain ⟨j, hRow, hj⟩ : ∃ j, awayFrom used = row j ∧ isFree used j = true := by
    unfold awayFrom
    split
    · rename_i j hFind
      exact ⟨j, rfl, List.find?_some hFind⟩
    · rename_i hNone
      exact absurd hk (List.find?_eq_none.mp hNone k (List.mem_finRange k))
  rw [hRow]
  simpa [isFree] using hj

end StandIns

/-- Why a text has no bytes: its first surrogate, the place of it, and how many surrogates stand in a
row there. -/
structure EncodingFault where
  surrogate : Nat
  place : Nat
  count : Nat
deriving DecidableEq, Repr

/-- The message about a text that has no bytes. -/
def EncodingFault.message (f : EncodingFault) : String :=
  let found :=
    if f.count = 1 then
      "character '\\u" ++ String.ofList (hexDigits 4 f.surrogate) ++ "' in position " ++
        toString f.place
    else "characters in position " ++ toString f.place ++ "-" ++ toString (f.place + f.count - 1)
  "'utf-8' codec can't encode " ++ found ++ ": surrogates not allowed"

variable [StandIns]

/-- Why a text that begins at a place has no bytes, if it has none. -/
def encodingFaultFrom? (place : Nat) : List Char → Option EncodingFault
  | [] => none
  | c :: s => match StandIns.surrogate? c with
    | some surrogate =>
      let more := s.takeWhile fun d => (StandIns.surrogate? d).isSome
      some { surrogate, place, count := more.length + 1 }
    | none => encodingFaultFrom? (place + 1) s

/-- Why a text has no bytes, if it has none. -/
def encodingFault? (s : List Char) : Option EncodingFault := encodingFaultFrom? 0 s

theorem encodingFaultFrom?_eq_none_iff {place : Nat} {s : List Char} :
    encodingFaultFrom? place s = none ↔ ∀ c ∈ s, StandIns.surrogate? c = none := by
  induction s generalizing place with
  | nil => simp [encodingFaultFrom?]
  | cons c s ih =>
      rw [encodingFaultFrom?, List.forall_mem_cons]
      cases hc : StandIns.surrogate? c with
      | some surrogate => simp
      | none => simp [ih]

/-- The texts that have bytes are those without a surrogate. -/
theorem encodingFault?_eq_none_iff {s : List Char} :
    encodingFault? s = none ↔ ∀ c ∈ s, StandIns.surrogate? c = none := encodingFaultFrom?_eq_none_iff

end LogViewer.Text
