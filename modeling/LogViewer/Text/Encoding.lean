import LogViewer.Text.Surrogate

/-! Text as bytes. Document bytes may be written in units of one, two or four bytes, of either byte
order, with a mark in front or without; the form is told from the mark or from where the first four
bytes are nought. A surrogate that stands alone reads as the character that stands for it. -/
namespace LogViewer.Text

/-- The replacement for what is no character. -/
def replacement : Char := '\uFFFD'

variable [StandIns]

/-- The character of a code point, if there is such a code point. -/
def charOf? (n : Nat) : Option Char :=
  if n > 0x10FFFF then none
  else if 0xD800 ≤ n && n ≤ 0xDFFF then some (StandIns.char n)
  else some (Char.ofNat n)

/-- What the first bytes of a text in units of one byte are: a character of a count of bytes, or a
count of bytes that are no character. -/
inductive Leading where
  | char (c : Char) (size : Nat)
  | broken (size : Nat)

/-- Reads the continuation bytes of a character: `count` more of them, the first one between `low`
and `high`. What is broken off counts the bytes up to the one that does not fit. -/
def continued (count low high n size : Nat) : List Nat → Leading
  | rest => match count with
    | 0 => match charOf? n with
      | some c => .char c size
      | none => .broken 1
    | count + 1 => match rest with
      | [] => .broken size
      | b :: rest =>
        if low ≤ b && b ≤ high then
          continued count 0x80 0xBF (n * 64 + (b - 0x80)) (size + 1) rest
        else .broken size

/-- Reads the first character of bytes that begin with `b`. Longer forms than needed and code points
beyond the last one are refused at the second byte; surrogates are refused there unless they may
pass. -/
def leading (surrogatesPass : Bool) (b : Nat) (rest : List Nat) : Leading :=
  if b < 0x80 then .char (Char.ofNat b) 1
  else if b < 0xC2 then .broken 1
  else if b < 0xE0 then continued 1 0x80 0xBF (b - 0xC0) 1 rest
  else if b < 0xF0 then
    let low := if b = 0xE0 then 0xA0 else 0x80
    let high := if b = 0xED && !surrogatesPass then 0x9F else 0xBF
    continued 2 low high (b - 0xE0) 1 rest
  else if b < 0xF5 then
    let low := if b = 0xF0 then 0x90 else 0x80
    let high := if b = 0xF4 then 0x8F else 0xBF
    continued 3 low high (b - 0xF0) 1 rest
  else .broken 1

/-- The text of bytes in units of one byte; bytes that are no character are replaced. -/
def decodeReplacing : List Nat → List Char
  | [] => []
  | b :: rest => match leading false b rest with
    | .char c size => c :: decodeReplacing (rest.drop (size - 1))
    | .broken size => replacement :: decodeReplacing (rest.drop (size - 1))
termination_by bytes => bytes.length
decreasing_by all_goals simp only [List.length_drop, List.length_cons]; omega

/-- The text of bytes in units of one byte, if all of them are characters. -/
def decodeBytes? : List Nat → Option (List Char)
  | [] => some []
  | b :: rest => match leading true b rest with
    | .char c size => (decodeBytes? (rest.drop (size - 1))).map (c :: ·)
    | .broken _ => none
termination_by bytes => bytes.length
decreasing_by all_goals simp only [List.length_drop, List.length_cons]; omega

/-- The units of `size` bytes that bytes are made of, if they are. -/
def units? (bigEndian : Bool) (size : Nat) (bytes : List Nat) : Option (List Nat) :=
  if size = 0 then none
  else match bytes with
    | [] => some []
    | b :: rest =>
      let group := b :: rest.take (size - 1)
      if group.length < size then none
      else
        let unit := (if bigEndian then group else group.reverse).foldl (fun n b => n * 256 + b) 0
        (units? bigEndian size (rest.drop (size - 1))).map (unit :: ·)
termination_by bytes.length
decreasing_by simp only [List.length_drop, List.length_cons]; omega

/-- The text of units of two bytes; two surrogates that belong together are one character. -/
def ofPairs : List Nat → List Char
  | [] => []
  | [n] => [(charOf? n).getD replacement]
  | high :: low :: rest =>
    if 0xD800 ≤ high && high ≤ 0xDBFF && 0xDC00 ≤ low && low ≤ 0xDFFF then
      Char.ofNat (0x10000 + (high - 0xD800) * 0x400 + (low - 0xDC00)) :: ofPairs rest
    else (charOf? high).getD replacement :: ofPairs (low :: rest)

/-- How a document is written in bytes. -/
inductive Encoding where
  | bytes
  | pairs (bigEndian : Bool)
  | quads (bigEndian : Bool)
deriving DecidableEq, Repr

/-- The encoding of a document, and its bytes without the mark that may stand in front. -/
def Encoding.detect (b : List Nat) : Encoding × List Nat :=
  match b with
  | 0 :: 0 :: 0xFE :: 0xFF :: rest => (quads true, rest)
  | 0xFF :: 0xFE :: 0 :: 0 :: rest => (quads false, rest)
  | 0xFE :: 0xFF :: rest => (pairs true, rest)
  | 0xFF :: 0xFE :: rest => (pairs false, rest)
  | 0xEF :: 0xBB :: 0xBF :: rest => (bytes, rest)
  | 0 :: second :: _ :: _ :: _ => (if second ≠ 0 then pairs true else quads true, b)
  | _ :: 0 :: third :: fourth :: _ =>
    (if third ≠ 0 ∨ fourth ≠ 0 then pairs false else quads false, b)
  | [0, _] => (pairs true, b)
  | [_, 0] => (pairs false, b)
  | _ => (bytes, b)

/-- The text of document bytes, if they are text. -/
def decodeDocument? (b : List Nat) : Option (List Char) :=
  match Encoding.detect b with
  | (.bytes, b) => decodeBytes? b
  | (.pairs bigEndian, b) => (units? bigEndian 2 b).map ofPairs
  | (.quads bigEndian, b) => units? bigEndian 4 b >>= List.mapM charOf?

/-- The text with every kind of line break written as one line feed. -/
def unifyBreaks : List Char → List Char
  | [] => []
  | '\r' :: '\n' :: s => '\n' :: unifyBreaks s
  | '\r' :: s => '\n' :: unifyBreaks s
  | c :: s => c :: unifyBreaks s

end LogViewer.Text
