import LogViewer.Numeric.Double
import LogViewer.Text.Substring

/-! Decimal texts of floating-point numbers. The shortest text has the fewest digits that read back
as the same number; of two such digit rows the nearer one is taken, and the even one of two that
are equally near. A text of fixed places is rounded once, from the exact value. -/
namespace LogViewer

/-- The decimal digits of a number as text. -/
def digitsOf (n : Nat) : List Char := Nat.toDigits 10 n

/-- The digits of a whole number with a minus sign in front if it is below nought, however many there
are. -/
def wholeText (n : Int) : List Char :=
  if n < 0 then '-' :: digitsOf n.natAbs else digitsOf n.natAbs

/-- The digits with a comma between each group of three, counted from the right. -/
def grouped (digits : List Char) : List Char :=
  go digits.reverse 0 []
where
  /-- Takes the digits from the right; `count` of them stand in `done` without a comma. -/
  go : List Char → Nat → List Char → List Char
    | [], _, done => done
    | d :: rest, count, done =>
      if count = 3 then go rest 1 (d :: ',' :: done) else go rest (count + 1) (d :: done)

namespace Double

/-- The number nearest to `digits * 10 ^ scale`. Scales that leave the range on either side are not
computed. -/
def ofDecimal (negative : Bool) (digits : Nat) (scale : Int) : Double :=
  if digits = 0 then zero negative
  else
    let places : Int := (digitsOf digits).length
    if 310 < places + scale then infinite negative
    else if places + scale < -330 then zero negative
    else if 0 ≤ scale then ofQuotient negative (digits * Nat.pow 10 scale.toNat) 1
    else ofQuotient negative digits (Nat.pow 10 (-scale).toNat)

/-- The count of places by which the decimal point of `num / den` follows its first digit but not
its first nought: the least `p` with `num / den < 10 ^ p`. -/
def pointPlace (num den : Nat) : Int :=
  if den ≤ num then (digitsOf (num / den)).length
  else match (List.range 400).find? fun k => den ≤ num * Nat.pow 10 (k + 1) with
    | some k => -k
    | none => 0

/-- The row of `count` digits that reads back as `num / den`, if there is one: of the two rows
around the exact value the nearer one that does. -/
def digitsAt? (num den : Nat) (place : Int) (count : Nat) : Option Nat :=
  let scale := place - count
  let (num', den') :=
    if 0 ≤ scale then (num, den * Nat.pow 10 scale.toNat)
    else (num * Nat.pow 10 (-scale).toNat, den)
  let below := num' / den'
  let readsBack (digits : Nat) : Bool :=
    ofDecimal false digits scale == ofQuotient false num den
  let nearest := roundQuotient num' den'
  let other := if nearest = below then below + 1 else below
  if readsBack nearest then some nearest
  else if readsBack other then some other
  else none

/-- The digits without noughts at their end. -/
def withoutTrailingNoughts (digits : List Char) : List Char :=
  (digits.reverse.dropWhile (· == '0')).reverse

/-- The shortest digits of the positive number `num / den`, and the place of the point: the number
is nought, point, the digits, times ten to that place. -/
def shortestDigits (num den : Nat) : List Char × Int :=
  let place := pointPlace num den
  match (List.range 17).findSome? fun k => digitsAt? num den place (k + 1) |>.map (·, k + 1) with
  | some (digits, count) =>
    -- Rounding up may carry into a further digit, which moves the point.
    let row := digitsOf digits
    (withoutTrailingNoughts row, place + (row.length - count))
  | none => (['0'], 1)

/-- How a number is spelled that has no digits. -/
structure Spelling where
  nan : List Char
  infinity : List Char

/-- The spelling inside documents. -/
def Spelling.document : Spelling := ⟨"NaN".toList, "Infinity".toList⟩

/-- The spelling in texts for people. -/
def Spelling.plain : Spelling := ⟨"nan".toList, "inf".toList⟩

/-- Digits in positional notation when the point stands from three noughts after it to sixteen
digits before it, with a place after the point in any case; otherwise with an exponent of at least
two digits. -/
def layOut (digits : List Char) (place : Int) : List Char :=
  if -4 < place ∧ place ≤ 16 then
    if place ≤ 0 then "0.".toList ++ List.replicate (-place).toNat '0' ++ digits
    else
      let whole := digits.take place.toNat
      let fraction := digits.drop place.toNat
      whole ++ List.replicate (place.toNat - whole.length) '0' ++
        '.' :: (if fraction.isEmpty then ['0'] else fraction)
  else
    let exponent := place - 1
    let size := digitsOf exponent.natAbs
    let mantissa := match digits with
      | [] => []
      | [d] => [d]
      | d :: rest => d :: '.' :: rest
    mantissa ++ 'e' :: (if exponent < 0 then '-' else '+') ::
      (List.replicate (2 - size.length) '0' ++ size)

/-- The shortest text that reads back as the number. -/
def shortest (spelling : Spelling) (x : Double) : List Char :=
  let sign := if x.isNegative then ['-'] else []
  match x.toRat? with
  | none => if x = nan then spelling.nan else sign ++ spelling.infinity
  | some r =>
    if r = 0 then sign ++ "0.0".toList
    else
      let (digits, place) := shortestDigits r.num.natAbs r.den
      sign ++ layOut digits place

/-- The magnitude `num / den` with a fixed count of places, its whole part in groups on demand. -/
def fixedQuotient (places : Nat) (inGroups : Bool) (num den : Nat) : List Char :=
  let scaled := roundQuotient (num * Nat.pow 10 places) den
  let whole := digitsOf (scaled / Nat.pow 10 places)
  let fraction := digitsOf (scaled % Nat.pow 10 places)
  (if inGroups then grouped whole else whole) ++
    if places = 0 then [] else '.' :: (List.replicate (places - fraction.length) '0' ++ fraction)

/-- The number with a fixed count of places after the point. -/
def fixed (places : Nat) (inGroups : Bool) (x : Double) : List Char :=
  let sign := if x.isNegative then ['-'] else []
  match x.toRat? with
  | none => if x = nan then Spelling.plain.nan else sign ++ Spelling.plain.infinity
  | some r => sign ++ fixedQuotient places inGroups r.num.natAbs r.den

end Double

end LogViewer
