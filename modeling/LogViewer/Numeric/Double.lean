import LogViewer.Numeric.Rounding

/-! Binary floating-point numbers with 53 significant bits, in exact arithmetic. A finite number is
a sign, a significand below `2 ^ 53` and a power of two; it is kept in the one form in which the
significand has all its 53 bits, or fewer at the least exponent. Each operation computes the exact
result first and rounds it once, to the nearest number and to the even one of two. -/
namespace LogViewer

inductive Double where
  | nan
  | infinite (negative : Bool)
  /-- The number `significand * 2 ^ exponent`, negated if `negative`. -/
  | finite (negative : Bool) (significand : Nat) (exponent : Int)
deriving DecidableEq, Repr

namespace Double

/-- The exponent of the least positive number. -/
def leastExponent : Int := -1074

/-- The exponent of the greatest finite number. -/
def greatestExponent : Int := 971

def zero (negative : Bool) : Double := finite negative 0 leastExponent

/-- The number nearest to `num / den`, with the given sign. -/
def ofQuotient (negative : Bool) (num den : Nat) : Double :=
  if num = 0 then zero negative
  else
    let exponent := max (floorLog2 num den - 52) leastExponent
    let significand :=
      if 0 ≤ exponent then roundQuotient num (den * Nat.pow 2 exponent.toNat)
      else roundQuotient (num * Nat.pow 2 (-exponent).toNat) den
    -- Rounding up may fill the 54th bit; the result is then a power of two.
    let (significand, exponent) :=
      if significand = Nat.pow 2 53 then (Nat.pow 2 52, exponent + 1) else (significand, exponent)
    if greatestExponent < exponent then infinite negative
    else finite negative significand exponent

/-- The number nearest to `r`; a zero result takes the given sign. -/
def ofRat (r : Rat) (negativeZero : Bool) : Double :=
  if r = 0 then zero negativeZero else ofQuotient (r < 0) r.num.natAbs r.den

/-- The value of a finite number. -/
def toRat? : Double → Option Rat
  | finite negative significand exponent =>
    let magnitude : Rat :=
      if 0 ≤ exponent then ((significand * Nat.pow 2 exponent.toNat : Nat) : Rat)
      else mkRat significand (Nat.pow 2 (-exponent).toNat)
    some (if negative then -magnitude else magnitude)
  | _ => none

/-- Whether the sign is set; a number that is none has no sign. -/
def isNegative : Double → Bool
  | nan => false
  | infinite negative => negative
  | finite negative _ _ => negative

def isZero : Double → Bool
  | finite _ significand _ => significand == 0
  | _ => false

protected def neg : Double → Double
  | nan => nan
  | infinite negative => infinite !negative
  | finite negative significand exponent => finite (!negative) significand exponent

instance : Neg Double := ⟨Double.neg⟩

protected def add (x y : Double) : Double :=
  match x.toRat?, y.toRat? with
  | some a, some b => ofRat (a + b) (x.isNegative && y.isNegative)
  | some _, none => y
  | none, some _ => x
  | none, none => if x = y then x else nan

instance : Add Double := ⟨Double.add⟩

instance : Sub Double := ⟨fun x y => x + -y⟩

protected def mul (x y : Double) : Double :=
  let negative := x.isNegative != y.isNegative
  match x.toRat?, y.toRat? with
  | some a, some b => ofRat (a * b) negative
  | _, _ => if x = nan || y = nan || x.isZero || y.isZero then nan else infinite negative

instance : Mul Double := ⟨Double.mul⟩

/-- The quotient; dividing by a zero gives an infinity, or no number for zero by zero. -/
protected def div (x y : Double) : Double :=
  let negative := x.isNegative != y.isNegative
  match x.toRat?, y.toRat? with
  | some a, some b =>
    if b = 0 then if a = 0 then nan else infinite negative else ofRat (a / b) negative
  | some _, none => if y = nan then nan else zero negative
  | none, some _ => if x = nan then nan else infinite negative
  | none, none => nan

instance : Div Double := ⟨Double.div⟩

/-- Whether `x` lies below `y`; false where one of them is no number. -/
def lt (x y : Double) : Bool :=
  match x, y with
  | nan, _ | _, nan => false
  | infinite negative, infinite negative' => negative && !negative'
  | infinite negative, finite .. => negative
  | finite .., infinite negative => !negative
  | finite .., finite .. => match x.toRat?, y.toRat? with
    | some a, some b => a < b
    | _, _ => false

/-- Whether `x` lies below `y` or both have the same value; false where one is no number. -/
def le (x y : Double) : Bool :=
  match x, y with
  | nan, _ | _, nan => false
  | infinite negative, infinite negative' => negative || !negative'
  | infinite negative, finite .. => negative
  | finite .., infinite negative => !negative
  | finite .., finite .. => match x.toRat?, y.toRat? with
    | some a, some b => a ≤ b
    | _, _ => false

end Double

end LogViewer
