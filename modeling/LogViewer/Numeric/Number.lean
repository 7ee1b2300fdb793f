import LogViewer.Numeric.Decimal

/-! Numbers of either kind: whole numbers of any size and floating-point numbers. Two whole numbers
are added and multiplied exactly; with a floating-point number the other operand becomes one too,
which fails when it is too large. Comparison is exact in every case. -/
namespace LogViewer

/-- Why an arithmetic step has no result. -/
inductive ArithmeticError where
  | divisionByZero
  /-- A whole number lies beyond the floating-point range. -/
  | operandTooLarge
  /-- The quotient of two whole numbers lies beyond the floating-point range. -/
  | quotientTooLarge
deriving DecidableEq, Repr

def ArithmeticError.message : ArithmeticError → String
  | divisionByZero => "division by zero"
  | operandTooLarge => "int too large to convert to float"
  | quotientTooLarge => "integer division result too large for a float"

inductive Number where
  | int (n : Int)
  | double (x : Double)
deriving DecidableEq, Repr

namespace Double

/-- The number nearest to a whole number, which must not be too large. -/
def ofInt? (n : Int) : Except ArithmeticError Double :=
  match ofRat n false with
  | infinite _ => .error .operandTooLarge
  | x => .ok x

/-- The quotient of two whole numbers, rounded once. -/
def ofRatio (n d : Int) : Except ArithmeticError Double :=
  if d = 0 then .error .divisionByZero
  else match ofRat ((n : Rat) / d) (n = 0 ∧ d < 0) with
    | infinite _ => .error .quotientTooLarge
    | x => .ok x

/-- Compares a floating-point number with a whole one, exactly: the first test is applied to the
signs of the infinities, the second to the values. -/
def compareWith (infinity : Bool → Bool) (value : Rat → Bool) : Double → Bool
  | nan => false
  | infinite negative => infinity negative
  | x => match x.toRat? with
    | some r => value r
    | none => false

end Double

namespace Number

/-- The number as a floating-point number. -/
def toDouble : Number → Except ArithmeticError Double
  | int n => Double.ofInt? n
  | double x => .ok x

protected def add : Number → Number → Except ArithmeticError Number
  | int m, int n => .ok (int (m + n))
  | a, b => return double ((← a.toDouble) + (← b.toDouble))

protected def sub : Number → Number → Except ArithmeticError Number
  | int m, int n => .ok (int (m - n))
  | a, b => return double ((← a.toDouble) - (← b.toDouble))

protected def mul : Number → Number → Except ArithmeticError Number
  | int m, int n => .ok (int (m * n))
  | a, b => return double ((← a.toDouble) * (← b.toDouble))

/-- The quotient, always a floating-point number. -/
protected def div : Number → Number → Except ArithmeticError Number
  | int m, int n => return double (← Double.ofRatio m n)
  | a, b => do
    let x ← a.toDouble
    let y ← b.toDouble
    if y.isZero then throw .divisionByZero
    return double (x / y)

def lt : Number → Number → Bool
  | int m, int n => m < n
  | double x, double y => x.lt y
  | int m, double y => y.compareWith (!·) fun r => (m : Rat) < r
  | double x, int n => x.compareWith id fun r => r < n

def le : Number → Number → Bool
  | int m, int n => m ≤ n
  | double x, double y => x.le y
  | int m, double y => y.compareWith (!·) fun r => (m : Rat) ≤ r
  | double x, int n => x.compareWith id fun r => r ≤ n

/-- The number with a fixed count of places, its whole part in groups of three on demand. -/
def fixed (places : Nat) (inGroups : Bool) (a : Number) : Except ArithmeticError (List Char) :=
  return (← a.toDouble).fixed places inGroups

end Number

end LogViewer
