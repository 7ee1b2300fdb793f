import LogViewer.Numeric.Number

/-! What a track needs of its horizontal coordinates. They are numbers of either kind when the
viewer runs; over the rationals the same track is laid out exactly. -/
namespace LogViewer

class Coordinate (κ : Type) where
  ofInt : Int → κ
  /-- The start of a track, as an offset. -/
  origin : κ
  lt : κ → κ → Bool
  le : κ → κ → Bool
  add : κ → κ → Except ArithmeticError κ
  sub : κ → κ → Except ArithmeticError κ
  mul : κ → κ → Except ArithmeticError κ
  div : κ → κ → Except ArithmeticError κ
  /-- The text with a fixed count of places, the whole part in groups of three on demand. -/
  fixed : Nat → Bool → κ → Except ArithmeticError (List Char)

instance : Coordinate Number where
  ofInt := .int
  origin := .double (.zero false)
  lt := Number.lt
  le := Number.le
  add := Number.add
  sub := Number.sub
  mul := Number.mul
  div := Number.div
  fixed := Number.fixed

instance : Coordinate Rat where
  ofInt n := n
  origin := 0
  lt a b := a < b
  le a b := a ≤ b
  add a b := .ok (a + b)
  sub a b := .ok (a - b)
  mul a b := .ok (a * b)
  div a b := if b = 0 then .error .divisionByZero else .ok (a / b)
  fixed places inGroups a := .ok
    ((if a < 0 then ['-'] else []) ++ Double.fixedQuotient places inGroups a.num.natAbs a.den)

/-- The greater of two coordinates, the first one of two that are equal. -/
def Coordinate.greater {κ : Type} [Coordinate κ] (a b : κ) : κ := if lt a b then b else a

end LogViewer
