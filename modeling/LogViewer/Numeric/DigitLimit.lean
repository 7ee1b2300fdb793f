/-! The limit on the digits of whole numbers that are read or written. In reading it binds the count
of digits, noughts in front included, and not the value. -/
namespace LogViewer

/-- The most digits of a whole number that is read or written. -/
def digitLimit : Nat := 4300

/-- A whole number that has more digits than are read. -/
structure OverlongNumber where
  digits : Nat
deriving DecidableEq, Repr

def OverlongNumber.message (n : OverlongNumber) : String :=
  "Exceeds the limit (" ++ toString digitLimit ++ " digits) for integer string conversion: " ++
    "value has " ++ toString n.digits ++ " digits; use sys.set_int_max_str_digits() to " ++
    "increase the limit"

/-- The number that `value` gives to a row of digits, unless the row is too long. -/
def readWithinLimit (value : List Char → Nat) (digits : List Char) : Except OverlongNumber Nat :=
  if digitLimit < digits.length then .error ⟨digits.length⟩ else .ok (value digits)

/-- The text of a whole number, unless it has more digits than are written. -/
def textWithinLimit? (n : Int) : Option String :=
  if n.natAbs < Nat.pow 10 digitLimit then some (toString n) else none

/-- The message about a whole number that has more digits than are written. -/
def unwritableMessage : String :=
  "Exceeds the limit (" ++ toString digitLimit ++ " digits) for integer string conversion; " ++
    "use sys.set_int_max_str_digits() to increase the limit"

end LogViewer
