import LogViewer.Numeric.DigitLimit
import LogViewer.Numeric.Double
import LogViewer.Numeric.Decimal
import LogViewer.Text.Blank
import LogViewer.Text.Digit
import LogViewer.Text.Quoted

/-! Numbers as a person types them: blanks around them, a sign, digits of any script, and a low line
between two digits. Where a whole number is asked for, a decimal one whose fraction is nought may do.
-/
namespace LogViewer.Text

/-- Why a text is no whole number. -/
inductive NumeralError where
  | notWhole (text : String)
  | overlong (number : OverlongNumber)
deriving DecidableEq, Repr

/-- The most characters of a text in quotation marks that a message shows. -/
def quotedLimit : Nat := 200

def NumeralError.message : NumeralError → String
  | .notWhole text =>
    "invalid literal for int() with base 10: " ++
      String.ofList ((quoted text.toList).take quotedLimit)
  | .overlong number => number.message

/-- Whether a character may surround a number. The control characters that part a file into records
are blanks, but may not. -/
def isPadding (c : Char) : Bool := isBlank c && !(28 ≤ c.toNat && c.toNat ≤ 31)

/-- The text without the padding around it. -/
def unpadded (s : List Char) : List Char :=
  ((s.dropWhile isPadding).reverse.dropWhile isPadding).reverse

/-- The digits of a row in which low lines stand only between digits. -/
def digitRow? (s : List Char) : Option (List Char) :=
  go false s
where
  /-- Takes the rest of a row, whose last character was a digit exactly if `afterDigit`. -/
  go (afterDigit : Bool) : List Char → Option (List Char)
    | [] => if afterDigit then some [] else none
    | c :: s =>
      if isDigit c then (go true s).map (c :: ·)
      else if c = '_' ∧ afterDigit = true then go false s
      else none

/-- The sign in front of a text, and the text after it. -/
def signed : List Char → Bool × List Char
  | '-' :: s => (true, s)
  | '+' :: s => (false, s)
  | s => (false, s)

/-- Reads a whole number. The digits are counted before what follows them is looked at. -/
def wholeNumber (text : String) : Except NumeralError Int :=
  let (negative, s) := signed (text.toList.dropWhile isPadding)
  let (row, rest) := s.span fun c => isDigit c || c == '_'
  match (digitRow? row).map (readWithinLimit numberOf) with
  | none => .error (.notWhole text)
  | some (.error number) => .error (.overlong number)
  | some (.ok magnitude) =>
    if rest.all isPadding then .ok (if negative then -(magnitude : Int) else magnitude)
    else .error (.notWhole text)

/-- Whether a text is no fraction at all, or a point and at least one nought. -/
def isNoughtFraction : List Char → Bool
  | [] => true
  | point :: noughts => point == '.' && !noughts.isEmpty && noughts.all (· == '0')

/-- Reads a whole number that may be written as a decimal one: a point and at least one nought may
follow its digits. -/
def wholeDecimal? (text : String) : Option Int := do
  let s := unpadded text.toList
  let (negative, row) := signed (s.takeWhile (· != '.'))
  guard (isNoughtFraction (s.dropWhile (· != '.')))
  let magnitude ← (readWithinLimit numberOf (← digitRow? row)).toOption
  return if negative then -(magnitude : Int) else magnitude

/-- The digits of a row that may be empty. -/
def digitRowOrNone? (s : List Char) : Option (List Char) :=
  if s.isEmpty then some [] else digitRow? s

/-- Reads a number with a point and an exponent on demand, or one of the words for an infinity and
for no number. -/
def decimalNumber? (text : String) : Option Double :=
  let (negative, s) := signed (unpadded text.toList)
  let word := lowerAscii s
  if word = "nan".toList then some .nan
  else if word = "inf".toList ∨ word = "infinity".toList then some (.infinite negative)
  else do
    let (front, exponent) ← match s.span fun c => c != 'e' && c != 'E' with
      | (front, []) => some (front, 0)
      | (front, _ :: t) => do
        let (negativeExponent, t) := signed t
        let digits ← digitRow? t
        let magnitude : Int := numberOf digits
        some (front, if negativeExponent then -magnitude else magnitude)
    let (whole, fraction) ← match front.span (· != '.') with
      | (whole, []) => some (whole, [])
      | (whole, _ :: fraction) => some (whole, fraction)
    let whole ← digitRowOrNone? whole
    let fraction ← digitRowOrNone? fraction
    guard !(whole.isEmpty && fraction.isEmpty)
    return .ofDecimal negative (numberOf (whole ++ fraction)) (exponent - fraction.length)
where
  /-- The text with the first 26 letters small. -/
  lowerAscii (s : List Char) : List Char := s.map Char.toLower

end LogViewer.Text
