/-! Blank characters and the trimming of text. The blanks are the separators of the character
standard together with the controls that move the cursor or part a file into records. -/
namespace LogViewer.Text

/-- Whether a character is blank. There are twenty-nine such characters. -/
def isBlank (c : Char) : Bool :=
  let n := c.toNat
  (9 ≤ n && n ≤ 13) || (28 ≤ n && n ≤ 32) || n == 0x85 || n == 0xA0 || n == 0x1680 ||
    (0x2000 ≤ n && n ≤ 0x200A) || n == 0x2028 || n == 0x2029 || n == 0x202F || n == 0x205F ||
    n == 0x3000

/-- The text without the blanks at its front. -/
def trimStart (s : List Char) : List Char := s.dropWhile isBlank

/-- The text without the blanks at its back. -/
def trimEnd (s : List Char) : List Char := (s.reverse.dropWhile isBlank).reverse

/-- The text without the blanks at either end. -/
def trim (s : List Char) : List Char := trimEnd (trimStart s)

/-- Whether a text holds nothing but blanks. -/
def blankOnly (s : List Char) : Bool := s.all isBlank

/-- The maximal runs of characters that are not blank, in order. -/
def words (s : List Char) : List (List Char) :=
  (go [] s).filter (!·.isEmpty)
where
  /-- Splits at every blank; `word` holds the present piece backwards. -/
  go (word : List Char) : List Char → List (List Char)
    | [] => [word.reverse]
    | c :: s => if isBlank c then word.reverse :: go [] s else go (c :: word) s

theorem length_trim_le (s : List Char) : (trim s).length ≤ s.length := by
  have front := (List.dropWhile_suffix (l := s) isBlank).length_le
  have back := (List.dropWhile_suffix (l := (trimStart s).reverse) isBlank).length_le
  rw [List.length_reverse] at back
  simp only [trim, trimEnd, List.length_reverse]
  exact Nat.le_trans back front

end LogViewer.Text
