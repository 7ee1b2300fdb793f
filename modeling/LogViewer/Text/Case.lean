import LogViewer.Text.CaseTable

/-! Small and capital forms of text. Each character has its own image, with one exception: a
capital sigma that ends a word becomes the final small sigma. It ends a word when the nearest
character before it that is not skipped is cased and the nearest one after it is not. -/
namespace LogViewer.Text

/-- The image of a code point under the runs, itself if it lies in none. -/
def shiftBy (runs : List CaseRun) (n : Nat) : Nat :=
  match runs.find? fun run => run.first ≤ n && n ≤ run.last && (n - run.first) % run.step == 0 with
  | some run => (n + run.shift).toNat
  | none => n

/-- The small form of a character that stands alone. -/
def lowerChar (c : Char) : List Char :=
  let n := c.toNat
  if n < 128 then [if 65 ≤ n && n ≤ 90 then Char.ofNat (n + 32) else c]
  else if n == 0x130 then ['i', '\u0307']
  else [Char.ofNat (shiftBy lowerRuns n)]

/-- The capital form of a character. -/
def upperChar (c : Char) : List Char :=
  let n := c.toNat
  if n < 128 then [if 97 ≤ n && n ≤ 122 then Char.ofNat (n - 32) else c]
  else match upperSpecials.lookup n with
    | some images => images.map Char.ofNat
    | none => [Char.ofNat (shiftBy upperRuns n)]

/-- Whether a character is skipped when a cased neighbour is looked for. -/
def isCaseIgnorable (c : Char) : Bool :=
  let n := c.toNat
  if n < 128 then n == 39 || n == 46 || n == 58 || n == 94 || n == 96
  else caseIgnorableRanges.any fun (first, last) => first ≤ n && n ≤ last

/-- Whether a character that is not skipped is cased. -/
def isCased (c : Char) : Bool :=
  let n := c.toNat
  if n < 128 then (65 ≤ n && n ≤ 90) || (97 ≤ n && n ≤ 122)
  else casedRanges.any fun (first, last) => first ≤ n && n ≤ last

/-- Whether the first character that is not skipped is cased. -/
def startsCased : List Char → Bool
  | [] => false
  | c :: s => if isCaseIgnorable c then startsCased s else isCased c

/-- The small form of a text that follows a word character exactly if `afterCased`. -/
def lowerAfter (afterCased : Bool) : List Char → List Char
  | [] => []
  | c :: s =>
    let image :=
      if c == 'Σ' then [if afterCased && !startsCased s then 'ς' else 'σ'] else lowerChar c
    image ++ lowerAfter (if isCaseIgnorable c then afterCased else isCased c) s

/-- The small form of a text. -/
def lower (s : List Char) : List Char := lowerAfter false s

/-- The capital form of a text. -/
def upper (s : List Char) : List Char := s.flatMap upperChar

/-- Whether two texts agree when the case of the first 26 letters is disregarded. -/
def sameLetters (s t : List Char) : Bool := s.map Char.toUpper == t.map Char.toUpper

end LogViewer.Text
