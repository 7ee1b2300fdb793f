import LogViewer.Text.Case
import LogViewer.Text.Pictograph

/-! The markup of the lines and titles that a command shows. The program leaves it to the library
rich to read and to write it; what stands here is that library's way. A tag in square brackets sets a
style. A backslash in front of a tag makes it text, and of two backslashes there one stays. Between
two tags, the name of a pictograph between colons stands for the pictograph. Text that is not markup
is shown as it is, but for a few control characters. -/
namespace LogViewer.Markup

/-- Whether a character may begin the inside of a tag. -/
def beginsTag (c : Char) : Bool :=
  ('a' ≤ c && c ≤ 'z') || c == '#' || c == '/' || c == '@'

/-- Reads a tag whose opening bracket is gone. The result is its inside and the text after it. -/
def tag? : List Char → Option (List Char × List Char)
  | [] => none
  | c :: s =>
    match beginsTag c, s.dropWhile fun c => c != '[' && c != ']' with
    | true, ']' :: rest => some (c :: s.takeWhile fun c => c != '[' && c != ']', rest)
    | _, _ => none

theorem length_of_tag?_eq_some {s inside rest : List Char} (h : tag? s = some (inside, rest)) :
    rest.length < s.length := by
  unfold tag? at h
  split at h
  · cases h
  · rename_i c s
    have suffix := List.dropWhile_suffix (l := s) fun c => c != '[' && c != ']'
    split at h
    · rename_i eq
      cases h
      have := (eq ▸ suffix).length_le
      simp only [List.length_cons] at this ⊢
      omega
    · cases h

def backslashes (n : Nat) : List Char := List.replicate n '\\'

/-- Makes the tags of a text plain; `n` backslashes stand right before it. -/
def escapeFrom (n : Nat) : List Char → List Char
  | [] => backslashes n
  | c :: s =>
    if c = '\\' then escapeFrom (n + 1) s
    else if c = '[' then
      match _ : tag? s with
      | some (inside, rest) =>
        backslashes (2 * n + 1) ++ '[' :: inside ++ ']' :: escapeFrom 0 rest
      | none => backslashes n ++ '[' :: escapeFrom 0 s
    else backslashes n ++ c :: escapeFrom 0 s
termination_by s => s.length
decreasing_by
  · simp
  · have := length_of_tag?_eq_some ‹_›
    simp only [List.length_cons]
    omega
  · simp
  · simp

/-- The markup of a text that is to be shown as it is. A lone backslash at the end is doubled,
since a tag may follow. -/
def escaped (s : String) : String :=
  let s := escapeFrom 0 s.toList
  let isOpen := s.getLast? = some '\\' ∧ s.dropLast.getLast? ≠ some '\\'
  String.ofList (if isOpen then s ++ ['\\'] else s)

/-- The pieces of text in some markup, which its tags part. The present piece stands backwards in
`piece`, and `n` backslashes follow it. -/
def piecesFrom (piece : List Char) (n : Nat) : List Char → List (List Char)
  | [] => [(backslashes n ++ piece).reverse]
  | c :: s =>
    if c = '\\' then piecesFrom piece (n + 1) s
    else if c = '[' then
      match _ : tag? s with
      | some (inside, rest) =>
        let tag := if n % 2 = 1 then '[' :: inside ++ [']'] else []
        piece.reverse :: backslashes (n / 2) :: tag :: piecesFrom [] 0 rest
      | none => piecesFrom ('[' :: (backslashes (n - 1) ++ piece)) 0 s
    else piecesFrom (c :: (backslashes n ++ piece)) 0 s
termination_by s => s.length
decreasing_by
  · simp
  · have := length_of_tag?_eq_some ‹_›
    simp only [List.length_cons]
    omega
  · simp
  · simp

/-- What a name of a pictograph may end in, and the character for it: the pictograph as text, or in
colours. -/
def variants : List (List Char × Char) := [("-text".toList, '\uFE0E'), ("-emoji".toList, '\uFE0F')]

/-- The pictograph that a name between colons stands for. -/
def pictured? (name : List Char) : Option (List Char) :=
  match variants.find? fun (ending, _) => ending.isSuffixOf name with
  | some (ending, mark) =>
    (Text.pictograph? (Text.lower (name.take (name.length - ending.length)))).map (· ++ [mark])
  | none => Text.pictograph? (Text.lower name)

/-- The name between a colon that is gone and the next one, and the text after that one. A name
holds no blank. -/
def name? (s : List Char) : Option (List Char × List Char) :=
  match s.dropWhile (· != ':') with
  | _ :: rest =>
    if (s.takeWhile (· != ':')).any Text.isBlank then none
    else some (s.takeWhile (· != ':'), rest)
  | [] => none

theorem length_of_name?_eq_some {s name rest : List Char} (h : name? s = some (name, rest)) :
    rest.length < s.length := by
  have suffix := List.dropWhile_suffix (l := s) (· != ':')
  unfold name? at h
  split at h
  · rename_i eq
    split at h
    · cases h
    · cases h
      have := (eq ▸ suffix).length_le
      simp only [List.length_cons] at this
      omega
  · cases h

/-- The text with the pictographs in the place of their names. Names that are none stay. -/
def withPictographs : List Char → List Char
  | [] => []
  | c :: s =>
    if c = ':' then
      match _ : name? s with
      | some (name, rest) =>
        (pictured? name).getD (':' :: name ++ [':']) ++ withPictographs rest
      | none => c :: withPictographs s
    else c :: withPictographs s
termination_by s => s.length
decreasing_by
  · have := length_of_name?_eq_some ‹_›
    simp only [List.length_cons]
    omega
  · simp
  · simp

/-- Whether a character moves the cursor or rings, and so is never shown. -/
def isSilent (c : Char) : Bool := c.toNat ∈ [7, 8, 11, 12, 13]

/-- The text as it is shown. -/
def visible (s : String) : String := String.ofList (s.toList.filter (!isSilent ·))

/-- The text of some markup without its tags, as it is shown. -/
def plain (markup : String) : String :=
  visible (String.ofList ((piecesFrom [] 0 markup.toList).flatMap withPictographs))

end LogViewer.Markup
