import LogViewer.Json.TextLength
import LogViewer.Text.Blank

/-! Documents inside the texts of a document. A text whose ends look like those of an object or an
array is read, and so are the texts inside what it holds. -/
namespace LogViewer.Json

/-- Whether a text begins and ends, but for blanks, like an object or an array. -/
def looksEmbedded (s : List Char) : Bool :=
  let s := Text.trim s
  (s.head? == some '\x7b' && s.getLast? == some '\x7d') ||
    (s.head? == some '[' && s.getLast? == some ']')

variable [Text.StandIns]

/-- The document inside a text, if there is one. Only a whole number of too many digits is an
error. -/
def embedded? (s : List Char) : Except ReadError (Option Json) :=
  if looksEmbedded s then
    match read (Text.trim s) with
    | .ok v => .ok (some v)
    | .error (.malformed _ _) => .ok none
    | .error (.overlong number) => .error (.overlong number)
  else .ok none

/-- Whether a text holds an object or an array. -/
def isEmbedded (s : List Char) : Except ReadError Bool := (·.isSome) <$> embedded? s

theorem longest_of_embedded? {s : List Char} {v : Json} (h : embedded? s = .ok (some v)) :
    v.longest < s.length := by
  unfold embedded? at h
  split at h
  · split at h <;> cases h
    have := longest_of_read ‹_›
    have := Text.length_trim_le s
    omega
  · cases h

mutual

/-- A value with the documents inside its texts in the place of those texts. -/
def expanded : Json → Except ReadError Json
  | string s => match h : embedded? s.toList with
    | .ok (some v) =>
      have : v.longest < s.length := String.length_toList ▸ longest_of_embedded? h
      expanded v
    | .ok none => .ok (string s)
    | .error e => .error e
  | array items => array <$> expandedItems items
  | object entries => object <$> expandedEntries entries
  | v => .ok v
termination_by v => (v.longest, sizeOf v)
decreasing_by
  · exact Prod.Lex.left _ _ this
  · exact Prod.Lex.right _ (by simp)
  · exact Prod.Lex.right _ (by simp)

def expandedItems : List Json → Except ReadError (List Json)
  | [] => .ok []
  | v :: items => do return (← expanded v) :: (← expandedItems items)
termination_by items => (longestItem items, sizeOf items)
decreasing_by
  · exact Prod.Lex.right' _ (Nat.le_max_left ..) (by simp only [List.cons.sizeOf_spec]; omega)
  · exact Prod.Lex.right' _ (Nat.le_max_right ..) (by simp only [List.cons.sizeOf_spec]; omega)

def expandedEntries : List (String × Json) → Except ReadError (List (String × Json))
  | [] => .ok []
  | (key, v) :: entries => do return (key, ← expanded v) :: (← expandedEntries entries)
termination_by entries => (longestEntry entries, sizeOf entries)
decreasing_by
  · exact Prod.Lex.right' _ (Nat.le_max_left ..)
      (by simp only [List.cons.sizeOf_spec, Prod.mk.sizeOf_spec]; omega)
  · exact Prod.Lex.right' _ (Nat.le_max_right ..)
      (by simp only [List.cons.sizeOf_spec, Prod.mk.sizeOf_spec]; omega)

end

end LogViewer.Json
