import LogViewer.Numeric.Double

/-! Documents. Whole numbers are kept exactly and apart from floating-point ones, and the entries of
an object keep their order. A document that was read from text is a tree; one that was built in
memory may contain itself, and the place where it would do so again is a leaf of its own. -/
namespace LogViewer

inductive Json where
  | null
  | bool (b : Bool)
  | int (n : Int)
  | double (x : Double)
  | string (s : String)
  | array (items : List Json)
  | object (entries : List (String × Json))
  /-- A container inside itself, an array or an object. -/
  | loop (isArray : Bool)

namespace Json

instance : Inhabited Json := ⟨null⟩

/-- Adds an entry; a key that is there already keeps its place and takes the new value. -/
def put {α : Type} (entries : List (String × α)) (key : String) (value : α) :
    List (String × α) :=
  match entries with
  | [] => [(key, value)]
  | (k, v) :: rest => if k = key then (k, value) :: rest else (k, v) :: put rest key value

/-- Adds an entry unless its key is there already. -/
def putNew {α : Type} (entries : List (String × α)) (key : String) (value : α) :
    List (String × α) :=
  if (entries.lookup key).isSome then entries else entries ++ [(key, value)]

/-- The entries of an object; any other value has none. -/
def entries : Json → List (String × Json)
  | object entries => entries
  | _ => []

/-- Whether a value says something: null, false, nought and whatever is empty do not. -/
def holds : Json → Bool
  | null => false
  | bool b => b
  | int n => n != 0
  | double x => !x.isZero
  | string s => !s.isEmpty
  | array items => !items.isEmpty
  | object entries => !entries.isEmpty
  | loop _ => true

mutual

/-- Whether a value contains itself somewhere. -/
def hasLoop : Json → Bool
  | array items => hasLoopList items
  | object entries => hasLoopEntries entries
  | loop _ => true
  | _ => false

def hasLoopList : List Json → Bool
  | [] => false
  | v :: items => hasLoop v || hasLoopList items

def hasLoopEntries : List (String × Json) → Bool
  | [] => false
  | (_, v) :: entries => hasLoop v || hasLoopEntries entries

end

end Json

end LogViewer
