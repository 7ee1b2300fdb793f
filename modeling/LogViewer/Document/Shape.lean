import LogViewer.Calendar.Numeric

/-! Values of a document, seen one level at a time. A value that was read from text is a tree; a
value of a document in memory may be reached on several ways, or contain itself, and is only
unfolded into a tree when its text is asked for. -/
namespace LogViewer

/-- A value with the values directly inside it. -/
inductive Shape (ν : Type) where
  /-- A value that holds no other. -/
  | scalar (value : Json)
  | array (items : List ν)
  | object (entries : List (String × ν))

/-- Values that can be looked into. -/
class Payload (ν : Type) where
  shape : ν → Shape ν
  /-- The value as a tree. -/
  tree : ν → Json

namespace Shape

variable {ν : Type}

/-- Whether a value says something: null, false, nought and whatever is empty do not. -/
def holds : Shape ν → Bool
  | scalar value => value.holds
  | array items => !items.isEmpty
  | object entries => !entries.isEmpty

/-- The timestamp that a value stands for. -/
def timestamp? : Shape ν → Option String
  | scalar value => Timestamp.ofValue? value
  | _ => none

def entries? : Shape ν → Option (List (String × ν))
  | object entries => some entries
  | _ => none

def items? : Shape ν → Option (List ν)
  | array items => some items
  | _ => none

def isContainer : Shape ν → Bool
  | scalar _ => false
  | _ => true

end Shape

namespace Payload

variable {ν : Type} [Payload ν]

/-- The value of a key, if the value is an object that has it. -/
def member? (v : ν) (key : String) : Option ν := do
  (← (shape v).entries?).lookup key

/-- The values directly inside a container, each with the name of its place in it. -/
def parts (v : ν) : List (String × ν) :=
  match shape v with
  | .scalar _ => []
  | .array items => items.zipIdx.map fun (item, i) => (toString i, item)
  | .object entries => entries

end Payload

/-- A tree seen one level at a time. -/
def Json.shape : Json → Shape Json
  | .array items => .array items
  | .object entries => .object entries
  | v => .scalar v

instance : Payload Json where
  shape := Json.shape
  tree := id

end LogViewer
