import LogViewer.Text.Substring

/-! The files that a command finds, the directories that it makes, and the place of the file that it
writes. Paths are parted by slashes; an empty part and a single point stand for no step, two points
for a step outwards. A path is followed step by step, and each step needs a directory to start
from. -/
namespace LogViewer

/-- A place where something may stand: the steps to it from the root, or from the working directory.
Steps outwards come first, and only from the working directory. -/
structure Place where
  absolute : Bool
  steps : List String
deriving DecidableEq, Repr

/-- A path: the slashes at its front, and its steps from the root or from the working directory. -/
structure Path where
  slashes : Nat
  steps : List String
deriving DecidableEq, Repr

/-- The steps with slashes between them. -/
def stepsText (steps : List String) : String := String.intercalate "/" steps

namespace Place

/-- Whether a place lies in the working directory. -/
def isInside (p : Place) : Bool := !p.absolute && p.steps.head? ≠ some ".."

def text (p : Place) : String :=
  if p.absolute then "/" ++ stepsText p.steps
  else if p.steps = [] then "." else stepsText p.steps

/-- The place of the directory in which something stands; the root stands in itself. -/
def outer (p : Place) : Place :=
  match p.steps.getLast? with
  | none => if p.absolute then p else { p with steps := [".."] }
  | some ".." => { p with steps := p.steps ++ [".."] }
  | some _ => { p with steps := p.steps.dropLast }

/-- The place to which a step leads. -/
def follow (p : Place) (step : String) : Place :=
  if step = ".." then p.outer else { p with steps := p.steps ++ [step] }

end Place

namespace Path

/-- Reads a path. Two slashes at its front are kept, and more are as good as one. -/
def ofText (text : String) : Path :=
  let slashes := (text.toList.takeWhile (· == '/')).length
  { slashes := if slashes ≤ 2 then slashes else 1
    steps := (Text.splitAtEach '/' [] text.toList).map String.ofList |>.filter
      fun step => step ≠ "" ∧ step ≠ "." }

/-- The last step of a path. -/
def name (p : Path) : String := p.steps.getLast?.getD ""

/-- A path without its last step. -/
def parent (p : Path) : Path := { p with steps := p.steps.dropLast }

/-- The path of a file in a directory. -/
def file (directory : Path) (name : String) : Path :=
  { directory with steps := directory.steps ++ [name] }

def text (p : Path) : String :=
  if p.slashes = 0 ∧ p.steps = [] then "."
  else String.ofList (List.replicate p.slashes '/') ++ stepsText p.steps

/-- The place where a path begins. -/
def start (p : Path) : Place := { absolute := p.slashes ≠ 0, steps := [] }

/-- The places on the way along a path, the last one being that to which it leads. -/
def places (p : Path) : List Place := go p.start p.steps
where
  go (place : Place) : List String → List Place
    | [] => [place]
    | step :: steps => place :: go (place.follow step) steps

/-- The place to which a path leads if everything on the way is a directory. -/
def target (p : Path) : Place := p.steps.foldl Place.follow p.start

end Path

/-- What a command can find. -/
structure Files where
  /-- The files, each with its bytes. -/
  contents : List (Place × List Nat)
  /-- Directories beside those in which the files stand. -/
  directories : List Place := []

/-- Why a path could not be followed, or nothing could be made or written at its end. -/
inductive FileError where
  /-- Nothing stands at a place on the way. -/
  | missing
  /-- A file stands where a directory on the way should be. -/
  | fileOnTheWay
  /-- A file stands in the place of the directory to be made. -/
  | fileInPlace
  /-- A directory stands in the file's place. -/
  | directoryInPlace
  /-- A step, or the path as a whole, has too many bytes. -/
  | tooLong
  /-- The path holds the character that ends texts. -/
  | nullCharacter
deriving DecidableEq, Repr

namespace Files

/-- The most bytes of a step. -/
def stepLimit : Nat := 255

/-- The most bytes of a path. -/
def pathLimit : Nat := 4095

def content? (files : Files) (place : Place) : Option (List Nat) := files.contents.lookup place

/-- Whether a place is a directory: it is listed, a file stands in it, or paths begin there. -/
def isDirectory (files : Files) (place : Place) : Bool :=
  place.steps.all (· == "..") || files.directories.contains place ||
    files.contents.any fun (other, _) =>
      other.absolute == place.absolute && place.steps.isPrefixOf other.steps &&
        place.steps.length < other.steps.length

/-- Whether something stands at a place. -/
def holds (files : Files) (place : Place) : Bool :=
  files.isDirectory place || (files.content? place).isSome

/-- A file at a path, and the directories on the way to it. -/
def single (path : Path) (bytes : List Nat) : Files where
  contents := [(path.target, bytes)]
  directories := path.places.dropLast

/-- The place to which a step leads from a place where something stands. -/
def enter (files : Files) (place : Place) (step : String) : Except FileError Place :=
  if !files.isDirectory place then .error .fileOnTheWay
  else if stepLimit < step.utf8ByteSize then .error .tooLong
  else if files.holds (place.follow step) then .ok (place.follow step)
  else .error .missing

/-- The place of what stands at the end of a path. -/
def find (files : Files) (path : Path) : Except FileError Place :=
  if path.text.contains '\x00' then .error .nullCharacter
  else if pathLimit < path.text.utf8ByteSize then .error .tooLong
  else path.steps.foldlM files.enter path.start

/-- The bytes of the file at a path, if there is a file. Only a path that is too long is an error.
-/
def read? (files : Files) (path : Path) : Except FileError (Option (List Nat)) :=
  match files.find path with
  | .ok place => .ok (files.content? place)
  | .error .tooLong => .error .tooLong
  | .error _ => .ok none

/-- Makes a directory inside one that is there, unless there is a directory already. -/
def makeLast (files : Files) (path : Path) : Except FileError Files :=
  match files.find path with
  | .ok place => if files.isDirectory place then .ok files else .error .fileInPlace
  | .error .missing => do
    let outer ← files.find path.parent
    return { files with directories := outer.follow path.name :: files.directories }
  | .error error => .error error

/-- Makes a directory. Where one on the way is missing, the whole way to it is made first. -/
def makeDirectory (files : Files) (path : Path) : Except FileError Files :=
  if path.steps = [] then .ok files
  else match files.makeLast path with
    | .error .missing => do (← files.makeDirectory path.parent).makeLast path
    | result => result
termination_by path.steps.length
decreasing_by
  have := List.length_pos_iff.mpr ‹path.steps ≠ []›
  simp only [Path.parent, List.length_dropLast]
  omega

/-- The place of a file that is written into a directory. -/
def placeOf (files : Files) (directory : Path) (name : String) : Except FileError Place :=
  match files.find (directory.file name) with
  | .ok place => if files.isDirectory place then .error .directoryInPlace else .ok place
  | .error .missing => do
    let outer ← files.find directory
    return outer.follow name
  | .error error => .error error

end Files

end LogViewer
