import LogViewer.Corpus.Hit
import LogViewer.Document.Walk
import LogViewer.Json.Reader
import LogViewer.Settings
import LogViewer.Text.Encoding

/-! Loading a document into a corpus. A search export is read hit by hit, in chunks; in any other
document the walk finds the objects that have a timestamp. -/
namespace LogViewer

/-- A share of a whole, as progress is reported. -/
structure Share where
  part : Nat
  whole : Nat
deriving DecidableEq, Repr

/-- Why a document was not loaded. -/
inductive LoadError where
  /-- A text is not a document. -/
  | unreadable (error : Json.ReadError)
  /-- Bytes are not text. -/
  | undecodable
  /-- A timestamp's zone leads out of the calendar. -/
  | calendar (error : CalendarError)
  /-- The chunks have no size. -/
  | emptyChunks
deriving DecidableEq, Repr

/-- The message about a document that was not loaded; bytes that are not text have none. -/
def LoadError.message? : LoadError → Option String
  | unreadable (.overlong number) => some number.message
  | unreadable error => some ("Error parsing JSON payload: " ++ error.message)
  | undecodable => none
  | calendar error => some error.message
  | emptyChunks => some "range() arg 3 must not be zero"

/-- Whether an error is the document's own fault, so that a person is told and nothing else
happens. -/
def LoadError.isRefusal : LoadError → Bool
  | unreadable (.malformed ..) | undecodable => true
  | _ => false

/-- Cuts a list into chunks of a size, the last of which may be shorter. -/
def chunks {α : Type} (size : Nat) (l : List α) : List (List α) :=
  if size = 0 then []
  else match l with
    | [] => []
    | a :: l => (a :: l.take (size - 1)) :: chunks size (l.drop (size - 1))
termination_by l.length
decreasing_by simp only [List.length_drop, List.length_cons]; omega

variable {ν : Type} [Payload ν]

/-- The hits of a search export; any other document has none. -/
def envelopeHits? (v : ν) : Option (List ν) := do
  let response ← Payload.member? v "rawResponse"
  let hits ← Payload.member? response "hits"
  (Payload.shape (← Payload.member? hits "hits")).items?

/-- The chunks of the hits, each hit numbered from the start of its chunk on. Chunks of a size below
nought hold no hit. -/
def hitChunks (hits : List ν) (chunkSize : Int) : List (List (ν × Nat)) :=
  (chunks chunkSize.toNat hits).mapIdx fun k chunk => chunk.zipIdx (k * chunkSize.toNat)

/-- What becomes of each hit, chunk by chunk. -/
def outcomesOfHits (hits : List ν) (chunkSize : Int) : Except LoadError (List Outcome) :=
  if chunkSize = 0 then .error .emptyChunks
  else
    let outcomes := (hitChunks hits chunkSize).mapM fun chunk =>
      chunk.mapM fun (hit, index) => outcomeOfHit hit index
    (List.flatten <$> outcomes).mapError .calendar

/-- The shares of a whole that are read after each chunk of a size, where some of it is read before.
-/
def sharesFrom {α : Type} (size whole before : Nat) : List α → List Share
  | [] => []
  | _ :: chunks =>
    let part := min whole (before + size)
    ⟨part, whole⟩ :: sharesFrom size whole part chunks

/-- The share of the hits that is read after each chunk. -/
def sharesOfHits (hits : List ν) (chunkSize : Int) : List Share :=
  sharesFrom chunkSize.toNat hits.length 0 (hitChunks hits chunkSize)

/-- What becomes of a container that the walk has entered. -/
def outcomeOfVisit? (c : Containers ν) (p : Pending) : Except CalendarError (Option Outcome) :=
  match c.nodes[p.node]?.bind (·.fields) with
  | some fields => outcomeOfObject? p.path fields
  | none => return none

/-- What becomes of each object that the walk finds. -/
def outcomesOfVisits (c : Containers ν) (visits : List Pending) :
    Except LoadError (List Outcome) :=
  ((·.filterMap id) <$> visits.mapM (outcomeOfVisit? c)).mapError .calendar

/-- What becomes of the entries of a document. -/
def outcomesOf (settings : Settings) (document : Document ν) : Except LoadError (List Outcome) :=
  match envelopeHits? document.value with
  | some hits => outcomesOfHits hits settings.chunkSize
  | none =>
    outcomesOfVisits document.containers
      (document.containers.walk settings.maxWalkDepth.toNat).visits

/-- The tally of some outcomes. -/
def Tally.ofOutcomes (outcomes : List Outcome) : Tally where
  totalHits := outcomes.length
  parsed := (outcomes.filterMap Outcome.record?).length
  skippedNoSource := outcomes.countP Outcome.isNoSource
  skippedNoTimestamp := outcomes.countP Outcome.isNoTimestamp

/-- The tally of the outcomes of a document's entries. Of a search export all hits are seen, and any
other document may have containers that the walk turned away from. -/
def tallyOf (settings : Settings) (document : Document ν) (outcomes : List Outcome) : Tally :=
  let tally := Tally.ofOutcomes outcomes
  match envelopeHits? document.value with
  | some hits => { tally with totalHits := hits.length, envelope := true }
  | none =>
    { tally with
      truncated := (document.containers.walk settings.maxWalkDepth.toNat).truncated }

/-- The progress that is reported while a document is read, the end of the reading included. -/
def progressOf (settings : Settings) (document : Document ν) : List Share :=
  match envelopeHits? document.value with
  | some hits => sharesOfHits hits settings.chunkSize ++ [⟨1, 1⟩]
  | none => [⟨1, 1⟩]

/-- A corpus together with the progress that was reported while it was read. -/
structure Loaded where
  corpus : Corpus
  progress : List Share

/-- Loads a document. -/
def load (settings : Settings) (document : Document ν) (sourceName : String) :
    Except LoadError Loaded := do
  let outcomes ← outcomesOf settings document
  return {
    corpus := {
      records := sortRecords (outcomes.filterMap Outcome.record?)
      tally := tallyOf settings document outcomes
      sourceName }
    progress := progressOf settings document }

variable [Text.StandIns]

/-- Loads a text that holds a document. -/
def loadText (settings : Settings) (text : List Char) (sourceName : String) :
    Except LoadError Loaded := do
  let v ← (Json.read text).mapError .unreadable
  load settings (Document.ofJson v) sourceName

/-- Loads bytes that hold a document in one of the encodings that documents may have. -/
def loadBytes (settings : Settings) (bytes : List Nat) (sourceName : String) :
    Except LoadError Loaded := do
  let some text := Text.decodeDocument? bytes | throw .undecodable
  let v ← (Json.readMarked text).mapError .unreadable
  load settings (Document.ofJson v) sourceName

end LogViewer
