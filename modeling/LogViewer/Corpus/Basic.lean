import LogViewer.Record.Basic

/-! Corpora: the records of one load in the order of their instants. Of records with the same
instant the anchored ones come first, and otherwise the order in which they were read stays. -/
namespace LogViewer

/-- What was counted while a document was read. -/
structure Tally where
  /-- The entries that were there. -/
  totalHits : Nat := 0
  /-- The entries that became records. -/
  parsed : Nat := 0
  skippedNoSource : Nat := 0
  skippedNoTimestamp : Nat := 0
  /-- The containers that were turned away from. -/
  truncated : Nat := 0
  /-- Whether the document was a search export. -/
  envelope : Bool := false
deriving DecidableEq, Repr

/-- The entries that did not become records. -/
def Tally.skipped (t : Tally) : Nat := t.skippedNoSource + t.skippedNoTimestamp

/-- The rank of a record among those of one instant. -/
def Record.rank (r : Record) : Nat := if r.format = .anchored then 0 else 1

/-- Whether a record may stand before another one. -/
def Record.precedes (r s : Record) : Bool :=
  r.instant < s.instant || (r.instant == s.instant && r.rank ≤ s.rank)

/-- The records in order. -/
def sortRecords (records : List Record) : List Record := records.mergeSort Record.precedes

structure Corpus where
  records : List Record := []
  tally : Tally := {}
  sourceName : String := ""

namespace Corpus

def size (c : Corpus) : Nat := c.records.length

end Corpus

/-- The span of some records and their count per format. -/
structure Summary where
  count : Nat
  /-- The timestamp of the first record with the least instant. -/
  first : Option String
  /-- The timestamp of the first record with the greatest instant. -/
  last : Option String
  /-- The milliseconds between the two. -/
  duration : Int
  /-- The count of the records of each format that occurs, in the order of first occurrence. -/
  formats : List (LineFormat × Nat)

namespace Summary

/-- Counts one more record of a format. -/
def countFormat (counts : List (LineFormat × Nat)) (format : LineFormat) :
    List (LineFormat × Nat) :=
  match counts with
  | [] => [(format, 1)]
  | (f, n) :: rest =>
    if f = format then (f, n + 1) :: rest else (f, n) :: countFormat rest format

/-- The first of the records that no other one is better than. -/
def best (better : Record → Record → Bool) (first : Record) (records : List Record) : Record :=
  records.foldl (fun chosen r => if better r chosen then r else chosen) first

def ofRecords : List Record → Summary
  | [] => { count := 0, first := none, last := none, duration := 0, formats := [] }
  | r :: rest =>
    let first := best (·.instant < ·.instant) r rest
    let last := best (·.instant > ·.instant) r rest
    { count := rest.length + 1
      first := some first.timestamp
      last := some last.timestamp
      duration := last.instant - first.instant
      formats := (r :: rest).foldl (fun counts r => countFormat counts r.format) [] }

end Summary

end LogViewer
