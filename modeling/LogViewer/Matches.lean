import LogViewer.Corpus.Filter

/-! The records that match a query, and the one of them that is current. Moving on from the last
match leads to the first one, and back from the first to the last. -/
namespace LogViewer

structure Matches where
  /-- The places of the matching records. -/
  indices : List Nat := []
  /-- The rank of the current match, counted from nought. -/
  current : Option Nat := none
  /-- Whether only matching records are to be shown. -/
  onlyMatches : Bool := false
  query : String := ""
deriving DecidableEq, Repr

namespace Matches

def count (m : Matches) : Nat := m.indices.length

/-- The place of the current match. -/
def currentRecord? (m : Matches) : Option Nat := m.current.bind (m.indices[·]?)

/-- Where the current match stands in the list on display: the list of all records or, if only
matches are shown, of the matches. -/
def target? (m : Matches) : Option Nat := if m.onlyMatches then m.current else m.currentRecord?

/-- The next match is current; there is none to move to among no matches. -/
def next? (m : Matches) : Option Matches :=
  if m.indices.isEmpty then none
  else some { m with current := some (match m.current with
    | none => 0
    | some k => (k + 1) % m.count) }

/-- The previous match is current; there is none to move to among no matches. -/
def previous? (m : Matches) : Option Matches :=
  if m.indices.isEmpty then none
  else some { m with current := some (((m.current.getD 0) + (m.count - 1)) % m.count) }

/-- The match with a number is current, if there is one. Numbers count from one. -/
def goTo? (m : Matches) (number : Int) : Option Matches :=
  if 1 ≤ number ∧ number ≤ m.count then some { m with current := some (number - 1).toNat }
  else none

def toggled (m : Matches) : Matches := { m with onlyMatches := !m.onlyMatches }

/-- The matches of a query among some records, the first one current. A query that says nothing has
no match and is not kept. -/
def search (query : String) (records : List Record) (onlyMatches : Bool) :
    Except OverlongNumber Matches :=
  if Query.isBlank query then .ok { onlyMatches }
  else do
    let indices ← placesOf records (·.satisfies query)
    return { indices, current := if indices.isEmpty then none else some 0, onlyMatches, query }

end Matches

end LogViewer
