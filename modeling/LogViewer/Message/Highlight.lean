import LogViewer.Text.Case
import LogViewer.Text.Substring

/-! Where terms occur in a text, as spans that neither overlap nor touch. -/
namespace LogViewer

/-- The characters from `start` to before `stop`. -/
structure Span where
  start : Nat
  stop : Nat
deriving DecidableEq, Repr

namespace Span

/-- Whether a span comes before another one in the order of their starts and then of their ends. -/
def precedes (a b : Span) : Bool := a.start < b.start || (a.start == b.start && a.stop ≤ b.stop)

/-- Joins each span to the one before it where the two overlap or touch. The spans come in the order
of their starts, and `last` is the one before them. -/
def merge (last : Span) : List Span → List Span
  | [] => [last]
  | s :: spans =>
    if s.start ≤ last.stop then merge { last with stop := max last.stop s.stop } spans
    else last :: merge s spans

/-- The spans of a list, in order and joined where they overlap or touch. -/
def mergeAll (spans : List Span) : List Span :=
  match spans.mergeSort precedes with
  | [] => []
  | s :: spans => merge s spans

end Span

/-- The spans of the occurrences of the terms in the small form of a text; an empty term occurs
nowhere. -/
def highlightSpans (text : List Char) (terms : List (List Char)) : List Span :=
  let small := Text.lower text
  Span.mergeAll (terms.flatMap fun term =>
    if term.isEmpty then []
    else (Text.occurrences term 0 small).map fun start => ⟨start, start + term.length⟩)

end LogViewer
