import LogViewer.Record.Text
import LogViewer.Text.Substring

/-! Categories of records. The level and the type of a record decide first; otherwise the first
category one of whose words occurs in the record's text. -/
namespace LogViewer

inductive Category where
  | error
  | warning
  | payment
  | cart
  | api
  | info
deriving DecidableEq, Repr

namespace Category

def name : Category → String
  | error => "error"
  | warning => "warning"
  | payment => "payment"
  | cart => "cart"
  | api => "api"
  | info => "info"

/-- The words of each category, in the order in which they are looked for. -/
def keywords : List (Category × List String) :=
  [(error, ["error", "fail"]), (warning, ["warn"]),
    (payment, ["payment", "txn", "euler", "juspay"]), (cart, ["cart", "shipping"]),
    (api, ["gql", "api", "dbquery"])]

/-- The category that a level stands for. -/
def ofLevel? : Json → Option Category
  | .string level =>
    let level := Text.lower level.toList
    if level = "error".toList then some error
    else if level = "warn".toList ∨ level = "warning".toList then some warning
    else none
  | _ => none

/-- The category that a type stands for. -/
def ofType? : Json → Option Category
  | .string type =>
    if Text.occursIn "error".toList (Text.lower type.toList) then some error else none
  | _ => none

/-- The category whose words occur in a text. -/
def ofText (text : List Char) : Category :=
  let found := keywords.find? fun (_, words) => words.any fun w => Text.occursIn w.toList text
  (found.map (·.1)).getD info

end Category

namespace Record

def category (r : Record) : Category :=
  ((Category.ofLevel? (r.get "level")).or (Category.ofType? (r.get "type"))).getD
    (Category.ofText r.searchable)

end Record

end LogViewer
