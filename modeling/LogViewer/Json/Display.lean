import LogViewer.Json.Basic
import LogViewer.Numeric.Decimal
import LogViewer.Text.Quoted

/-! Values as people are shown them: a text as it is, anything else by its parts, with the texts
inside it in quotation marks. A surrogate inside a part is shown by the escape of the character that
stands for it, and numbers of more than 4300 digits, which only a document made in memory holds, are
shown with all of them. -/
namespace LogViewer.Json

mutual

/-- A value as a part of another one. -/
def shownInside : Json → List Char
  | null => "None".toList
  | bool true => "True".toList
  | bool false => "False".toList
  | int n => wholeText n
  | double x => x.shortest .plain
  | string s => Text.quoted s.toList
  | array [] => ['[', ']']
  | array (v :: items) => '[' :: shownInside v ++ shownItems items
  | object [] => ['{', '}']
  | object ((key, v) :: entries) =>
    '{' :: Text.quoted key.toList ++ ':' :: ' ' :: shownInside v ++ shownEntries entries
  | loop true => "[...]".toList
  | loop false => "\x7b...\x7d".toList

/-- The further items of an array and its end. -/
def shownItems : List Json → List Char
  | [] => [']']
  | v :: items => ',' :: ' ' :: shownInside v ++ shownItems items

/-- The further entries of an object and its end. -/
def shownEntries : List (String × Json) → List Char
  | [] => ['}']
  | (key, v) :: entries =>
    ',' :: ' ' :: Text.quoted key.toList ++ ':' :: ' ' :: shownInside v ++ shownEntries entries

end

/-- A value as people are shown it. -/
def shown : Json → List Char
  | string s => s.toList
  | v => shownInside v

end LogViewer.Json
