import Mathlib
import LogViewer.Json.Display
import LogViewer.Json.Printer
import LogViewer.Proofs.Text.Parting

/-! The texts of objects. Each entry has its own text in that of the object, between characters that
part words, and the text of a part on several lines lies within that of the whole. -/
namespace LogViewer.Json

/-- The text of an entry on one line. -/
def compactEntry (entry : String × Json) : List Char :=
  literal entry.1 ++ ':' :: ' ' :: entry.2.compact

/-- An entry as people are shown it. -/
def shownEntry (entry : String × Json) : List Char :=
  Text.quoted entry.1.toList ++ ':' :: ' ' :: entry.2.shownInside

/-- The further entries of an object, given by their texts, and its end. -/
def furtherEntries : List (List Char) → List Char
  | [] => ['}']
  | text :: texts => ',' :: ' ' :: text ++ furtherEntries texts

/-- The text of an object on one line, from the texts of its entries. -/
def objectText : List (List Char) → List Char
  | [] => ['{', '}']
  | text :: texts => '{' :: text ++ furtherEntries texts

theorem compactEntries_eq (entries : List (String × Json)) :
    compactEntries entries = furtherEntries (entries.map compactEntry) := by
  induction entries with
  | nil => rfl
  | cons entry entries ih => simp [compactEntries, furtherEntries, compactEntry, ih]

theorem compact_object (entries : List (String × Json)) :
    (object entries).compact = objectText (entries.map compactEntry) := by
  cases entries with
  | nil => rfl
  | cons entry entries => simp [compact, objectText, compactEntry, compactEntries_eq]

theorem shownEntries_eq (entries : List (String × Json)) :
    shownEntries entries = furtherEntries (entries.map shownEntry) := by
  induction entries with
  | nil => rfl
  | cons entry entries ih => simp [shownEntries, furtherEntries, shownEntry, ih]

theorem shown_object (entries : List (String × Json)) :
    (object entries).shown = objectText (entries.map shownEntry) := by
  cases entries with
  | nil => rfl
  | cons entry entries => simp [shown, shownInside, objectText, shownEntry, shownEntries_eq]

theorem exists_furtherEntries_eq (texts : List (List Char)) :
    ∃ c back, Text.PartsWords c ∧ furtherEntries texts = c :: back := by
  cases texts with
  | nil => exact ⟨'}', [], Text.partsWords_closing, rfl⟩
  | cons text texts => exact ⟨',', _, Text.partsWords_comma, rfl⟩

theorem standsApart_before_furtherEntries {c : Char} (h : Text.PartsWords c) (text : List Char)
    (texts : List (List Char)) : Text.StandsApart text (c :: text ++ furtherEntries texts) := by
  obtain ⟨d, back, hd, hFurther⟩ := exists_furtherEntries_eq texts
  exact ⟨[], back, c, d, h, hd, by simp [hFurther]⟩

theorem standsApart_furtherEntries {text : List Char} {texts : List (List Char)}
    (h : text ∈ texts) : Text.StandsApart text (furtherEntries texts) := by
  induction texts with
  | nil => cases h
  | cons first texts ih =>
      rw [furtherEntries]
      rcases List.mem_cons.mp h with rfl | h
      · exact (standsApart_before_furtherEntries Text.partsWords_blank text texts).append_left [',']
      · exact (ih h).append_left (',' :: ' ' :: first)

/-- The text of an entry stands apart in that of the object. -/
theorem standsApart_objectText {text : List Char} {texts : List (List Char)} (h : text ∈ texts) :
    Text.StandsApart text (objectText texts) := by
  cases texts with
  | nil => cases h
  | cons first texts =>
      rw [objectText]
      rcases List.mem_cons.mp h with rfl | h
      · exact standsApart_before_furtherEntries Text.partsWords_opening text texts
      · exact (standsApart_furtherEntries h).append_left ('{' :: first)

theorem exists_furtherEntries_append (texts others : List (List Char)) :
    ∃ front back, ∀ text, furtherEntries (texts ++ text :: others) = front ++ (text ++ back) := by
  induction texts with
  | nil => exact ⟨[',', ' '], furtherEntries others, fun text => rfl⟩
  | cons first texts ih =>
      obtain ⟨front, back, hText⟩ := ih
      refine ⟨',' :: ' ' :: first ++ front, back, fun text => ?_⟩
      rw [List.cons_append, furtherEntries, hText, List.append_assoc]

/-- What stands around the text of an entry in that of the object does not depend on the entry. -/
theorem exists_objectText_append (texts others : List (List Char)) :
    ∃ front back, ∀ text, objectText (texts ++ text :: others) = front ++ (text ++ back) := by
  cases texts with
  | nil => exact ⟨['{'], furtherEntries others, fun text => rfl⟩
  | cons first texts =>
      obtain ⟨front, back, hText⟩ := exists_furtherEntries_append texts others
      refine ⟨'{' :: first ++ front, back, fun text => ?_⟩
      rw [List.cons_append, objectText, hText, List.append_assoc]

/-- The text of an entry at a depth. -/
def indentedEntry (depth : Nat) (entry : String × Json) : List Char :=
  literal entry.1 ++ ':' :: ' ' :: entry.2.indented depth

theorem isInfix_indentedItems {items : List Json} {v : Json} (h : v ∈ items) (depth : Nat) :
    v.indented (depth + 1) <:+: indentedItems depth items := by
  induction items with
  | nil => cases h
  | cons first items ih =>
      rw [indentedItems]
      rcases List.mem_cons.mp h with rfl | h
      · exact List.infix_append _ _ _
      · exact (ih h).trans (List.suffix_append _ _).isInfix

theorem isInfix_indented_array {items : List Json} {v : Json} (h : v ∈ items) (depth : Nat) :
    v.indented (depth + 1) <:+: (array items).indented depth := by
  cases items with
  | nil => cases h
  | cons first items =>
      rw [indented]
      rcases List.mem_cons.mp h with rfl | h
      · exact List.infix_append _ _ _
      · exact (isInfix_indentedItems h depth).trans (List.suffix_append _ _).isInfix

theorem isInfix_indentedEntries {entries : List (String × Json)} {entry : String × Json}
    (h : entry ∈ entries) (depth : Nat) :
    indentedEntry (depth + 1) entry <:+: indentedEntries depth entries := by
  induction entries with
  | nil => cases h
  | cons first entries ih =>
      have hEntries : indentedEntries depth (first :: entries) =
          (',' :: newLine (depth + 1)) ++ indentedEntry (depth + 1) first ++
            indentedEntries depth entries := by
        simp [indentedEntries, indentedEntry]
      rw [hEntries]
      rcases List.mem_cons.mp h with rfl | h
      · exact List.infix_append _ _ _
      · exact (ih h).trans (List.suffix_append _ _).isInfix

theorem isInfix_indented_object {entries : List (String × Json)} {entry : String × Json}
    (h : entry ∈ entries) (depth : Nat) :
    indentedEntry (depth + 1) entry <:+: (object entries).indented depth := by
  cases entries with
  | nil => cases h
  | cons first entries =>
      have hObject : (object (first :: entries)).indented depth =
          ('{' :: newLine (depth + 1)) ++ indentedEntry (depth + 1) first ++
            indentedEntries depth entries := by
        simp [indented, indentedEntry]
      rw [hObject]
      rcases List.mem_cons.mp h with rfl | h
      · exact List.infix_append _ _ _
      · exact (isInfix_indentedEntries h depth).trans (List.suffix_append _ _).isInfix

end LogViewer.Json
