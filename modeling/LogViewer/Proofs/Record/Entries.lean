import Mathlib
import LogViewer.Export
import LogViewer.Proofs.Json.Loops
import LogViewer.Proofs.Json.Printing
import LogViewer.Record.Text

/-! The entries of records, which are all that exports and queries see of them. The first entry
under a name is the one that stays, and each entry has its text in the text that queries search and
in every export. -/
namespace LogViewer

theorem Json.lookup_putNew {α : Type} (entries : List (String × α)) (key : String) (value : α)
    (name : String) :
    (Json.putNew entries key value).lookup name =
      (entries.lookup name).or ([(key, value)].lookup name) := by
  unfold Json.putNew
  split
  · rename_i hTaken
    rw [List.lookup_cons]
    split
    · rename_i hName
      rw [eq_of_beq hName, Option.or_of_isSome hTaken]
    · rw [List.lookup_nil, Option.or_none]
  · exact List.lookup_append

theorem Json.mem_putNew {α : Type} {entries : List (String × α)} {key : String} {value : α}
    {entry : String × α} (h : entry ∈ Json.putNew entries key value) :
    entry = (key, value) ∨ entry ∈ entries := by
  unfold Json.putNew at h
  split at h
  · exact Or.inr h
  · rw [List.mem_append, List.mem_singleton] at h
    exact h.symm

theorem lookup_foldl_putNew {α : Type} (fields own : List (String × α)) (name : String) :
    (fields.foldl (fun entries (key, v) => Json.putNew entries key v) own).lookup name =
      (own.lookup name).or (fields.lookup name) := by
  induction fields generalizing own with
  | nil => simp
  | cons field fields ih =>
      have hFields : (field :: fields).lookup name =
          ([(field.1, field.2)].lookup name).or (fields.lookup name) := by
        rw [← List.lookup_append]
        rfl
      rw [List.foldl_cons, ih, Json.lookup_putNew, hFields, Option.or_assoc]

theorem mem_foldl_putNew {α : Type} {fields own : List (String × α)} {entry : String × α}
    (h : entry ∈ fields.foldl (fun entries (key, v) => Json.putNew entries key v) own) :
    entry ∈ own ∨ entry ∈ fields := by
  induction fields generalizing own with
  | nil => exact Or.inl h
  | cons field fields ih =>
      rcases ih h with hOwn | hFields
      · rcases Json.mem_putNew hOwn with rfl | hOwn
        · exact Or.inr List.mem_cons_self
        · exact Or.inl hOwn
      · exact Or.inr (List.mem_cons_of_mem _ hFields)

theorem Json.mem_putNew_of_mem {α : Type} {entries : List (String × α)} {entry : String × α}
    (h : entry ∈ entries) (key : String) (value : α) : entry ∈ Json.putNew entries key value := by
  unfold Json.putNew
  split
  · exact h
  · exact List.mem_append_left _ h

theorem mem_foldl_putNew_of_mem {α : Type} (fields : List (String × α)) {own : List (String × α)}
    {entry : String × α} (h : entry ∈ own) :
    entry ∈ fields.foldl (fun entries (key, v) => Json.putNew entries key v) own := by
  induction fields generalizing own with
  | nil => exact h
  | cons field fields ih => exact ih (Json.mem_putNew_of_mem h field.1 field.2)

theorem Json.mem_put_of_ne {α : Type} {entries : List (String × α)} {entry : String × α}
    (h : entry ∈ entries) {key : String} (hKey : entry.1 ≠ key) (value : α) :
    entry ∈ Json.put entries key value := by
  induction entries with
  | nil => cases h
  | cons first entries ih =>
      rw [Json.put]
      rcases List.mem_cons.mp h with rfl | h
      · rw [if_neg hKey]
        exact List.mem_cons_self
      · split
        · exact List.mem_cons_of_mem _ h
        · exact List.mem_cons_of_mem _ (ih h)

theorem mem_of_lookup_eq_some {α : Type} {entries : List (String × α)} {key : String} {v : α}
    (h : entries.lookup key = some v) : (key, v) ∈ entries := by
  obtain ⟨front, back, rfl, -⟩ := List.lookup_eq_some_iff.mp h
  exact List.mem_append_right _ List.mem_cons_self

/-- Where each key is there once, every entry is found under its key. -/
theorem lookup_eq_some_of_mem {α : Type} {entries : List (String × α)}
    (hNodup : (entries.map (·.1)).Nodup) {entry : String × α} (h : entry ∈ entries) :
    entries.lookup entry.1 = some entry.2 := by
  induction entries with
  | nil => cases h
  | cons first entries ih =>
      obtain ⟨hNew, hNodup⟩ := List.nodup_cons.mp hNodup
      rcases List.mem_cons.mp h with rfl | h
      · exact List.lookup_cons_self
      · have hOther : (entry.1 == first.1) = false := by
          rw [beq_eq_false_iff_ne]
          intro hSame
          exact hNew (List.mem_map.mpr ⟨entry, h, hSame⟩)
        rw [List.lookup_cons, hOther]
        exact ih hNodup h

theorem lookup_map_snd {α β : Type} (f : α → β) (entries : List (String × α)) (key : String) :
    (entries.map fun (key, v) => (key, f v)).lookup key = (entries.lookup key).map f := by
  induction entries with
  | nil => rfl
  | cons entry entries ih =>
      rw [List.map_cons, List.lookup_cons, List.lookup_cons, ih]
      split <;> rfl

namespace Record

variable {r : Record}

/-- A record that no line was read from has its own entries, and those of its object under names
that they leave free. -/
theorem lookup_entries (h : r.fullSource = none) (name : String) :
    r.entries.lookup name = (r.ownEntries.lookup name).or (r.fields.lookup name) := by
  unfold entries
  simp only [h]
  exact lookup_foldl_putNew r.fields r.ownEntries name

theorem mem_entries (h : r.fullSource = none) {entry : String × Json} (hEntry : entry ∈ r.entries) :
    entry ∈ r.ownEntries ∨ entry ∈ r.fields := by
  unfold entries at hEntry
  simp only [h] at hEntry
  exact mem_foldl_putNew hEntry

/-- A record has its own entries, but for one under the name of the object that held its line. -/
theorem mem_entries_of_mem_ownEntries {entry : String × Json} (h : entry ∈ r.ownEntries)
    (hName : entry.1 ≠ "full_source") : entry ∈ r.entries := by
  have hMerged := mem_foldl_putNew_of_mem r.fields h
  unfold entries
  cases r.fullSource with
  | none => exact hMerged
  | some source => exact Json.mem_put_of_ne hMerged hName source

/-- The text of an entry in the text of a record that queries search, before it is put in small
letters. -/
def searchedEntry (r : Record) (entry : String × Json) : List Char :=
  if r.toJson.hasLoop then Json.shownEntry entry else Json.compactEntry entry

theorem searchable_eq (r : Record) :
    r.searchable = Text.lower (Json.objectText (r.entries.map r.searchedEntry)) := by
  unfold searchable searchedEntry Json.compact?
  cases r.toJson.hasLoop with
  | true => exact congrArg Text.lower (Json.shown_object r.entries)
  | false => exact congrArg Text.lower (Json.compact_object r.entries)

/-- Each entry of a record is in the text that queries search. -/
theorem isInfix_searchable {entry : String × Json} (h : entry ∈ r.entries) :
    Text.lower (r.searchedEntry entry) <:+: r.searchable := by
  rw [searchable_eq]
  exact (Json.standsApart_objectText (List.mem_map_of_mem h)).isInfix_lower

end Record

namespace Export

variable {records : List Record}

/-- There is an export exactly of records that do not contain themselves. -/
theorem exists_text?_iff :
    (∃ text, text? records = some text) ↔ ∀ r ∈ records, r.toJson.hasLoop = false := by
  have hArray : (Json.array (records.map Record.toJson)).hasLoop = false ↔
      ∀ r ∈ records, r.toJson.hasLoop = false := by
    rw [Json.hasLoop_array_eq_false_iff, List.forall_mem_map]
  rw [← hArray, ← Option.isSome_iff_exists, text?, Json.indented?]
  cases (Json.array (records.map Record.toJson)).hasLoop <;> simp

theorem toList_of_text?_eq_some {text : String} (h : text? records = some text) :
    text.toList = (Json.array (records.map Record.toJson)).indented 0 := by
  obtain ⟨s, hs, rfl⟩ := Option.map_eq_some_iff.mp h
  unfold Json.indented? at hs
  split at hs
  · cases hs
  · cases hs
    exact String.toList_ofList

/-- Each entry of a record is in every export of the record. -/
theorem isInfix_text {text : String} (h : text? records = some text) {r : Record}
    (hr : r ∈ records) {entry : String × Json} (hEntry : entry ∈ r.entries) :
    Json.indentedEntry 2 entry <:+: text.toList := by
  have hRecord := Json.isInfix_indented_array (List.mem_map_of_mem (f := Record.toJson) hr) 0
  rw [toList_of_text?_eq_some h]
  exact (Json.isInfix_indented_object hEntry 1).trans hRecord

end Export

end LogViewer
