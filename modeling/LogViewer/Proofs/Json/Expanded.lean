import Mathlib
import LogViewer.Json.Embedded
import LogViewer.Proofs.Document.Numbering
import LogViewer.Proofs.Json.Containers

/-! Documents inside texts. Whether a text holds one is told by its ends and by the reader, and only
the two together know that what it holds is a container. Once all documents are in the places of
their texts, no text is left that holds one. -/
namespace LogViewer.Json

theorem isContainer_of_mem_parts {v : Json} {part : String × Json} (h : part ∈ Payload.parts v) :
    v.isContainer = true := by
  cases v with
  | array items => rfl
  | object entries => rfl
  | _ => cases h

theorem forall_mem_parts_array {P : Json → Prop} {items : List Json} :
    (∀ part ∈ Payload.parts (array items), P part.2) ↔ ∀ item ∈ items, P item := by
  rw [← List.forall_mem_map (f := Prod.snd) (P := P), map_parts_array]

/-- Whether a value is another one or inside it. The keys of an object are no values inside it. -/
inductive IsWithin (x : Json) : Json → Prop where
  | self : IsWithin x x
  | inside {v : Json} {part : String × Json} (hPart : part ∈ Payload.parts v)
      (h : IsWithin x part.2) : IsWithin x v

theorem longest_le_longestItem {v : Json} {items : List Json} (h : v ∈ items) :
    v.longest ≤ longestItem items := by
  induction items with
  | nil => cases h
  | cons first items ih =>
      rw [longestItem]
      rcases List.mem_cons.mp h with rfl | h
      · exact Nat.le_max_left _ _
      · exact Nat.le_trans (ih h) (Nat.le_max_right _ _)

theorem longest_le_longestEntry {entries : List (String × Json)} {entry : String × Json}
    (h : entry ∈ entries) : entry.2.longest ≤ longestEntry entries := by
  induction entries with
  | nil => cases h
  | cons first entries ih =>
      rw [longestEntry]
      rcases List.mem_cons.mp h with rfl | h
      · exact Nat.le_max_left _ _
      · exact Nat.le_trans (ih h) (Nat.le_max_right _ _)

theorem longest_le_of_mem_parts {v : Json} {part : String × Json} (h : part ∈ Payload.parts v) :
    part.2.longest ≤ v.longest := by
  cases v with
  | array items =>
      rw [longest]
      exact forall_mem_parts_array.mpr (fun _ => longest_le_longestItem) part h
  | object entries =>
      rw [longest]
      exact longest_le_longestEntry h
  | _ => cases h

theorem map_pair_eq_ok_iff {key : String} {result : Except ReadError Json}
    {entry : String × Json} :
    (key, ·) <$> result = .ok entry ↔ key = entry.1 ∧ result = .ok entry.2 := by
  cases result with
  | error e => simp
  | ok v => simp [Prod.ext_iff]

/-- Each member of a list has a partner in another one that is as long. -/
theorem exists_mem_zip {α β : Type} {l : List α} {m : List β} (hLength : l.length = m.length)
    {b : β} (h : b ∈ m) : ∃ a, (a, b) ∈ l.zip m := by
  rw [← List.map_snd_zip hLength.ge] at h
  obtain ⟨⟨a, _⟩, hMem, rfl⟩ := List.mem_map.mp h
  exact ⟨a, hMem⟩

section

variable [Text.StandIns]

theorem isContainer_of_embedded? {s : List Char} {v : Json} (h : embedded? s = .ok (some v)) :
    v.isContainer = true := by
  unfold embedded? at h
  split at h
  · rename_i hLooks
    have hHead : (Text.trim s).head? = some '\x7b' ∨ (Text.trim s).head? = some '[' := by
      simp only [looksEmbedded, Bool.or_eq_true, Bool.and_eq_true, beq_iff_eq] at hLooks
      exact hLooks.imp And.left And.left
    split at h
    · rename_i hRead
      cases h
      exact isContainer_of_read hHead hRead
    · cases h
    · cases h
  · cases h

theorem isEmbedded_eq_ok_iff {s : List Char} {b : Bool} :
    isEmbedded s = .ok b ↔ ∃ result, embedded? s = .ok result ∧ result.isSome = b := by
  unfold isEmbedded
  cases embedded? s <;> simp [Functor.map, Except.map]

theorem isEmbedded_eq_true_iff {s : List Char} :
    isEmbedded s = .ok true ↔ ∃ v, embedded? s = .ok (some v) := by
  simp only [isEmbedded_eq_ok_iff, Option.isSome_iff_exists]
  constructor
  · rintro ⟨_, h, v, rfl⟩
    exact ⟨v, h⟩
  · rintro ⟨v, h⟩
    exact ⟨_, h, v, rfl⟩

theorem isEmbedded_eq_false_iff {s : List Char} :
    isEmbedded s = .ok false ↔ embedded? s = .ok none := by
  simp [isEmbedded_eq_ok_iff]

/-- Whether a text looks like a document but has a whole number in it that has too many digits to be
read. -/
def HasOverlongNumber (s : List Char) : Prop :=
  looksEmbedded s = true ∧ ∃ number, read (Text.trim s) = .error (.overlong number)

/-- Of a text without such a number it can be told whether it holds a document. -/
theorem exists_embedded?_iff {s : List Char} :
    (∃ result, embedded? s = .ok result) ↔ ¬HasOverlongNumber s := by
  unfold embedded? HasOverlongNumber
  by_cases hLooks : looksEmbedded s = true
  · rw [if_pos hLooks]
    cases hRead : read (Text.trim s) with
    | ok v => simp
    | error e => cases e <;> simp [hLooks]
  · simp [hLooks]

/-- Whether expanding a value comes upon another one: itself, what is inside it, or what is inside
the documents in its texts. -/
inductive Meets (x : Json) : Json → Prop where
  | self : Meets x x
  | inside {v : Json} {part : String × Json} (hPart : part ∈ Payload.parts v)
      (h : Meets x part.2) : Meets x v
  | document {s : String} {v : Json} (hDocument : embedded? s.toList = .ok (some v))
      (h : Meets x v) : Meets x (string s)

/-- Whether expanding a value comes upon no number that has too many digits to be read. -/
def IsReadable (v : Json) : Prop := ∀ s, Meets (string s) v → ¬HasOverlongNumber s.toList

/-- What a value becomes when the documents inside its texts take the places of those texts. Numbers,
truth values, nulls and keys stay as they are, and so do the texts that hold no document. -/
inductive ExpandsTo : Json → Json → Prop where
  | scalar {v : Json} (hText : ∀ s, v ≠ string s) (hContainer : v.isContainer = false) :
      ExpandsTo v v
  | text {s : String} (h : isEmbedded s.toList = .ok false) : ExpandsTo (string s) (string s)
  | document {s : String} {v w : Json} (hDocument : embedded? s.toList = .ok (some v))
      (h : ExpandsTo v w) : ExpandsTo (string s) w
  | array {items items' : List Json} (hLength : items.length = items'.length)
      (h : ∀ v w, (v, w) ∈ items.zip items' → ExpandsTo v w) :
      ExpandsTo (array items) (array items')
  | object {entries entries' : List (String × Json)}
      (hKeys : entries.map (·.1) = entries'.map (·.1))
      (h : ∀ entry entry', (entry, entry') ∈ entries.zip entries' → ExpandsTo entry.2 entry'.2) :
      ExpandsTo (object entries) (object entries')

variable {s : String} {v w : Json}

theorem expanded_string (s : String) :
    expanded (string s) = match embedded? s.toList with
      | .ok (some v) => expanded v
      | .ok none => .ok (string s)
      | .error e => .error e := by
  rw [expanded]
  split <;> rename_i h <;> simp only [h]

theorem expanded_of_document (h : embedded? s.toList = .ok (some v)) :
    expanded (string s) = expanded v := by
  rw [expanded_string, h]

theorem expanded_of_not_isEmbedded (h : isEmbedded s.toList = .ok false) :
    expanded (string s) = .ok (string s) := by
  rw [expanded_string, isEmbedded_eq_false_iff.mp h]

theorem expanded_scalar (hText : ∀ s, v ≠ string s) (hContainer : v.isContainer = false) :
    expanded v = .ok v := by
  cases v with
  | string s => exact absurd rfl (hText s)
  | array items => cases hContainer
  | object entries => cases hContainer
  | _ => rw [expanded] <;> simp

theorem expandedItems_eq_mapM (items : List Json) : expandedItems items = items.mapM expanded := by
  induction items with
  | nil =>
      rw [expandedItems]
      rfl
  | cons v items ih =>
      rw [expandedItems, List.mapM_cons, ih]

theorem expandedEntries_eq_mapM (entries : List (String × Json)) :
    expandedEntries entries = entries.mapM fun entry => (entry.1, ·) <$> expanded entry.2 := by
  induction entries with
  | nil =>
      rw [expandedEntries]
      rfl
  | cons entry entries ih =>
      rw [expandedEntries, List.mapM_cons, ih]
      simp only [map_eq_pure_bind, bind_assoc, pure_bind]

theorem expanded_array_eq_ok_iff {items : List Json} :
    expanded (array items) = .ok w ↔
      ∃ items', w = array items' ∧ List.Forall₂ (fun v w => expanded v = .ok w) items items' := by
  rw [expanded, expandedItems_eq_mapM]
  constructor
  · intro h
    obtain ⟨items', hItems, rfl⟩ := map_eq_ok h
    exact ⟨items', rfl, mapM_eq_ok_iff.mp hItems⟩
  · rintro ⟨items', rfl, h⟩
    rw [mapM_eq_ok_iff.mpr h]
    rfl

theorem expanded_object_eq_ok_iff {entries : List (String × Json)} :
    expanded (object entries) = .ok w ↔
      ∃ entries', w = object entries' ∧ entries.map (·.1) = entries'.map (·.1) ∧
        List.Forall₂ (fun entry entry' => expanded entry.2 = .ok entry'.2) entries entries' := by
  have hEntries (entries' : List (String × Json)) :
      expandedEntries entries = .ok entries' ↔ entries.map (·.1) = entries'.map (·.1) ∧
        List.Forall₂ (fun entry entry' => expanded entry.2 = .ok entry'.2) entries entries' := by
    rw [expandedEntries_eq_mapM, mapM_eq_ok_iff, ← List.forall₂_eq_eq_eq,
      List.forall₂_map_left_iff, List.forall₂_map_right_iff, ← forall₂_and]
    simp only [map_pair_eq_ok_iff]
  rw [expanded]
  constructor
  · intro h
    obtain ⟨entries', hFound, rfl⟩ := map_eq_ok h
    exact ⟨entries', rfl, (hEntries entries').mp hFound⟩
  · rintro ⟨entries', rfl, h⟩
    rw [(hEntries entries').mpr h]
    rfl

/-- Induction over what expanding a value comes upon. -/
theorem induction_expanded {P : Json → Prop}
    (h : ∀ v, (∀ part ∈ Payload.parts v, P part.2) →
      (∀ s document, v = string s → embedded? s.toList = .ok (some document) → P document) → P v)
    (v : Json) : P v := by
  refine h v (fun part hPart => induction_expanded h part.2) ?_
  intro s document hText hDocument
  exact induction_expanded h document
termination_by (v.longest, sizeOf v)
decreasing_by
  · exact Prod.Lex.right' _ (longest_le_of_mem_parts hPart) (sizeOf_lt_of_mem_parts hPart)
  · subst hText
    have hShorter := longest_of_embedded? hDocument
    rw [String.length_toList] at hShorter
    exact Prod.Lex.left _ _ hShorter

theorem expandsTo_of_expanded (h : expanded v = .ok w) : ExpandsTo v w := by
  induction v using induction_expanded generalizing w with
  | h v ihParts ihDocument =>
      cases v with
      | string s =>
          rw [expanded_string] at h
          split at h
          · exact .document ‹_› (ihDocument s _ rfl ‹_› h)
          · cases h
            exact .text (isEmbedded_eq_false_iff.mpr ‹_›)
          · cases h
      | array items =>
          obtain ⟨items', rfl, hItems⟩ := expanded_array_eq_ok_iff.mp h
          obtain ⟨hLength, hItems⟩ := List.forall₂_iff_zip.mp hItems
          have hEach : ∀ item ∈ items, ∀ w, expanded item = .ok w → ExpandsTo item w :=
            forall_mem_parts_array.mp fun part hPart _ => ihParts part hPart
          exact .array hLength fun item item' hMem =>
            hEach item (List.of_mem_zip hMem).1 item' (hItems hMem)
      | object entries =>
          obtain ⟨entries', rfl, hKeys, hEntries⟩ := expanded_object_eq_ok_iff.mp h
          obtain ⟨-, hEntries⟩ := List.forall₂_iff_zip.mp hEntries
          exact .object hKeys fun entry entry' hMem =>
            ihParts entry (List.of_mem_zip hMem).1 (hEntries hMem)
      | _ =>
          cases (expanded_scalar (by simp) rfl).symm.trans h
          exact .scalar (by simp) rfl

theorem expanded_of_expandsTo (h : ExpandsTo v w) : expanded v = .ok w := by
  induction h with
  | scalar hText hContainer => exact expanded_scalar hText hContainer
  | text h => exact expanded_of_not_isEmbedded h
  | document hDocument _ ih => rw [expanded_of_document hDocument, ih]
  | array hLength _ ih =>
      exact expanded_array_eq_ok_iff.mpr
        ⟨_, rfl, List.forall₂_iff_zip.mpr ⟨hLength, fun hMem => ih _ _ hMem⟩⟩
  | @object entries entries' hKeys _ ih =>
      have hLength : entries.length = entries'.length := by
        simpa using congrArg List.length hKeys
      exact expanded_object_eq_ok_iff.mpr
        ⟨_, rfl, hKeys, List.forall₂_iff_zip.mpr ⟨hLength, fun hMem => ih _ _ hMem⟩⟩

/-- Expanding a value gives what it expands to and nothing else. -/
theorem expanded_eq_ok_iff : expanded v = .ok w ↔ ExpandsTo v w :=
  ⟨expandsTo_of_expanded, expanded_of_expandsTo⟩

/-- A container is expanded exactly if all that is inside it is. -/
theorem exists_expanded_iff_parts (hContainer : v.isContainer = true) :
    (∃ w, expanded v = .ok w) ↔ ∀ part ∈ Payload.parts v, ∃ w, expanded part.2 = .ok w := by
  have hMap {α β : Type} {f : α → β} {result : Except ReadError α} :
      (∃ b, f <$> result = .ok b) ↔ ∃ a, result = .ok a := by
    cases result <;> simp
  cases v with
  | array items =>
      rw [expanded, hMap, expandedItems_eq_mapM, exists_mapM_eq_ok_iff]
      exact forall_mem_parts_array.symm
  | object entries =>
      rw [expanded, hMap, expandedEntries_eq_mapM, exists_mapM_eq_ok_iff]
      simp only [hMap]
      rfl
  | _ => cases hContainer

theorem exists_expanded_of_isReadable (h : IsReadable v) : ∃ w, expanded v = .ok w := by
  induction v using induction_expanded with
  | h v ihParts ihDocument =>
      by_cases hContainer : v.isContainer = true
      · rw [exists_expanded_iff_parts hContainer]
        exact fun part hPart => ihParts part hPart fun s hMeets => h s (.inside hPart hMeets)
      cases v with
      | string s =>
          obtain ⟨result, hResult⟩ := exists_embedded?_iff.mpr (h s .self)
          cases result with
          | none => exact ⟨_, expanded_of_not_isEmbedded (isEmbedded_eq_false_iff.mpr hResult)⟩
          | some document =>
              rw [expanded_of_document hResult]
              exact ihDocument s document rfl hResult fun t hMeets => h t (.document hResult hMeets)
      | array items => exact absurd rfl hContainer
      | object entries => exact absurd rfl hContainer
      | _ => exact ⟨_, expanded_scalar (by simp) rfl⟩

theorem isReadable_of_expanded (h : expanded v = .ok w) : IsReadable v := by
  intro s hMeets
  induction hMeets generalizing w with
  | self =>
      rw [← exists_embedded?_iff]
      rw [expanded_string] at h
      split at h
      · exact ⟨_, ‹_›⟩
      · exact ⟨_, ‹_›⟩
      · cases h
  | @inside v part hPart _ ih =>
      obtain ⟨w', hw'⟩ :=
        (exists_expanded_iff_parts (isContainer_of_mem_parts hPart)).mp ⟨w, h⟩ part hPart
      exact ih hw'
  | document hDocument _ ih =>
      rw [expanded_of_document hDocument] at h
      exact ih h

/-- No text inside an expanded value holds a document. -/
theorem ExpandsTo.isEmbedded_eq_false (h : ExpandsTo v w) {s : String}
    (hWithin : IsWithin (string s) w) : isEmbedded s.toList = .ok false := by
  induction h with
  | @scalar v hText hContainer =>
      cases hWithin with
      | self => exact absurd rfl (hText s)
      | inside hPart =>
          rw [isContainer_of_mem_parts hPart] at hContainer
          cases hContainer
  | text h =>
      cases hWithin with
      | self => exact h
      | inside hPart => cases hPart
  | document _ _ ih => exact ih hWithin
  | @array items items' hLength _ ih =>
      cases hWithin with
      | @inside _ part hPart hWithin =>
          have hItem : part.2 ∈ items' := forall_mem_parts_array.mpr (fun _ => id) part hPart
          obtain ⟨item, hPair⟩ := exists_mem_zip hLength hItem
          exact ih item part.2 hPair hWithin
  | @object entries entries' hKeys _ ih =>
      cases hWithin with
      | @inside _ part hPart hWithin =>
          have hLength : entries.length = entries'.length := by
            simpa using congrArg List.length hKeys
          obtain ⟨entry, hPair⟩ := exists_mem_zip hLength hPart
          exact ih entry part hPair hWithin

/-- A value without such a text is expanded already. -/
theorem expanded_eq_self (h : ∀ s, IsWithin (string s) v → isEmbedded s.toList = .ok false) :
    expanded v = .ok v := by
  induction v using induction_expanded with
  | h v ihParts _ =>
      have hParts (part : String × Json) (hPart : part ∈ Payload.parts v) :
          expanded part.2 = .ok part.2 :=
        ihParts part hPart fun s hWithin => h s (.inside hPart hWithin)
      cases v with
      | string s => exact expanded_of_not_isEmbedded (h s .self)
      | array items =>
          exact expanded_array_eq_ok_iff.mpr
            ⟨items, rfl, List.forall₂_same.mpr (forall_mem_parts_array.mp hParts)⟩
      | object entries =>
          exact expanded_object_eq_ok_iff.mpr ⟨entries, rfl, rfl, List.forall₂_same.mpr hParts⟩
      | _ => exact expanded_scalar (by simp) rfl

theorem ExpandsTo.isContainer (h : ExpandsTo v w) (hContainer : v.isContainer = true) :
    w.isContainer = true := by
  cases h with
  | scalar => exact hContainer
  | text => exact hContainer
  | document => cases hContainer
  | array => rfl
  | object => rfl

/-- A text expands to a container exactly if it holds a document. -/
theorem ExpandsTo.isContainer_iff (h : ExpandsTo (string s) w) :
    w.isContainer = true ↔ isEmbedded s.toList = .ok true := by
  cases h with
  | scalar hText => exact absurd rfl (hText s)
  | text h =>
      rw [h]
      constructor
      · intro hContainer
        cases hContainer
      · intro hSame
        cases hSame
  | document hDocument hw =>
      have hContainer := hw.isContainer (isContainer_of_embedded? hDocument)
      exact ⟨fun _ => isEmbedded_eq_true_iff.mpr ⟨_, hDocument⟩, fun _ => hContainer⟩

/-- Whether a value is the normal form of another one. -/
structure IsNormalForm (w v : Json) : Prop where
  /-- It is the same but for the documents, which stand in the places of their texts. -/
  expandsTo : ExpandsTo v w
  /-- No text in it holds a document. -/
  plain : ∀ s, IsWithin (string s) w → isEmbedded s.toList = .ok false
  /-- Expanding it again changes nothing. -/
  settled : expanded w = .ok w
  /-- A text becomes a container exactly if it holds a document. -/
  container_iff : ∀ s, v = string s → (w.isContainer = true ↔ isEmbedded s.toList = .ok true)

theorem isNormalForm_of_expanded (h : expanded v = .ok w) : IsNormalForm w v := by
  have hExpands := expanded_eq_ok_iff.mp h
  refine ⟨hExpands, fun s => hExpands.isEmbedded_eq_false,
    expanded_eq_self fun s => hExpands.isEmbedded_eq_false, ?_⟩
  rintro s rfl
  exact hExpands.isContainer_iff

/-- Expanding a value leads to its normal form, unless it comes upon a number that has too many
digits to be read. -/
theorem expanded_isNormalForm (v : Json) :
    ((∃ w, expanded v = .ok w) ↔ IsReadable v) ∧
      ∀ w, expanded v = .ok w → IsNormalForm w v :=
  ⟨⟨fun ⟨_, h⟩ => isReadable_of_expanded h, exists_expanded_of_isReadable⟩,
    fun _ => isNormalForm_of_expanded⟩

end

/-- A text with an object in it that has an array in one of its texts, and no document in the other
one. -/
private def layered : Json := string "\x7b\"a\": \"[1, null]\", \"b\": \"\x7boops\x7d\"\x7d"

private def unlayered : Json := object [("a", array [int 1, null]), ("b", string "\x7boops\x7d")]

theorem expanded_isNormalForm_layered :
    expanded layered = .ok unlayered ∧ IsReadable layered ∧ IsNormalForm unlayered layered := by
  have hOuter : embedded? "\x7b\"a\": \"[1, null]\", \"b\": \"\x7boops\x7d\"\x7d".toList =
      .ok (some (object [("a", string "[1, null]"), ("b", string "\x7boops\x7d")])) := by cbv
  have hInner : embedded? "[1, null]".toList = .ok (some (array [int 1, null])) := by cbv
  have hPlain : isEmbedded "\x7boops\x7d".toList = .ok false := by cbv
  have hItems : expanded (array [int 1, null]) = .ok (array [int 1, null]) :=
    expanded_array_eq_ok_iff.mpr ⟨_, rfl, .cons (expanded_scalar (by simp) rfl)
      (.cons (expanded_scalar (by simp) rfl) .nil)⟩
  have hLayered : expanded layered = .ok unlayered :=
    (expanded_of_document hOuter).trans (expanded_object_eq_ok_iff.mpr ⟨_, rfl, rfl,
      .cons ((expanded_of_document hInner).trans hItems)
        (.cons (expanded_of_not_isEmbedded hPlain) .nil)⟩)
  obtain ⟨hReadable, hNormal⟩ := expanded_isNormalForm layered
  exact ⟨hLayered, hReadable.mp ⟨_, hLayered⟩, hNormal _ hLayered⟩

end LogViewer.Json
