import Mathlib
import LogViewer.Line.Record
import LogViewer.Text.Substring
import LogViewer.Proofs.Line.Times

/-! Anchored lines in writing. The lines from which fields can be read are exactly those that these
fields are written as, and the record of a line that is written from fields, a time and a zone has
these fields and this time, whatever its tag and data look like. -/
namespace LogViewer.Line

open Text

/-- Whether a text may stand where a field must not be empty. -/
structure IsFilled (field : List Char) : Prop where
  ne_nil : field ≠ []
  bar_not_mem : '|' ∉ field

theorem field?_eq_some_iff {s field rest : List Char} :
    field? s = some (field, rest) ↔ '|' ∉ field ∧ s = field ++ '|' :: rest := by
  unfold field?
  constructor
  · intro h
    split at h
    · rename_i own c rest' hSpan
      obtain ⟨rfl, hFront, hBar⟩ := span_ne_eq_iff.mp hSpan
      cases h
      obtain rfl := hBar c rfl
      exact ⟨hFront, rfl⟩
    · cases h
  · rintro ⟨hField, rfl⟩
    rw [span_ne_eq_iff.mpr ⟨rfl, hField, by rintro c ⟨⟩; rfl⟩]

theorem filledField?_eq_some_iff {s field rest : List Char} :
    filledField? s = some (field, rest) ↔ IsFilled field ∧ s = field ++ '|' :: rest := by
  unfold filledField?
  simp only [Option.bind_eq_bind, Option.bind_eq_some_iff, Prod.exists, Option.guard_eq_some',
    Option.pure_def, Option.some.injEq, Prod.mk.injEq, field?_eq_some_iff]
  constructor
  · rintro ⟨_, _, ⟨hBar, rfl⟩, -, hEmpty, rfl, rfl⟩
    exact ⟨⟨by simpa using hEmpty, hBar⟩, rfl⟩
  · rintro ⟨⟨hEmpty, hBar⟩, rfl⟩
    exact ⟨_, _, ⟨hBar, rfl⟩, (), by simpa using hEmpty, rfl, rfl⟩

/-- The last field ends with its line, which a line break may end. -/
theorem lastField?_eq_some_iff {s field : List Char} :
    lastField? s = some field ↔
      field ≠ [] ∧ '\n' ∉ field ∧ (s = field ∨ s = field ++ ['\n']) := by
  unfold lastField?
  constructor
  · intro h
    split at h
    · cases h
    · rename_i own hNil hSpan
      obtain ⟨rfl, hFront, -⟩ := span_ne_eq_iff.mp hSpan
      cases h
      exact ⟨hNil, hFront, Or.inl (List.append_nil _)⟩
    · rename_i own c hNil hSpan
      obtain ⟨rfl, hFront, hBreak⟩ := span_ne_eq_iff.mp hSpan
      cases h
      obtain rfl := hBreak c rfl
      exact ⟨hNil, hFront, Or.inr rfl⟩
    · cases h
  · rintro ⟨hNil, hField, hEnd⟩
    obtain ⟨c, field, rfl⟩ := List.exists_cons_of_ne_nil hNil
    rcases hEnd with rfl | rfl
    · rw [span_ne_eq_iff.mpr ⟨(List.append_nil _).symm, hField, by simp⟩]
    · rw [span_ne_eq_iff.mpr ⟨rfl, hField, by rintro c ⟨⟩; rfl⟩]

namespace AnchoredFields

/-- What the grammar asks of the fields of a line. -/
structure FollowsGrammar (fields : AnchoredFields) : Prop where
  lineNumber : IsNumber fields.lineNumber
  deviceId : IsFilled fields.deviceId
  sessionId : IsFilled fields.sessionId
  service : IsFilled fields.service
  url : '|' ∉ fields.url
  cartId : '|' ∉ fields.cartId
  source : IsFilled fields.source
  level : IsFilled fields.level
  type : IsFilled fields.type
  tagAndData_ne_nil : fields.tagAndData ≠ []
  tagAndData_oneLine : '\n' ∉ fields.tagAndData

/-- The fields between that of the timestamp and the last one, in the order of a line. -/
def inner (fields : AnchoredFields) : List (List Char) :=
  [fields.deviceId, fields.sessionId, fields.service, fields.url, fields.cartId, fields.source,
    fields.level, fields.type]

/-- A line in writing: the number, a colon, and the other fields, each behind a bar. The first one
of them, the header, is that of the timestamp. -/
def text (fields : AnchoredFields) (header : List Char) : List Char :=
  fields.lineNumber ++ ':' :: '|' :: join ['|'] (header :: fields.inner ++ [fields.tagAndData])

theorem text_append (fields : AnchoredFields) (header ending : List Char) :
    fields.text header ++ ending = fields.lineNumber ++ ':' :: '|' :: (header ++ '|' ::
      (fields.deviceId ++ '|' :: (fields.sessionId ++ '|' :: (fields.service ++ '|' ::
        (fields.url ++ '|' :: (fields.cartId ++ '|' :: (fields.source ++ '|' ::
          (fields.level ++ '|' :: (fields.type ++ '|' ::
            (fields.tagAndData ++ ending)))))))))) := by
  simp [text, inner, join]

/-- Fields are read back from the line that they are written as. -/
theorem anchoredFields?_text {fields : AnchoredFields} (h : fields.FollowsGrammar)
    {header ending : List Char} (hHeader : IsFilled header)
    (hEnding : ending = [] ∨ ending = ['\n']) :
    anchoredFields? (fields.text header ++ ending) = some fields := by
  have hField {field : List Char} (hBar : '|' ∉ field) (rest : List Char) :
      field? (field ++ '|' :: rest) = some (field, rest) := field?_eq_some_iff.mpr ⟨hBar, rfl⟩
  have hFilled {field : List Char} (hField : IsFilled field) (rest : List Char) :
      filledField? (field ++ '|' :: rest) = some (field, rest) :=
    filledField?_eq_some_iff.mpr ⟨hField, rfl⟩
  have hLast : lastField? (fields.tagAndData ++ ending) = some fields.tagAndData := by
    rw [lastField?_eq_some_iff]
    refine ⟨h.tagAndData_ne_nil, h.tagAndData_oneLine, ?_⟩
    rcases hEnding with rfl | rfl
    · exact Or.inl (List.append_nil _)
    · exact Or.inr rfl
  rw [text_append]
  simp only [anchoredFields?, Option.bind_eq_bind, Option.bind_some, Option.pure_def,
    afterNumber?_append h.lineNumber, h.lineNumber.takeWhile_append, hFilled hHeader,
    hFilled h.deviceId, hFilled h.sessionId, hFilled h.service, hField h.url, hField h.cartId,
    hFilled h.source, hFilled h.level, hFilled h.type, hLast]

/-- The lines from which fields can be read are those that these fields are written as. -/
theorem anchoredFields?_eq_some_iff {line : List Char} {fields : AnchoredFields} :
    anchoredFields? line = some fields ↔ fields.FollowsGrammar ∧ ∃ header ending,
      IsFilled header ∧ (ending = [] ∨ ending = ['\n']) ∧ line = fields.text header ++ ending := by
  constructor
  · intro h
    unfold anchoredFields? at h
    simp only [Option.bind_eq_bind, Option.bind_eq_some_iff, Prod.exists, Option.pure_def,
      Option.some.injEq, afterNumber?_eq_some_iff, filledField?_eq_some_iff, field?_eq_some_iff,
      lastField?_eq_some_iff] at h
    obtain ⟨_, ⟨hNumber, hLine⟩, header, _, ⟨hHeader, rfl⟩, deviceId, _, ⟨hDevice, rfl⟩,
      sessionId, _, ⟨hSession, rfl⟩, service, _, ⟨hService, rfl⟩, url, _, ⟨hUrl, rfl⟩,
      cartId, _, ⟨hCart, rfl⟩, source, _, ⟨hSource, rfl⟩, level, _, ⟨hLevel, rfl⟩,
      type, s, ⟨hType, rfl⟩, tagAndData, ⟨hNil, hOneLine, hEnd⟩, rfl⟩ := h
    refine ⟨⟨hNumber, hDevice, hSession, hService, hUrl, hCart, hSource, hLevel, hType, hNil,
      hOneLine⟩, header, ?_⟩
    simp only [text_append]
    rcases hEnd with rfl | rfl
    · exact ⟨[], hHeader, Or.inl rfl, by simpa using hLine⟩
    · exact ⟨['\n'], hHeader, Or.inr rfl, hLine⟩
  · rintro ⟨h, header, ending, hHeader, hEnding, rfl⟩
    exact anchoredFields?_text h hHeader hEnding

end AnchoredFields

/-- Whether a tag and data are what a text is parted into: at the first colon, or not at all where
there is no colon or one in front. -/
inductive IsParted (s : List Char) : String → Option String → Prop where
  | whole (h : ':' ∉ s ∨ s.head? = some ':') : IsParted s (String.ofList s) none
  | atColon {tag data : List Char} (hNil : tag ≠ []) (hTag : ':' ∉ tag)
      (h : s = tag ++ ':' :: data) :
      IsParted s (String.ofList tag) (some (String.ofList data))

theorem isParted_splitTag (s : List Char) :
    IsParted s (splitTag (String.ofList s)).1 (splitTag (String.ofList s)).2 := by
  unfold splitTag
  rw [String.toList_ofList]
  split
  · rename_i back hSpan
    obtain ⟨rfl, -, hBack⟩ := span_ne_eq_iff.mp hSpan
    apply IsParted.whole
    cases s with
    | nil => simp
    | cons c s =>
        obtain rfl := hBack c rfl
        exact Or.inr rfl
  · rename_i front _ hSpan
    obtain ⟨hWhole, hFront, -⟩ := span_ne_eq_iff.mp hSpan
    apply IsParted.whole
    rw [hWhole, List.append_nil]
    exact Or.inl hFront
  · rename_i tag c data hNil hSpan
    obtain ⟨rfl, hFront, hColon⟩ := span_ne_eq_iff.mp hSpan
    obtain rfl := hColon c rfl
    exact IsParted.atColon hNil hFront rfl

/-- An anchored line: its fields, and the time and the zone of which its header is made. -/
structure AnchoredLine where
  fields : AnchoredFields
  time : List Char
  zone : List Char
  followsGrammar : fields.FollowsGrammar
  isTime : IsTime 'T' time
  isZone : IsZone zone

namespace AnchoredLine

def text (line : AnchoredLine) : String :=
  String.ofList (line.fields.text (line.time ++ line.zone))

/-- The attributes of the inner fields, in the order of a line. -/
def innerAttributes : List Attribute :=
  [.deviceId, .sessionId, .service, .url, .cartId, .source, .level, .type]

/-- Whether a record has what an anchored line says, and no attributes beside. -/
structure IsReadAs (line : AnchoredLine) (r : Record) : Prop where
  format_eq : r.format = .anchored
  timestamp_eq : r.timestamp = String.ofList line.time
  instant_eq : Timestamp.instant? (String.ofList line.time) = .ok (some r.instant)
  rawMessage_eq : r.rawMessage = some line.text
  lineNumber_eq : r.attributes .lineNumber = some (String.ofList line.fields.lineNumber)
  inner_eq : innerAttributes.map r.attributes = line.fields.inner.map (some ∘ String.ofList)
  tagAndData : ∃ tag, r.attributes .tag = some tag ∧
    IsParted line.fields.tagAndData tag (r.attributes .data)
  others : ∀ a ∉ .lineNumber :: innerAttributes ++ [.tag, .data], r.attributes a = none

theorem isFilled_header (line : AnchoredLine) : IsFilled (line.time ++ line.zone) where
  ne_nil := by
    obtain ⟨sign, clock, -, -, hZone⟩ := line.isZone
    simp [hZone]
  bar_not_mem := line.isTime.bar_not_mem_append line.isZone

theorem timestamp?_text (line : AnchoredLine) :
    timestamp? line.text = some (String.ofList line.time) := by
  have hTime : anchoredTime? line.text.toList = some line.time := by
    rw [text, String.toList_ofList, anchoredTime?_eq_some_iff,
      ← List.append_nil (line.fields.text _), AnchoredFields.text_append, List.append_assoc]
    exact ⟨_, _, _, line.followsGrammar.lineNumber, line.isTime, line.isZone, rfl⟩
  rw [timestamp?, hTime]

theorem structure?_text (line : AnchoredLine) :
    structure? line.text = some (.anchored, line.fields.attributes) := by
  have hFields := AnchoredFields.anchoredFields?_text line.followsGrammar line.isFilled_header
    (Or.inl rfl)
  rw [List.append_nil] at hFields
  rw [structure?, text, String.toList_ofList, hFields]

/-- An anchored line whose time names an instant is read as the record of its fields, also where its
tag and data hold bars, colons or times that are marked as in other lines. -/
theorem exists_record?_isReadAs (line : AnchoredLine)
    (h : ∃ instant, Timestamp.instant? (String.ofList line.time) = .ok (some instant))
    (fallback : Option String) :
    ∃ r, record? line.text fallback = .ok (some r) ∧ line.IsReadAs r := by
  obtain ⟨instant, hInstant⟩ := h
  refine ⟨{
    timestamp := String.ofList line.time
    format := .anchored
    instant
    attributes := line.fields.attributes
    rawMessage := some line.text }, ?_, ?_⟩
  · rw [record?, line.timestamp?_text, line.structure?_text]
    simp only [Option.some_or, hInstant, bind, Except.bind]
    rfl
  · refine ⟨rfl, rfl, hInstant, rfl, rfl, rfl, ⟨_, rfl, isParted_splitTag _⟩, ?_⟩
    intro a ha
    cases a <;> first | exact absurd ha (by decide) | rfl

/-- A line whose tag and data hold a bar, a second colon and the mark of another time. -/
private def marked : AnchoredLine where
  fields := {
    lineNumber := "42".toList
    deviceId := "dev-1".toList
    sessionId := " ".toList
    service := "pay".toList
    url := []
    cartId := []
    source := "web".toList
    level := "INFO".toList
    type := "EVENT".toList
    tagAndData := "note:a|b: at 2020-01-01 00:00:00.0".toList }
  time := "2025-10-15T07:33:22.667".toList
  zone := "+02:00".toList
  followsGrammar := {
    lineNumber := ⟨by decide, List.all_eq_true.mp (by decide)⟩
    deviceId := ⟨by decide, by decide⟩
    sessionId := ⟨by decide, by decide⟩
    service := ⟨by decide, by decide⟩
    url := by decide
    cartId := by decide
    source := ⟨by decide, by decide⟩
    level := ⟨by decide, by decide⟩
    type := ⟨by decide, by decide⟩
    tagAndData_ne_nil := by simp
    tagAndData_oneLine := by decide +kernel }
  isTime := ⟨"2025-10-15T07:33:22.6".toList, "67".toList, by decide +kernel,
    List.all_eq_true.mp (by decide), rfl⟩
  isZone := ⟨'+', "02:00".toList, Or.inl rfl, by decide, rfl⟩

theorem exists_record?_isReadAs_marked :
    marked.text = "42:|2025-10-15T07:33:22.667+02:00|dev-1| |pay|||web|INFO|EVENT|" ++
        "note:a|b: at 2020-01-01 00:00:00.0" ∧
      Timestamp.instant? (String.ofList marked.time) = .ok (some 1760513602667) ∧
      ∃ r, record? marked.text none = .ok (some r) ∧ marked.IsReadAs r := by
  have hInstant : Timestamp.instant? (String.ofList marked.time) = .ok (some 1760513602667) := by
    unfold marked
    cbv
  exact ⟨rfl, hInstant, marked.exists_record?_isReadAs ⟨_, hInstant⟩ none⟩

end AnchoredLine

end LogViewer.Line
