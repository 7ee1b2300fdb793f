import Mathlib
import LogViewer.Proofs.Corpus.Order
import LogViewer.Proofs.Record.Entries

/-! What becomes of the entries of an object that was found in a document. Its record has three
names for itself; under any other name the object's value stays, in the record as well as in the
text that queries search and in every export. -/
namespace LogViewer

/-- The names that the record of an object has for itself. What the object has under one of them
gives way to it. -/
def Record.takenNames : List String := ["timestamp", "format", "path"]

/-- Whether an entry is written out with a record: in the text that queries search, and in every
export of the record. -/
structure Record.Writes (r : Record) (entry : String × Json) : Prop where
  searched : Text.lower (r.searchedEntry entry) <:+: r.searchable
  exported : ∀ records text, r ∈ records → Export.text? records = some text →
    Json.indentedEntry 2 entry <:+: text.toList

theorem Record.writes_of_mem {r : Record} {entry : String × Json} (h : entry ∈ r.entries) :
    r.Writes entry :=
  ⟨isInfix_searchable h, fun _ _ hr hText => Export.isInfix_text hText hr h⟩

section

variable {ν : Type} [Payload ν]

/-- Whether a record stands for an object with a path: it has the object's timestamp and path, the
name of its format, and every other entry of the object, and writes all of them out. -/
structure Record.Keeps (r : Record) (path : String) (fields : List (String × ν)) : Prop where
  timestamp : (timestampOf? fields).bind (Payload.shape · |>.timestamp?) = some r.timestamp
  own : ∀ key v,
    [("timestamp", r.timestamp), ("format", "UNSTRUCTURED"), ("path", path)].lookup key = some v →
      r.entries.lookup key = some (.string v)
  kept : ∀ key v, key ∉ takenNames → fields.lookup key = some v →
    r.entries.lookup key = some (Payload.tree v)
  written : ∀ key v, key ∉ takenNames → fields.lookup key = some v →
    r.Writes (key, Payload.tree v)

/-- The record of an object, as it is made. -/
theorem eq_of_outcomeOfObject? {path : String} {fields : List (String × ν)} {r : Record}
    (h : outcomeOfObject? path fields = .ok (some (.record r))) :
    (timestampOf? fields).bind (Payload.shape · |>.timestamp?) = some r.timestamp ∧
      r.ownEntries = [("timestamp", .string r.timestamp), ("format", .string "UNSTRUCTURED"),
        ("path", .string path)] ∧
      r.attributes .path = some path ∧
      r.fields = fields.map (fun (key, v) => (key, Payload.tree v)) ∧ r.fullSource = none := by
  unfold outcomeOfObject? at h
  split at h
  · rename_i value hValue
    split at h
    · rename_i timestamp hTimestamp
      obtain ⟨instant, -, h⟩ := bind_eq_ok h
      cases instant with
      | none => cases h
      | some instant =>
          cases h
          refine ⟨?_, rfl, rfl, rfl, rfl⟩
          rw [hValue, Option.bind_some, hTimestamp]
    · cases h
  · cases h

theorem keeps_of_outcomeOfObject? {path : String} {fields : List (String × ν)} {r : Record}
    (h : outcomeOfObject? path fields = .ok (some (.record r))) : r.Keeps path fields := by
  obtain ⟨hTimestamp, hOwn, -, hFields, hFull⟩ := eq_of_outcomeOfObject? h
  have hEntries (key : String) : r.entries.lookup key =
      (([("timestamp", r.timestamp), ("format", "UNSTRUCTURED"), ("path", path)].lookup key).map
        Json.string).or ((fields.lookup key).map Payload.tree) := by
    rw [Record.lookup_entries hFull, hFields, lookup_map_snd, hOwn, ← lookup_map_snd Json.string]
    rfl
  have hKept (key : String) (v : ν) (hKey : key ∉ Record.takenNames)
      (hv : fields.lookup key = some v) : r.entries.lookup key = some (Payload.tree v) := by
    have hFree : [("timestamp", r.timestamp), ("format", "UNSTRUCTURED"),
        ("path", path)].lookup key = none := by
      rw [List.lookup_eq_none_iff]
      simpa [Record.takenNames] using hKey
    rw [hEntries, hFree, hv, Option.map_none, Option.none_or, Option.map_some]
  refine ⟨hTimestamp, ?_, hKept, ?_⟩
  · intro key v hv
    rw [hEntries, hv, Option.map_some, Option.some_or]
  · intro key v hKey hv
    exact Record.writes_of_mem (mem_of_lookup_eq_some (hKept key v hKey hv))

/-- An object whose values do not contain themselves has a record that does not either. -/
theorem hasLoop_of_outcomeOfObject? {path : String} {fields : List (String × ν)} {r : Record}
    (h : outcomeOfObject? path fields = .ok (some (.record r)))
    (hFree : ∀ field ∈ fields, (Payload.tree field.2).hasLoop = false) :
    r.toJson.hasLoop = false := by
  obtain ⟨-, hOwn, -, hFields, hFull⟩ := eq_of_outcomeOfObject? h
  rw [Record.toJson, Json.hasLoop_object_eq_false_iff]
  intro entry hEntry
  rcases Record.mem_entries hFull hEntry with hEntry | hEntry
  · rw [hOwn] at hEntry
    simp only [List.mem_cons, List.not_mem_nil, or_false] at hEntry
    rcases hEntry with rfl | rfl | rfl <;> rfl
  · rw [hFields] at hEntry
    obtain ⟨field, hField, rfl⟩ := List.mem_map.mp hEntry
    exact hFree field hField

/-- Whether a corpus keeps the objects that the walk through a document finds: its records are those
of the objects that have a usable timestamp, each of them keeps its object, and they can be exported
unless one of them contains itself. -/
structure Corpus.KeepsObjects (corpus : Corpus) (settings : Settings) (document : Document ν) : Prop
    where
  records : ∀ r, r ∈ corpus.records ↔
    ∃ p ∈ (document.containers.walk settings.maxWalkDepth.toNat).visits,
      ∃ fields, document.containers.nodes[p.node]?.bind (·.fields) = some fields ∧
        outcomeOfObject? p.path fields = .ok (some (.record r))
  keeps : ∀ p ∈ (document.containers.walk settings.maxWalkDepth.toNat).visits,
    ∀ fields, document.containers.nodes[p.node]?.bind (·.fields) = some fields →
      ∀ r, outcomeOfObject? p.path fields = .ok (some (.record r)) → r.Keeps p.path fields
  exported : (∃ text, Export.text? corpus.records = some text) ↔
    ∀ r ∈ corpus.records, r.toJson.hasLoop = false

theorem outcomeOfVisit?_eq_record_iff {c : Containers ν} {p : Pending} {r : Record} :
    outcomeOfVisit? c p = .ok (some (.record r)) ↔
      ∃ fields, c.nodes[p.node]?.bind (·.fields) = some fields ∧
        outcomeOfObject? p.path fields = .ok (some (.record r)) := by
  unfold outcomeOfVisit?
  cases c.nodes[p.node]?.bind (·.fields) with
  | none => simp [pure, Except.pure]
  | some fields => simp

theorem keepsObjects_of_load_eq_ok {settings : Settings} {document : Document ν}
    {sourceName : String} {loaded : Loaded} (h : load settings document sourceName = .ok loaded)
    (hHits : envelopeHits? document.value = none) :
    loaded.corpus.KeepsObjects settings document := by
  refine ⟨fun r => ?_, fun p _ fields _ r hr => keeps_of_outcomeOfObject? hr,
    Export.exists_text?_iff⟩
  obtain ⟨numbered, hMap, hRead, -⟩ := (isInOrder_of_load_eq_ok h).numbered
  simp only [IsReadAt, hHits, outcomeOfVisit?_eq_record_iff] at hRead
  rw [← hMap, List.mem_map]
  constructor
  · rintro ⟨⟨s, i⟩, hMem, rfl⟩
    obtain ⟨p, hVisit, hObject⟩ := (hRead s i).mp hMem
    exact ⟨p, List.mem_of_getElem? hVisit, hObject⟩
  · rintro ⟨p, hVisit, hObject⟩
    obtain ⟨i, hi⟩ := List.mem_iff_getElem?.mp hVisit
    exact ⟨(r, i), (hRead r i).mpr ⟨p, hi, hObject⟩, rfl⟩

/-- The records of a tree that does not contain itself can be exported. -/
theorem Corpus.KeepsObjects.exists_text {corpus : Corpus} {settings : Settings} {v : Json}
    (h : corpus.KeepsObjects settings (Document.ofJson v)) (hFree : v.hasLoop = false) :
    ∃ text, Export.text? corpus.records = some text := by
  rw [h.exported]
  intro r hr
  obtain ⟨p, -, fields, hFields, hOutcome⟩ := (h.records r).mp hr
  obtain ⟨node, hNode, hFields⟩ := Option.bind_eq_some_iff.mp hFields
  have hStands := (isNumberedBy_ofJson v).standsFor p.node node hNode
  have hShape : (v.containerNumbered p.node).shape.entries? = some fields := by
    rw [← hFields, hStands.fields_eq]
    rfl
  apply hasLoop_of_outcomeOfObject? hOutcome
  intro field hField
  have hContainer : (v.containerNumbered p.node).hasLoop = false := by
    unfold Json.containerNumbered
    cases hWithin : v.containersWithin[p.node]? with
    | none => rfl
    | some w =>
        have hMem := List.mem_of_getElem? hWithin
        exact Json.hasLoop_of_mem_containersWithin.1 v hFree w hMem
  cases hObject : v.containerNumbered p.node with
  | object entries =>
      rw [hObject] at hShape hContainer
      cases hShape
      exact Json.hasLoop_object_eq_false_iff.mp hContainer field hField
  | _ =>
      rw [hObject] at hShape
      cases hShape

/-- Whenever a document without hits is loaded, be it in memory or written out, its corpus keeps the
objects that are found in it. What was written out can always be exported again. -/
theorem load_keepsObjects [Text.StandIns] (settings : Settings) (sourceName : String) :
    (∀ (document : Document ν) (loaded : Loaded),
      load settings document sourceName = .ok loaded → envelopeHits? document.value = none →
        loaded.corpus.KeepsObjects settings document) ∧
    (∀ (text : List Char) (loaded : Loaded),
      loadText settings text sourceName = .ok loaded →
        ∃ v, Json.read text = .ok v ∧ (envelopeHits? v = none →
          loaded.corpus.KeepsObjects settings (Document.ofJson v) ∧
            ∃ exported, Export.text? loaded.corpus.records = some exported)) ∧
    ∀ (bytes : List Nat) (loaded : Loaded),
      loadBytes settings bytes sourceName = .ok loaded →
        ∃ text v, Text.decodeDocument? bytes = some text ∧ Json.readMarked text = .ok v ∧
          (envelopeHits? v = none →
            loaded.corpus.KeepsObjects settings (Document.ofJson v) ∧
              ∃ exported, Export.text? loaded.corpus.records = some exported) := by
  have hTree (document : Document Json) (loaded : Loaded)
      (h : load settings document sourceName = .ok loaded) :
      envelopeHits? document.value = none → loaded.corpus.KeepsObjects settings document :=
    keepsObjects_of_load_eq_ok h
  obtain ⟨hText, hBytes⟩ := loaded_of_written
    (P := fun loaded document => envelopeHits? document.value = none →
      loaded.corpus.KeepsObjects settings document) hTree
  refine ⟨fun document loaded h hHits => keepsObjects_of_load_eq_ok h hHits, ?_, ?_⟩
  · intro text loaded h
    obtain ⟨v, hRead, hKeeps⟩ := hText text loaded h
    refine ⟨v, hRead, fun hHits => ?_⟩
    exact ⟨hKeeps hHits, (hKeeps hHits).exists_text (Json.hasLoop_of_read hRead)⟩
  · intro bytes loaded h
    obtain ⟨text, v, hDecode, hRead, hKeeps⟩ := hBytes bytes loaded h
    refine ⟨text, v, hDecode, hRead, fun hHits => ?_⟩
    exact ⟨hKeeps hHits, (hKeeps hHits).exists_text (Json.hasLoop_of_readMarked hRead)⟩

end

/-- An object that has something of its own under two names that its record takes. -/
private def reserved : Json :=
  .object [("date", .string "1970-01-01"), ("format", .string "csv"), ("path", .string "/var/log")]

/-- The text of an object with a timestamp, in an array. -/
private def dated : String := "[\x7b\"date\": \"1970-01-01\", \"host\": \"a\"\x7d]"

theorem load_keepsObjects_dated :
    envelopeHits? (Document.ofJson reserved).value = none ∧
    (∃ loaded, load {} (Document.ofJson reserved) "" = .ok loaded ∧
      loaded.corpus.KeepsObjects {} (Document.ofJson reserved)) ∧
    (∃ loaded v, loadText {} dated.toList "" = .ok loaded ∧ Json.read dated.toList = .ok v ∧
      envelopeHits? v = none ∧ loaded.corpus.KeepsObjects {} (Document.ofJson v) ∧
      loaded.corpus.records.map (·.entries.lookup "host") = [some (.string "a")]) ∧
    ∃ loaded text v, loadBytes {} [0x5b, 0x5d] "" = .ok loaded ∧
      Text.decodeDocument? [0x5b, 0x5d] = some text ∧ Json.readMarked text = .ok v ∧
      envelopeHits? v = none ∧ loaded.corpus.KeepsObjects {} (Document.ofJson v) := by
  obtain ⟨hDocument, hText, hBytes⟩ := load_keepsObjects (ν := Json) {} ""
  have hReserved : envelopeHits? (Document.ofJson reserved).value = none := rfl
  refine ⟨hReserved, ?_, ?_, ?_⟩
  · have hSome : (load {} (Document.ofJson reserved) "").toOption.isSome = true := by
      unfold reserved
      cbv
    obtain ⟨loaded, hLoad⟩ := Option.isSome_iff_exists.mp hSome
    have hLoad := toOption_eq_some.mp hLoad
    exact ⟨loaded, hLoad, hDocument _ loaded hLoad hReserved⟩
  · have hHosts : (loadText {} dated.toList "").toOption.map
        (·.corpus.records.map (·.entries.lookup "host")) = some [some (.string "a")] := by
      unfold dated
      cbv
    have hNoHits : (Json.read dated.toList).toOption.map (fun v => (envelopeHits? v).isNone) =
        some true := by
      unfold dated
      cbv
    obtain ⟨loaded, hLoad, hHosts⟩ := toOption_map_eq_some hHosts
    obtain ⟨v, hRead, hKeeps⟩ := hText _ loaded hLoad
    rw [hRead, Except.toOption, Option.map_some, Option.some_inj, Option.isNone_iff_eq_none]
      at hNoHits
    exact ⟨loaded, v, hLoad, hRead, hNoHits, (hKeeps hNoHits).1, hHosts⟩
  · have hSome : (loadBytes {} [0x5b, 0x5d] "").toOption.isSome = true := by cbv
    have hDecoded : Text.decodeDocument? [0x5b, 0x5d] = some "[]".toList := by cbv
    have hNoHits : (Json.readMarked "[]".toList).toOption.map (fun v => (envelopeHits? v).isNone) =
        some true := by cbv
    obtain ⟨loaded, hLoad⟩ := Option.isSome_iff_exists.mp hSome
    have hLoad := toOption_eq_some.mp hLoad
    obtain ⟨text, v, hDecode, hRead, hKeeps⟩ := hBytes _ loaded hLoad
    obtain rfl := Option.some_inj.mp (hDecode.symm.trans hDecoded)
    rw [hRead, Except.toOption, Option.map_some, Option.some_inj, Option.isNone_iff_eq_none]
      at hNoHits
    exact ⟨loaded, _, v, hLoad, hDecode, hRead, hNoHits, (hKeeps hNoHits).1⟩

/-- The record of an object does not keep what the object has under a name that the record takes:
it is neither in the text that queries search nor in the export. -/
theorem load_drops_reserved :
    envelopeHits? reserved = none ∧
    "format" ∉ timestampNames ∧ "path" ∉ timestampNames ∧
    reserved.entries.lookup "format" = some (.string "csv") ∧
    reserved.entries.lookup "path" = some (.string "/var/log") ∧
    ∃ loaded r exported, load {} (Document.ofJson reserved) "" = .ok loaded ∧
      loaded.corpus.records = [r] ∧ r.fields = reserved.entries ∧
      r.entries.lookup "format" = some (.string "UNSTRUCTURED") ∧
      r.entries.lookup "path" = some (.string "") ∧
      ¬"/var/log".toList <:+: r.searchable ∧
      Export.text? loaded.corpus.records = some exported ∧
      ¬"/var/log".toList <:+: exported.toList := by
  refine ⟨rfl, by decide, by decide, by rfl, by rfl, ?_⟩
  have hLoaded : (load {} (Document.ofJson reserved) "").toOption.map (fun loaded =>
      (loaded.corpus.records.map fun r =>
        (r.fields, r.entries.lookup "format", r.entries.lookup "path",
          Text.occursIn "/var/log".toList r.searchable),
        (Export.text? loaded.corpus.records).map fun exported =>
          Text.occursIn "/var/log".toList exported.toList)) =
      some ([(reserved.entries, some (.string "UNSTRUCTURED"), some (.string ""), false)],
        some false) := by
    unfold reserved
    cbv
  obtain ⟨loaded, hLoad, hLoaded⟩ := toOption_map_eq_some hLoaded
  obtain ⟨hRecords, hExported⟩ := Prod.mk.inj hLoaded
  obtain ⟨r, hRecord, hr⟩ := List.map_eq_singleton_iff.mp hRecords
  obtain ⟨exported, hText, hMissing⟩ := Option.map_eq_some_iff.mp hExported
  simp only [Prod.mk.injEq] at hr
  obtain ⟨hFields, hFormat, hPath, hSearch⟩ := hr
  refine ⟨loaded, r, exported, hLoad, hRecord, hFields, hFormat, hPath, ?_, hText, ?_⟩
  · rw [← Text.occursIn_iff, hSearch]
    exact Bool.false_ne_true
  · rw [← Text.occursIn_iff, hMissing]
    exact Bool.false_ne_true

end LogViewer
