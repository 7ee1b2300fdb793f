import Mathlib
import LogViewer.Proofs.Command.Corpus
import LogViewer.Proofs.Corpus.Production
import LogViewer.Proofs.Json.Breaks
import LogViewer.Proofs.Text.Encoding

/-! The encodings of files. A command reads a file as single bytes, whatever the bytes tell, and
unifies the line breaks. So it finds the same records in a file as in the bytes themselves if they
are those of a text without a mark, and none where the bytes have a mark or are told to be in larger
units. -/
namespace LogViewer

/-- A document that is loaded is loaded under any other name too, and only the name changes. -/
theorem load_otherName {ν : Type} [Payload ν] {settings : Settings} {document : Document ν}
    {sourceName : String} {loaded : Loaded} (h : load settings document sourceName = .ok loaded)
    (other : String) : load settings document other =
      .ok { loaded with corpus := { loaded.corpus with sourceName := other } } := by
  obtain ⟨outcomes, hOutcomes, h⟩ := bind_eq_ok h
  cases h
  rw [load, hOutcomes]
  rfl

section

variable [Text.StandIns]

namespace Files

variable {files : Files} {settings : Settings} {path : String} {bytes : List Nat}

theorem fails_corpusAt (settings : Settings)
    (hFile : files.read? (.ofText path) = .ok (some bytes))
    (hNone : ∀ v, Json.read (textOfFile bytes) ≠ .ok v) :
    ∃ report, files.corpusAt settings path = .error report ∧ report.Fails 1 := by
  cases hCorpus : files.corpusAt settings path with
  | error report => exact ⟨report, rfl, fails_of_corpusAt hCorpus⟩
  | ok corpus =>
      obtain ⟨other, loaded, hOther, hLoad, -⟩ := corpusAt_eq_ok_iff.mp hCorpus
      obtain rfl := Option.some_inj.mp (Except.ok.inj (hFile.symm.trans hOther))
      obtain ⟨v, hRead, -⟩ := bind_eq_ok hLoad
      exact absurd (mapError_eq_ok hRead) (hNone v)

end Files

theorem read_unifyBreaks_of_readMarked {text : List Char} {v : Json}
    (hMark : text.head? ≠ some '\uFEFF') (h : Json.readMarked text = .ok v) :
    Json.read (Text.unifyBreaks text) = .ok v := by
  have hHead : (Text.unifyBreaks text).head? ≠ some '\uFEFF' := by
    rcases (Text.sameLine_unifyBreaks text).head?_eq_or with hSame | ⟨d, hHead, hBreak⟩
    · rwa [hSame]
    · rw [hHead]
      rintro ⟨⟩
      exact absurd hBreak (Json.IsShown.not_isBreak (by decide))
  rw [Json.read, if_neg hHead]
  exact Json.readMarked_unifyBreaks h

/-- A garbled text is no document. -/
theorem read_unifyBreaks_of_isGarbled {text : List Char} (h : Text.IsGarbled text) (v : Json) :
    Json.read (Text.unifyBreaks text) ≠ .ok v := by
  intro hRead
  unfold Json.read at hRead
  split at hRead
  · cases hRead
  · rcases h with hHead | hNull
    · obtain ⟨rest, rfl⟩ := List.head?_eq_some_iff.mp hHead
      rw [Text.unifyBreaks_cons_of_ne (by decide)] at hRead
      exact Json.readMarked_replacement_ne_ok _ v hRead
    · rcases Json.isSpace_or_isShown_of_readMarked hRead _
        (Text.mem_unifyBreaks hNull (by decide)) with hSpace | hShown
      · exact absurd hSpace (by decide)
      · exact absurd hShown (Nat.not_le.mpr (by decide))

/-- A command refuses a text that begins with a byte order mark. -/
theorem read_unifyBreaks_mark (text : List Char) (v : Json) :
    Json.read (Text.unifyBreaks ('\uFEFF' :: text)) ≠ .ok v := by
  rw [Text.unifyBreaks_cons_of_ne (by decide), Json.read, if_pos List.head?_cons]
  exact nofun

/-- In a file of bytes that are not told to be a text without a mark a command finds no document. -/
theorem read_textOfFile_ne_ok {bytes : List Nat}
    (h : Text.Encoding.detect bytes ≠ (.bytes, bytes)) (v : Json) :
    Json.read (textOfFile bytes) ≠ .ok v := by
  rcases Text.detect_cases h with hUnits | ⟨rest, rfl⟩
  · exact read_unifyBreaks_of_isGarbled (Text.isGarbled_decodeReplacing hUnits) v
  · rw [textOfFile, Text.decodeReplacing_cons]
    exact read_unifyBreaks_mark _ v

/-- In a file of the bytes of a text without a mark a command finds the records that the bytes are
loaded as. In a file of bytes that are told to be in larger units, or to have a mark in front, it
finds none, ends with code 1 and writes nothing. -/
theorem corpusAt_of_loadBytes {files : Files} {settings : Settings} {path sourceName : String}
    {bytes : List Nat} {loaded : Loaded} (hLoad : loadBytes settings bytes sourceName = .ok loaded)
    (hFile : files.read? (.ofText path) = .ok (some bytes)) :
    (∀ text, bytes = Text.encoded text → Text.Encoding.detect bytes = (.bytes, bytes) →
      ∃ corpus, files.corpusAt settings path = .ok corpus ∧
        corpus.records = loaded.corpus.records ∧ corpus.tally = loaded.corpus.tally) ∧
    (Text.Encoding.detect bytes ≠ (.bytes, bytes) →
      ∃ report, files.corpusAt settings path = .error report ∧ report.Fails 1) := by
  refine ⟨fun text hText hDetect => ?_, fun hTold => ?_⟩
  · obtain ⟨-, hBytes⟩ := loaded_of_written
      (P := fun loaded document => load settings document sourceName = .ok loaded) fun _ _ => id
    obtain ⟨read, v, hDecode, hRead, hLoad⟩ := hBytes bytes loaded hLoad
    obtain rfl : read = text := by
      rw [Text.decodeDocument?, hDetect] at hDecode
      rw [hText] at hDecode
      exact Option.some_inj.mp (hDecode.symm.trans (Text.decodeBytes?_encoded text))
    have hMark : read.head? ≠ some '\uFEFF' := Text.head?_ne_mark_of_detect (hText ▸ hDetect)
    have hFileText : textOfFile bytes = Text.unifyBreaks read := by
      rw [textOfFile, hText, Text.decodeReplacing_encoded]
    have hFileLoad : loadText settings (textOfFile bytes) (Path.ofText path).name = .ok
        { loaded with corpus := { loaded.corpus with sourceName := (Path.ofText path).name } } := by
      rw [loadText, hFileText, read_unifyBreaks_of_readMarked hMark hRead]
      exact load_otherName hLoad _
    exact ⟨_, Files.corpusAt_eq_ok_iff.mpr ⟨bytes, _, hFile, hFileLoad, rfl⟩, rfl, rfl⟩
  · exact Files.fails_corpusAt settings hFile (read_textOfFile_ne_ok hTold)

end

/-- A document of one dated object, in which a line ends and a letter takes two bytes. -/
private def datedText : List Char :=
  "[\r\n\x7b\"date\": \"1970-01-01\", \"m\": \"\u00e9\"\x7d]".toList

/-- The bytes of a text in units of two bytes, with the mark of these in front. -/
private def inPairs (text : List Char) : List Nat :=
  0xFF :: 0xFE :: text.flatMap fun c => [c.toNat % 256, c.toNat / 256]

private def fileOf (bytes : List Nat) : Files := .single (.ofText "a.json") bytes

private theorem read?_fileOf (bytes : List Nat) :
    (fileOf bytes).read? (.ofText "a.json") = .ok (some bytes) := by
  unfold fileOf
  cbv

/-- The bytes of a text, with a mark in front. -/
private def marked (text : List Char) : List Nat := Text.encoded ('\uFEFF' :: text)

private theorem exists_loadBytes_datedText :
    ∀ bytes ∈ [Text.encoded datedText, inPairs datedText, marked datedText],
      ∃ loaded, loadBytes {} bytes "" = .ok loaded ∧ loaded.corpus.records.length = 1 := by
  have hCounts : ∀ bytes ∈ [Text.encoded datedText, inPairs datedText, marked datedText],
      (loadBytes {} bytes "").toOption.map (fun loaded => loaded.corpus.records.length) =
        some 1 := by
    unfold marked inPairs datedText
    simp only [List.forall_mem_cons, List.not_mem_nil, false_implies, implies_true, and_true]
    exact ⟨by cbv, by cbv, by cbv⟩
  exact fun bytes hBytes => toOption_map_eq_some (hCounts bytes hBytes)

private theorem detect_inPairs :
    Text.Encoding.detect (inPairs datedText) ≠ (.bytes, inPairs datedText) := by
  unfold inPairs datedText
  decide

private theorem detect_marked :
    Text.Encoding.detect (marked datedText) ≠ (.bytes, marked datedText) := by
  unfold marked datedText
  decide

theorem corpusAt_of_loadBytes_datedText :
    (∃ loaded, loadBytes {} (Text.encoded datedText) "" = .ok loaded ∧
      loaded.corpus.records.length = 1 ∧
      (fileOf (Text.encoded datedText)).read? (.ofText "a.json") =
        .ok (some (Text.encoded datedText)) ∧
      Text.Encoding.detect (Text.encoded datedText) = (.bytes, Text.encoded datedText) ∧
      ∃ corpus, (fileOf (Text.encoded datedText)).corpusAt {} "a.json" = .ok corpus ∧
        corpus.records = loaded.corpus.records ∧ corpus.tally = loaded.corpus.tally) ∧
    (∃ loaded, loadBytes {} (inPairs datedText) "" = .ok loaded ∧
      (fileOf (inPairs datedText)).read? (.ofText "a.json") = .ok (some (inPairs datedText)) ∧
      Text.Encoding.detect (inPairs datedText) ≠ (.bytes, inPairs datedText) ∧
      ∃ report, (fileOf (inPairs datedText)).corpusAt {} "a.json" = .error report ∧
        report.Fails 1) ∧
    ∃ loaded, loadBytes {} (marked datedText) "" = .ok loaded ∧
      (fileOf (marked datedText)).read? (.ofText "a.json") = .ok (some (marked datedText)) ∧
      Text.Encoding.detect (marked datedText) ≠ (.bytes, marked datedText) ∧
      ∃ report, (fileOf (marked datedText)).corpusAt {} "a.json" = .error report ∧
        report.Fails 1 := by
  obtain ⟨loaded, hLoad, hCount⟩ := exists_loadBytes_datedText (Text.encoded datedText) (by simp)
  obtain ⟨loadedPairs, hPairs, -⟩ := exists_loadBytes_datedText (inPairs datedText) (by simp)
  obtain ⟨loadedMarked, hMarked, -⟩ := exists_loadBytes_datedText (marked datedText) (by simp)
  have hDetect : Text.Encoding.detect (Text.encoded datedText) =
      (.bytes, Text.encoded datedText) := by
    unfold datedText
    cbv
  exact ⟨⟨loaded, hLoad, hCount, read?_fileOf _, hDetect,
      (corpusAt_of_loadBytes hLoad (read?_fileOf _)).1 _ rfl hDetect⟩,
    ⟨loadedPairs, hPairs, read?_fileOf _, detect_inPairs,
      (corpusAt_of_loadBytes hPairs (read?_fileOf _)).2 detect_inPairs⟩,
    loadedMarked, hMarked, read?_fileOf _, detect_marked,
    (corpusAt_of_loadBytes hMarked (read?_fileOf _)).2 detect_marked⟩

/-- Bytes in larger units may be loaded as a record that is not found in a file of these bytes. -/
theorem corpusAt_misses_pairs :
    ∃ loaded, loadBytes {} (inPairs datedText) "" = .ok loaded ∧
      loaded.corpus.records.length = 1 ∧
      (fileOf (inPairs datedText)).read? (.ofText "a.json") = .ok (some (inPairs datedText)) ∧
      ∀ corpus, (fileOf (inPairs datedText)).corpusAt {} "a.json" ≠ .ok corpus := by
  obtain ⟨loaded, hLoad, hCount⟩ := exists_loadBytes_datedText (inPairs datedText) (by simp)
  obtain ⟨report, hReport, -⟩ := Files.fails_corpusAt {} (read?_fileOf _)
    (read_textOfFile_ne_ok detect_inPairs)
  refine ⟨loaded, hLoad, hCount, read?_fileOf _, fun corpus hCorpus => ?_⟩
  rw [hReport] at hCorpus
  cases hCorpus

end LogViewer
