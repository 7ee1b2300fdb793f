import Mathlib
import LogViewer.Command.Run
import LogViewer.Proofs.Command.Corpus
import LogViewer.Proofs.Corpus.Limits
import LogViewer.Proofs.Record.Entries

/-! The command that writes an export. Unless the text of the records that it was asked for has a
surrogate in it, the command either finishes, and has written these records, or it does not finish
and has written nothing. A text with a surrogate has no bytes, which is found out only when the file
has been made: the command fails and leaves the file empty. Two things are taken to succeed: a file
that is made takes a text that has bytes, and the line about it can be printed. -/
namespace LogViewer

namespace Command.Export

/-- Whether some records are those of a corpus that a request asks for: in their order, all that lie
in the range and, unless the query says nothing, satisfy it. Whether they do must be known of every
record in the range. -/
def Request.Selects (request : Request) (corpus : Corpus) (records : List Record) : Prop :=
  ∃ first last, IsLimit request.start first ∧ IsLimit request.finish last ∧
    (∀ r ∈ corpus.records, r.liesBetween first last = true →
      Query.isBlank request.query = false → ∃ b, r.satisfies request.query = .ok b) ∧
    records = corpus.records.filter fun r => r.liesBetween first last &&
      (Query.isBlank request.query || holdsUnder (·.satisfies request.query) r)

/-- The records on display after the filter are those that a request asks for. -/
theorem exists_applyFilter_iff {request : Request} {corpus : Corpus} {records : List Record} :
    (∃ s, (Viewer.load {} corpus).applyFilter (some request.start) (some request.finish)
      (some request.query) = .ok s ∧ s.shownRecords = records) ↔
      request.Selects corpus records := by
  constructor
  · rintro ⟨s, hFilter, rfl⟩
    obtain ⟨range, hRange, hFilter⟩ := bind_eq_ok hFilter
    obtain ⟨view, hView, hFilter⟩ := bind_eq_ok hFilter
    cases hFilter
    have hPlaces : placesOf corpus.records
      ({ range := some range, query := request.query } : Filter).passes = .ok view :=
        mapError_eq_ok hView
    obtain ⟨hFirst, hLast⟩ := exists_ofTexts?_iff.mp ⟨range, mapError_eq_ok hRange, rfl, rfl⟩
    refine ⟨_, _, hFirst, hLast, ?_, ?_⟩
    · intro r hr
      rw [← TimeRange.contains_eq]
      exact Filter.exists_passes_iff.mp (exists_placesOf_eq_ok_iff.mp ⟨view, hPlaces⟩ r hr)
    · simp only [← TimeRange.contains_eq, ← Filter.holdsUnder_passes]
      exact filterMap_placesOf hPlaces
  · rintro ⟨first, last, hFirst, hLast, hKnown, rfl⟩
    obtain ⟨range, hRange, rfl, rfl⟩ := exists_ofTexts?_iff.mpr ⟨hFirst, hLast⟩
    simp only [← TimeRange.contains_eq] at hKnown ⊢
    obtain ⟨view, hPlaces⟩ := exists_placesOf_eq_ok_iff.mpr fun r hr =>
      Filter.exists_passes_iff.mpr (hKnown r hr)
    let filter : Filter := { range := some range, query := request.query }
    have hView : (Viewer.load {} corpus).corpus.filter filter = .ok view := hPlaces
    refine ⟨({ Viewer.load {} corpus with filter, view } : Viewer).advance, ?_, ?_⟩
    · unfold Viewer.applyFilter
      rw [hRange]
      simp only [Except.mapError, bind, Except.bind, Option.getD_some]
      rw [hView]
      rfl
    · simp only [← Filter.holdsUnder_passes]
      exact filterMap_placesOf hPlaces

/-- Whether a file holds some records and has its place in the directory that a request names, which
is made if it is not there. -/
def Request.Places (request : Request) (s : Surroundings) (records : List Record) (w : Written) :
    Prop :=
  LogViewer.Export.text? records = some w.text ∧
    ∃ files, s.files.makeDirectory (.ofText request.directory) = .ok files ∧
      files.placeOf (.ofText request.directory) (LogViewer.Export.fileName s.clock) = .ok w.place

theorem file_eq_ok_iff {s : Surroundings} {v : Viewer} {request : Request} {w : Written} :
    file s v (.ofText request.directory) (LogViewer.Export.fileName s.clock) = .ok w ↔
      request.Places s v.shownRecords w := by
  constructor
  · intro h
    obtain ⟨files, hFiles, h⟩ := bind_eq_ok h
    cases hText : LogViewer.Export.text? v.shownRecords with
    | none =>
        rw [hText] at h
        cases h
    | some text =>
        rw [hText] at h
        obtain ⟨place, hPlace, h⟩ := bind_eq_ok h
        cases h
        exact ⟨hText, files, mapError_eq_ok hFiles, mapError_eq_ok hPlace⟩
  · rintro ⟨hText, files, hFiles, hPlace⟩
    unfold file
    rw [hFiles, hText]
    simp only [Except.mapError, bind, Except.bind, hPlace]
    rfl

section

variable [Text.StandIns]

/-- Whether a file is the export that a request asks for of the document at a path. -/
def Exports (s : Surroundings) (path : String) (request : Request) (w : Written) : Prop :=
  ∃ settings corpus records, s.Finds path settings corpus ∧ request.Selects corpus records ∧
    request.Places s records w

/-- Whether a command has finished and has written one file that is asked for, or has failed and has
written nothing for want of such a file. -/
def IsAllOrNothing (report : Report) (asked : Written → Prop) : Prop :=
  (report.ending.exitCode = 0 ∧ ∃ w, report.written = some w ∧ asked w) ∨
    ((report.Fails 1 ∨ report.Fails 2) ∧ ∀ w, ¬asked w)

/-- What a command leaves behind according to the file that is asked for, if one is: this file if its
text has bytes, else an empty one in its place. -/
structure Settles (report : Report) (asked : Written → Prop) : Prop where
  written : ∀ w, asked w → Text.encodingFault? w.text.toList = none →
    report.ending = .finished ∧ report.written = some w
  brokenOff : ∀ w fault, asked w → Text.encodingFault? w.text.toList = some fault →
    report = { written := some { w with text := "" }, ending := .brokenOff fault }
  fails : (∀ w, ¬asked w) → report.Fails 1 ∨ report.Fails 2

namespace Settles

variable {report : Report} {asked asked' : Written → Prop}

theorem of_fails {code : Nat} (hFails : report.Fails code) (hCode : code = 1 ∨ code = 2)
    (hNone : ∀ w, ¬asked w) : Settles report asked := by
  refine ⟨fun w hw => absurd hw (hNone w), fun w _ hw => absurd hw (hNone w), fun _ => ?_⟩
  rcases hCode with rfl | rfl
  · exact Or.inl hFails
  · exact Or.inr hFails

theorem congr (h : Settles report asked) (hSame : ∀ w, asked' w ↔ asked w) :
    Settles report asked' := by
  obtain rfl : asked' = asked := funext fun w => propext (hSame w)
  exact h

/-- A command is all or nothing exactly if no surrogate is in its way. -/
theorem isAllOrNothing_iff (h : Settles report asked) :
    IsAllOrNothing report asked ↔ ∀ w, asked w → Text.encodingFault? w.text.toList = none := by
  constructor
  · rintro (⟨hFinished, -⟩ | ⟨-, hNone⟩) w hw
    · cases hFault : Text.encodingFault? w.text.toList with
      | none => rfl
      | some fault =>
          rw [h.brokenOff w fault hw hFault] at hFinished
          cases hFinished
    · exact absurd hw (hNone w)
  · intro hBytes
    by_cases hAsked : ∃ w, asked w
    · obtain ⟨w, hw⟩ := hAsked
      obtain ⟨hFinished, hWritten⟩ := h.written w hw (hBytes w hw)
      exact Or.inl ⟨congrArg Ending.exitCode hFinished, w, hWritten, hw⟩
    · rw [not_exists] at hAsked
      exact Or.inr ⟨h.fails hAsked, hAsked⟩

/-- If one file that is asked for has bytes, all of them have. -/
theorem encodingFault?_eq_none (h : Settles report asked) {w : Written} (hw : asked w)
    (hBytes : Text.encodingFault? w.text.toList = none) {other : Written} (hOther : asked other) :
    Text.encodingFault? other.text.toList = none := by
  cases hFault : Text.encodingFault? other.text.toList with
  | none => rfl
  | some fault =>
      have hFinished := (h.written w hw hBytes).1
      rw [h.brokenOff other fault hOther hFault] at hFinished
      cases hFinished

end Settles

theorem settles_write (s : Surroundings) (v : Viewer) (request : Request) :
    Settles (write s v (.ofText request.directory)) (request.Places s v.shownRecords) := by
  refine Settles.congr ?_ fun w => file_eq_ok_iff.symm
  dsimp only [write]
  cases hFile : file s v (.ofText request.directory) (LogViewer.Export.fileName s.clock) with
  | error fault => exact .of_fails (Report.fails_fail _ _) (Or.inl rfl) nofun
  | ok made =>
      refine ⟨?_, ?_, fun hNone => absurd rfl (hNone made)⟩
      · rintro w ⟨⟩ hBytes
        simp only [hBytes, and_self]
      · rintro w fault ⟨⟩ hFault
        simp only [hFault]

theorem settles_report (s : Surroundings) (corpus : Corpus) (request : Request) :
    Settles (report s corpus request)
      fun w => ∃ records, request.Selects corpus records ∧ request.Places s records w := by
  have hNone (error : FilterError)
      (hError : (Viewer.load {} corpus).applyFilter (some request.start) (some request.finish)
        (some request.query) = .error error) (w : Written) :
      ¬∃ records, request.Selects corpus records ∧ request.Places s records w := by
    rintro ⟨records, hSelects, -⟩
    obtain ⟨v, hFilter, -⟩ := exists_applyFilter_iff.mpr hSelects
    rw [hError] at hFilter
    cases hFilter
  unfold report
  dsimp only
  split
  · rename_i error hError
    exact .of_fails (Report.fails_fail _ _) (Or.inl rfl) (hNone _ hError)
  · rename_i error _ hError
    exact .of_fails (Report.fails_refuse _) (Or.inl rfl) (hNone _ hError)
  · rename_i v hFilter
    refine (settles_write s v request).congr fun w => ⟨?_, fun hPlaces => ?_⟩
    · rintro ⟨records, hSelects, hPlaces⟩
      obtain ⟨u, hSame, rfl⟩ := exists_applyFilter_iff.mpr hSelects
      obtain rfl := Except.ok.inj (hFilter.symm.trans hSame)
      exact hPlaces
    · exact ⟨v.shownRecords, exists_applyFilter_iff.mp ⟨v, hFilter, rfl⟩, hPlaces⟩

theorem settles_withCorpus (s : Surroundings) (path : String) (request : Request) :
    Settles (s.withCorpus path fun _ corpus => report s corpus request)
      (Exports s path request) := by
  rcases s.withCorpus_cases path with ⟨settings, corpus, hFinds⟩ | ⟨hNone, hFails⟩
  · rw [hFinds.withCorpus_eq]
    refine (settles_report s corpus request).congr fun w => ⟨?_, ?_⟩
    · rintro ⟨settings', corpus', records, hFinds', hAsked⟩
      obtain ⟨-, rfl⟩ := hFinds.unique hFinds'
      exact ⟨records, hAsked⟩
    · rintro ⟨records, hAsked⟩
      exact ⟨settings, corpus, records, hFinds, hAsked⟩
  · refine .of_fails (hFails _) (Or.inl rfl) ?_
    rintro w ⟨settings, corpus, records, hFinds, -⟩
    exact hNone settings corpus hFinds

theorem settles_call (s : Surroundings) (call : Call) :
    Settles (run s call) fun w =>
      ∃ path request, request? call = some (path, request) ∧ Exports s path request w := by
  unfold run
  cases hRequest : request? call with
  | none => exact .of_fails Report.fails_misused (Or.inr rfl) (by simp)
  | some asked =>
      obtain ⟨path, request⟩ := asked
      exact (settles_withCorpus s path request).congr fun w => by simp

/-- Whether the arguments of an export ask for a file. If messages of every level are wanted, the
level that is set does not matter. -/
def AskedFor (s : Surroundings) (verbose : Bool) (arguments : List String) (w : Written) : Prop :=
  (verbose = true ∨ unknownLevel? s.environment = none) ∧
    ∃ call path request, signature.call? arguments = some call ∧
      request? call = some (path, request) ∧ Exports s path request w

theorem settles_run (s : Surroundings) {arguments rest : List String} {verbose : Bool}
    (hNamed : leading? {} arguments = some (⟨verbose, false⟩, "export" :: rest))
    (hHelp : ∀ call, signature.call? rest = some call → call.isOn Signature.helpName = false) :
    Settles (Command.run s arguments) (AskedFor s verbose rest) := by
  have hCommand : all.lookup "export" = some (signature, run) := by rfl
  unfold Command.run
  simp only [hNamed, hCommand]
  split
  · rename_i level hLevel
    refine .of_fails (Report.fails_fail _ _) (Or.inl rfl) ?_
    rintro w ⟨hVerbose | hKnown, -⟩
    · rw [hVerbose, if_pos rfl] at hLevel
      cases hLevel
    · rw [hKnown, ite_self] at hLevel
      cases hLevel
  · rename_i hLevel
    have hKnown : verbose = true ∨ unknownLevel? s.environment = none := by
      cases verbose with
      | true => exact Or.inl rfl
      | false => exact Or.inr hLevel
    cases hCall : signature.call? rest with
    | none =>
        refine .of_fails Report.fails_misused (Or.inr rfl) ?_
        rintro w ⟨-, call, path, request, hOther, -⟩
        rw [hCall] at hOther
        cases hOther
    | some call =>
        dsimp only
        rw [hHelp call hCall, if_neg Bool.false_ne_true]
        refine (settles_call s call).congr fun w => ⟨?_, ?_⟩
        · rintro ⟨-, other, path, request, hOther, hAsked⟩
          obtain rfl := Option.some_inj.mp (hCall.symm.trans hOther)
          exact ⟨path, request, hAsked⟩
        · rintro ⟨path, request, hAsked⟩
          exact ⟨hKnown, call, path, request, hCall, hAsked⟩

/-- An export is all or nothing exactly if there is no file with a surrogate in its text that it is
asked for. Then it has either finished and has written one file, which holds the records of the
loaded file that lie in the range and satisfy the query, as an array of documents; or it has not,
nothing is written, and there is no file that it could have written. If it is asked for a file with a
surrogate in its text, it fails and leaves an empty file. -/
theorem isAllOrNothing_run_iff (s : Surroundings) {arguments rest : List String} {verbose : Bool}
    (hNamed : leading? {} arguments = some (⟨verbose, false⟩, "export" :: rest))
    (hHelp : ∀ call, signature.call? rest = some call → call.isOn Signature.helpName = false) :
    (IsAllOrNothing (Command.run s arguments) (AskedFor s verbose rest) ↔
      ∀ w, AskedFor s verbose rest w → ∀ c ∈ w.text.toList, Text.StandIns.surrogate? c = none) ∧
    ∀ w fault, AskedFor s verbose rest w → Text.encodingFault? w.text.toList = some fault →
      Command.run s arguments =
        { written := some { w with text := "" }, ending := .brokenOff fault } := by
  have hSettles := settles_run s hNamed hHelp
  refine ⟨?_, hSettles.brokenOff⟩
  simp only [hSettles.isAllOrNothing_iff, Text.encodingFault?_eq_none_iff]

end

/-- A file of some bytes, and nothing else. -/
private def holding (bytes : List Nat) : Surroundings where
  files := .single (.ofText "a.json") bytes
  environment := []
  clock := Surroundings.sampleSecond

/-- The name of an export that is written now. -/
private def exportName : String := "logs-export-2025-10-15T07-33-22.json"

private theorem holds_holding (bytes : List Nat) :
    (holding bytes).files.holds ⟨false, [exportName]⟩ = false := by
  have hSame : (holding bytes).files.holds ⟨false, [exportName]⟩ =
      (holding []).files.holds ⟨false, [exportName]⟩ := by
    simp only [Files.holds, Files.content?, holding, Files.single, List.lookup]
    cases (⟨false, [exportName]⟩ == (Path.ofText "a.json").target : Bool) <;> rfl
  rw [hSame]
  decide +kernel

private theorem placeOf_holding (bytes : List Nat) :
    (holding bytes).files.placeOf (.ofText ".") exportName = .ok ⟨false, [exportName]⟩ := by
  have hPath : Path.ofText "." = ⟨0, []⟩ := by cbv
  have hFollow : Place.follow ⟨false, []⟩ exportName = ⟨false, [exportName]⟩ := by decide +kernel
  have hHere : (holding bytes).files.find ⟨0, []⟩ = .ok ⟨false, []⟩ := by
    unfold holding
    cbv
  have hNew : (holding bytes).files.find ⟨0, [exportName]⟩ = .error .missing := by
    have hText : Path.text ⟨0, [exportName]⟩ = exportName := by
      unfold exportName
      cbv
    have hPlain : exportName.contains '\x00' = false := by
      unfold exportName
      cbv
    have hSize : exportName.utf8ByteSize = 36 := by
      unfold exportName
      cbv
    have hInside : (holding bytes).files.isDirectory ⟨false, []⟩ = true := by
      unfold holding
      cbv
    have hFree : (holding bytes).files.holds (Place.follow ⟨false, []⟩ exportName) = false :=
      hFollow ▸ holds_holding bytes
    unfold Files.find
    rw [hText, hPlain, hSize]
    simp [Files.pathLimit, Files.enter, Files.stepLimit, Path.start, hInside, hSize, hFree]
  have hFile : Path.file ⟨0, []⟩ exportName = ⟨0, [exportName]⟩ := rfl
  unfold Files.placeOf
  rw [hPath, hFile, hNew, hHere]
  exact congrArg Except.ok hFollow

/-- The records of a file from a limit on, as they are exported. -/
private def selected (first : Option Int) (bytes : List Nat) : Option (List Json) := do
  let loaded ← (loadText {} (textOfFile bytes) (Path.ofText "a.json").name).toOption
  return (loaded.corpus.records.filter fun r =>
    r.liesBetween first none && (Query.isBlank "" || holdsUnder (·.satisfies "") r)).map Record.toJson

private theorem exists_exports_holding {bytes : List Nat} {start : String} {first : Option Int}
    {values : List Json} (hStart : IsLimit start first)
    (hSelected : selected first bytes = some values)
    (hLoop : (Json.array values).hasLoop = false) :
    ∃ w, Exports (holding bytes) "a.json" ⟨start, "", "", "."⟩ w ∧
      w.text = String.ofList ((Json.array values).indented 0) := by
  have hRead : (holding bytes).files.read? (.ofText "a.json") = .ok (some bytes) := by
    unfold holding
    cbv
  have hName : LogViewer.Export.fileName (holding bytes).clock = exportName := by
    unfold holding exportName
    cbv
  have hDirectory :
      (holding bytes).files.makeDirectory (.ofText ".") = .ok (holding bytes).files := by
    have hPath : Path.ofText "." = ⟨0, []⟩ := by cbv
    rw [hPath, Files.makeDirectory.eq_def, if_pos rfl]
  obtain ⟨loaded, hLoad, hSelected⟩ := Option.bind_eq_some_iff.mp hSelected
  obtain rfl := Option.some_inj.mp hSelected
  have hFinds : (holding bytes).Finds "a.json" {} loaded.corpus :=
    ⟨rfl, by decide, _, loaded, hRead, toOption_eq_some.mp hLoad, rfl⟩
  have hPlace := placeOf_holding bytes
  rw [← hName] at hPlace
  refine ⟨⟨⟨false, [_]⟩, _⟩, ⟨{}, loaded.corpus, _, hFinds,
    ⟨first, none, hStart, rfl, fun _ _ _ hSays => ?_, rfl⟩, ?_, _, hDirectory, hPlace⟩, rfl⟩
  · have hBlank : Query.isBlank "" = true := by decide
    cases hBlank.symm.trans hSays
  · rw [LogViewer.Export.text?, Json.indented?, if_neg (Bool.eq_false_iff.mp hLoop)]
    rfl

/-- The bytes of two objects with a date. -/
private def twoDated : List Nat :=
  "[\x7b\"date\": \"1970-01-01\"\x7d, \x7b\"date\": \"1970-01-02\"\x7d]".toList.map Char.toNat

/-- The bytes of an object with a surrogate in it. -/
private def withSurrogate : List Nat :=
  "[\x7b\"date\":\"1970-01-01\",\"m\":\"\\ud800\"\x7d]".toList.map Char.toNat

private theorem call?_twoDated : signature.call? ["a.json", "--start", "1970-01-02"] =
    some { positional := ["a.json"], values := [("--start", "1970-01-02")] } := by decide

private theorem call?_withSurrogate :
    signature.call? ["a.json"] = some { positional := ["a.json"], values := [] } := by decide

/-- An export of the later one of the two objects is asked for, and its text has bytes. -/
private theorem exists_askedFor_twoDated :
    ∃ w, AskedFor (holding twoDated) true ["a.json", "--start", "1970-01-02"] w ∧
      Text.encodingFault? w.text.toList = none := by
  have hStart : IsLimit "1970-01-02" (some 86400000) := by
    rw [IsLimit, if_neg (by decide)]
    exact ⟨86400000, by cbv, rfl⟩
  have hSelected : selected (some 86400000) twoDated = some [.object [
      ("timestamp", .string "1970-01-02"), ("format", .string "UNSTRUCTURED"),
      ("path", .string "1"), ("date", .string "1970-01-02")]] := by
    unfold twoDated selected
    cbv
  obtain ⟨w, hw, hText⟩ := exists_exports_holding hStart hSelected (by decide)
  refine ⟨w, ⟨Or.inl rfl, _, _, _, call?_twoDated, by decide, hw⟩, ?_⟩
  rw [hText, String.toList_ofList]
  cbv

set_option maxRecDepth 2000 in
/-- An export of the object with the surrogate is asked for, and its text has no bytes. -/
private theorem exists_askedFor_withSurrogate :
    ∃ w, AskedFor (holding withSurrogate) false ["a.json"] w ∧
      Text.encodingFault? w.text.toList = some ⟨0xD800, 120, 1⟩ := by
  have hLevel : unknownLevel? (holding withSurrogate).environment = none := by
    unfold holding
    cbv
  have hSelected : selected none withSurrogate = some [.object [
      ("timestamp", .string "1970-01-01"), ("format", .string "UNSTRUCTURED"),
      ("path", .string "0"), ("date", .string "1970-01-01"),
      ("m", .string (String.ofList [Text.StandIns.char 0xD800]))]] := by
    unfold withSurrogate selected
    cbv
  have hStart : IsLimit "" none := rfl
  obtain ⟨w, hw, hText⟩ := exists_exports_holding hStart hSelected (by decide)
  refine ⟨w, ⟨Or.inr hLevel, _, _, _, call?_withSurrogate, by decide, hw⟩, ?_⟩
  rw [hText, String.toList_ofList]
  cbv

private theorem named_twoDated :
    leading? {} ["-v", "export", "a.json", "--start", "1970-01-02"] =
      some (⟨true, false⟩, ["export", "a.json", "--start", "1970-01-02"]) := by decide

private theorem named_withSurrogate :
    leading? {} ["export", "a.json"] = some (⟨false, false⟩, ["export", "a.json"]) := by decide

private theorem isOn_of_call? {arguments : List String} {call : Call}
    (hCall : signature.call? arguments = some call) (hHelp : call.isOn Signature.helpName = false) :
    ∀ other, signature.call? arguments = some other → other.isOn Signature.helpName = false := by
  intro other hOther
  obtain rfl := Option.some_inj.mp (hCall.symm.trans hOther)
  exact hHelp

private theorem helpless_twoDated :
    ∀ call, signature.call? ["a.json", "--start", "1970-01-02"] = some call →
      call.isOn Signature.helpName = false :=
  isOn_of_call? call?_twoDated (by decide)

private theorem helpless_withSurrogate :
    ∀ call, signature.call? ["a.json"] = some call → call.isOn Signature.helpName = false :=
  isOn_of_call? call?_withSurrogate (by decide)

theorem isAllOrNothing_run_iff_later :
    (leading? {} ["-v", "export", "a.json", "--start", "1970-01-02"] =
        some (⟨true, false⟩, ["export", "a.json", "--start", "1970-01-02"]) ∧
      (∀ call, signature.call? ["a.json", "--start", "1970-01-02"] = some call →
        call.isOn Signature.helpName = false) ∧
      IsAllOrNothing
        (Command.run (holding twoDated) ["-v", "export", "a.json", "--start", "1970-01-02"])
        (AskedFor (holding twoDated) true ["a.json", "--start", "1970-01-02"]) ∧
      ∃ w, AskedFor (holding twoDated) true ["a.json", "--start", "1970-01-02"] w) ∧
    leading? {} ["export", "a.json"] = some (⟨false, false⟩, ["export", "a.json"]) ∧
      (∀ call, signature.call? ["a.json"] = some call → call.isOn Signature.helpName = false) ∧
      ∃ w, AskedFor (holding withSurrogate) false ["a.json"] w ∧
        Text.encodingFault? w.text.toList = some ⟨0xD800, 120, 1⟩ ∧
        Command.run (holding withSurrogate) ["export", "a.json"] =
          { written := some { w with text := "" }, ending := .brokenOff ⟨0xD800, 120, 1⟩ } := by
  obtain ⟨w, hw, hBytes⟩ := exists_askedFor_twoDated
  obtain ⟨broken, hBroken, hFault⟩ := exists_askedFor_withSurrogate
  have hSettles := settles_run (holding twoDated) named_twoDated helpless_twoDated
  refine ⟨⟨named_twoDated, helpless_twoDated, ?_, w, hw⟩, named_withSurrogate,
    helpless_withSurrogate, broken, hBroken, hFault, ?_⟩
  · rw [(isAllOrNothing_run_iff (holding twoDated) named_twoDated helpless_twoDated).1]
    exact fun other hOther =>
      Text.encodingFault?_eq_none_iff.mp (hSettles.encodingFault?_eq_none hw hBytes hOther)
  · exact (isAllOrNothing_run_iff (holding withSurrogate) named_withSurrogate
      helpless_withSurrogate).2 broken _ hBroken hFault

/-- The export of an object with a surrogate in it fails, and yet it leaves a file. -/
theorem leaves_empty_file :
    (Command.run (holding withSurrogate) ["export", "a.json"]).ending.exitCode = 1 ∧
      (∃ place, (Command.run (holding withSurrogate) ["export", "a.json"]).written =
        some ⟨place, ""⟩) ∧
      ¬IsAllOrNothing (Command.run (holding withSurrogate) ["export", "a.json"])
        (AskedFor (holding withSurrogate) false ["a.json"]) := by
  obtain ⟨w, hw, hFault⟩ := exists_askedFor_withSurrogate
  have hSettles := settles_run (holding withSurrogate) named_withSurrogate helpless_withSurrogate
  rw [hSettles.isAllOrNothing_iff, hSettles.brokenOff w _ hw hFault]
  refine ⟨rfl, ⟨w.place, rfl⟩, fun hBytes => ?_⟩
  rw [hBytes w hw] at hFault
  cases hFault

end Command.Export

end LogViewer
