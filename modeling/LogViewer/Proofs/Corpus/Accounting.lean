import Mathlib
import LogViewer.Proofs.Corpus.Production

/-! The tally of a corpus accounts for every entry of its document: an entry is a record of the
corpus, or it was skipped for one reason. -/
namespace LogViewer

variable {ν : Type} [Payload ν]

/-- What a hit with a number becomes once it is read. -/
inductive HitBecomes (hit : ν) (index : Nat) : Outcome → Prop where
  | noSource (hLine : lineOf? hit = none) : HitBecomes hit index .noSource
  | noTimestamp {dating : Option String} (hDating : datingOfHit? hit = some dating)
      (hUndated : isDated dating = false) : HitBecomes hit index .noTimestamp
  | record {dating : Option String} {r : Record} (hDating : datingOfHit? hit = some dating)
      (hDated : isDated dating = true) (hIndex : r.hitIndex = some (index : Int)) :
      HitBecomes hit index (.record r)

theorem isNone_lineOf? (hit : ν) : (lineOf? hit).isNone = (datingOfHit? hit).isNone := by
  rw [datingOfHit?, Option.isNone_map]

theorem hitBecomes_of_outcomeOfHit {hit : ν} {index : Nat} {outcome : Outcome}
    (h : outcomeOfHit hit index = .ok outcome) : HitBecomes hit index outcome := by
  have hBecomes := becomes_outcomeOfHit hit index
  rw [h, Except.map] at hBecomes
  cases hLine : lineOf? hit with
  | none =>
      rw [outcomeOfHit, hLine] at h
      cases h
      exact HitBecomes.noSource hLine
  | some sourceAndLine =>
      cases hDating : datingOfHit? hit with
      | none => simp [datingOfHit?, hLine] at hDating
      | some dating =>
          rw [hDating] at hBecomes
          cases hBecomes with
          | missing => exact HitBecomes.noTimestamp hDating rfl
          | unusable hInstant =>
              exact HitBecomes.noTimestamp hDating (by simp [isDated, hInstant])
          | record hInstant =>
              exact HitBecomes.record hDating (by simp [isDated, hInstant])
                (hitIndex_of_outcomeOfHit h)

/-- Whether a container that the walk has entered is an object with a timestamp. -/
def isEntry (c : Containers ν) (p : Pending) : Bool :=
  (c.nodes[p.node]?.bind (·.fields)).any fun fields =>
    timestampNames.any fun name => (fields.lookup name).any (Payload.shape · |>.holds)

theorem isSome_timestampOf? (fields : List (String × ν)) :
    (timestampOf? fields).isSome =
      timestampNames.any fun name => (fields.lookup name).any (Payload.shape · |>.holds) := by
  rw [timestampOf?, List.isSome_findSome?]
  simp only [Option.isSome_filter]

/-- An object is an entry exactly if it has a timestamp, and an entry of this kind never lacks a
source. -/
theorem outcomeOfObject?_entry {path : String} {fields : List (String × ν)}
    {result : Option Outcome} (h : outcomeOfObject? path fields = .ok result) :
    result.isSome = (timestampOf? fields).isSome ∧ result.any Outcome.isNoSource = false := by
  unfold outcomeOfObject? at h
  split at h
  · rename_i value hValue
    rw [hValue]
    split at h
    · obtain ⟨instant?, -, h⟩ := bind_eq_ok h
      cases instant? with
      | none =>
          cases h
          exact ⟨rfl, rfl⟩
      | some instant =>
          cases h
          exact ⟨rfl, rfl⟩
    · cases h
      exact ⟨rfl, rfl⟩
  · rename_i hNone
    cases h
    cases hValue : timestampOf? fields with
    | none => exact ⟨rfl, rfl⟩
    | some value => exact absurd hValue (hNone value)

theorem outcomeOfVisit?_entry {c : Containers ν} {p : Pending} {result : Option Outcome}
    (h : outcomeOfVisit? c p = .ok result) :
    result.isSome = isEntry c p ∧ result.any Outcome.isNoSource = false := by
  unfold outcomeOfVisit? at h
  unfold isEntry
  cases hFields : c.nodes[p.node]?.bind (·.fields) with
  | none =>
      rw [hFields] at h
      cases h
      exact ⟨rfl, rfl⟩
  | some fields =>
      rw [hFields] at h
      rw [Option.any_some, ← isSome_timestampOf?]
      exact outcomeOfObject?_entry h

/-- Every outcome is of one kind. -/
theorem length_eq_tally (outcomes : List Outcome) :
    outcomes.length = (outcomes.filterMap Outcome.record?).length +
      outcomes.countP Outcome.isNoSource + outcomes.countP Outcome.isNoTimestamp := by
  induction outcomes with
  | nil => rfl
  | cons outcome outcomes ih =>
      rw [List.length_cons, filterMap_cons_toList, List.length_append, List.countP_cons,
        List.countP_cons, ih]
      cases outcome with
      | record =>
          simp [Outcome.record?, Outcome.isNoSource, Outcome.isNoTimestamp]
          omega
      | noSource =>
          simp [Outcome.record?, Outcome.isNoSource, Outcome.isNoTimestamp]
          omega
      | noTimestamp =>
          simp [Outcome.record?, Outcome.isNoSource, Outcome.isNoTimestamp]
          omega

/-- Among numbered members at most one has a number. -/
theorem countP_zipIdx {α : Type} (q : α → Bool) (l : List α) (base i : Nat) :
    (l.zipIdx base).countP (fun p => p.2 == base + i && q p.1) = ((l[i]?).any q).toNat := by
  induction l generalizing base i with
  | nil => rfl
  | cons a l ih =>
      rw [List.zipIdx_cons, List.countP_cons]
      cases i with
      | zero =>
          have hTail : (l.zipIdx (base + 1)).countP (fun p => p.2 == base + 0 && q p.1) = 0 := by
            rw [List.countP_eq_zero]
            intro p hp
            have hBase := List.le_snd_of_mem_zipIdx hp
            have hOther : p.2 ≠ base := by omega
            simp [hOther]
          rw [hTail]
          cases hHolds : q a with
          | true => simp [hHolds]
          | false => simp [hHolds]
      | succ i =>
          have hNext : base + 1 + i = base + (i + 1) := by omega
          rw [← hNext, ih, hNext]
          simp

/-- Whether a hit has a line, but no timestamp that names an instant. -/
def isUndatedHit (hit : ν) : Bool := (datingOfHit? hit).any (!isDated ·)

/-- Whether a corpus accounts for the hits of a search export. Each hit is the one that a single
record came from, or one of those that were skipped for a single reason. -/
structure Corpus.AccountsForHits (corpus : Corpus) (hits : List ν) : Prop where
  total : corpus.tally.totalHits = hits.length
  noSource : corpus.tally.skippedNoSource = hits.countP fun hit => (lineOf? hit).isNone
  noTimestamp : corpus.tally.skippedNoTimestamp = hits.countP isUndatedHit
  numbered : ∀ r ∈ corpus.records, ∃ i < hits.length, r.hitIndex = some (i : Int)
  once : ∀ (i : Nat) (hit : ν), hits[i]? = some hit →
    corpus.records.countP (·.hitIndex == some (i : Int)) + (lineOf? hit).isNone.toNat +
      (isUndatedHit hit).toNat = 1

/-- Whether a corpus accounts for the objects that a walk has entered. -/
structure Corpus.AccountsForVisits (corpus : Corpus) (c : Containers ν) (visits : List Pending) :
    Prop where
  total : corpus.tally.totalHits = visits.countP (isEntry c)
  noSource : corpus.tally.skippedNoSource = 0

/-- Whether a corpus accounts for every entry of a document. -/
structure Corpus.Accounts (corpus : Corpus) (settings : Settings) (document : Document ν) : Prop
    where
  total : corpus.tally.totalHits =
    corpus.tally.parsed + corpus.tally.skippedNoSource + corpus.tally.skippedNoTimestamp
  parsed : corpus.tally.parsed = corpus.size
  hits : ∀ hits, envelopeHits? document.value = some hits → corpus.AccountsForHits hits
  visits : envelopeHits? document.value = none → corpus.AccountsForVisits document.containers
    (document.containers.walk settings.maxWalkDepth.toNat).visits

section

variable {hits : List ν} {outcomes : List Outcome}

theorem countP_outcomesOfHits (hMap : hits.zipIdx.map (fun p => outcomeOfHit p.1 p.2) =
      outcomes.map .ok) {p : Outcome → Bool} {q : ν → Bool}
    (hEach : ∀ hit index outcome, HitBecomes hit index outcome → p outcome = q hit) :
    outcomes.countP p = hits.countP q := by
  rw [countP_of_map_eq (q := fun a => q a.1) hMap fun a _ outcome hOutcome =>
    hEach a.1 a.2 outcome (hitBecomes_of_outcomeOfHit hOutcome)]
  conv_rhs => rw [← List.zipIdx_map_fst 0 hits, List.countP_map]
  rfl

/-- A record came from a hit exactly if that hit is dated, and then no other one did. -/
theorem countP_hitIndex (hMap : hits.zipIdx.map (fun p => outcomeOfHit p.1 p.2) =
      outcomes.map .ok) (i : Nat) :
    (outcomes.filterMap Outcome.record?).countP (·.hitIndex == some (i : Int)) =
      ((hits[i]?).any fun hit => (datingOfHit? hit).any isDated).toNat := by
  rw [← countP_zipIdx _ hits 0 i, List.countP_filterMap]
  apply countP_of_map_eq hMap
  rintro ⟨hit, index⟩ - outcome hOutcome
  cases hitBecomes_of_outcomeOfHit hOutcome with
  | noSource hLine =>
      simp [Outcome.record?, datingOfHit?, hLine]
  | noTimestamp hDating hUndated =>
      simp [Outcome.record?, hDating, hUndated]
  | record hDating hDated hIndex =>
      simp [Outcome.record?, hDating, hDated, hIndex]

theorem hitIndex_of_mem (hMap : hits.zipIdx.map (fun p => outcomeOfHit p.1 p.2) =
      outcomes.map .ok) {r : Record} (hr : r ∈ outcomes.filterMap Outcome.record?) :
    ∃ i < hits.length, r.hitIndex = some (i : Int) := by
  obtain ⟨outcome, hOutcome, hRecord⟩ := List.mem_filterMap.mp hr
  cases outcome with
  | noSource => cases hRecord
  | noTimestamp => cases hRecord
  | record s =>
      cases hRecord
      have hMem := List.mem_map_of_mem (f := Except.ok (ε := CalendarError)) hOutcome
      rw [← hMap] at hMem
      obtain ⟨⟨hit, i⟩, hHit, hOk⟩ := List.mem_map.mp hMem
      have hLt := List.snd_lt_of_mem_zipIdx hHit
      exact ⟨i, by simpa using hLt, hitIndex_of_outcomeOfHit hOk⟩

end

theorem accountsForHits {settings : Settings} (hSize : 1 ≤ settings.chunkSize) {hits : List ν}
    {outcomes : List Outcome} (h : outcomesOfHits hits settings.chunkSize = .ok outcomes)
    {corpus : Corpus} (hPerm : corpus.records.Perm (outcomes.filterMap Outcome.record?))
    (hTally : corpus.tally =
      { Tally.ofOutcomes outcomes with totalHits := hits.length, envelope := true }) :
    corpus.AccountsForHits hits ∧ corpus.tally.totalHits = outcomes.length := by
  have hMap := map_hitsRead h
  rw [hitsRead_of_pos hits (by omega)] at hMap
  have hLength : hits.length = outcomes.length := by simpa using congrArg List.length hMap
  rw [hTally]
  refine ⟨⟨by rw [hTally], ?_, ?_, ?_, ?_⟩, hLength⟩
  · rw [hTally]
    refine countP_outcomesOfHits hMap fun hit index outcome hBecomes => ?_
    rw [isNone_lineOf?]
    cases hBecomes with
    | noSource hLine => simp [Outcome.isNoSource, datingOfHit?, hLine]
    | noTimestamp hDating => simp [Outcome.isNoSource, hDating]
    | record hDating => simp [Outcome.isNoSource, hDating]
  · rw [hTally]
    refine countP_outcomesOfHits hMap fun hit index outcome hBecomes => ?_
    cases hBecomes with
    | noSource hLine => simp [Outcome.isNoTimestamp, isUndatedHit, datingOfHit?, hLine]
    | noTimestamp hDating hUndated =>
        simp [Outcome.isNoTimestamp, isUndatedHit, hDating, hUndated]
    | record hDating hDated => simp [Outcome.isNoTimestamp, isUndatedHit, hDating, hDated]
  · intro r hr
    exact hitIndex_of_mem hMap (hPerm.mem_iff.mp hr)
  -- A hit has a line that is dated, or one that is not, or none.
  · intro i hit hHit
    rw [hPerm.countP_eq, countP_hitIndex hMap, hHit, Option.any_some, isNone_lineOf?, isUndatedHit]
    cases datingOfHit? hit with
    | none => rfl
    | some dating =>
        cases hDated : isDated dating with
        | true => simp [hDated]
        | false => simp [hDated]

theorem accountsForVisits {c : Containers ν} {visits : List Pending} {outcomes : List Outcome}
    (h : outcomesOfVisits c visits = .ok outcomes) {corpus : Corpus} {truncated : Nat}
    (hTally : corpus.tally = { Tally.ofOutcomes outcomes with truncated }) :
    corpus.AccountsForVisits c visits := by
  obtain ⟨results, hResults, rfl⟩ := exists_results h
  have hMap := map_of_mapM_eq_ok hResults
  refine ⟨?_, ?_⟩
  · rw [hTally]
    have hTotal : (results.filterMap id).length = results.countP Option.isSome := by
      simp [List.length_filterMap_eq_countP]
    exact hTotal.trans (countP_of_map_eq hMap fun p _ _ h => (outcomeOfVisit?_entry h).1)
  · rw [hTally]
    have hNone : (results.filterMap id).countP Outcome.isNoSource =
        results.countP fun result => result.any Outcome.isNoSource := by
      rw [List.countP_filterMap]
      congr 1
      funext result
      cases result <;> rfl
    have hSource : results.countP (fun result => result.any Outcome.isNoSource) =
        visits.countP fun _ => false :=
      countP_of_map_eq hMap fun p _ _ h => (outcomeOfVisit?_entry h).2
    show (results.filterMap id).countP Outcome.isNoSource = 0
    rw [hNone, hSource, List.countP_false]
    rfl

theorem accounts_of_load_eq_ok {settings : Settings} (hSize : 1 ≤ settings.chunkSize)
    {document : Document ν} {sourceName : String} {loaded : Loaded}
    (h : load settings document sourceName = .ok loaded) :
    loaded.corpus.Accounts settings document := by
  obtain ⟨outcomes, hOutcomes, hRecords, hTally⟩ := outcomesOf_of_load h
  have hPerm : loaded.corpus.records.Perm (outcomes.filterMap Outcome.record?) := by
    rw [hRecords]
    exact List.mergeSort_perm _ _
  have hParsed : loaded.corpus.tally.parsed = loaded.corpus.size := by
    rw [Corpus.size, hPerm.length_eq, hTally, tallyOf]
    split <;> rfl
  have hKinds := length_eq_tally outcomes
  unfold outcomesOf at hOutcomes
  unfold tallyOf at hTally
  cases hHits : envelopeHits? document.value with
  | some hits =>
      simp only [hHits] at hOutcomes hTally
      obtain ⟨hAccounts, hTotal⟩ := accountsForHits hSize hOutcomes hPerm hTally
      refine ⟨?_, hParsed, fun others hOthers => ?_, fun hNone => ?_⟩
      · rw [hTotal, hKinds, hTally]
        rfl
      · cases hHits.symm.trans hOthers
        exact hAccounts
      · cases hHits.symm.trans hNone
  | none =>
      simp only [hHits] at hOutcomes hTally
      refine ⟨?_, hParsed, fun hits hSome => ?_, fun _ => accountsForVisits hOutcomes hTally⟩
      · rw [hTally]
        exact hKinds
      · cases hHits.symm.trans hSome

/-- Whenever a document is loaded, be it in memory or written out, the corpus accounts for every
entry of it. -/
theorem load_accounts [Text.StandIns] {settings : Settings} (hSize : 1 ≤ settings.chunkSize)
    (sourceName : String) :
    (∀ (document : Document ν) (loaded : Loaded),
      load settings document sourceName = .ok loaded →
        loaded.corpus.Accounts settings document) ∧
    (∀ (text : List Char) (loaded : Loaded),
      loadText settings text sourceName = .ok loaded →
        ∃ v, Json.read text = .ok v ∧ loaded.corpus.Accounts settings (Document.ofJson v)) ∧
    ∀ (bytes : List Nat) (loaded : Loaded),
      loadBytes settings bytes sourceName = .ok loaded →
        ∃ text v, Text.decodeDocument? bytes = some text ∧ Json.readMarked text = .ok v ∧
          loaded.corpus.Accounts settings (Document.ofJson v) := by
  refine ⟨fun document loaded h => ?_, loaded_of_written fun document loaded h => ?_⟩
  · exact accounts_of_load_eq_ok hSize h
  · exact accounts_of_load_eq_ok hSize h

/-- A search export with a hit that becomes a record, one without a line and one without a
timestamp. -/
private def exported : Json :=
  .object [("rawResponse", .object [("hits", .object [("hits", .array [
    .object [("_source", .object [("message", .string "up"), ("timestamp", .string "1970-01-01")])],
    .null,
    .object [("_source", .object [("message", .string "down")])]])])])]

/-- The text of two objects in an array, of which the second one names no instant. -/
private def halfDated : String :=
  "[\x7b\"date\": \"1970-01-01\"\x7d, \x7b\"date\": \"soon\"\x7d]"

theorem load_accounts_exported :
    1 ≤ ({} : Settings).chunkSize ∧
    (∃ loaded, load {} (Document.ofJson exported) "" = .ok loaded ∧
      loaded.corpus.Accounts {} (Document.ofJson exported) ∧
      loaded.corpus.tally =
        { totalHits := 3, parsed := 1, skippedNoSource := 1, skippedNoTimestamp := 1,
          envelope := true }) ∧
    (∃ loaded v, loadText {} halfDated.toList "" = .ok loaded ∧
      Json.read halfDated.toList = .ok v ∧ loaded.corpus.Accounts {} (Document.ofJson v) ∧
      loaded.corpus.tally = { totalHits := 2, parsed := 1, skippedNoTimestamp := 1 }) ∧
    ∃ loaded text v, loadBytes {} [0x5b, 0x5d] "" = .ok loaded ∧
      Text.decodeDocument? [0x5b, 0x5d] = some text ∧ Json.readMarked text = .ok v ∧
      loaded.corpus.Accounts {} (Document.ofJson v) ∧ loaded.corpus.tally = {} := by
  have hSize : 1 ≤ ({} : Settings).chunkSize := by decide
  obtain ⟨hDocument, hText, hBytes⟩ := load_accounts (ν := Json) hSize ""
  refine ⟨hSize, ?_, ?_, ?_⟩
  · have hTally : (load {} (Document.ofJson exported) "").toOption.map (·.corpus.tally) =
        some { totalHits := 3, parsed := 1, skippedNoSource := 1, skippedNoTimestamp := 1,
               envelope := true } := by
      unfold exported
      cbv
    obtain ⟨loaded, hLoad, hTally⟩ := Option.map_eq_some_iff.mp hTally
    have hLoad := toOption_eq_some.mp hLoad
    exact ⟨loaded, hLoad, hDocument _ loaded hLoad, hTally⟩
  · have hTally : (loadText {} halfDated.toList "").toOption.map (·.corpus.tally) =
        some { totalHits := 2, parsed := 1, skippedNoTimestamp := 1 } := by
      unfold halfDated
      cbv
    obtain ⟨loaded, hLoad, hTally⟩ := Option.map_eq_some_iff.mp hTally
    have hLoad := toOption_eq_some.mp hLoad
    obtain ⟨v, hRead, hAccounts⟩ := hText _ loaded hLoad
    exact ⟨loaded, v, hLoad, hRead, hAccounts, hTally⟩
  · have hTally : (loadBytes {} [0x5b, 0x5d] "").toOption.map (·.corpus.tally) = some {} := by cbv
    obtain ⟨loaded, hLoad, hTally⟩ := Option.map_eq_some_iff.mp hTally
    have hLoad := toOption_eq_some.mp hLoad
    obtain ⟨text, v, hDecode, hRead, hAccounts⟩ := hBytes _ loaded hLoad
    exact ⟨loaded, text, v, hLoad, hDecode, hRead, hAccounts, hTally⟩

end LogViewer
