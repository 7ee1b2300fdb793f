import Mathlib
import LogViewer.Proofs.Json.Literals
import LogViewer.Proofs.Query.Growth
import LogViewer.Proofs.Record.Entries
import LogViewer.Proofs.Text.Stretch
import LogViewer.Proofs.Viewer.Independence

/-! Records that gain text. A match stays one as long as the text that queries search keeps the words
of the query. Text that is added to a value keeps them with two exceptions: a quotation mark in a word
stands for an end of the value, and a sigma changes its small form with what follows it. -/
namespace LogViewer

open Text

theorem Json.not_mem_escaped {c : Char} (hBeyond : ¬c.toNat < 128) {s : List Char} (h : c ∉ s) :
    c ∉ Json.escaped s := by
  intro hMem
  obtain ⟨d, hd, hc⟩ := List.mem_flatMap.mp hMem
  rcases Json.escapedChar_cases d with hSelf | ⟨front, hFront, e, hEscape, hAscii, -⟩
  · rw [hSelf, List.mem_singleton] at hc
    exact h (hc ▸ hd)
  · have hFronts : ∀ front ∈ Json.escapeFronts, ∀ c ∈ front, c.toNat < 128 := by
      simp [Json.escapeFronts]
    rw [hEscape, List.mem_append, List.mem_singleton] at hc
    rcases hc with hc | rfl
    · exact hBeyond (hFronts front hFront c hc)
    · exact hBeyond hAscii

/-- The words of a text between quotation marks are kept when the text becomes longer, whatever
stands around the marks. -/
theorem isInfix_lower_quoted {word s t : List Char} (hQuote : '"' ∉ word)
    (hSigma : 'Σ' ∉ s ∨ 'σ' ∉ word ∧ 'ς' ∉ word) (h : s <:+: t) {front back : List Char}
    (hWord : word <:+: lower (front ++ '"' :: (s ++ '"' :: back))) :
    word <:+: lower (front ++ '"' :: (t ++ '"' :: back)) := by
  rw [lower_append_of_partsWords partsWords_quotationMark,
    lower_append_of_partsWords partsWords_quotationMark, isInfix_append_cons_iff hQuote,
    isInfix_append_cons_iff hQuote] at hWord ⊢
  refine hWord.imp_right (Or.imp_left fun hInside => ?_)
  rcases hSigma with hSigma | hSigma
  · exact hInside.trans (lower_isInfix_lower_of_not_mem hSigma h)
  · exact isInfix_lower_of_no_sigma hSigma h hInside

namespace Record

/-- Whether two records have the same entries but for one. It is the text `s`, and in the second
record there is further text before or behind it. -/
def GainsText (r : Record) (s : String) (r' : Record) : Prop :=
  ∃ front key before behind back, r.entries = front ++ (key, .string s) :: back ∧
    r'.entries = front ++ (key, .string (before ++ s ++ behind)) :: back

/-- Whether a word is kept by whatever is added to a text: it has no quotation mark, and no small
sigma either unless the text is without capital ones. -/
structure IsKept (word : List Char) (s : String) : Prop where
  unquoted : '"' ∉ word
  no_sigma : 'Σ' ∉ s.toList ∨ 'σ' ∉ lower word ∧ 'ς' ∉ lower word

variable {r r' : Record} {s : String}

theorem GainsText.hasLoop (h : r.GainsText s r') (hLoop : r.toJson.hasLoop = false) :
    r'.toJson.hasLoop = false := by
  obtain ⟨front, key, before, behind, back, hOld, hNew⟩ := h
  rw [toJson, Json.hasLoop_object_eq_false_iff] at hLoop ⊢
  rw [hOld, List.forall_mem_append, List.forall_mem_cons] at hLoop
  rw [hNew, List.forall_mem_append, List.forall_mem_cons]
  exact ⟨hLoop.1, rfl, hLoop.2.2⟩

/-- The text of a record that queries search keeps a word when text is added to an entry. -/
theorem GainsText.isInfix_searchable (h : r.GainsText s r') (hLoop : r.toJson.hasLoop = false)
    {word : List Char} (hWord : IsKept word s) (hOld : lower word <:+: r.searchable) :
    lower word <:+: r'.searchable := by
  have hLoop' : r'.toJson.hasLoop = false := h.hasLoop hLoop
  obtain ⟨front, key, before, behind, back, hEntries, hEntries'⟩ := h
  obtain ⟨textBefore, textBehind, hText⟩ :=
    Json.exists_objectText_append (front.map Json.compactEntry) (back.map Json.compactEntry)
  have hSearchable (q : Record) (hq : q.toJson.hasLoop = false) (t : String)
      (hEntries : q.entries = front ++ (key, .string t) :: back) :
      q.searchable = lower ((textBefore ++ Json.literal key ++ [':', ' ']) ++
        '"' :: (Json.escaped t.toList ++ '"' :: textBehind)) := by
    have hEach : q.searchedEntry = Json.compactEntry := by
      funext entry
      rw [searchedEntry, hq]
      rfl
    have hValue : (Json.string t).compact = '"' :: (Json.escaped t.toList ++ ['"']) := rfl
    rw [searchable_eq, hEach, hEntries, List.map_append, List.map_cons, hText, Json.compactEntry,
      hValue]
    simp
  rw [hSearchable r hLoop s hEntries] at hOld
  rw [hSearchable r' hLoop' _ hEntries']
  refine isInfix_lower_quoted ?_ ?_ ?_ hOld
  · exact fun hMem => hWord.unquoted (mem_of_mem_lower (by decide) (by decide) hMem)
  · exact hWord.no_sigma.imp_left (Json.not_mem_escaped (by decide))
  · rw [String.toList_append, String.toList_append]
    exact (List.infix_append _ _ _).flatMap _

theorem lower_searchable (r : Record) : lower r.searchable = r.searchable := by
  rw [searchable, lower_lower]

theorem GainsText.keepsWords (h : r.GainsText s r') (hLoop : r.toJson.hasLoop = false)
    {query : String}
    (hWords : ∀ words, Query.tokens query.toList = .ok words → ∀ word ∈ words, IsKept word s) :
    Query.KeepsWords query r.searchable r'.searchable := by
  intro words hTokens word hMem hOld
  rw [lower_searchable] at hOld ⊢
  exact h.isInfix_searchable hLoop (hWords words hTokens word hMem) hOld

end Record

namespace Matches

variable {query : String} {records : List Record} {onlyMatches : Bool} {m : Matches}

/-- A query that has matches says something, and its matches are the records that satisfy it. -/
theorem placesOf_of_search (h : search query records onlyMatches = .ok m) {i : Nat}
    (hi : i ∈ m.indices) :
    Query.isBlank query = false ∧ placesOf records (·.satisfies query) = .ok m.indices := by
  have hBlank : Query.isBlank query = false := by
    by_contra hBlank
    rw [search, if_pos (by simpa using hBlank)] at h
    cases h
    cases hi
  refine ⟨hBlank, ?_⟩
  rw [← indices_search hBlank records onlyMatches, h]
  rfl

theorem satisfies_of_mem (h : search query records onlyMatches = .ok m) {i : Nat}
    (hi : i ∈ m.indices) {r : Record} (hPlace : records[i]? = some r) :
    r.satisfies query = .ok true := by
  obtain ⟨q, hq, hSatisfies⟩ := ((placesOf_eq_ok (placesOf_of_search h hi).2).2 i).mp hi
  rw [hPlace] at hq
  cases hq
  exact hSatisfies

/-- A match stays a match when its record gives way to one that satisfies the query as well. -/
theorem exists_search_set (h : search query records onlyMatches = .ok m) {i : Nat}
    (hi : i ∈ m.indices) {r' : Record} (hSatisfies : r'.satisfies query = .ok true) :
    ∃ m', search query (records.set i r') onlyMatches = .ok m' ∧ i ∈ m'.indices := by
  obtain ⟨hBlank, hPlaces⟩ := placesOf_of_search h hi
  have hFound := (placesOf_eq_ok hPlaces).1.lt_length i hi
  have hTests := exists_placesOf_eq_ok_iff.mp ⟨m.indices, hPlaces⟩
  obtain ⟨places, hNew⟩ : ∃ places,
      placesOf (records.set i r') (·.satisfies query) = .ok places := by
    refine exists_placesOf_eq_ok_iff.mpr fun q hq => ?_
    rcases List.mem_or_eq_of_mem_set hq with hq | rfl
    · exact hTests q hq
    · exact ⟨true, hSatisfies⟩
  have hPlace : i ∈ places := by
    rw [(placesOf_eq_ok hNew).2]
    exact ⟨r', by simp [hFound], hSatisfies⟩
  rw [← indices_search hBlank (records.set i r') onlyMatches] at hNew
  obtain ⟨m', hSearch, rfl⟩ := map_eq_ok hNew
  exact ⟨m', hSearch, hPlace⟩

end Matches

/-- Words that are true of a text stay so while it keeps those that it holds. So a match stays one
when its record gives way to one whose searched text keeps the words of the query. Every searched
text that has the old one in it does, and so does that of a record that gains text in a value, if
the words are safe from that. -/
theorem matches_keep_grown :
    (∀ (words : List (List Char)) (text text' : List Char),
      (∀ word ∈ words, lower word <:+: text → lower word <:+: text') →
        Query.evaluateTokens words text = true → Query.evaluateTokens words text' = true) ∧
    (∀ (query : String) (r r' : Record), Query.KeepsWords query r.searchable r'.searchable →
      ∀ (records : List Record) (onlyMatches : Bool) (m : Matches) (i : Nat),
        records[i]? = some r → Matches.search query records onlyMatches = .ok m → i ∈ m.indices →
          ∃ m', Matches.search query (records.set i r') onlyMatches = .ok m' ∧ i ∈ m'.indices) ∧
    ∀ (query : String) (r r' : Record),
      (r.searchable <:+: r'.searchable ∨ ∃ s, r.GainsText s r' ∧ r.toJson.hasLoop = false ∧
        ∀ words, Query.tokens query.toList = .ok words → ∀ word ∈ words, Record.IsKept word s) →
      Query.KeepsWords query r.searchable r'.searchable := by
  refine ⟨fun words text text' => Query.evaluateTokens_of_holds, ?_, ?_⟩
  · intro query r r' hKeeps records onlyMatches m i hPlace hSearch hi
    exact Matches.exists_search_set hSearch hi
      (hKeeps.evaluate (Matches.satisfies_of_mem hSearch hi hPlace))
  · rintro query r r' (hPart | ⟨s, hGains, hLoop, hWords⟩)
    · refine Query.KeepsWords.of_isInfix ?_ query
      rwa [r.lower_searchable, r'.lower_searchable]
    · exact hGains.keepsWords hLoop hWords

/-- A record with nothing but data. -/
private def noted (data : String) : Record where
  timestamp := "1970-01-01"
  format := .spaced
  instant := 0
  attributes := fun
    | .data => some data
    | _ => none

private theorem noted_gainsText (before s behind : String) :
    (noted s).GainsText s (noted (before ++ s ++ behind)) :=
  ⟨[("timestamp", .string "1970-01-01"), ("format", .string "FORMAT_B")], "data", before, behind,
    [], rfl, rfl⟩

theorem matches_keep_grown_noted :
    (∀ word ∈ ["(".toList, "ab".toList], lower word <:+: "ab".toList → lower word <:+: "xab".toList) ∧
      Query.evaluateTokens ["(".toList, "ab".toList] "ab".toList = true ∧
      Query.evaluateTokens ["(".toList, "ab".toList] "xab".toList = true ∧
    (noted "ab").GainsText "ab" (noted "xabc") ∧ (noted "ab").toJson.hasLoop = false ∧
      (∀ words, Query.tokens "ab".toList = .ok words →
        ∀ word ∈ words, Record.IsKept word "ab") ∧
      Query.KeepsWords "ab" (noted "ab").searchable (noted "xabc").searchable ∧
    ∃ m m', Matches.search "ab" [noted "ab"] false = .ok m ∧ 0 ∈ m.indices ∧
      Matches.search "ab" [noted "xabc"] false = .ok m' ∧ 0 ∈ m'.indices := by
  have hText : ∀ word ∈ ["(".toList, "ab".toList],
      lower word <:+: "ab".toList → lower word <:+: "xab".toList := by
    decide
  have hValue : Query.evaluateTokens ["(".toList, "ab".toList] "ab".toList = true := by cbv
  have hTokens : Query.tokens "ab".toList = .ok ["ab".toList] := by
    have hPieces : Query.segments "ab".toList = [.plain 'a', .plain 'b'] := by cbv
    unfold Query.tokens
    rw [hPieces]
    rfl
  have hKept : ∀ words, Query.tokens "ab".toList = .ok words →
      ∀ word ∈ words, Record.IsKept word "ab" := by
    intro words hWords word hMem
    rw [hTokens] at hWords
    cases hWords
    rw [List.mem_singleton.mp hMem]
    exact ⟨by decide, Or.inl (by decide)⟩
  have hGains : (noted "ab").GainsText "ab" (noted "xabc") := noted_gainsText "x" "ab" "c"
  have hKeeps := matches_keep_grown.2.2 "ab" (noted "ab") (noted "xabc")
    (Or.inr ⟨"ab", hGains, rfl, hKept⟩)
  have hSatisfies : (noted "ab").satisfies "ab" = .ok true := by
    rw [Record.satisfies, Query.evaluate_singleton (by decide) hTokens (by decide)]
    decide +kernel
  have hPlaces : (·.indices) <$> Matches.search "ab" [noted "ab"] false = .ok [0] := by
    rw [Matches.indices_search (by decide)]
    simp only [placesOf, List.zipIdx_cons, List.zipIdx_nil, List.filterM, List.filterAuxM,
      hSatisfies]
    rfl
  obtain ⟨m, hSearch, hIndices⟩ := map_eq_ok hPlaces
  have hFound : 0 ∈ m.indices := by
    rw [← hIndices]
    exact List.mem_singleton_self 0
  obtain ⟨m', hSearch', hFound'⟩ := matches_keep_grown.2.1 "ab" (noted "ab") (noted "xabc")
    hKeeps [noted "ab"] false m 0 rfl hSearch hFound
  exact ⟨hText, hValue, matches_keep_grown.1 _ _ _ hText hValue, hGains, rfl, hKept, hKeeps,
    m, m', hSearch, hFound, hSearch', hFound'⟩

/-- Text that is added to a value can take a match away: the word with a quotation mark is found at
the end of the shorter value alone, and the sigma at the end of a word is another one than that
inside of it. -/
theorem added_text_loses_match :
    (noted "ab").GainsText "ab" (noted "abc") ∧
      (·.indices) <$> Matches.search "ab\"" [noted "ab", noted "abc"] false = .ok [0] ∧
    (noted "ΑΣ").GainsText "ΑΣ" (noted "ΑΣΑ") ∧
      (·.indices) <$> Matches.search "ας" [noted "ΑΣ", noted "ΑΣΑ"] false = .ok [0] := by
  have hQuoted : (noted "ab").satisfies "ab\"" = .ok true := by
    unfold noted
    cbv
  have hLonger : (noted "abc").satisfies "ab\"" = .ok false := by
    unfold noted
    cbv
  have hWord : Query.tokens "ας".toList = .ok ["ας".toList] := by
    have hPieces : Query.segments "ας".toList = [.plain 'α', .plain 'ς'] := by cbv
    unfold Query.tokens
    rw [hPieces]
    rfl
  have hBlank : Query.isBlank "ας" = false := by decide
  have hSought := Query.evaluate_singleton hBlank hWord (by decide)
  have hFinal : (noted "ΑΣ").satisfies "ας" = .ok true := by
    rw [Record.satisfies, hSought]
    decide +kernel
  have hInner : (noted "ΑΣΑ").satisfies "ας" = .ok false := by
    rw [Record.satisfies, hSought]
    decide +kernel
  refine ⟨noted_gainsText "" "ab" "c", ?_, noted_gainsText "" "ΑΣ" "Α", ?_⟩
  · rw [Matches.indices_search (by decide)]
    simp only [placesOf, List.zipIdx_cons, List.zipIdx_nil, List.filterM, List.filterAuxM,
      hQuoted, hLonger]
    rfl
  · rw [Matches.indices_search (by decide)]
    simp only [placesOf, List.zipIdx_cons, List.zipIdx_nil, List.filterM, List.filterAuxM,
      hFinal, hInner]
    rfl

end LogViewer
