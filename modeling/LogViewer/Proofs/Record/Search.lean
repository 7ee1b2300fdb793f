import Mathlib
import LogViewer.Corpus.Load
import LogViewer.Proofs.Json.Literals
import LogViewer.Proofs.Query.Terms
import LogViewer.Proofs.Record.Entries

/-! The search for a word of a line. A query looks for it in the text of the line's record, where
some characters have a backslash before them, so it finds a word of the line in which such characters
stand at the ends alone. -/
namespace LogViewer

open Text

namespace Query

/-- A query may be a word that stands for a phrase; where it holds no phrase, this word is looked for
itself. -/
theorem restore_of_no_phrases {w : List Char}
    (h : ∀ digits, placeholderDigits? w = some digits → digits.length ≤ digitLimit) :
    restore [] w = .ok w := by
  unfold restore
  cases hDigits : placeholderDigits? w with
  | none => rfl
  | some digits =>
      simp only [readWithinLimit, if_neg (Nat.not_lt.mpr (h digits hDigits))]
      rfl

theorem Word.tokens_text (w : Word) : tokens w.text = ([·]) <$> restore [] w.text := by
  have hPieces : segments w.text = w.text.map .plain := by
    have hText := @segments_append w.text [] fun c hc => (w.plain c hc).not_quote
    rw [List.append_nil, segments, List.append_nil] at hText
    exact hText
  have hCut : cut [] w.text = [w.text] := by
    have hWord := cut_word (s := []) w.ne_nil w.plain (by simp)
    rw [List.append_nil] at hWord
    exact hWord
  unfold tokens
  simp only [hPieces, withPlaceholders_plain, phrases_plain, hCut]
  rw [List.mapM_cons, List.mapM_nil]
  cases restore [] w.text <;> rfl

theorem Word.not_blank (w : Word) : isBlank (String.ofList w.text) = false := by
  obtain ⟨c, hc⟩ := List.exists_mem_of_ne_nil _ w.ne_nil
  rw [isBlank, String.toList_ofList, blankOnly, List.all_eq_false]
  exact ⟨c, hc, by simp [(w.plain c hc).not_blank]⟩

/-- A placeholder as a word of its own. -/
def placeholderWord (n : Nat) : Word where
  text := placeholder n
  ne_nil := placeholder_ne_nil n
  plain := fun _ => isPlain_of_mem_placeholder
  not_operator := by
    rintro ⟨op, hOperator⟩
    have hFront : '_' ∈ "__PHRASE_".toList := by decide
    have hMem : '_' ∈ placeholder n := List.mem_append_left _ (List.mem_append_left _ hFront)
    exact absurd (isAlphanum_of_mem_spelling hOperator hMem) (by decide)

theorem evaluate_placeholder_overlong {n : Nat} (h : digitLimit < (digitsOf n).length)
    (text : List Char) :
    evaluate (String.ofList (placeholder n)) text = .error ⟨(digitsOf n).length⟩ := by
  have hBlank : isBlank (String.ofList (placeholder n)) = false := (placeholderWord n).not_blank
  have hTokens : tokens (placeholder n) = ([·]) <$> restore [] (placeholder n) :=
    (placeholderWord n).tokens_text
  rw [evaluate, hBlank, String.toList_ofList, hTokens, restore_placeholder_overlong h]
  rfl

/-- A query of one word is satisfied by the texts that hold this word. -/
theorem Word.evaluate_eq (w : Word)
    (h : ∀ digits, placeholderDigits? w.text = some digits → digits.length ≤ digitLimit)
    (text : List Char) :
    evaluate (String.ofList w.text) text = .ok (decide (lower w.text <:+: lower text)) := by
  have hParenthesis (c : Char) (hc : c = '(' ∨ c = ')') : w.text ≠ [c] := by
    intro hText
    have hPlain := (w.plain c (by rw [hText]; exact List.mem_singleton_self c)).not_parenthesis
    exact hc.elim hPlain.1 hPlain.2
  apply evaluate_singleton w.not_blank
  · rw [String.toList_ofList, w.tokens_text, restore_of_no_phrases h]
    rfl
  · exact ofToken_of_not_operator (hParenthesis _ (Or.inl rfl)) (hParenthesis _ (Or.inr rfl))
      w.not_operator

end Query

/-- The mark around a text that is shown in quotation marks. -/
def quotationMark (s : List Char) : Char := if s.contains '\'' && !s.contains '"' then '"' else '\''

theorem quoted_eq (s : List Char) :
    quoted s = quotationMark s :: s.flatMap (quotedChar (quotationMark s)) ++ [quotationMark s] := rfl

theorem quotationMark_eq_double_of_mem {s : List Char} (hSingle : '\'' ∈ s) (hDouble : '"' ∉ s) :
    quotationMark s = '"' := by
  simp [quotationMark, hSingle, hDouble]

theorem quotedChar_eq_self {mark c : Char} (hMark : c ≠ mark) (hBackslash : c ≠ '\\')
    (hPrintable : 0x20 < c.toNat ∧ c.toNat < 0x7F) : quotedChar mark c = [c] := by
  have hNot (d : Char) (hd : d.toNat < 0x20) : c ≠ d := by
    rintro rfl
    omega
  have hShown : isPrintable c = true := by
    simp only [isPrintable, if_pos (show c.toNat < 128 by omega), Bool.and_eq_true,
      decide_eq_true_eq]
    omega
  simp [quotedChar, hMark, hBackslash, hNot '\t' (by decide), hNot '\n' (by decide),
    hNot '\r' (by decide), hShown]

/-- Whether a word has the characters that are escaped at its ends alone: backslashes at both, and
one further character behind the first ones. -/
def EscapedAtEnds (escaped : Char → Prop) (w : List Char) : Prop :=
  ∃ i v j, w = List.replicate i '\\' ++ (v ++ List.replicate j '\\') ∧ ∀ c ∈ v.tail, ¬escaped c

/-- A word is in its own escaped form if the characters that are escaped are at its ends alone. -/
theorem EscapedAtEnds.isInfix_flatMap {escaped : Char → Prop} {w : List Char}
    {escape : Char → List Char} (h : EscapedAtEnds escaped w)
    (hBackslash : escape '\\' = ['\\', '\\'])
    (hEscape : ∀ c ∈ w, escape c = [c] ∨ escaped c ∧ escape c = ['\\', c]) :
    w <:+: w.flatMap escape := by
  obtain ⟨i, v, j, rfl, hTail⟩ := h
  have hDouble (n : Nat) : (List.replicate n '\\').flatMap escape = List.replicate (2 * n) '\\' := by
    induction n with
    | zero => rfl
    | succ n ih => simp [List.replicate_succ, Nat.mul_succ, hBackslash, ih]
  have hWord (c : Char) (hc : c ∈ v) := hEscape c (by simp [hc])
  obtain ⟨k, hMiddle⟩ : ∃ k, v.flatMap escape = List.replicate k '\\' ++ v := by
    cases v with
    | nil => exact ⟨0, rfl⟩
    | cons c v =>
        have hRest : v.flatMap escape = v := by
          rw [List.flatMap_congr (g := fun d => [d]), List.flatMap_singleton']
          intro d hd
          exact (hWord d (List.mem_cons_of_mem c hd)).resolve_right fun h => hTail d hd h.1
        rcases hWord c List.mem_cons_self with hSelf | ⟨-, hEscaped⟩
        · exact ⟨0, by simp [hRest, hSelf]⟩
        · exact ⟨1, by simp [hRest, hEscaped]⟩
  refine ⟨List.replicate (i + k) '\\', List.replicate j '\\', ?_⟩
  rw [List.flatMap_append, List.flatMap_append, hDouble, hDouble, hMiddle]
  calc List.replicate (i + k) '\\' ++ (List.replicate i '\\' ++ (v ++ List.replicate j '\\')) ++
        List.replicate j '\\'
      = List.replicate (i + k + i) '\\' ++ (v ++ List.replicate (j + j) '\\') := by
        simp only [List.replicate_add, List.append_assoc]
    _ = List.replicate (2 * i + k) '\\' ++ (v ++ List.replicate (2 * j) '\\') := by
        rw [Nat.add_right_comm, Nat.two_mul, Nat.two_mul]
    _ = List.replicate (2 * i) '\\' ++ (List.replicate k '\\' ++ v ++
        List.replicate (2 * j) '\\') := by
        simp only [List.replicate_add, List.append_assoc]

namespace Record

variable {r : Record} {line : String}

/-- Whether a printable character of a line has a backslash before it in the text of the line's
record. The single quotation mark has one only in the record of an object that contains itself, if
the line holds the double one too. -/
def Escapes (r : Record) (line : String) (c : Char) : Prop :=
  c = '\\' ∨ c = '\'' ∧ r.toJson.hasLoop = true ∧ '"' ∈ line.toList

/-- What stands for a character of a line in the text of the line's record. -/
def escape (r : Record) (line : String) : Char → List Char :=
  if r.toJson.hasLoop then quotedChar (quotationMark line.toList) else Json.escapedChar

theorem isInfix_searchedEntry (name : String) :
    line.toList.flatMap (r.escape line) <:+: r.searchedEntry (name, .string line) := by
  have hText : (Json.string line).shownInside = quoted line.toList := rfl
  have hLiteral : (Json.string line).compact = Json.literal line := rfl
  unfold escape searchedEntry
  cases r.toJson.hasLoop with
  | true =>
      simp only [if_true, Json.shownEntry, hText, quoted_eq line.toList]
      refine List.IsInfix.trans ?_ (List.suffix_append _ _).isInfix
      exact ⟨[':', ' ', quotationMark line.toList], [quotationMark line.toList], by simp⟩
  | false =>
      simp only [Bool.false_eq_true, if_false, Json.compactEntry, hLiteral, Json.literal]
      refine List.IsInfix.trans ?_ (List.suffix_append _ _).isInfix
      exact ⟨[':', ' ', '"'], ['"'], by simp⟩

theorem escape_backslash (r : Record) (line : String) : r.escape line '\\' = ['\\', '\\'] := by
  unfold escape
  split
  · simp [quotedChar]
  · rfl

theorem escape_cases {c : Char} (hQuote : c ≠ '"') (hPrintable : 0x20 < c.toNat ∧ c.toNat < 0x7F)
    (hc : c ∈ line.toList) :
    r.escape line c = [c] ∨ r.Escapes line c ∧ r.escape line c = ['\\', c] := by
  by_cases hBackslash : c = '\\'
  · subst hBackslash
    exact Or.inr ⟨Or.inl rfl, r.escape_backslash line⟩
  unfold escape Escapes
  cases r.toJson.hasLoop with
  | false =>
      left
      exact Json.escapedChar_eq_self hQuote hBackslash hPrintable.1.le
  | true =>
      by_cases hMark : c = quotationMark line.toList
      · have hSingle : c = '\'' := by
          unfold quotationMark at hMark
          split at hMark
          · exact absurd hMark hQuote
          · exact hMark
        have hDouble : '"' ∈ line.toList := by
          by_contra hNone
          rw [quotationMark_eq_double_of_mem (hSingle ▸ hc) hNone] at hMark
          exact hQuote hMark
        exact Or.inr ⟨Or.inr ⟨hSingle, rfl, hDouble⟩, by simp [quotedChar, hMark]⟩
      · exact Or.inl (quotedChar_eq_self hMark hBackslash hPrintable)

/-- A printable word of a line is found by searching for it, if what the text of the record
escapes is at its ends alone. A word that would stand for a phrase may not have a number too long
to be read. -/
theorem evaluate_of_isInfix_line (w : Query.Word)
    (hPrintable : ∀ c ∈ w.text, 0x20 < c.toNat ∧ c.toNat < 0x7F)
    (hRead : ∀ digits, Query.placeholderDigits? w.text = some digits → digits.length ≤ digitLimit)
    (hLine : r.rawMessage = some line) (hEnds : EscapedAtEnds (r.Escapes line) w.text)
    (hw : w.text <:+: line.toList) :
    Query.evaluate (String.ofList w.text) r.searchable = .ok true := by
  have hAscii : ∀ c ∈ w.text, c.toNat < 128 := fun c hc => by
    have := hPrintable c hc
    omega
  have hEntry : ("raw_message", Json.string line) ∈ r.entries := by
    refine mem_entries_of_mem_ownEntries ?_ (show "raw_message" ≠ "full_source" by decide)
    simp [ownEntries, hLine]
  have hSelf : w.text <:+: w.text.flatMap (r.escape line) := by
    refine hEnds.isInfix_flatMap (r.escape_backslash line) fun c hc => ?_
    exact escape_cases (w.plain c hc).not_quote (hPrintable c hc) (hw.subset hc)
  have hText : w.text <:+: r.searchedEntry ("raw_message", .string line) :=
    hSelf.trans ((hw.flatMap _).trans (isInfix_searchedEntry _))
  have hSearchable : lower w.text <:+: lower r.searchable := by
    rw [searchable, lower_lower]
    exact (lower_isInfix_lower hAscii hText).trans (isInfix_searchable hEntry)
  rw [w.evaluate_eq hRead, decide_eq_true hSearchable]

/-- A search export of one hit, given by its source. -/
private def exportOf (source : Json) : Json :=
  .object [("rawResponse", .object [("hits", .object [("hits",
    .array [.object [("_source", source)]])])])]

private def datedSource (line : String) : Json :=
  .object [("message", .string line), ("timestamp", .string "1970-01-01")]

/-- A path that begins with a backslash and ends with one. -/
private def pathWord : Query.Word where
  text := ['\\', 't', 'm', 'p', '\\']
  ne_nil := by simp
  plain := by
    intro c hc
    simp only [List.mem_cons, List.not_mem_nil, or_false] at hc
    rcases hc with rfl | rfl | rfl | rfl | rfl <;> exact ⟨by decide, by decide, by decide⟩
  not_operator := by
    rintro ⟨op, hOperator⟩
    cases op <;> exact absurd hOperator (by decide)

theorem evaluate_of_isInfix_line_pathWord :
    ∃ loaded r, load {} (Document.ofJson (exportOf (datedSource "no \\tmp\\ here"))) "" =
        .ok loaded ∧ r ∈ loaded.corpus.records ∧ r.rawMessage = some "no \\tmp\\ here" ∧
      (∀ c ∈ pathWord.text, 0x20 < c.toNat ∧ c.toNat < 0x7F) ∧
      (∀ digits, Query.placeholderDigits? pathWord.text = some digits →
        digits.length ≤ digitLimit) ∧
      EscapedAtEnds (r.Escapes "no \\tmp\\ here") pathWord.text ∧
      pathWord.text <:+: "no \\tmp\\ here".toList ∧
      Query.evaluate (String.ofList pathWord.text) r.searchable = .ok true := by
  have hLines : (load {} (Document.ofJson (exportOf (datedSource "no \\tmp\\ here")))
      "").toOption.map (fun loaded => loaded.corpus.records.map (·.rawMessage)) =
        some [some "no \\tmp\\ here"] := by
    decide +kernel
  obtain ⟨loaded, hLoad, hLines⟩ := toOption_map_eq_some hLines
  obtain ⟨r, hRecords, hLine⟩ := List.map_eq_singleton_iff.mp hLines
  have hMem : r ∈ loaded.corpus.records := by
    rw [hRecords]
    exact List.mem_singleton_self r
  have hPrintable : ∀ c ∈ pathWord.text, 0x20 < c.toNat ∧ c.toNat < 0x7F := by
    simp [pathWord]
  have hRead : ∀ digits, Query.placeholderDigits? pathWord.text = some digits →
      digits.length ≤ digitLimit := by
    have hNone : Query.placeholderDigits? pathWord.text = none := by decide
    simp [hNone]
  have hEnds : EscapedAtEnds (r.Escapes "no \\tmp\\ here") pathWord.text := by
    refine ⟨1, ['t', 'm', 'p'], 1, rfl, ?_⟩
    simp [Escapes]
  have hIn : pathWord.text <:+: "no \\tmp\\ here".toList :=
    ⟨"no ".toList, " here".toList, by decide +kernel⟩
  exact ⟨loaded, r, hLoad, hMem, hLine, hPrintable, hRead, hEnds, hIn,
    evaluate_of_isInfix_line pathWord hPrintable hRead hLine hEnds hIn⟩

/-- A search export in memory, the source of whose hit contains itself. -/
private def selfHolding : Graph := ⟨#[
  .object [("rawResponse", .node 1)], .object [("hits", .node 2)], .object [("hits", .node 3)],
  .array [.node 4], .object [("_source", .node 5)],
  .object [("message", .tree (.string "\"it's\"")), ("timestamp", .tree (.string "1970-01-01")),
    ("self", .node 5)]]⟩

/-- A word of a line is not found where what is escaped stands inside of it: a backslash, or the
single quotation mark in the record of an object that contains itself. A word that would stand for a
phrase with an overlong number cannot be looked for. -/
theorem escaped_word_not_found :
    (∃ loaded r, load {} (Document.ofJson (exportOf (datedSource "a\\b"))) "" = .ok loaded ∧
      r ∈ loaded.corpus.records ∧ r.rawMessage = some "a\\b" ∧
      Query.evaluate "a\\b" r.searchable = .ok false) ∧
    (∃ loaded r, load {} (Document.ofGraph selfHolding) "" = .ok loaded ∧
      r ∈ loaded.corpus.records ∧ r.rawMessage = some "\"it's\"" ∧
      Query.evaluate "it's" r.searchable = .ok false) ∧
    ∀ text, Query.evaluate (String.ofList (Query.placeholder (10 ^ digitLimit))) text =
      .error ⟨digitLimit + 1⟩ := by
  have hBackslash : (load {} (Document.ofJson (exportOf (datedSource "a\\b"))) "").toOption.map
      (fun loaded => loaded.corpus.records.map fun r =>
        (r.rawMessage, decide (lower "a\\b".toList <:+: lower r.searchable))) =
      some [(some "a\\b", false)] := by
    decide +kernel
  have hSelf : (load {} (Document.ofGraph selfHolding) "").toOption.map
      (fun loaded => loaded.corpus.records.map fun r =>
        (r.rawMessage, decide (lower "it's".toList <:+: lower r.searchable))) =
      some [(some "\"it's\"", false)] := by
    decide +kernel
  have hBackslashToken : Query.tokens "a\\b".toList = .ok ["a\\b".toList] := by
    have hPieces : Query.segments "a\\b".toList = [.plain 'a', .plain '\\', .plain 'b'] := by cbv
    unfold Query.tokens
    rw [hPieces]
    rfl
  have hApostropheToken : Query.tokens "it's".toList = .ok ["it's".toList] := by
    have hPieces : Query.segments "it's".toList =
        [.plain 'i', .plain 't', .plain '\'', .plain 's'] := by cbv
    unfold Query.tokens
    rw [hPieces]
    rfl
  refine ⟨?_, ?_, fun text => ?_⟩
  · obtain ⟨loaded, hLoad, hRecords⟩ := toOption_map_eq_some hBackslash
    obtain ⟨r, hRecord, hParts⟩ := List.map_eq_singleton_iff.mp hRecords
    obtain ⟨hLine, hNone⟩ := Prod.mk.inj hParts
    refine ⟨loaded, r, hLoad, by simp [hRecord], hLine, ?_⟩
    rw [Query.evaluate_singleton (by decide) hBackslashToken (by decide), hNone]
  · obtain ⟨loaded, hLoad, hRecords⟩ := toOption_map_eq_some hSelf
    obtain ⟨r, hRecord, hParts⟩ := List.map_eq_singleton_iff.mp hRecords
    obtain ⟨hLine, hNone⟩ := Prod.mk.inj hParts
    refine ⟨loaded, r, hLoad, by simp [hRecord], hLine, ?_⟩
    rw [Query.evaluate_singleton (by decide) hApostropheToken (by decide), hNone]
  · have hLength : (digitsOf (10 ^ digitLimit)).length = digitLimit + 1 :=
      length_digitsOf_pow digitLimit
    rw [Query.evaluate_placeholder_overlong (by omega), hLength]

end Record

end LogViewer
