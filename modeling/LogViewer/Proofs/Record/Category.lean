import Mathlib
import LogViewer.Record.Category
import LogViewer.Proofs.Calendar.Characters
import LogViewer.Proofs.Json.Literals
import LogViewer.Proofs.Line.Dating
import LogViewer.Proofs.Record.Entries

/-! Categories of anchored lines. The text in which the words of the categories are looked for holds
the names of the attributes as well, and that of the cart holds such a word. -/
namespace LogViewer

open Text

theorem Attribute.mem_all (a : Attribute) : a ∈ all := by cases a <;> decide

namespace Category

/-- Whether a word is looked for when a record is given a category. -/
def IsKeyword (word : String) : Prop := ∃ entry ∈ keywords, word ∈ entry.2

theorem isSmallWord_of_isKeyword {word : String} (h : IsKeyword word) : IsSmallWord word.toList := by
  have hAll : ∀ entry ∈ keywords, ∀ word ∈ entry.2,
      2 ≤ word.toList.length ∧ word.toList.all Char.isLower = true := by
    decide +kernel
  obtain ⟨entry, hEntry, hWord⟩ := h
  obtain ⟨hTwo, hLower⟩ := hAll entry hEntry word hWord
  exact ⟨hTwo, List.all_eq_true.mp hLower⟩

/-- A category other than the last one is that of a word in the text. -/
theorem exists_word_of_ofText {text : List Char} (h : ofText text ≠ info) :
    ∃ entry ∈ keywords, entry.1 = ofText text ∧ ∃ word ∈ entry.2, word.toList <:+: text := by
  unfold ofText at h ⊢
  generalize hFound : keywords.find? _ = found at h ⊢
  cases found with
  | none => exact absurd rfl h
  | some entry =>
      have hAny := List.find?_some hFound
      obtain ⟨word, hWord, hOccurs⟩ := List.any_eq_true.mp hAny
      exact ⟨entry, List.mem_of_find?_eq_some hFound, rfl, word, hWord, occursIn_iff.mp hOccurs⟩

section

variable {value : String}
  (h : ∀ word, IsKeyword word → ¬word.toList <:+: lower value.toList)

include h

theorem ofLevel?_eq_none : ofLevel? (.string value) = none := by
  have hError : ¬lower value.toList = "error".toList := by
    intro hSame
    exact h "error" (by simp [IsKeyword, keywords]) (hSame ▸ List.infix_refl _)
  have hWarn : ¬(lower value.toList = "warn".toList ∨ lower value.toList = "warning".toList) := by
    rintro (hSame | hSame)
    · exact h "warn" (by simp [IsKeyword, keywords]) (hSame ▸ List.infix_refl _)
    · exact h "warn" (by simp [IsKeyword, keywords]) (hSame ▸ ⟨[], "ing".toList, by decide⟩)
  rw [ofLevel?]
  simp only [if_neg hError, if_neg hWarn]

theorem ofType?_eq_none : ofType? (.string value) = none := by
  rw [ofType?, if_neg]
  rw [occursIn_iff]
  exact h "error" (by simp [IsKeyword, keywords])

end

/-- The category of a text when a word of the cart is in it in any case. -/
def besideCart : Category → Category
  | api | info => cart
  | category => category

theorem ofText_eq_besideCart {text other : List Char}
    (h : ∀ entry ∈ keywords, (entry.2.any fun w => occursIn w.toList text) =
      (entry.1 == cart || entry.2.any fun w => occursIn w.toList other)) :
    ofText text = besideCart (ofText other) := by
  simp only [keywords, List.forall_mem_cons] at h
  obtain ⟨hError, hWarning, hPayment, hCart, hApi, -⟩ := h
  simp only [ofText, keywords, List.find?_cons, List.find?_nil, hError, hWarning, hPayment,
    hCart, hApi]
  generalize (["error", "fail"].any fun w => occursIn w.toList other) = e
  generalize (["warn"].any fun w => occursIn w.toList other) = w
  generalize (["payment", "txn", "euler", "juspay"].any fun w => occursIn w.toList other) = p
  generalize (["cart", "shipping"].any fun w => occursIn w.toList other) = c
  generalize (["gql", "api", "dbquery"].any fun w => occursIn w.toList other) = a
  revert e w p c a
  decide

/-- The names of the attributes and of the format are no words of categories, but for that of the
cart. -/
theorem eq_cart_of_occursIn_name : ∀ entry ∈ keywords, ∀ word ∈ entry.2,
    ∀ name ∈ "timestamp" :: "format" :: "raw_message" :: LineFormat.anchored.name ::
      Attribute.all.map Attribute.name,
      occursIn word.toList (lower (Json.escaped name.toList)) = true → word = "cart" := by
  decide +kernel

/-- The letters by which the words of categories are told from timestamps. -/
def tellingLetters : List Char := ['a', 'l', 'o', 'p', 'q', 's', 'w', 'x']

theorem exists_tellingLetter {word : String} (h : IsKeyword word) :
    ∃ c ∈ word.toList, c ∈ tellingLetters := by
  have hAll : ∀ entry ∈ keywords, ∀ word ∈ entry.2,
      (word.toList.any fun c => tellingLetters.contains c) = true := by decide +kernel
  obtain ⟨entry, hEntry, hWord⟩ := h
  obtain ⟨c, hc, hTelling⟩ := List.any_eq_true.mp (hAll entry hEntry word hWord)
  exact ⟨c, hc, List.contains_iff_mem.mp hTelling⟩

/-- A timestamp holds no word of a category, also where its blanks are escaped. -/
theorem not_isInfix_timestamp {word timestamp : String} {instant : Int} (h : IsKeyword word)
    (hTimestamp : Timestamp.instant? timestamp = .ok (some instant)) :
    ¬word.toList <:+: lower (Json.escaped timestamp.toList) := by
  intro hWord
  obtain ⟨d, hd, hTelling⟩ := exists_tellingLetter h
  rw [isInfix_lower_iff (isSmallWord_of_isKeyword h).ascii] at hWord
  obtain ⟨e, he, hd⟩ := List.mem_flatMap.mp (hWord.subset hd)
  obtain ⟨c, hc, he⟩ := List.mem_flatMap.mp he
  have hHold := Timestamp.mayHold_of_instant? hTimestamp c hc
  have hAscii : c.toNat < 128 := by
    by_contra hBeyond
    have hTable : ∀ d ∈ tellingLetters, d.toNat < 128 ∧ d ≠ 'i' ∧ d ≠ 'k' := by
      simp [tellingLetters]
    have hSelf : Json.escapedChar c = [c] := by
      apply Json.escapedChar_eq_self _ _ (by omega)
      · rintro rfl
        exact hBeyond (by decide)
      · rintro rfl
        exact hBeyond (by decide)
    rw [hSelf, List.mem_singleton] at he
    obtain ⟨hd', hNotI, hNotK⟩ := hTable d hTelling
    exact hBeyond (he ▸ ascii_of_mem_plainLower hd hd' hNotI hNotK)
  have hAll : ∀ n < 128, Timestamp.MayHold (Char.ofNat n) →
      ((Json.escapedChar (Char.ofNat n)).all fun e =>
        (plainLower e).all fun d => !tellingLetters.contains d) = true := by
    unfold Timestamp.MayHold
    decide +kernel
  have hNone := hAll c.toNat hAscii
  rw [Char.ofNat_toNat] at hNone
  have hNot := List.all_eq_true.mp (List.all_eq_true.mp (hNone hHold) e he) d hd
  rw [List.contains_iff_mem.mpr hTelling] at hNot
  cases hNot

end Category

/-- A word of small letters is in the text of a record that has only texts for its entries if it is in
one of the names or of the values. -/
theorem Record.isInfix_searchable_iff {r : Record} {texts : List (String × String)}
    (hEntries : r.entries = texts.map fun text => (text.1, Json.string text.2)) {w : List Char}
    (h : IsSmallWord w) : w <:+: r.searchable ↔ ∃ text ∈ texts,
      w <:+: lower (Json.escaped text.1.toList) ∨ w <:+: lower (Json.escaped text.2.toList) := by
  have hLoop : r.toJson.hasLoop = false := by
    rw [toJson, hEntries, Json.hasLoop_object_eq_false_iff]
    intro entry hEntry
    obtain ⟨text, -, rfl⟩ := List.mem_map.mp hEntry
    rfl
  have hText (text : String × String) :
      r.searchedEntry (text.1, Json.string text.2) = Json.compactEntry (text.1, .string text.2) := by
    rw [searchedEntry, hLoop]
    rfl
  rw [searchable_eq, Json.isInfix_lower_objectText_iff h, hEntries, List.map_map]
  simp only [List.mem_map, exists_exists_and_eq_and, Function.comp_apply, hText,
    Json.isInfix_lower_compactEntry_iff h]

namespace Line

theorem IsParted.isInfix {s : List Char} {tag : String} {data? : Option String}
    (h : IsParted s tag data?) : tag.toList <:+: s ∧ ∀ data ∈ data?, data.toList <:+: s := by
  cases h with
  | whole h => simp
  | atColon hNil hTag h =>
      subst h
      refine ⟨?_, ?_⟩
      · rw [String.toList_ofList]
        exact (List.prefix_append _ _).isInfix
      · rintro _ ⟨⟩
        rw [String.toList_ofList]
        exact ((List.suffix_cons _ _).trans (List.suffix_append _ _)).isInfix

/-- The value of each attribute of an anchored line is a part of the line. -/
theorem AnchoredFields.isInfix_of_attributes {line : List Char} {fields : AnchoredFields}
    (h : anchoredFields? line = some fields) {a : Attribute} {value : String}
    (hValue : fields.attributes a = some value) : value.toList <:+: line := by
  obtain ⟨-, header, ending, -, -, rfl⟩ := anchoredFields?_eq_some_iff.mp h
  have hPart {piece : List Char} (hPiece : piece ∈ header :: fields.inner ++ [fields.tagAndData]) :
      piece <:+: fields.text header ++ ending := by
    have hJoin := isInfix_join ['|'] hPiece
    refine (hJoin.trans ?_).trans (List.prefix_append _ _).isInfix
    exact ⟨fields.lineNumber ++ [':', '|'], [], by simp [AnchoredFields.text]⟩
  have hLast : fields.tagAndData <:+: fields.text header ++ ending := hPart (by simp)
  obtain ⟨hTag, hData⟩ := (isParted_splitTag fields.tagAndData).isInfix
  cases a with
  | lineNumber =>
      cases hValue
      rw [String.toList_ofList]
      exact ((List.prefix_append _ _).trans (List.prefix_append _ _)).isInfix
  | deviceId | sessionId | service | url | cartId | source | level | type =>
      cases hValue
      rw [String.toList_ofList]
      exact hPart (by simp [AnchoredFields.inner])
  | tag =>
      cases hValue
      exact hTag.trans hLast
  | data => exact (hData value hValue).trans hLast
  | _ => cases hValue

/-- The entries of the record of a line, which are all texts. -/
def texts (line timestamp : String) (format : LineFormat) (attributes : Attribute → Option String) :
    List (String × String) :=
  ("timestamp", timestamp) :: ("format", format.name) ::
    (Attribute.all.filterMap fun a => (attributes a).map fun value => (a.name, value)) ++
      [("raw_message", line)]

theorem entries_eq_texts (line timestamp : String) (format : LineFormat) (instant : Int)
    (attributes : Attribute → Option String) :
    ({ timestamp, format, instant, attributes, rawMessage := some line } : Record).entries =
      (texts line timestamp format attributes).map fun text => (text.1, Json.string text.2) := by
  simp [Record.entries, Record.ownEntries, texts, List.map_filterMap, Function.comp_def]

theorem mem_texts_iff {line timestamp : String} {format : LineFormat}
    {attributes : Attribute → Option String} {text : String × String} :
    text ∈ texts line timestamp format attributes ↔
      text = ("timestamp", timestamp) ∨ text = ("format", format.name) ∨
        (∃ a value, attributes a = some value ∧ text = (a.name, value)) ∨
          text = ("raw_message", line) := by
  simp [texts, Attribute.mem_all, eq_comm]

variable {line : String} {fallback : Option String} {r : Record}

/-- The words of categories in the text of the record of an anchored line are those in the line as it
is written there, and the one in the name of the cart. -/
theorem isInfix_searchable_iff (h : record? line fallback = .ok (some r))
    (hFormat : r.format = .anchored) {word : String} (hWord : Category.IsKeyword word) :
    word.toList <:+: r.searchable ↔
      word = "cart" ∨ word.toList <:+: lower (Json.escaped line.toList) := by
  obtain ⟨timestamp, format, attributes, instant, -, hStructure, hInstant, rfl⟩ :=
    exists_of_record? h
  obtain ⟨fields, hFields⟩ := exists_anchoredFields?_of_structure? hStructure hFormat
  have hSmall := Category.isSmallWord_of_isKeyword hWord
  rw [structure?, hFields] at hStructure
  cases hStructure
  rw [Record.isInfix_searchable_iff (entries_eq_texts _ _ _ _ _) hSmall]
  have hName (name : String)
      (hName : name ∈ "timestamp" :: "format" :: "raw_message" :: LineFormat.anchored.name ::
        Attribute.all.map Attribute.name)
      (hIn : word.toList <:+: lower (Json.escaped name.toList)) : word = "cart" := by
    obtain ⟨entry, hEntry, hMem⟩ := hWord
    exact Category.eq_cart_of_occursIn_name entry hEntry word hMem name hName (occursIn_iff.mpr hIn)
  have hCart : "cart".toList <:+: lower (Json.escaped Attribute.cartId.name.toList) :=
    occursIn_iff.mp (by decide +kernel)
  constructor
  · rintro ⟨text, hText, hIn⟩
    rcases mem_texts_iff.mp hText with rfl | rfl | ⟨a, value, hValue, rfl⟩ | rfl
    · rcases hIn with hIn | hIn
      · exact Or.inl (hName _ (by simp) hIn)
      · exact absurd hIn (Category.not_isInfix_timestamp hWord hInstant)
    · exact Or.inl (hIn.elim (hName _ (by simp)) (hName _ (by simp)))
    · rcases hIn with hIn | hIn
      · exact Or.inl (hName _ (by simp [Attribute.mem_all]) hIn)
      · have hPart := (AnchoredFields.isInfix_of_attributes hFields hValue).flatMap Json.escapedChar
        exact Or.inr (isInfix_lower_of_isInfix hSmall.ascii hPart hIn)
    · exact hIn.imp_left (hName _ (by simp))
  · rintro (rfl | hLine)
    · exact ⟨_, mem_texts_iff.mpr (Or.inr (Or.inr (Or.inl ⟨.cartId, _, rfl, rfl⟩))), Or.inl hCart⟩
    · exact ⟨("raw_message", line), by simp [texts], Or.inr hLine⟩

theorem ofText_searchable (h : record? line fallback = .ok (some r))
    (hFormat : r.format = .anchored) :
    Category.ofText r.searchable =
      Category.besideCart (Category.ofText (lower (Json.escaped line.toList))) := by
  have hCart : ∀ entry ∈ Category.keywords, "cart" ∈ entry.2 ↔ entry.1 = .cart := by decide
  apply Category.ofText_eq_besideCart
  intro entry hEntry
  have hWords (word : String) (hWord : word ∈ entry.2) : word.toList <:+: r.searchable ↔
      word = "cart" ∨ word.toList <:+: lower (Json.escaped line.toList) :=
    isInfix_searchable_iff h hFormat ⟨entry, hEntry, hWord⟩
  rw [Bool.eq_iff_iff, Bool.or_eq_true, beq_iff_eq, ← hCart entry hEntry]
  simp only [List.any_eq_true, occursIn_iff]
  constructor
  · rintro ⟨word, hWord, hIn⟩
    rcases (hWords word hWord).mp hIn with rfl | hIn
    · exact Or.inl hWord
    · exact Or.inr ⟨word, hWord, hIn⟩
  · rintro (hWord | ⟨word, hWord, hIn⟩)
    · exact ⟨"cart", hWord, (hWords _ hWord).mpr (Or.inl rfl)⟩
    · exact ⟨word, hWord, (hWords word hWord).mpr (Or.inr hIn)⟩

/-- The level and the type of an anchored line say nothing about the category of its record where the
line holds none of the words of categories. -/
theorem category_eq (h : record? line fallback = .ok (some r)) (hFormat : r.format = .anchored)
    (hWordless : ∀ word, Category.IsKeyword word → ¬word.toList <:+: lower line.toList) :
    r.category = Category.besideCart (Category.ofText (lower (Json.escaped line.toList))) := by
  rw [Record.category, ofText_searchable h hFormat]
  obtain ⟨timestamp, format, attributes, instant, -, hStructure, -, rfl⟩ := exists_of_record? h
  obtain ⟨fields, hFields⟩ := exists_anchoredFields?_of_structure? hStructure hFormat
  rw [structure?, hFields] at hStructure
  cases hStructure
  have hValue {a : Attribute} {value : String} (h : fields.attributes a = some value) :
      ∀ word, Category.IsKeyword word → ¬word.toList <:+: lower value.toList := by
    intro word hWord hIn
    refine hWordless word hWord (isInfix_lower_of_isInfix ?_ ?_ hIn)
    · exact (Category.isSmallWord_of_isKeyword hWord).ascii
    · exact AnchoredFields.isInfix_of_attributes hFields h
  have hLevel := Category.ofLevel?_eq_none (hValue (a := .level) rfl)
  have hType := Category.ofType?_eq_none (hValue (a := .type) rfl)
  change ((Category.ofLevel? (.string _)).or (Category.ofType? (.string _))).getD _ = _
  rw [hLevel, hType]
  rfl

/-- An anchored line without a word of a category has a record of the category of the cart, for the
name of the cart holds such a word. Only where an escape adds its last letter to the line there can
be a word that is looked for before that one, and this takes a control character. -/
theorem category_of_wordless (h : record? line fallback = .ok (some r))
    (hFormat : r.format = .anchored)
    (hWordless : ∀ word, Category.IsKeyword word → ¬word.toList <:+: lower line.toList) :
    r.category = (match Category.ofText (lower (Json.escaped line.toList)) with
      | .error => .error
      | .payment => .payment
      | _ => .cart) ∧
    ((∀ c ∈ line.toList, 0x20 ≤ c.toNat) → r.category = .cart) := by
  have hEscaped (word : String) (hWord : Category.IsKeyword word)
      (hIn : word.toList <:+: lower (Json.escaped line.toList)) :
      ∃ c ∈ line.toList, c.toNat < 0x20 ∧ (Json.escapedChar c).getLast? = word.toList.head? :=
    (Json.isInfix_lower_escaped (Category.isSmallWord_of_isKeyword hWord) [] hIn).resolve_left
      (hWordless word hWord)
  rw [category_eq h hFormat hWordless]
  have hNotWarning : Category.ofText (lower (Json.escaped line.toList)) ≠ .warning := by
    intro hWarning
    have hTable : ∀ entry ∈ Category.keywords, entry.1 = .warning →
        ∀ word ∈ entry.2, word.toList.head? = some 'w' := by decide
    have hEnds : ∀ n < 0x20, (Json.escapedChar (Char.ofNat n)).getLast? ≠ some 'w' := by decide
    obtain ⟨entry, hEntry, hOwn, word, hWord, hIn⟩ :=
      Category.exists_word_of_ofText (by rw [hWarning]; decide)
    obtain ⟨c, -, hControl, hEnd⟩ := hEscaped word ⟨entry, hEntry, hWord⟩ hIn
    rw [hTable entry hEntry (hOwn.trans hWarning) word hWord] at hEnd
    exact hEnds c.toNat hControl (by rw [Char.ofNat_toNat, hEnd])
  constructor
  · generalize Category.ofText (lower (Json.escaped line.toList)) = category at hNotWarning ⊢
    cases category with
    | warning => exact absurd rfl hNotWarning
    | _ => rfl
  · intro hPrintable
    have hInfo : Category.ofText (lower (Json.escaped line.toList)) = .info := by
      by_contra hOther
      obtain ⟨entry, hEntry, -, word, hWord, hIn⟩ := Category.exists_word_of_ofText hOther
      obtain ⟨c, hc, hControl, -⟩ := hEscaped word ⟨entry, hEntry, hWord⟩ hIn
      exact absurd (hPrintable c hc) (Nat.not_le_of_lt hControl)
    rw [hInfo]
    rfl

/-- An anchored line without a word of a category. -/
private def wordlessLine : String :=
  "7:|2025-10-15T07:33:22.6+02:00|dev|id|pay|||web|INFO|EVENT|note:hello"

/-- An anchored line in which a tab, where it is escaped, completes a word of a category. -/
private def tabbedLine : String :=
  "7:|2025-10-15T07:33:22.6+02:00|dev|id|pay|||web|INFO|EVENT|note:a\txn"

private theorem not_isInfix_of_none {line : String}
    (h : (Category.keywords.all fun entry => entry.2.all fun word =>
      !occursIn word.toList (lower line.toList)) = true) {word : String}
    (hWord : Category.IsKeyword word) : ¬word.toList <:+: lower line.toList := by
  obtain ⟨entry, hEntry, hMem⟩ := hWord
  have hNot := List.all_eq_true.mp (List.all_eq_true.mp h entry hEntry) word hMem
  rw [← occursIn_iff]
  simpa using hNot

private theorem wordlessLine_wordless {word : String} (hWord : Category.IsKeyword word) :
    ¬word.toList <:+: lower wordlessLine.toList := not_isInfix_of_none (by decide +kernel) hWord

theorem category_of_wordless_tabbed :
    (∃ r, record? wordlessLine none = .ok (some r) ∧ r.format = .anchored ∧
      (∀ word, Category.IsKeyword word → ¬word.toList <:+: lower wordlessLine.toList) ∧
      (∀ c ∈ wordlessLine.toList, 0x20 ≤ c.toNat) ∧ r.category = .cart) ∧
    ∃ r, record? tabbedLine none = .ok (some r) ∧ r.format = .anchored ∧
      (∀ word, Category.IsKeyword word → ¬word.toList <:+: lower tabbedLine.toList) ∧
      r.category = .payment := by
  have hRead (line : String) (h : (record? line none).toOption.map (Option.map (·.format)) =
      some (some .anchored)) : ∃ r, record? line none = .ok (some r) ∧ r.format = .anchored := by
    obtain ⟨_, h, hSome⟩ := toOption_map_eq_some h
    obtain ⟨r, rfl, hFormat⟩ := Option.map_eq_some_iff.mp hSome
    exact ⟨r, h, hFormat⟩
  constructor
  · obtain ⟨r, h, hFormat⟩ := hRead wordlessLine (by decide +kernel)
    have hPrintable : ∀ c ∈ wordlessLine.toList, 0x20 ≤ c.toNat := by
      have hAll : (wordlessLine.toList.all fun c => decide (0x20 ≤ c.toNat)) = true := by
        decide +kernel
      intro c hc
      simpa using List.all_eq_true.mp hAll c hc
    exact ⟨r, h, hFormat, fun _ => wordlessLine_wordless, hPrintable,
      (category_of_wordless h hFormat fun _ => wordlessLine_wordless).2 hPrintable⟩
  · obtain ⟨r, h, hFormat⟩ := hRead tabbedLine (by decide +kernel)
    have hWordless (word : String) (hWord : Category.IsKeyword word) :
        ¬word.toList <:+: lower tabbedLine.toList := not_isInfix_of_none (by decide +kernel) hWord
    have hPayment : Category.ofText (lower (Json.escaped tabbedLine.toList)) = .payment := by
      decide +kernel
    have hCategory := (category_of_wordless h hFormat hWordless).1
    rw [hPayment] at hCategory
    exact ⟨r, h, hFormat, hWordless, hCategory⟩

/-- The name of an attribute alone gives an anchored line a category. -/
theorem name_of_cart_categorizes :
    ∃ r, record? wordlessLine none = .ok (some r) ∧ r.format = .anchored ∧
      (∀ word, Category.IsKeyword word → ¬word.toList <:+: lower wordlessLine.toList) ∧
      r.category = .cart ∧ r.category ≠ .info := by
  have hRead : (record? wordlessLine none).toOption.map
      (Option.map fun r => (r.format, r.category)) = some (some (.anchored, .cart)) := by
    decide +kernel
  obtain ⟨_, h, hSome⟩ := toOption_map_eq_some hRead
  obtain ⟨r, rfl, hParts⟩ := Option.map_eq_some_iff.mp hSome
  obtain ⟨hFormat, hCategory⟩ := Prod.mk.inj hParts
  refine ⟨r, h, hFormat, fun _ => wordlessLine_wordless, hCategory, ?_⟩
  rw [hCategory]
  decide

end Line

end LogViewer
