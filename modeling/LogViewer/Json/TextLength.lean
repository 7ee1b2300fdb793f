import LogViewer.Json.Reader

/-! The length of the longest text inside a value. A value that was read from text holds no text as
long as that one, because the marks around a text are not part of it. -/
namespace LogViewer.Json

mutual

/-- The length of the longest text inside a value; the keys of objects do not count. -/
def longest : Json → Nat
  | string s => s.length
  | array items => longestItem items
  | object entries => longestEntry entries
  | _ => 0

def longestItem : List Json → Nat
  | [] => 0
  | v :: items => max (longest v) (longestItem items)

def longestEntry : List (String × Json) → Nat
  | [] => 0
  | (_, v) :: entries => max (longest v) (longestEntry entries)

end

def Token.longest : Token → Nat
  | .text s => s.length
  | .scalar v => v.longest
  | _ => 0

def Open.longest : Open → Nat
  | .array items => longestItem items
  | .object entries | .entry entries _ => longestEntry entries

def Expected.longest : Expected → Nat
  | .nothing v => v.longest
  | _ => 0

/-- The length of the longest text inside the containers that are open. -/
def longestOpen : List Open → Nat
  | [] => 0
  | o :: stack => max o.longest (longestOpen stack)

theorem longestItem_append (items others : List Json) :
    longestItem (items ++ others) = max (longestItem items) (longestItem others) := by
  induction items with
  | nil => simp [longestItem]
  | cons v items ih => simp [longestItem, ih, Nat.max_assoc]

theorem longestItem_reverse (items : List Json) :
    longestItem items.reverse = longestItem items := by
  induction items with
  | nil => rfl
  | cons v items ih => simp [longestItem, longestItem_append, ih, Nat.max_comm]

theorem longestEntry_put_le (entries : List (String × Json)) (key : String) (v : Json) :
    longestEntry (put entries key v) ≤ max (longestEntry entries) v.longest := by
  induction entries with
  | nil => simp [put, longestEntry]
  | cons e entries ih =>
    rw [put]
    split <;> simp only [longestEntry] <;> omega

theorem length_of_scanText [Text.StandIns] {start taken n : Nat} {before rest : List Char}
    {s : String} (h : scanText start taken before rest = (.text s, n)) :
    s.length + 1 ≤ before.length + rest.length := by
  fun_induction scanText start taken before rest with
  | case1 => simp at h
  | case2 =>
    simp only [Prod.mk.injEq, Token.text.injEq] at h
    obtain ⟨rfl, -⟩ := h
    simp
  | case3 taken before c rest d extra _ ih =>
    have := ih h
    simp only [List.length_cons, List.length_drop] at this ⊢
    omega
  | case4 => simp at h
  | case5 => simp at h

theorem longest_scanText_le [Text.StandIns] (start taken : Nat) (before rest : List Char) :
    (scanText start taken before rest).1.longest ≤ before.length + rest.length := by
  match h : scanText start taken before rest with
  | (.text s, n) =>
    have := length_of_scanText h
    simp only [Token.longest]
    omega
  | (.scalar v, n) =>
    exfalso
    fun_induction scanText start taken before rest <;> simp_all
  | (.openObject, _) | (.closeObject, _) | (.openArray, _) | (.closeArray, _) | (.colon, _)
  | (.comma, _) | (.overlong _, _) | (.brokenText _ _, _) | (.stray, _) => simp [Token.longest]

theorem longest_numeral (n : Numeral) : n.token.longest = 0 := by
  unfold Numeral.token
  split
  · split <;> simp [Token.longest, longest]
  · simp [Token.longest, longest]

theorem longest_scanToken_le [Text.StandIns] (offset : Nat) (c : Char) (s : List Char) :
    (scanToken offset c s).1.longest ≤ s.length := by
  unfold scanToken
  split
  case h_7 => simpa using longest_scanText_le offset 0 [] s
  case h_8 =>
    split
    · rename_i word value found
      have := List.mem_of_find?_eq_some found
      simp only [namedValues, List.mem_cons, Prod.mk.injEq, List.not_mem_nil, or_false] at this
      rcases this with h | h | h | h | h | h <;> simp [h, Token.longest, longest]
    · split
      · simp [longest_numeral]
      · simp [Token.longest]
  all_goals simp [Token.longest]

theorem longest_lt_of_mem_tokens [Text.StandIns] {offset : Nat} {s : List Char} {w : Placed}
    (h : w ∈ tokens offset s) : w.token.longest < s.length := by
  fun_induction tokens offset s with
  | case1 => simp at h
  | case2 _ _ _ _ ih =>
    have := ih h
    simp only [List.length_cons]
    omega
  | case3 offset c s _ token extra eq ih =>
    rcases List.mem_cons.1 h with rfl | h
    · have := longest_scanToken_le offset c s
      simp only [eq, List.length_cons] at this ⊢
      omega
    · have := ih h
      simp only [List.length_drop, List.length_cons] at this ⊢
      omega

theorem longest_complete_le (v : Json) (stack : List Open) :
    max (complete v stack).1.longest (longestOpen (complete v stack).2) ≤
      max v.longest (longestOpen stack) := by
  unfold complete
  split <;> simp only [Expected.longest, longestOpen, Open.longest, longestItem]
  · omega
  · omega
  · rename_i entries key stack
    have := longestEntry_put_le entries key v
    omega
  · omega

theorem longest_takeValue_le {stack stack' : List Open} {word : Placed} {e : Expected}
    (h : takeValue stack word = .ok (e, stack')) :
    max e.longest (longestOpen stack') ≤ max (longestOpen stack) word.token.longest := by
  unfold takeValue at h
  split at h <;> rename_i eq <;> simp only [Except.ok.injEq, reduceCtorEq] at h
  · cases h
    simp only [Expected.longest, longestOpen, Open.longest, longestEntry]
    omega
  · cases h
    simp only [Expected.longest, longestOpen, Open.longest, longestItem]
    omega
  · rename_i s
    have := longest_complete_le (.string s) stack
    rw [h] at this
    simp only [eq, Token.longest, longest] at this ⊢
    omega
  · rename_i v
    have := longest_complete_le v stack
    rw [h] at this
    simp only [eq, Token.longest] at this ⊢
    omega

theorem longest_takeName_le {stack stack' : List Open} {word : Placed} {e : Expected}
    (h : takeName stack word = .ok (e, stack')) :
    max e.longest (longestOpen stack') ≤ max (longestOpen stack) word.token.longest := by
  unfold takeName at h
  split at h <;> simp only [Except.ok.injEq, reduceCtorEq] at h
  cases h
  simp only [Expected.longest]
  omega

theorem longest_takeWord_le {e e' : Expected} {stack stack' : List Open} {word : Placed}
    (h : takeWord e stack word = .ok (e', stack')) :
    max e'.longest (longestOpen stack') ≤ max (longestOpen stack) word.token.longest := by
  unfold takeWord at h
  split at h
  · exact longest_takeValue_le h
  · split at h
    · rename_i items rest _
      have := longest_complete_le (.array items.reverse) rest
      simp only [Except.ok.injEq] at h
      rw [h] at this
      simp only [longest, longestItem_reverse, longestOpen, Open.longest] at this ⊢
      omega
    · exact longest_takeValue_le h
  · exact longest_takeName_le h
  · split at h
    · rename_i entries rest _
      have := longest_complete_le (.object entries) rest
      simp only [Except.ok.injEq] at h
      rw [h] at this
      simp only [longest, longestOpen, Open.longest] at this ⊢
      omega
    · exact longest_takeName_le h
  · split at h
    · cases h
      simp only [Expected.longest, longestOpen, Open.longest]
      omega
    · cases h
  · split at h
    · cases h
      simp only [Expected.longest]
      omega
    · cases h
      simp only [Expected.longest]
      omega
    · rename_i items rest _
      have := longest_complete_le (.array items.reverse) rest
      simp only [Except.ok.injEq] at h
      rw [h] at this
      simp only [longest, longestItem_reverse, longestOpen, Open.longest] at this ⊢
      omega
    · rename_i entries rest _
      have := longest_complete_le (.object entries) rest
      simp only [Except.ok.injEq] at h
      rw [h] at this
      simp only [longest, longestOpen, Open.longest] at this ⊢
      omega
    · cases h
  · cases h

theorem longest_takeAll_lt {size bound : Nat} {e : Expected} {stack : List Open}
    {words : List Placed} {v : Json} (h : takeAll size e stack words = .ok v)
    (inside : max e.longest (longestOpen stack) < bound)
    (short : ∀ w ∈ words, w.token.longest < bound) : v.longest < bound := by
  induction words generalizing e stack with
  | nil =>
    cases e with
    | nothing document =>
      cases h
      simp only [Expected.longest] at inside
      omega
    | _ => cases h
  | cons word words ih =>
    rw [takeAll] at h
    cases taken : takeWord e stack word with
    | error _ => simp [taken, bind, Except.bind] at h
    | ok next =>
      obtain ⟨e', stack'⟩ := next
      simp only [taken, bind, Except.bind] at h
      have := longest_takeWord_le taken
      have := short word (List.mem_cons_self ..)
      refine ih h ?_ fun w mem => short w (List.mem_cons_of_mem _ mem)
      omega

/-- Texts inside a value are shorter than the text that it was read from. -/
theorem longest_of_read [Text.StandIns] {s : List Char} {v : Json} (h : read s = .ok v) :
    v.longest < s.length := by
  unfold read at h
  split at h
  · cases h
  · cases s with
    | nil =>
      rw [readMarked, tokens] at h
      cases h
    | cons c s =>
      unfold readMarked at h
      cases taken : takeAll (c :: s).length .value [] (tokens 0 (c :: s)) with
      | error _ =>
        rw [taken] at h
        cases h
      | ok w =>
        rw [taken] at h
        cases h
        exact longest_takeAll_lt taken (by simp [Expected.longest, longestOpen])
          fun _ => longest_lt_of_mem_tokens

end LogViewer.Json
