import Mathlib
import LogViewer.Proofs.Document.Numbering
import LogViewer.Proofs.Json.Moves

/-! Values that do not contain themselves. A value that was read from text is one of them, and so is
all that is inside such a value. -/
namespace LogViewer.Json

theorem hasLoopList_eq_false_iff {items : List Json} :
    hasLoopList items = false ↔ ∀ v ∈ items, v.hasLoop = false := by
  induction items with
  | nil => simp [hasLoopList]
  | cons v items ih => simp [hasLoopList, ih]

theorem hasLoopEntries_eq_false_iff {entries : List (String × Json)} :
    hasLoopEntries entries = false ↔ ∀ entry ∈ entries, entry.2.hasLoop = false := by
  induction entries with
  | nil => simp [hasLoopEntries]
  | cons entry entries ih => simp [hasLoopEntries, ih]

theorem hasLoop_array_eq_false_iff {items : List Json} :
    (array items).hasLoop = false ↔ ∀ v ∈ items, v.hasLoop = false := by
  rw [hasLoop, hasLoopList_eq_false_iff]

theorem hasLoop_object_eq_false_iff {entries : List (String × Json)} :
    (object entries).hasLoop = false ↔ ∀ entry ∈ entries, entry.2.hasLoop = false := by
  rw [hasLoop, hasLoopEntries_eq_false_iff]

theorem mem_put {α : Type} {entries : List (String × α)} {key : String} {value : α}
    {entry : String × α} (h : entry ∈ put entries key value) :
    entry = (key, value) ∨ entry ∈ entries := by
  induction entries with
  | nil => exact Or.inl (List.mem_singleton.mp h)
  | cons first entries ih =>
      rw [put] at h
      split at h
      · rename_i hKey
        rcases List.mem_cons.mp h with rfl | h
        · exact Or.inl (by rw [hKey])
        · exact Or.inr (List.mem_cons_of_mem _ h)
      · rcases List.mem_cons.mp h with rfl | h
        · exact Or.inr List.mem_cons_self
        · exact (ih h).imp_right (List.mem_cons_of_mem _)

/-- The values that a container that is open holds so far. -/
def Open.values : Open → List Json
  | .array items => items
  | .object entries | .entry entries _ => entries.map (·.2)

/-- Whether no value that a reading holds at some point contains itself. -/
structure LoopFree (expected : Expected) (stack : List Open) : Prop where
  document : ∀ v, expected = .nothing v → v.hasLoop = false
  inside : ∀ o ∈ stack, ∀ v ∈ o.values, v.hasLoop = false

/-- The same values are free of loops where anything but the end of the text is expected. -/
theorem LoopFree.expecting {expected : Expected} {stack : List Open}
    (h : ∀ o ∈ stack, ∀ v ∈ o.values, v.hasLoop = false) (hMore : ∀ v, expected ≠ .nothing v) :
    LoopFree expected stack :=
  ⟨fun v hv => absurd hv (hMore v), h⟩

theorem loopFree_complete {v : Json} {stack : List Open} (hv : v.hasLoop = false)
    (h : ∀ o ∈ stack, ∀ w ∈ o.values, w.hasLoop = false) :
    LoopFree (complete v stack).1 (complete v stack).2 := by
  unfold complete
  split
  · refine ⟨?_, by simp⟩
    rintro _ ⟨⟩
    exact hv
  · obtain ⟨hOpen, hRest⟩ := List.forall_mem_cons.mp h
    refine LoopFree.expecting (List.forall_mem_cons.mpr ⟨?_, hRest⟩) (by simp)
    exact List.forall_mem_cons.mpr ⟨hv, hOpen⟩
  · obtain ⟨hOpen, hRest⟩ := List.forall_mem_cons.mp h
    refine LoopFree.expecting (List.forall_mem_cons.mpr ⟨?_, hRest⟩) (by simp)
    intro w hw
    obtain ⟨entry, hEntry, rfl⟩ := List.mem_map.mp hw
    rcases mem_put hEntry with rfl | hOld
    · exact hv
    · exact hOpen _ (List.mem_map_of_mem hOld)
  · exact LoopFree.expecting h (by simp)

theorem scanText_ne_scalar [Text.StandIns] (start taken : Nat) (before s : List Char) (v : Json) :
    (scanText start taken before s).1 ≠ .scalar v := by
  fun_induction scanText start taken before s with
  | case3 taken before c rest d extra hPiece ih => exact ih
  | _ => simp

theorem hasLoop_of_numeral {n : Numeral} {v : Json} (h : n.token = .scalar v) :
    v.hasLoop = false := by
  unfold Numeral.token at h
  split at h
  · split at h
    · cases h
    · cases h
      rfl
  · cases h
    rfl

/-- No word is a value that contains itself. -/
theorem hasLoop_of_scanToken [Text.StandIns] {offset : Nat} {c : Char} {s : List Char} {v : Json}
    (h : (scanToken offset c s).1 = .scalar v) : v.hasLoop = false := by
  unfold scanToken at h
  split at h
  case h_7 => exact absurd h (scanText_ne_scalar offset 0 [] s v)
  case h_8 =>
    split at h
    · rename_i word value hFind
      cases h
      have hNamed : ∀ p ∈ namedValues, p.2.hasLoop = false := by decide
      exact hNamed _ (List.mem_of_find?_eq_some hFind)
    · split at h
      · exact hasLoop_of_numeral h
      · cases h
  all_goals cases h

theorem hasLoop_of_mem_tokens [Text.StandIns] {offset : Nat} {s : List Char} {word : Placed}
    (h : word ∈ tokens offset s) {v : Json} (hScalar : word.token = .scalar v) :
    v.hasLoop = false := by
  fun_induction tokens offset s with
  | case1 => cases h
  | case2 offset c s hSpace ih => exact ih h
  | case3 offset c s hSpace token extra hScan ih =>
      rcases List.mem_cons.mp h with rfl | h
      · exact hasLoop_of_scanToken ((congrArg Prod.fst hScan).trans hScalar)
      · exact ih h

/-- No move puts a value that contains itself into what is read. -/
theorem LoopFree.move {expected expected' : Expected} {stack stack' : List Open} {token : Token}
    (h : LoopFree expected stack) (hToken : ∀ v, token = .scalar v → v.hasLoop = false)
    (hMove : Move token stack expected' stack') : LoopFree expected' stack' := by
  cases hMove with
  | opens hEmpty hMore =>
      refine LoopFree.expecting (List.forall_mem_cons.mpr ⟨?_, h.inside⟩) hMore
      rcases hEmpty with rfl | rfl <;> simp [Open.values]
  | parts hMore => exact LoopFree.expecting h.inside hMore
  | begins =>
      have hInside := List.forall_mem_cons.mp h.inside
      exact LoopFree.expecting (List.forall_mem_cons.mpr hInside) (by simp)
  | adds hValue =>
      refine loopFree_complete ?_ h.inside
      rcases hValue with ⟨s, rfl⟩ | hScalar
      · rfl
      · exact hToken _ hScalar
  | closesArray =>
      obtain ⟨hItems, hRest⟩ := List.forall_mem_cons.mp h.inside
      refine loopFree_complete ?_ hRest
      rw [hasLoop_array_eq_false_iff]
      exact fun v hv => hItems v (List.mem_reverse.mp hv)
  | closesObject =>
      obtain ⟨hEntries, hRest⟩ := List.forall_mem_cons.mp h.inside
      refine loopFree_complete ?_ hRest
      rw [hasLoop_object_eq_false_iff]
      exact fun entry hEntry => hEntries _ (List.mem_map_of_mem hEntry)

theorem LoopFree.takeAll {size : Nat} {expected : Expected} {stack : List Open}
    {words : List Placed} {v : Json} (h : LoopFree expected stack)
    (hWords : ∀ word ∈ words, ∀ v, word.token = .scalar v → v.hasLoop = false)
    (hTake : takeAll size expected stack words = .ok v) : v.hasLoop = false := by
  obtain ⟨_, hEnd⟩ := takeAll_keeps h
    (fun word hWord _ _ _ _ _ hMove hFree => hFree.move (hWords word hWord) hMove) hTake
  exact hEnd.document v rfl

/-- A value that was read from text does not contain itself. -/
theorem hasLoop_of_readMarked [Text.StandIns] {s : List Char} {v : Json} (h : readMarked s = .ok v) :
    v.hasLoop = false := by
  have hStart : LoopFree .value [] := LoopFree.expecting (by simp) (by simp)
  exact hStart.takeAll (fun _ hWord _ => hasLoop_of_mem_tokens hWord) (mapError_eq_ok h)

theorem hasLoop_of_read [Text.StandIns] {s : List Char} {v : Json} (h : read s = .ok v) :
    v.hasLoop = false := by
  unfold read at h
  split at h
  · cases h
  · exact hasLoop_of_readMarked h

theorem hasLoop_of_mem_parts {v : Json} (h : v.hasLoop = false) {part : String × Json}
    (hPart : part ∈ Payload.parts v) : part.2.hasLoop = false := by
  cases v with
  | array items =>
      obtain ⟨⟨item, i⟩, hItem, rfl⟩ := List.mem_map.mp hPart
      exact hasLoop_array_eq_false_iff.mp h item (List.fst_mem_of_mem_zipIdx hItem)
  | object entries => exact hasLoop_object_eq_false_iff.mp h part hPart
  | _ => cases hPart

/-- The containers inside a value that does not contain itself do not either. -/
theorem hasLoop_of_mem_containersWithin :
    (∀ v : Json, v.hasLoop = false → ∀ w ∈ v.containersWithin, w.hasLoop = false) ∧
      ∀ parts : List (String × Json), (∀ part ∈ parts, part.2.hasLoop = false) →
        ∀ w ∈ containersAmong parts, w.hasLoop = false := by
  refine induction_parts (fun v ih h w hw => ?_) (by simp [containersAmong])
    (fun name v parts hHead hTail h w hw => ?_)
  · rw [containersWithin_eq] at hw
    split at hw
    · rcases List.mem_cons.mp hw with rfl | hw
      · exact h
      · exact ih (fun part hPart => hasLoop_of_mem_parts h hPart) w hw
    · cases hw
  · obtain ⟨hv, hParts⟩ := List.forall_mem_cons.mp h
    rw [containersAmong, List.flatMap_cons, List.mem_append] at hw
    rcases hw with hw | hw
    · exact hHead hv w hw
    · exact hTail hParts w hw

end LogViewer.Json
