import Mathlib
import LogViewer.Proofs.Corpus.Production
import LogViewer.Proofs.Track.Window
import LogViewer.Track.Rendered

/-! What is drawn of a track in exact arithmetic: a box for each record in a window, with the place
of the record in the row, so that no two boxes have the same place. -/
namespace LogViewer

/-- Among things with growing numbers one alone has a number. -/
theorem filter_number_eq {α : Type} {l : List (α × Nat)}
    (hNumbers : l.Pairwise fun p q => p.2 < q.2) {p : α × Nat} (hp : p ∈ l) :
    l.filter (fun q => q.2 == p.2) = [p] := by
  induction l with
  | nil => cases hp
  | cons q l ih =>
      obtain ⟨hLater, hRest⟩ := List.pairwise_cons.mp hNumbers
      rcases List.mem_cons.mp hp with rfl | hp
      · have hNone : l.filter (fun q => q.2 == p.2) = [] := by
          rw [List.filter_eq_nil_iff]
          intro r hr
          have hLt := hLater r hr
          simp only [beq_iff_eq]
          omega
        rw [List.filter_cons_of_pos (by simp), hNone]
      · have hLt := hLater p hp
        rw [List.filter_cons_of_neg (by simp only [beq_iff_eq]; omega), ih hRest hp]

/-- The members of a list whose places are in a window, with their places. -/
def Window.of {α : Type} (w : Window) (l : List α) : List (α × Nat) :=
  (l.zipIdx.drop w.start).take w.size

theorem Window.mem_of {α : Type} {w : Window} {l : List α} {t : Nat} {a : α}
    (ht : l[t]? = some a) (hStart : w.start ≤ t) (hStop : t < w.stop) : (a, t) ∈ w.of l := by
  have hSize : t - w.start < w.size := by
    unfold Window.size
    omega
  have hPlace : (w.of l)[t - w.start]? = some (a, t) := by
    have hSame : w.start + (t - w.start) = t := by omega
    rw [Window.of, List.getElem?_take_of_lt hSize, List.getElem?_drop, List.getElem?_zipIdx]
    simp [hSame, ht]
  exact List.mem_of_getElem? hPlace

theorem Window.pairwise_of {α : Type} (w : Window) (l : List α) :
    (w.of l).Pairwise fun p q => p.2 < q.2 := by
  have hSublist : (w.of l).Sublist l.zipIdx :=
    (List.take_sublist _ _).trans (List.drop_sublist _ _)
  exact (pairwise_zipIdx l 0).sublist hSublist

/-- What is drawn of a record of a track with a width and lanes. -/
def boxOf (width : Rat) (lanes : List Int) (selected : Option Nat) (p : (Record × Int) × Nat) :
    RenderedBox Rat where
  index := p.2
  position := p.1.2 / width
  lane := lanes[p.2]?.getD 0
  category := p.1.1.category
  label := p.1.1.label
  timestamp := p.1.1.timestamp
  selected := selected == some p.2

/-- Once a track has a width and lanes nothing can keep a record in a window from being drawn. -/
theorem Layout.render_eq {l : Layout Rat} {width : Rat} (hWidth : l.trackWidth = .ok width)
    (hPos : 0 < width) {lanes : List Int} (hLanes : l.lanes = .ok lanes) (w : Window)
    (selected : Option Nat) :
    l.render w selected =
      .ok ((w.of (l.records.zip l.pixels)).map (boxOf width lanes selected)) := by
  unfold render
  apply mapM_eq_ok_map
  rintro ⟨⟨r, pixel⟩, index⟩ -
  have hShare : shareOf l.trackWidth pixel = .ok ((pixel : Rat) / width) := by
    rw [hWidth]
    exact if_neg hPos.ne'
  simp only [hShare, hLanes]
  rfl

/-- The box of a record in a window is the only one with its place. -/
theorem filter_boxOf_eq {l : Layout Rat} {t : Nat} {r : Record} (hr : l.records[t]? = some r)
    {w : Window} (hStart : w.start ≤ t) (hStop : t < w.stop) (width : Rat) (lanes : List Int) :
    ∃ pixel, ((w.of (l.records.zip l.pixels)).map (boxOf width lanes (some t))).filter
      (·.selected) = [boxOf width lanes (some t) ((r, pixel), t)] := by
  have hLength : t < l.pixels.length := by
    rw [Layout.length_pixels]
    exact (List.getElem?_eq_some_iff.mp hr).1
  have hZip : (l.records.zip l.pixels)[t]? = some (r, l.pixels[t]) := by
    rw [List.getElem?_zip_eq_some]
    exact ⟨hr, List.getElem?_eq_getElem hLength⟩
  have hSelected : (fun b : RenderedBox Rat => b.selected) ∘ boxOf width lanes (some t) =
      fun p : (Record × Int) × Nat => p.2 == t := by
    funext p
    rw [Function.comp_apply, boxOf, Bool.eq_iff_iff, beq_iff_eq, beq_iff_eq, Option.some_inj]
    exact eq_comm
  refine ⟨l.pixels[t], ?_⟩
  rw [List.filter_map, hSelected,
    filter_number_eq (w.pairwise_of _) (w.mem_of hZip hStart hStop)]
  rfl

end LogViewer
