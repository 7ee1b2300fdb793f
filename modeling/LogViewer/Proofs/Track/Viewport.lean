import Mathlib
import LogViewer.Proofs.Numeric.Order
import LogViewer.Proofs.Track.Window

/-! Viewports and what is rendered for them. The window of a viewport is wider than the viewport by a
buffer on either side, so it holds whatever the viewport shows, also where the ends of the buffer
are rounded. This takes a buffer that is not negative, which is nothing that settings are checked
for: a negative one makes the window narrower than the viewport. -/
namespace LogViewer

theorem Number.zero_le_zero : Number.le (.int 0) (.double (.zero false)) = true :=
  le_int_double.mpr (Or.inr ⟨0, Double.toRat?_zero false, Int.cast_zero.le⟩)

/-- A part of a track from an offset on, with a width, that has an end. -/
structure Viewport where
  start : Number
  width : Number
  stop : Number
  start_isRepresentable : start.IsRepresentable
  width_isRepresentable : width.IsRepresentable
  start_nonneg : Number.le (.int 0) start = true
  width_nonneg : Number.le (.int 0) width = true
  stop_eq : Number.add start width = .ok stop

namespace Viewport

/-- Whether an offset of the track lies in a viewport. -/
def Shows (v : Viewport) (pixel : Int) : Prop :=
  Number.le v.start (.int pixel) = true ∧ Number.le (.int pixel) v.stop = true

theorem stop_nonneg (v : Viewport) :
    v.stop.IsRepresentable ∧ Number.le (.int 0) v.stop = true :=
  Number.nonneg_add v.start_isRepresentable v.width_isRepresentable v.start_nonneg
    v.width_nonneg v.stop_eq

/-- The viewport of a width at the start of the track, in whole numbers. -/
def ofWidth (width : Int) (h : 0 ≤ width) : Viewport where
  start := .int 0
  width := .int width
  stop := .int (0 + width)
  start_isRepresentable := trivial
  width_isRepresentable := trivial
  start_nonneg := rfl
  width_nonneg := Number.le_int_int.mpr h
  stop_eq := rfl

/-- The viewport at the start of a track that has no width, in floating point. -/
def empty : Viewport where
  start := .double (.zero false)
  width := .double (.zero false)
  stop := .double (.zero false + .zero false)
  start_isRepresentable := Double.isRepresentable_zero false
  width_isRepresentable := Double.isRepresentable_zero false
  start_nonneg := Number.zero_le_zero
  width_nonneg := Number.zero_le_zero
  stop_eq := rfl

end Viewport

namespace Layout

/-- Whether the window of a viewport can be computed and has every record that the viewport shows. -/
def Renders (l : Layout Number) (v : Viewport) : Prop :=
  ∃ window, l.visibleWindow v.start v.width = .ok window ∧
    ∀ (t : Nat) pixel, l.pixels[t]? = some pixel → v.Shows pixel →
      window.start ≤ t ∧ t < window.stop

theorem greater_le {first : Number} {n : Int} (hNonneg : 0 ≤ n)
    (h : Number.le first (.int n) = true) :
    Number.le (Coordinate.greater (.int 0) first) (.int n) = true := by
  unfold Coordinate.greater
  split
  · exact h
  · exact Number.le_int_int.mpr hNonneg

/-- A buffer that is not negative and not too large leaves no record out. -/
theorem renders_of_buffer_nonneg (l : Layout Number) (hSettings : l.settings.LaysOut)
    (hSome : l.records ≠ []) (hBuffer : 0 ≤ l.settings.bufferSlots) {y : Double}
    (hy : Double.ofInt? l.buffer = .ok y) (v : Viewport) : l.Renders v := by
  have hReach : 0 ≤ l.buffer := Int.mul_nonneg hBuffer hSettings.slotSpacing_pos.le
  obtain ⟨first, hFirst, hBehind⟩ :=
    Number.exists_sub_int hy hReach v.start_isRepresentable v.start_nonneg
  obtain ⟨last, hLast, hBefore⟩ :=
    Number.exists_add_int hy hReach v.stop_nonneg.1 v.stop_nonneg.2
  refine ⟨_, visibleWindow_eq_windowOf hSome hFirst v.stop_eq hLast, ?_⟩
  intro t pixel hPixel hShows
  obtain ⟨hLength, rfl⟩ := List.getElem?_eq_some_iff.mp hPixel
  have hNonneg := nonneg_of_mem_pixels hSettings.slotSpacing_pos hSettings.leftPadding_nonneg
    (List.getElem_mem hLength)
  apply mem_windowOf hLength
  · exact greater_le hNonneg (hBehind _ hShows.1)
  · exact hBefore _ hShows.2

/-- Of two places of which the first alone lies before its end, the window has no more. -/
theorem stop_windowOf_pair {α : Type} {behind before : α → Bool} {a b : α}
    (ha : before a = true) (hb : before b = false) : (windowOf behind before [a, b]).stop = 1 := by
  unfold windowOf
  simp only [List.reverse_cons, List.reverse_nil, List.nil_append, List.cons_append,
    List.findIdx?_cons, List.findIdx?_nil, ha, hb]
  cases behind a <;> cases behind b <;> rfl

/-- Two records in two slots. -/
def twoDays : List Record :=
  [{ timestamp := "1970-01-01", format := .unstructured, instant := 0 },
    { timestamp := "1970-01-02", format := .unstructured, instant := 86400000 }]

theorem pixels_twoDays (settings : Settings) (viewportWidth : Number) :
    (⟨settings, twoDays, viewportWidth⟩ : Layout Number).pixels =
      [settings.leftPadding, settings.leftPadding + settings.slotSpacing] := by
  have hSlots : (⟨settings, twoDays, viewportWidth⟩ : Layout Number).slots = [0, 1] := rfl
  rw [pixels, hSlots]
  simp [pixelOfSlot]

/-- A negative buffer leaves a record out: the viewport ends so far behind the first slot that the
window ends at it. -/
theorem not_renders_of_buffer_neg {settings : Settings} (hSettings : settings.LaysOut)
    (hBuffer : settings.bufferSlots < 0) (viewportWidth : Number) :
    ∃ v, ¬(⟨settings, twoDays, viewportWidth⟩ : Layout Number).Renders v := by
  have hSpacing := hSettings.slotSpacing_pos
  have hPadding := hSettings.leftPadding_nonneg
  have hReach : settings.bufferSlots * settings.slotSpacing ≤ -settings.slotSpacing := by
    nlinarith
  refine ⟨Viewport.ofWidth (settings.leftPadding - settings.bufferSlots * settings.slotSpacing)
    (by omega), fun ⟨window, hWindow, hRendered⟩ => ?_⟩
  have hEq := hWindow.symm.trans
    (visibleWindow_eq_windowOf (List.cons_ne_nil _ _) rfl (Viewport.stop_eq _) rfl)
  rw [pixels_twoDays] at hRendered hEq
  have hShown := hRendered 1 _ rfl
    ⟨Number.le_int_int.mpr (by omega), Number.le_int_int.mpr (by omega)⟩
  have hStop : window.stop = 1 := by
    rw [Except.ok.inj hEq]
    apply stop_windowOf_pair
    · exact Number.le_int_int.mpr (by simp only [buffer]; omega)
    · exact decide_eq_false (by simp only [buffer]; omega)
  omega

/-- A buffer that is too large for a sum with a floating-point number leaves no window. -/
theorem not_renders_of_buffer_too_large {l : Layout Number} (hSome : l.records ≠ [])
    {e : ArithmeticError} (h : Double.ofInt? l.buffer = .error e) : ¬l.Renders .empty := by
  rintro ⟨window, hWindow, -⟩
  have hFirst : Number.sub (.double (.zero false)) (.int l.buffer) = .error e := by
    simp only [Number.sub, Number.toDouble, h]
    rfl
  unfold visibleWindow at hWindow
  rw [List.isEmpty_eq_false_iff.mpr hSome, if_neg Bool.false_ne_true] at hWindow
  obtain ⟨first, hFirst', -⟩ := bind_eq_ok hWindow
  cases hFirst.symm.trans hFirst'

end Layout

/-- Whether every viewport over each row of records is rendered in full. -/
def Settings.RendersViewports (settings : Settings) : Prop :=
  ∀ (records : List Record) (viewportWidth : Number), records ≠ [] →
    ∀ v, (⟨settings, records, viewportWidth⟩ : Layout Number).Renders v

/-- Settings without a problem render every viewport in full if and only if their buffer is not
negative and not too large for a sum with a floating-point number. -/
theorem Settings.rendersViewports_iff {settings : Settings} (h : settings.problems = []) :
    settings.RendersViewports ↔ 0 ≤ settings.bufferSlots ∧
      ∃ y, Double.ofInt? (settings.bufferSlots * settings.slotSpacing) = .ok y := by
  constructor
  · intro hRenders
    constructor
    · by_contra hNegative
      obtain ⟨v, hv⟩ := Layout.not_renders_of_buffer_neg (laysOut h) (not_le.mp hNegative) (.int 0)
      exact hv (hRenders Layout.twoDays (.int 0) (List.cons_ne_nil _ _) v)
    · cases hBuffer : Double.ofInt? (settings.bufferSlots * settings.slotSpacing) with
      | ok y => exact ⟨y, rfl⟩
      | error e =>
          have hSome : Layout.twoDays ≠ [] := List.cons_ne_nil _ _
          exact absurd (hRenders Layout.twoDays (.int 0) hSome .empty)
            (Layout.not_renders_of_buffer_too_large hSome hBuffer)
  · rintro ⟨hBuffer, y, hy⟩ records viewportWidth hSome v
    exact Layout.renders_of_buffer_nonneg ⟨settings, records, viewportWidth⟩ (laysOut h) hSome
      hBuffer hy v

/-- The settings that hold where nothing is set render every viewport in full. -/
theorem Settings.rendersViewports_default :
    ({} : Settings).problems = [] ∧ ({} : Settings).RendersViewports :=
  ⟨by decide, (rendersViewports_iff (by decide)).mpr ⟨by decide, _, rfl⟩⟩

/-- With a negative buffer, which is no problem, the record at 400 is not in the window of the
viewport from 0 to 400. -/
theorem Settings.negative_buffer_hides_shown :
    let settings : Settings := { bufferSlots := -1 }
    let l : Layout Number := ⟨settings, Layout.twoDays, .int 1280⟩
    settings.problems = [] ∧ l.pixels = [200, 400] ∧
      l.visibleWindow (.int 0) (.int 400) = .ok ⟨0, 1⟩ ∧ ¬settings.RendersViewports := by
  intro settings l
  have hPixels : l.pixels = [200, 400] := by decide
  have hWindow : l.visibleWindow (.int 0) (.int 400) = .ok ⟨0, 1⟩ := by decide
  refine ⟨by decide, hPixels, hWindow, fun hRenders => ?_⟩
  obtain ⟨window, hEq, hRendered⟩ :=
    hRenders Layout.twoDays (.int 1280) (List.cons_ne_nil _ _) (.ofWidth 400 (by decide))
  obtain rfl := Except.ok.inj (hWindow.symm.trans hEq)
  have hShown := hRendered 1 400 (congrArg (·[1]?) hPixels) ⟨rfl, rfl⟩
  exact absurd hShown.2 (lt_irrefl 1)

end LogViewer
