import OccamyVnc.Translate

/-!
# The shared display

The guacamole common display is outside `src/`; it is modelled by the operations the VNC code
calls and their specified effect. A surface holds its dimensions, its pixels and the list of
operations issued on it, which lets the CopyRect results count draws. `surfaceCopy` reads every
source pixel before writing any, which is the specified behaviour for overlapping rectangles.
-/

namespace OccamyVnc

/-- A rectangle `(x, y, w, h)`. -/
structure Rect where
  x : Nat
  y : Nat
  w : Nat
  h : Nat
  deriving DecidableEq, Repr

/-- The pixel `p` lies in the rectangle. -/
def Rect.contains (r : Rect) (p : Nat × Nat) : Prop :=
  r.x ≤ p.1 ∧ p.1 < r.x + r.w ∧ r.y ≤ p.2 ∧ p.2 < r.y + r.h

instance (r : Rect) (p : Nat × Nat) : Decidable (r.contains p) :=
  inferInstanceAs (Decidable (_ ∧ _ ∧ _ ∧ _))

/-- `f` with the rectangle `r` replaced by `img`, indexed from the rectangle's corner. -/
def writeRect {α : Type} (f : Nat × Nat → α) (r : Rect) (img : Nat → Nat → α) : Nat × Nat → α :=
  fun p => if r.contains p then img (p.1 - r.x) (p.2 - r.y) else f p

/-- `f` with the rectangle `r` replaced by the rectangle of the same size at `(srcX, srcY)`, every
source pixel read before any is written. -/
def copyRegion {α : Type} (f : Nat × Nat → α) (srcX srcY : Nat) (r : Rect) : Nat × Nat → α :=
  fun p => if r.contains p then f (srcX + (p.1 - r.x), srcY + (p.2 - r.y)) else f p

theorem writeRect_of_contains {α : Type} (f : Nat × Nat → α) {r : Rect} (img : Nat → Nat → α)
    {p : Nat × Nat} (hp : r.contains p) : writeRect f r img p = img (p.1 - r.x) (p.2 - r.y) :=
  if_pos hp

theorem writeRect_of_not_contains {α : Type} (f : Nat × Nat → α) {r : Rect} (img : Nat → Nat → α)
    {p : Nat × Nat} (hp : ¬ r.contains p) : writeRect f r img p = f p :=
  if_neg hp

theorem copyRegion_of_contains {α : Type} (f : Nat × Nat → α) (srcX srcY : Nat) {r : Rect}
    {p : Nat × Nat} (hp : r.contains p) :
    copyRegion f srcX srcY r p = f (srcX + (p.1 - r.x), srcY + (p.2 - r.y)) :=
  if_pos hp

theorem copyRegion_of_not_contains {α : Type} (f : Nat × Nat → α) (srcX srcY : Nat) {r : Rect}
    {p : Nat × Nat} (hp : ¬ r.contains p) : copyRegion f srcX srcY r p = f p :=
  if_neg hp

theorem writeRect_corner {α : Type} (f : Nat × Nat → α) {r : Rect} (img : Nat → Nat → α)
    {p : Nat × Nat} (hp : r.contains p) :
    writeRect f r img (r.x + (p.1 - r.x), r.y + (p.2 - r.y)) = img (p.1 - r.x) (p.2 - r.y) := by
  have hp' : r.contains (r.x + (p.1 - r.x), r.y + (p.2 - r.y)) := by
    unfold Rect.contains at *; simp only; omega
  rw [writeRect_of_contains _ _ hp', Nat.add_sub_cancel_left, Nat.add_sub_cancel_left]

/-- Modelled from the spec: the image cairo_image_surface_create_for_data makes of a buffer with
`stride` bytes per row, pixel `(i, j)` being the word at `j·stride + 4·i`. -/
def cairoImage (buffer : WordBuffer) (stride : Nat) : Nat → Nat → UInt32 :=
  fun i j => buffer (j * stride + 4 * i)

/-- An operation issued on a surface. -/
inductive SurfaceOp
  | draw (r : Rect)
  | copy (srcX srcY : Nat) (r : Rect)
  | resize (w h : Nat)
  deriving DecidableEq, Repr

/-- A guac_common_surface: its size, its RGB pixels and the operations issued on it. -/
structure Surface where
  width : Nat
  height : Nat
  pixels : Nat × Nat → UInt32
  ops : List SurfaceOp

/-- Modelled from the spec: guac_common_surface_draw of a `w × h` image at `(x, y)`. -/
def surfaceDraw (surface : Surface) (r : Rect) (img : Nat → Nat → UInt32) : Surface :=
  { surface with pixels := writeRect surface.pixels r img, ops := surface.ops ++ [.draw r] }

/-- Modelled from the spec: guac_common_surface_copy within one surface, from `(srcX, srcY)` to the
rectangle `r`, correct for overlapping rectangles. -/
def surfaceCopy (surface : Surface) (srcX srcY : Nat) (r : Rect) : Surface :=
  { surface with
    pixels := copyRegion surface.pixels srcX srcY r
    ops := surface.ops ++ [.copy srcX srcY r] }

/-- Modelled from the spec: guac_common_surface_resize. The surface takes the new dimensions and
keeps its pixels inside them; the pixels outside are dropped. -/
def surfaceResize (surface : Surface) (w h : Nat) : Surface :=
  { width := w, height := h
    pixels := fun p => if p.1 < w ∧ p.2 < h then surface.pixels p else 0
    ops := surface.ops ++ [.resize w h] }

@[simp] theorem surfaceDraw_width (surface : Surface) (r : Rect) (img : Nat → Nat → UInt32) :
    (surfaceDraw surface r img).width = surface.width := rfl

@[simp] theorem surfaceDraw_height (surface : Surface) (r : Rect) (img : Nat → Nat → UInt32) :
    (surfaceDraw surface r img).height = surface.height := rfl

@[simp] theorem surfaceCopy_width (surface : Surface) (srcX srcY : Nat) (r : Rect) :
    (surfaceCopy surface srcX srcY r).width = surface.width := rfl

@[simp] theorem surfaceCopy_height (surface : Surface) (srcX srcY : Nat) (r : Rect) :
    (surfaceCopy surface srcX srcY r).height = surface.height := rfl

@[simp] theorem surfaceResize_width (surface : Surface) (w h : Nat) :
    (surfaceResize surface w h).width = w := rfl

@[simp] theorem surfaceResize_height (surface : Surface) (w h : Nat) :
    (surfaceResize surface w h).height = h := rfl

/-! ### The shared cursor -/

/-- The image the shared cursor shows. -/
inductive CursorImage
  | blank
  | pointer
  | dot
  | argb (hotspotX hotspotY : Int) (w h : Nat) (pixels : Nat → Nat → UInt32)

/-- A guac_common_cursor: the last mouse state, the user it came from, and the image. -/
structure Cursor where
  x : Int
  y : Int
  buttonMask : Int
  user : Option Nat
  image : CursorImage

/-- Modelled from the spec: guac_common_cursor_update, the latest mouse state and the user it came
from. -/
def Cursor.update (cursor : Cursor) (user : Nat) (x y mask : Int) : Cursor :=
  { cursor with x := x, y := y, buttonMask := mask, user := some user }

/-- Modelled from the spec: guac_common_cursor_remove_user, a leaving user no longer owns the
cursor. -/
def Cursor.removeUser (cursor : Cursor) (user : Nat) : Cursor :=
  if cursor.user = some user then { cursor with user := none } else cursor

/-- Modelled from the spec: guac_common_cursor_set_argb from a buffer of `stride` bytes per row. -/
def Cursor.setArgb (cursor : Cursor) (hotspotX hotspotY : Int) (buffer : WordBuffer) (w h stride : Nat) :
    Cursor :=
  { cursor with image := .argb hotspotX hotspotY w h (cairoImage buffer stride) }

/-- The display: the default surface and the shared cursor. -/
structure Display where
  defaultSurface : Surface
  cursor : Cursor

/-- Modelled from the spec: guac_common_display_alloc, a blank `w × h` surface and a blank
cursor. -/
def displayAlloc (w h : Nat) : Display :=
  { defaultSurface := { width := w, height := h, pixels := fun _ => 0, ops := [] }
    cursor := { x := 0, y := 0, buttonMask := 0, user := none, image := .blank } }

end OccamyVnc
