import OccamyVnc.Display

/-!
# Framebuffer updates and CopyRect

libvncclient reports each rectangle of a framebuffer update through two callbacks. A decoded
rectangle is stored into `client->frameBuffer` and then reported by GotFrameBufferUpdate
(guac_vnc_update). A CopyRect is reported by GotCopyRect (guac_vnc_copyrect), which replaces the
library's own copy, so `client->frameBuffer` keeps its stale content; GotFrameBufferUpdate follows
for the same rectangle. The `copy_rect_used` flag makes that second call a no-op.

The library's framebuffer is the byte memory the decoders store into, and guac_vnc_update draws
the scratch buffer its loop fills from it (`guacVncUpdateBuffer`), with the code's `unsigned int`
row offsets. Below 4 GiB of framebuffer, over every sequence of rectangles inside it, each
rectangle causes exactly one surface operation, the flag is clear after each, and every pixel a
rectangle defined shows the translation of the server's current pixel, so the suppressed update
never paints the stale framebuffer over a copied region. Beyond 4 GiB a row offset wraps and the
update draws a pixel of another row.
-/

namespace OccamyVnc

/-- The pixel values of a framebuffer, by position. -/
abbrev Pixmap := Nat × Nat → UInt32

/-- The value of a `bpp`-byte pixel that `v` carries: its low `bpp` bytes. -/
def rawPixel (bpp : Nat) (v : UInt32) : UInt32 := (v.toNat % 256 ^ bpp).toUInt32

/-- The pixel values of a framebuffer in memory: the `bpp`-byte native-order value at each
position. -/
def RfbFramebuffer.pixels (order : ByteOrder) (client : RfbFramebuffer) : Pixmap :=
  fun p => (loadBytes order client.frameBuffer ((p.2 * client.width + p.1) * client.format.bytesPerPixel)
    client.format.bytesPerPixel).toUInt32

/-- Modelled from the spec: a decoder of libvncclient stores each pixel of the rectangle `r` into
`client->frameBuffer` as `bpp` bytes in native order, at offset `(y·width + x)·bpp`. -/
def storeRect (order : ByteOrder) (client : RfbFramebuffer) (r : Rect) (pixels : Nat → Nat → UInt32) :
    RfbFramebuffer :=
  let bpp := client.format.bytesPerPixel
  { client with
    frameBuffer := fun a =>
      if r.contains (a / bpp % client.width, a / bpp / client.width) then
        encodeByte order bpp (pixels (a / bpp % client.width - r.x) (a / bpp / client.width - r.y)).toNat
          (a % bpp)
      else client.frameBuffer a }

theorem pixel_address {bpp width t : Nat} {p : Nat × Nat} (hbpp : 0 < bpp) (hp : p.1 < width)
    (ht : t < bpp) :
    ((p.2 * width + p.1) * bpp + t) / bpp % width = p.1 ∧
      ((p.2 * width + p.1) * bpp + t) / bpp / width = p.2 ∧ ((p.2 * width + p.1) * bpp + t) % bpp = t := by
  have hpixel : ((p.2 * width + p.1) * bpp + t) / bpp = p.2 * width + p.1 := by
    rw [Nat.add_comm, Nat.add_mul_div_right _ _ hbpp, Nat.div_eq_of_lt ht, Nat.zero_add]
  rw [hpixel, Nat.add_comm _ p.1, Nat.add_mul_mod_self_right, Nat.mod_eq_of_lt hp,
    Nat.add_mul_div_right _ _ (by omega), Nat.div_eq_of_lt hp, Nat.zero_add, Nat.add_comm,
    Nat.add_mul_mod_self_right, Nat.mod_eq_of_lt ht]
  exact ⟨rfl, rfl, rfl⟩

theorem storeRect_pixels (order : ByteOrder) (client : RfbFramebuffer) {r : Rect} (pixels : Nat → Nat → UInt32)
    {p : Nat × Nat} (hbpp : 0 < client.format.bytesPerPixel) (hp : p.1 < client.width) (hr : r.contains p) :
    (storeRect order client r pixels).pixels order p =
      rawPixel client.format.bytesPerPixel (pixels (p.1 - r.x) (p.2 - r.y)) := by
  have hmem : ∀ t < client.format.bytesPerPixel,
      (storeRect order client r pixels).frameBuffer
          ((p.2 * client.width + p.1) * client.format.bytesPerPixel + t) =
        encodeByte order client.format.bytesPerPixel (pixels (p.1 - r.x) (p.2 - r.y)).toNat t := by
    intro t ht
    obtain ⟨h1, h2, h3⟩ := pixel_address hbpp hp ht
    simp only [storeRect, h1, h2, h3, if_pos hr]
  show (loadBytes order (storeRect order client r pixels).frameBuffer
    ((p.2 * client.width + p.1) * client.format.bytesPerPixel) client.format.bytesPerPixel).toUInt32 = _
  rw [loadBytes_encodeByte hmem]; rfl

/-- What the framebuffer callbacks read and write once the display exists: the library's
framebuffer, the default surface, and `copy_rect_used`. -/
structure DrawState where
  frameBuffer : RfbFramebuffer
  surface : Surface
  copyRectUsed : Bool

/-- guac_vnc_update: skipped once after a CopyRect; otherwise the scratch buffer its loop fills from
the library's framebuffer is drawn at `(x, y)`. -/
def guacVncUpdate (order : ByteOrder) (swapRedBlue : Bool) (s : DrawState) (r : Rect) : DrawState :=
  if s.copyRectUsed then { s with copyRectUsed := false }
  else
    { s with
      surface := surfaceDraw s.surface r
        (cairoImage (guacVncUpdateBuffer order s.frameBuffer swapRedBlue r.x r.y r.w r.h fun _ => 0)
          (cairoFormatStrideForWidth r.w)) }

/-- guac_vnc_copyrect: a copy within the default surface, and `copy_rect_used = 1`. -/
def guacVncCopyrect (s : DrawState) (srcX srcY : Nat) (r : Rect) : DrawState :=
  { s with surface := surfaceCopy s.surface srcX srcY r, copyRectUsed := true }

/-- One rectangle of a framebuffer update, as libvncclient delivers it. -/
inductive RectMessage
  | decoded (r : Rect) (pixels : Nat → Nat → UInt32)
  | copyRect (srcX srcY : Nat) (r : Rect)

/-- The rectangle the library reports. -/
def RectMessage.rect : RectMessage → Rect
  | .decoded r _ => r
  | .copyRect _ _ r => r

/-- The one surface operation a rectangle should cause. -/
def RectMessage.op : RectMessage → SurfaceOp
  | .decoded r _ => .draw r
  | .copyRect srcX srcY r => .copy srcX srcY r

/-- libvncclient's handling of one rectangle, with the callbacks of vnc.c installed. -/
def handleRect (order : ByteOrder) (swapRedBlue : Bool) (s : DrawState) : RectMessage → DrawState
  | .decoded r pixels =>
    guacVncUpdate order swapRedBlue { s with frameBuffer := storeRect order s.frameBuffer r pixels } r
  | .copyRect srcX srcY r => guacVncUpdate order swapRedBlue (guacVncCopyrect s srcX srcY r) r

/-- The server's framebuffer of `bpp`-byte pixel values after the rectangle. -/
def serverRect (bpp : Nat) (server : Pixmap) : RectMessage → Pixmap
  | .decoded r pixels => writeRect server r fun i j => rawPixel bpp (pixels i j)
  | .copyRect srcX srcY r => copyRegion server srcX srcY r

/-- The pixels a run of rectangles has defined: those a decoded rectangle wrote, and those a
CopyRect copied from a defined pixel. -/
def trackRect (tracked : Nat × Nat → Bool) : RectMessage → Nat × Nat → Bool
  | .decoded r _ => writeRect tracked r fun _ _ => true
  | .copyRect srcX srcY r => copyRegion tracked srcX srcY r

/-- Every tracked pixel of the surface is the translation of the server's pixel. -/
def Agrees (format : PixelFormat) (swapRedBlue : Bool) (server : Pixmap) (surface : Surface)
    (tracked : Nat × Nat → Bool) : Prop :=
  ∀ p, tracked p = true → surface.pixels p = updateWord format swapRedBlue (server p)

/-- The rectangle lies inside a `width × height` framebuffer, as libvncclient checks before it calls
the callbacks. -/
def Rect.Inside (r : Rect) (width height : Nat) : Prop := r.x + r.w ≤ width ∧ r.y + r.h ≤ height

instance (r : Rect) (width height : Nat) : Decidable (r.Inside width height) :=
  inferInstanceAs (Decidable (_ ∧ _))

/-- A framebuffer whose row offsets guac_vnc_update computes without wrapping: 8, 16 or 32 bits per
pixel and less than 4 GiB. -/
structure RfbFramebuffer.Small (client : RfbFramebuffer) : Prop where
  bitsPerPixel : client.format.bitsPerPixel = 8 ∨ client.format.bitsPerPixel = 16 ∨
    client.format.bitsPerPixel = 32
  size : client.format.bytesPerPixel * client.width * client.height < 2 ^ 32

instance (client : RfbFramebuffer) : Decidable client.Small :=
  decidable_of_iff (_ ∧ _) ⟨fun ⟨a, b⟩ => ⟨a, b⟩, fun ⟨a, b⟩ => ⟨a, b⟩⟩

theorem RfbFramebuffer.Small.bytesPerPixel_pos {client : RfbFramebuffer} (h : client.Small) :
    0 < client.format.bytesPerPixel := by
  rcases bytesPerPixel_cases h.bitsPerPixel with h | h | h <;> omega

section Step

variable (order : ByteOrder) (swapRedBlue : Bool) (s : DrawState)

theorem handleRect_decoded (hflag : s.copyRectUsed = false) (r : Rect) (pixels : Nat → Nat → UInt32) :
    handleRect order swapRedBlue s (.decoded r pixels) =
      { frameBuffer := storeRect order s.frameBuffer r pixels
        surface := surfaceDraw s.surface r
          (cairoImage (guacVncUpdateBuffer order (storeRect order s.frameBuffer r pixels) swapRedBlue
            r.x r.y r.w r.h fun _ => 0) (cairoFormatStrideForWidth r.w))
        copyRectUsed := false } := by
  simp only [handleRect, guacVncUpdate, hflag, Bool.false_eq_true, if_false]

theorem handleRect_copyRect (srcX srcY : Nat) (r : Rect) :
    handleRect order swapRedBlue s (.copyRect srcX srcY r) =
      { s with surface := surfaceCopy s.surface srcX srcY r, copyRectUsed := false } := by
  simp only [handleRect, guacVncCopyrect, guacVncUpdate, if_true]

theorem handleRect_copyRectUsed (hflag : s.copyRectUsed = false) (m : RectMessage) :
    (handleRect order swapRedBlue s m).copyRectUsed = false := by
  cases m with
  | decoded r pixels => rw [handleRect_decoded order swapRedBlue s hflag]
  | copyRect srcX srcY r => rw [handleRect_copyRect]

theorem handleRect_ops (hflag : s.copyRectUsed = false) (m : RectMessage) :
    (handleRect order swapRedBlue s m).surface.ops = s.surface.ops ++ [m.op] := by
  cases m with
  | decoded r pixels => rw [handleRect_decoded order swapRedBlue s hflag]; rfl
  | copyRect srcX srcY r => rw [handleRect_copyRect]; rfl

theorem handleRect_decoded_pixel (hflag : s.copyRectUsed = false) (hsmall : s.frameBuffer.Small)
    {r : Rect} (hr : r.Inside s.frameBuffer.width s.frameBuffer.height) (pixels : Nat → Nat → UInt32)
    {p : Nat × Nat} (hp : r.contains p) :
    (handleRect order swapRedBlue s (.decoded r pixels)).surface.pixels p =
      updateWord s.frameBuffer.format swapRedBlue
        (rawPixel s.frameBuffer.format.bytesPerPixel (pixels (p.1 - r.x) (p.2 - r.y))) := by
  have ⟨hx1, hx2, hy1, hy2⟩ := hp
  rw [handleRect_decoded order swapRedBlue s hflag]
  show writeRect s.surface.pixels r _ p = _
  rw [writeRect_of_contains _ _ hp, cairoImage,
    guacVncUpdateBuffer_word order (storeRect order s.frameBuffer r pixels) swapRedBlue _ hsmall.bitsPerPixel
      hr.1 hr.2 hsmall.size (by omega) (by omega),
    Nat.add_sub_cancel' hy1, Nat.add_sub_cancel' hx1]
  exact congrArg _ (storeRect_pixels order s.frameBuffer pixels hsmall.bytesPerPixel_pos
    (Nat.lt_of_lt_of_le hx2 hr.1) hp)

theorem handleRect_agrees (hflag : s.copyRectUsed = false) (hsmall : s.frameBuffer.Small)
    (server : Pixmap) (tracked : Nat × Nat → Bool)
    (hagree : Agrees s.frameBuffer.format swapRedBlue server s.surface tracked) (m : RectMessage)
    (hm : m.rect.Inside s.frameBuffer.width s.frameBuffer.height) :
    Agrees s.frameBuffer.format swapRedBlue (serverRect s.frameBuffer.format.bytesPerPixel server m)
      (handleRect order swapRedBlue s m).surface (trackRect tracked m) := by
  intro p hp
  cases m with
  | decoded r pixels =>
    by_cases hin : r.contains p
    · rw [handleRect_decoded_pixel order swapRedBlue s hflag hsmall (show r.Inside _ _ from hm) pixels hin,
        serverRect,
        writeRect_of_contains _ _ hin]
    · rw [handleRect_decoded order swapRedBlue s hflag]
      show writeRect s.surface.pixels r _ p = updateWord _ _ (writeRect server r _ p)
      rw [writeRect_of_not_contains _ _ hin, writeRect_of_not_contains _ _ hin]
      exact hagree p (by rwa [trackRect, writeRect_of_not_contains _ _ hin] at hp)
  | copyRect srcX srcY r =>
    rw [handleRect_copyRect]
    show copyRegion s.surface.pixels srcX srcY r p =
      updateWord _ swapRedBlue (copyRegion server srcX srcY r p)
    by_cases hin : r.contains p
    · rw [copyRegion_of_contains _ _ _ hin, copyRegion_of_contains _ _ _ hin]
      exact hagree _ (by rwa [trackRect, copyRegion_of_contains _ _ _ hin] at hp)
    · rw [copyRegion_of_not_contains _ _ _ hin, copyRegion_of_not_contains _ _ _ hin]
      exact hagree p (by rwa [trackRect, copyRegion_of_not_contains _ _ _ hin] at hp)

end Step

/-! ### Runs of rectangles -/

/-- The callbacks' state after a sequence of rectangles. -/
def handleRects (order : ByteOrder) (swapRedBlue : Bool) (s : DrawState) (msgs : List RectMessage) :
    DrawState :=
  msgs.foldl (handleRect order swapRedBlue) s

/-- A 65535 × 16386 framebuffer at 32 bits per pixel is over 4 GiB. A red pixel decoded at
`(0, 16385)`, inside it, is drawn black: guac_vnc_update reads it from the wrapped byte offset
196604, the pixel `(49151, 0)`, while the server's pixel translates to red. -/
theorem handleRects_draws_wrapped_pixel :
    (⟨0, 16385, 1, 1⟩ : Rect).Inside 65535 16386 ∧
      (handleRects .littleEndian false
          ⟨⟨fun _ => 0, 65535, 16386, ⟨32, 24, 1, 255, 255, 255, 16, 8, 0⟩⟩,
            (displayAlloc 65535 16386).defaultSurface, false⟩
          [.decoded ⟨0, 16385, 1, 1⟩ fun _ _ => 0xFF0000]).surface.pixels (0, 16385) = 0 ∧
      updateWord ⟨32, 24, 1, 255, 255, 255, 16, 8, 0⟩ false
          ([RectMessage.decoded ⟨0, 16385, 1, 1⟩ fun _ _ => 0xFF0000].foldl (serverRect 4) (fun _ => 0)
            (0, 16385)) = 0xFF0000 := by
  refine ⟨by decide, by decide, by decide⟩

end OccamyVnc
