import OccamyVnc.PixelFormat
import Mathlib.Tactic.Ring

/-!
# The translation loops of guac_vnc_update and guac_vnc_cursor

Both callbacks walk a rectangle row by row with pointer pairs: a buffer row pointer that advances
by the Cairo `stride`, a source row pointer that advances by `fb_stride`, and per-pixel pointers
inside a row. guac_vnc_cursor also keeps a mask pointer that runs on across rows. The loops are
modelled as the code writes them, over offsets from each buffer's base address. Each is shown
equal to `writeRows`, which says once which word lands at which offset; the results about the
two callbacks are instances of its lane lemma.
-/

namespace OccamyVnc

/-- Byte-addressed memory: libvncclient's `frameBuffer`, `rcSource` and `rcMask`. -/
abbrev Memory := Nat → UInt8

/-- The platform byte order, which the native `uint16_t` and `uint32_t` loads follow. -/
inductive ByteOrder
  | littleEndian
  | bigEndian
  deriving DecidableEq, Repr

/-- The unsigned value of the `n` bytes at `a`. -/
def loadBytes (order : ByteOrder) (mem : Memory) (a : Nat) : Nat → Nat
  | 0 => 0
  | n + 1 =>
    match order with
    | .littleEndian => (mem a).toNat + 256 * loadBytes order mem (a + 1) n
    | .bigEndian => (mem a).toNat * 256 ^ n + loadBytes order mem (a + 1) n

/-- The `switch (bpp)` of both callbacks: a native `uint32_t`, `uint16_t` or `uint8_t` read. -/
def readPixel (order : ByteOrder) (mem : Memory) (bpp : Nat) (a : Nat) : UInt32 :=
  match bpp with
  | 4 => (loadBytes order mem a 4).toUInt32
  | 2 => (loadBytes order mem a 2).toUInt32
  | _ => (loadBytes order mem a 1).toUInt32

theorem readPixel_eq_load {bpp : Nat} (hbpp : bpp = 1 ∨ bpp = 2 ∨ bpp = 4) (order : ByteOrder)
    (mem : Memory) (a : Nat) : readPixel order mem bpp a = (loadBytes order mem a bpp).toUInt32 := by
  rcases hbpp with rfl | rfl | rfl <;> rfl

/-- Byte `t` of the `n`-byte native-order representation of `v`. -/
def encodeByte (order : ByteOrder) (n v t : Nat) : UInt8 :=
  match order with
  | .littleEndian => (v / 256 ^ t).toUInt8
  | .bigEndian => (v / 256 ^ (n - 1 - t)).toUInt8

theorem loadBytes_congr {order : ByteOrder} {mem mem' : Memory} :
    ∀ {n a : Nat}, (∀ t < n, mem (a + t) = mem' (a + t)) → loadBytes order mem a n = loadBytes order mem' a n
  | 0, _, _ => rfl
  | n + 1, a, h => by
    have htail : loadBytes order mem (a + 1) n = loadBytes order mem' (a + 1) n :=
      loadBytes_congr fun t ht => by rw [Nat.add_assoc, Nat.add_comm 1 t]; exact h (t + 1) (by omega)
    have hhead : mem a = mem' a := h 0 (Nat.succ_pos n)
    cases order <;> simp only [loadBytes, htail, hhead]

theorem loadBytes_littleEndian {mem : Memory} :
    ∀ {n a v : Nat}, (∀ t < n, mem (a + t) = encodeByte .littleEndian n v t) →
      loadBytes .littleEndian mem a n = v % 256 ^ n
  | 0, _, _, _ => (Nat.mod_one _).symm
  | n + 1, a, v, h => by
    have htail : loadBytes .littleEndian mem (a + 1) n = v / 256 % 256 ^ n :=
      loadBytes_littleEndian fun t ht => by
        rw [Nat.add_assoc, Nat.add_comm 1 t, h (t + 1) (by omega), encodeByte, encodeByte,
          Nat.div_div_eq_div_mul, ← Nat.pow_succ']
    have hhead : (mem a).toNat = v % 256 := by
      rw [← Nat.add_zero a, h 0 (Nat.succ_pos n)]; simp only [encodeByte, Nat.pow_zero, Nat.div_one]; rfl
    rw [loadBytes, htail, hhead, Nat.pow_succ', Nat.mod_mul]

theorem loadBytes_bigEndian {mem : Memory} {v : Nat} :
    ∀ {n a : Nat}, (∀ t < n, mem (a + t) = encodeByte .bigEndian n v t) →
      loadBytes .bigEndian mem a n = v % 256 ^ n
  | 0, _, _ => (Nat.mod_one _).symm
  | n + 1, a, h => by
    have htail : loadBytes .bigEndian mem (a + 1) n = v % 256 ^ n :=
      loadBytes_bigEndian fun t ht => by
        rw [Nat.add_assoc, Nat.add_comm 1 t, h (t + 1) (by omega), encodeByte, encodeByte,
          show n + 1 - 1 - (t + 1) = n - 1 - t by omega]
    have hhead : (mem a).toNat = v / 256 ^ n % 256 := by
      rw [← Nat.add_zero a, h 0 (Nat.succ_pos n)]; simp only [encodeByte, Nat.add_sub_cancel, Nat.sub_zero]; rfl
    rw [loadBytes, htail, hhead, Nat.mod_pow_succ, Nat.add_comm, Nat.mul_comm]

theorem loadBytes_encodeByte {order : ByteOrder} {mem : Memory} {n a v : Nat}
    (h : ∀ t < n, mem (a + t) = encodeByte order n v t) : loadBytes order mem a n = v % 256 ^ n := by
  cases order
  · exact loadBytes_littleEndian h
  · exact loadBytes_bigEndian h

/-- A scratch buffer, as the 32-bit word stored at each byte offset. -/
abbrev WordBuffer := Nat → UInt32

/-- `*(unsigned int*) (buffer + offset) = word`. -/
def writeWord (buffer : WordBuffer) (offset : Nat) (word : UInt32) : WordBuffer :=
  fun o => if o = offset then word else buffer o

/-- `cairo_format_stride_for_width` for the 32-bit formats, as vnc.c's fallback macro defines it. -/
def cairoFormatStrideForWidth (width : Nat) : Nat := width * 4

theorem four_mul_le_stride (w : Nat) : 4 * w ≤ cairoFormatStrideForWidth w :=
  Nat.le_of_eq (Nat.mul_comm 4 w)

/-! ### Row-major word writes -/

/-- The words `f 0, …, f (n-1)` stored at `offset, offset + 4, …`. -/
def writeRow (f : Nat → UInt32) : Nat → Nat → WordBuffer → WordBuffer
  | 0, _, buffer => buffer
  | n + 1, offset, buffer => writeRow (fun k => f (k + 1)) n (offset + 4) (writeWord buffer offset (f 0))

/-- `n` rows of `w` words, row `j` starting `j * stride` after `offset` and holding `g i j`. -/
def writeRows (g : Nat → Nat → UInt32) (w stride : Nat) : Nat → Nat → WordBuffer → WordBuffer
  | 0, _, buffer => buffer
  | n + 1, offset, buffer =>
    writeRows (fun i j => g i (j + 1)) w stride n (offset + stride) (writeRow (fun i => g i 0) w offset buffer)

theorem writeRow_frame (f : Nat → UInt32) (n offset : Nat) (buffer : WordBuffer) {o : Nat}
    (ho : o < offset ∨ offset + 4 * n ≤ o) : writeRow f n offset buffer o = buffer o := by
  induction n generalizing f offset buffer with
  | zero => rfl
  | succ n ih =>
    rw [writeRow, ih _ _ _ (by omega), writeWord, if_neg (by omega)]

theorem writeRow_lane (f : Nat → UInt32) (n offset : Nat) (buffer : WordBuffer) {k : Nat}
    (hk : k < n) : writeRow f n offset buffer (offset + 4 * k) = f k := by
  induction n generalizing f offset buffer k with
  | zero => omega
  | succ n ih =>
    rw [writeRow]
    cases k with
    | zero => rw [writeRow_frame _ _ _ _ (by omega), writeWord, if_pos (by omega)]
    | succ k => rw [show offset + 4 * (k + 1) = offset + 4 + 4 * k by omega, ih _ _ _ (by omega)]

theorem writeRows_frame (g : Nat → Nat → UInt32) (w stride n offset : Nat) (buffer : WordBuffer)
    {o : Nat} (ho : o < offset) : writeRows g w stride n offset buffer o = buffer o := by
  induction n generalizing g offset buffer with
  | zero => rfl
  | succ n ih => rw [writeRows, ih _ _ _ (by omega), writeRow_frame _ _ _ _ (Or.inl ho)]

theorem writeRows_lane (g : Nat → Nat → UInt32) {w stride : Nat} (hstride : 4 * w ≤ stride)
    (n offset : Nat) (buffer : WordBuffer) {i j : Nat} (hi : i < w) (hj : j < n) :
    writeRows g w stride n offset buffer (offset + j * stride + 4 * i) = g i j := by
  induction n generalizing g offset buffer j with
  | zero => omega
  | succ n ih =>
    rw [writeRows]
    cases j with
    | zero => rw [writeRows_frame _ _ _ _ _ _ (by omega), Nat.zero_mul, Nat.add_zero, writeRow_lane _ _ _ _ hi]
    | succ j =>
      rw [show offset + (j + 1) * stride + 4 * i = offset + stride + j * stride + 4 * i by
        rw [Nat.succ_mul]; omega, ih _ _ _ (by omega)]

theorem writeRow_frame_above (f : Nat → UInt32) (n offset : Nat) (buffer : WordBuffer) {o : Nat}
    (ho : offset + 4 * n < o + 4) : writeRow f n offset buffer o = buffer o := by
  induction n generalizing f offset buffer with
  | zero => rfl
  | succ n ih => rw [writeRow, ih _ _ _ (by omega), writeWord, if_neg (by omega)]

theorem writeRows_frame_above (g : Nat → Nat → UInt32) {w stride : Nat} (hstride : 4 * w ≤ stride)
    (n offset : Nat) (buffer : WordBuffer) {o : Nat} (ho : offset + n * stride < o + 4) :
    writeRows g w stride n offset buffer o = buffer o := by
  induction n generalizing g offset buffer with
  | zero => rfl
  | succ n ih =>
    rw [Nat.succ_mul] at ho
    rw [writeRows, ih _ _ _ (by omega), writeRow_frame_above _ _ _ _ (by omega)]

/-- `malloc(h*stride)` in guac_vnc_update and guac_vnc_cursor: `h*stride` is an `int` product. -/
def scratchSize (w h : Nat) : Int := toInt32 (h * cairoFormatStrideForWidth w)

theorem scratchSize_eq_of_lt {w h : Nat} (hsize : h * (4 * w) < 2 ^ 31) : scratchSize w h = h * (4 * w) := by
  rw [scratchSize, cairoFormatStrideForWidth, Nat.mul_comm w, toInt32_of_range (by omega)
    (by exact_mod_cast hsize)]; push_cast; rfl

/-- A rectangle of 65535 × 16385 pixels, which libvncclient admits in a 65535 × 16385 framebuffer:
the `int` product `h*stride` wraps to 196604, while the loops write words up to byte 4295163899. -/
theorem scratchSize_wraps :
    scratchSize 65535 16385 = 196604 ∧
      16384 * cairoFormatStrideForWidth 65535 + 4 * 65534 = 4295163896 := by
  constructor <;> decide

/-! ### guac_vnc_update -/

/-- The fields of libvncclient's `rfbClient` that guac_vnc_update reads. -/
structure RfbFramebuffer where
  frameBuffer : Memory
  width : Nat
  height : Nat
  format : PixelFormat

/-- The inner loop of guac_vnc_update, lines 222–253, over the `n` pixels left in a row. -/
def updateRow (word : UInt32 → UInt32) (read : Nat → UInt32) (bpp : Nat) :
    Nat → Nat → Nat → WordBuffer → WordBuffer
  | 0, _, _, buffer => buffer
  | n + 1, bufferCurrent, fbCurrent, buffer =>
    updateRow word read bpp n (bufferCurrent + 4) (fbCurrent + bpp)
      (writeWord buffer bufferCurrent (word (read fbCurrent)))

/-- The outer loop of guac_vnc_update, lines 209–254, over the `n` rows left. -/
def updateRows (word : UInt32 → UInt32) (read : Nat → UInt32) (bpp w stride fbStride : Nat) :
    Nat → Nat → Nat → WordBuffer → WordBuffer
  | 0, _, _, buffer => buffer
  | n + 1, bufferRow, fbRow, buffer =>
    updateRows word read bpp w stride fbStride n (bufferRow + stride) (fbRow + fbStride)
      (updateRow word read bpp w bufferRow fbRow buffer)

/-- `fb_stride = bpp * client->width`, an `unsigned int`. -/
def updateFbStride (client : RfbFramebuffer) : Nat :=
  toUInt32 (client.format.bytesPerPixel * client.width)

/-- Line 206: the offset of `fb_row_current` from `client->frameBuffer`, where `y * fb_stride` and
`x * bpp` are each an `unsigned int` added to the pointer. -/
def updateFbOffset (client : RfbFramebuffer) (x y : Nat) : Nat :=
  toUInt32 (y * updateFbStride client) + toUInt32 (x * client.format.bytesPerPixel)

/-- The scratch buffer guac_vnc_update fills for the rectangle `(x, y, w, h)`, starting from the
uninitialised contents `buffer` that `malloc` returned. -/
def guacVncUpdateBuffer (order : ByteOrder) (client : RfbFramebuffer) (swapRedBlue : Bool)
    (x y w h : Nat) (buffer : WordBuffer) : WordBuffer :=
  let bpp := client.format.bytesPerPixel
  updateRows (updateWord client.format swapRedBlue) (readPixel order client.frameBuffer bpp) bpp w
    (cairoFormatStrideForWidth w) (updateFbStride client) h 0 (updateFbOffset client x y) buffer

theorem updateRow_eq (word : UInt32 → UInt32) (read : Nat → UInt32) (bpp n bufferCurrent
    fbCurrent : Nat) (buffer : WordBuffer) : updateRow word read bpp n bufferCurrent fbCurrent buffer =
      writeRow (fun k => word (read (fbCurrent + k * bpp))) n bufferCurrent buffer := by
  induction n generalizing bufferCurrent fbCurrent buffer with
  | zero => rfl
  | succ n ih =>
    have hrest : (fun k => word (read (fbCurrent + bpp + k * bpp))) =
        fun k => word (read (fbCurrent + (k + 1) * bpp)) := by
      funext k; rw [Nat.succ_mul]; congr 2; omega
    rw [updateRow, writeRow, ih, hrest, Nat.zero_mul]; rfl

theorem updateRows_eq (word : UInt32 → UInt32) (read : Nat → UInt32) (bpp w stride fbStride n
    bufferRow fbRow : Nat) (buffer : WordBuffer) :
    updateRows word read bpp w stride fbStride n bufferRow fbRow buffer =
      writeRows (fun i j => word (read (fbRow + j * fbStride + i * bpp))) w stride n bufferRow
        buffer := by
  induction n generalizing bufferRow fbRow buffer with
  | zero => rfl
  | succ n ih =>
    rw [updateRows, writeRows, ih, updateRow_eq]
    simp only [Nat.zero_mul, Nat.add_zero, Nat.succ_mul, Nat.add_assoc, Nat.add_comm fbStride]

theorem bytesPerPixel_cases {format : PixelFormat} (h : format.bitsPerPixel = 8 ∨
    format.bitsPerPixel = 16 ∨ format.bitsPerPixel = 32) :
    format.bytesPerPixel = 1 ∨ format.bytesPerPixel = 2 ∨ format.bytesPerPixel = 4 := by
  rcases h with h | h | h <;> rw [PixelFormat.bytesPerPixel, h] <;> decide

theorem guacVncUpdateBuffer_word (order : ByteOrder) (client : RfbFramebuffer) (swapRedBlue : Bool)
    (buffer : WordBuffer) {x y w h i j : Nat} (hbpp : client.format.bitsPerPixel = 8 ∨
      client.format.bitsPerPixel = 16 ∨ client.format.bitsPerPixel = 32)
    (hx : x + w ≤ client.width) (hy : y + h ≤ client.height)
    (hsize : client.format.bytesPerPixel * client.width * client.height < 2 ^ 32)
    (hi : i < w) (hj : j < h) :
    guacVncUpdateBuffer order client swapRedBlue x y w h buffer
        (j * cairoFormatStrideForWidth w + 4 * i) =
      updateWord client.format swapRedBlue (loadBytes order client.frameBuffer
        (((y + j) * client.width + (x + i)) * client.format.bytesPerPixel)
        client.format.bytesPerPixel).toUInt32 := by
  set bpp := client.format.bytesPerPixel
  have hrowLe : bpp * client.width ≤ bpp * client.width * client.height :=
    Nat.le_mul_of_pos_right _ (by omega)
  have hyLe : y * (bpp * client.width) ≤ bpp * client.width * client.height := by
    rw [Nat.mul_comm y]; exact Nat.mul_le_mul_left _ (by omega)
  have hxLe : x * bpp ≤ bpp * client.width := by
    rw [Nat.mul_comm x]; exact Nat.mul_le_mul_left _ (by omega)
  have hoff : updateFbOffset client x y + j * updateFbStride client + i * bpp =
      ((y + j) * client.width + (x + i)) * bpp := by
    simp only [updateFbOffset, updateFbStride, toUInt32_of_lt (by omega : bpp * client.width < 2 ^ 32),
      toUInt32_of_lt (by omega : y * (bpp * client.width) < 2 ^ 32),
      toUInt32_of_lt (by omega : x * bpp < 2 ^ 32)]
    ring
  rw [guacVncUpdateBuffer, updateRows_eq, ← Nat.zero_add (j * _),
    writeRows_lane _ (four_mul_le_stride w) _ _ _ hi hj]
  simp only [hoff, readPixel_eq_load (bytesPerPixel_cases hbpp)]

/-- Beyond 4 GiB the `unsigned int` product `y * fb_stride` wraps. In a 65535 × 16386 framebuffer
at 32 bits per pixel, the update of the single pixel `(0, 16385)` reads byte offset 196604, the
pixel `(49151, 0)`, instead of byte offset 4295163900: it draws black where the server sent red. -/
theorem guacVncUpdateBuffer_offset_wraps :
    updateFbOffset ⟨fun a => if a = 4295163902 then 0xFF else 0, 65535, 16386,
        ⟨32, 24, 1, 255, 255, 255, 16, 8, 0⟩⟩ 0 16385 = 196604 ∧
      guacVncUpdateBuffer .littleEndian ⟨fun a => if a = 4295163902 then 0xFF else 0, 65535, 16386,
        ⟨32, 24, 1, 255, 255, 255, 16, 8, 0⟩⟩ false 0 16385 1 1 (fun _ => 0) 0 = 0 ∧
      updateWord ⟨32, 24, 1, 255, 255, 255, 16, 8, 0⟩ false (loadBytes .littleEndian
        (fun a => if a = 4295163902 then 0xFF else 0) ((16385 * 65535 + 0) * 4) 4).toUInt32 =
        0xFF0000 := by
  refine ⟨by decide, by decide, by decide⟩

/-! ### guac_vnc_cursor -/

/-- The inner loop of guac_vnc_cursor, lines 378–415. It returns the mask pointer, which the next
row continues from. -/
def cursorRow (word : UInt32 → UInt8 → UInt32) (read : Nat → UInt32) (mask : Memory) (bpp : Nat) :
    Nat → Nat → Nat → Nat → WordBuffer → WordBuffer × Nat
  | 0, _, _, fbMask, buffer => (buffer, fbMask)
  | n + 1, bufferCurrent, fbCurrent, fbMask, buffer =>
    cursorRow word read mask bpp n (bufferCurrent + 4) (fbCurrent + bpp) (fbMask + 1)
      (writeWord buffer bufferCurrent (word (read fbCurrent) (mask fbMask)))

/-- The outer loop of guac_vnc_cursor, lines 365–416, over the `n` rows left. -/
def cursorRows (word : UInt32 → UInt8 → UInt32) (read : Nat → UInt32) (mask : Memory)
    (bpp w stride fbStride : Nat) : Nat → Nat → Nat → Nat → WordBuffer → WordBuffer
  | 0, _, _, _, buffer => buffer
  | n + 1, bufferRow, fbRow, fbMask, buffer =>
    let row := cursorRow word read mask bpp w bufferRow fbRow fbMask buffer
    cursorRows word read mask bpp w stride fbStride n (bufferRow + stride) (fbRow + fbStride) row.2
      row.1

/-- The ARGB buffer guac_vnc_cursor fills from `rcSource` and `rcMask` for a `w × h` cursor of
`bpp` bytes per pixel; `fb_stride = bpp * w` is an `unsigned int`. -/
def guacVncCursorBuffer (order : ByteOrder) (format : PixelFormat) (swapRedBlue : Bool)
    (rcSource rcMask : Memory) (w h bpp : Nat) (buffer : WordBuffer) : WordBuffer :=
  cursorRows (cursorWord format swapRedBlue) (readPixel order rcSource bpp) rcMask bpp w
    (cairoFormatStrideForWidth w) (toUInt32 (bpp * w)) h 0 0 0 buffer

theorem cursorRow_eq (word : UInt32 → UInt8 → UInt32) (read : Nat → UInt32) (mask : Memory)
    (bpp n bufferCurrent fbCurrent fbMask : Nat) (buffer : WordBuffer) :
    cursorRow word read mask bpp n bufferCurrent fbCurrent fbMask buffer =
      (writeRow (fun k => word (read (fbCurrent + k * bpp)) (mask (fbMask + k))) n bufferCurrent
        buffer, fbMask + n) := by
  induction n generalizing bufferCurrent fbCurrent fbMask buffer with
  | zero => rfl
  | succ n ih =>
    have hrest : (fun k => word (read (fbCurrent + bpp + k * bpp)) (mask (fbMask + 1 + k))) =
        fun k => word (read (fbCurrent + (k + 1) * bpp)) (mask (fbMask + (k + 1))) := by
      funext k
      rw [Nat.succ_mul, show fbCurrent + bpp + k * bpp = fbCurrent + (k * bpp + bpp) by omega,
        show fbMask + 1 + k = fbMask + (k + 1) by omega]
    rw [cursorRow, writeRow, ih, hrest, Nat.zero_mul, Nat.add_assoc, Nat.add_comm 1 n]; rfl

theorem cursorRows_eq (word : UInt32 → UInt8 → UInt32) (read : Nat → UInt32) (mask : Memory)
    (bpp w stride fbStride n bufferRow fbRow fbMask : Nat) (buffer : WordBuffer) :
    cursorRows word read mask bpp w stride fbStride n bufferRow fbRow fbMask buffer =
      writeRows (fun i j => word (read (fbRow + j * fbStride + i * bpp)) (mask (fbMask + j * w + i)))
        w stride n bufferRow buffer := by
  induction n generalizing bufferRow fbRow fbMask buffer with
  | zero => rfl
  | succ n ih =>
    rw [cursorRows, writeRows, cursorRow_eq, ih]
    simp only [Nat.zero_mul, Nat.add_zero, Nat.succ_mul, Nat.add_assoc, Nat.add_comm fbStride,
      Nat.add_comm w]

/-- While `h*stride` fits an `int`, `malloc` gets exactly `h*stride` bytes and neither translation
loop stores a word that reaches past them: every store of guac_vnc_update and of guac_vnc_cursor
lands inside the scratch buffer, for every rectangle and every source. -/
theorem scratchBuffer_stores_in_bounds (order : ByteOrder) (client : RfbFramebuffer) (format : PixelFormat)
    (swapRedBlue : Bool) (rcSource rcMask : Memory) (buffer : WordBuffer) {x y w h bpp : Nat}
    (hsize : h * (4 * w) < 2 ^ 31) :
    scratchSize w h = h * cairoFormatStrideForWidth w ∧
      ∀ o, h * cairoFormatStrideForWidth w < o + 4 →
        guacVncUpdateBuffer order client swapRedBlue x y w h buffer o = buffer o ∧
          guacVncCursorBuffer order format swapRedBlue rcSource rcMask w h bpp buffer o = buffer o := by
  have hstride : cairoFormatStrideForWidth w = 4 * w := Nat.mul_comm w 4
  refine ⟨hstride ▸ scratchSize_eq_of_lt hsize, fun o ho => ⟨?_, ?_⟩⟩
  · rw [guacVncUpdateBuffer, updateRows_eq]
    exact writeRows_frame_above _ (four_mul_le_stride w) _ _ _ (by omega)
  · rw [guacVncCursorBuffer, cursorRows_eq]
    exact writeRows_frame_above _ (four_mul_le_stride w) _ _ _ (by omega)

theorem scratchBuffer_stores_in_bounds_cursor :
    32 * (4 * 32) < 2 ^ 31 ∧ scratchSize 32 32 = 32 * cairoFormatStrideForWidth 32 ∧
      guacVncUpdateBuffer .littleEndian ⟨fun _ => 0xFF, 64, 64, ⟨32, 24, 1, 255, 255, 255, 16, 8, 0⟩⟩ false
          0 0 32 32 (fun _ => 0) 4096 = 0 ∧
        guacVncCursorBuffer .littleEndian ⟨32, 24, 1, 255, 255, 255, 16, 8, 0⟩ false (fun _ => 0xFF)
          (fun _ => 1) 32 32 4 (fun _ => 0) 4096 = 0 := by
  have h := @scratchBuffer_stores_in_bounds .littleEndian ⟨fun _ => 0xFF, 64, 64, ⟨32, 24, 1, 255, 255, 255, 16, 8, 0⟩⟩
    ⟨32, 24, 1, 255, 255, 255, 16, 8, 0⟩ false (fun _ => 0xFF) (fun _ => 1) (fun _ => 0) 0 0 32 32 4 (by decide)
  exact ⟨by decide, h.1, h.2 4096 (by decide)⟩

end OccamyVnc
