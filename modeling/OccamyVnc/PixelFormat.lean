import OccamyVnc.Machine

/-!
# Pixel formats and channel translation

The pixel format guac_vnc_set_pixel_format requests of the server, and the per-pixel translation
that guac_vnc_update and guac_vnc_cursor apply to the format the server actually reports. Each
channel is `(v >> shift) * 0x100 / (max + 1)` computed in `unsigned int` and stored into an
`unsigned char`: the code never masks the channel out of `v`, and the product can wrap. The main
result of this module is that for every RFB channel (`max = 2^k - 1`, `k ≤ 16`) the stored byte is
nevertheless the exactly scaled channel value.
-/

namespace OccamyVnc

/-- The fields of libvncclient's `rfbPixelFormat` that `vnc.c` writes or reads. -/
structure PixelFormat where
  bitsPerPixel : UInt8
  depth : UInt8
  trueColour : UInt8
  redMax : UInt16
  greenMax : UInt16
  blueMax : UInt16
  redShift : UInt8
  greenShift : UInt8
  blueShift : UInt8
  deriving DecidableEq, Repr

/-- guac_vnc_set_pixel_format: the format requested for a color depth of 8, 16, or anything
else (24, 32 and every other value fall to the 24-bit case). -/
def guacVncSetPixelFormat (format : PixelFormat) (colorDepth : Int) : PixelFormat :=
  let format := { format with trueColour := 1 }
  if colorDepth = 8 then
    { format with
      depth := 8, bitsPerPixel := 8
      blueShift := 6, redShift := 0, greenShift := 3
      blueMax := 3, redMax := 7, greenMax := 7 }
  else if colorDepth = 16 then
    { format with
      depth := 16, bitsPerPixel := 16
      blueShift := 0, redShift := 11, greenShift := 5
      blueMax := 0x1f, redMax := 0x1f, greenMax := 0x3f }
  else
    { format with
      depth := 24, bitsPerPixel := 32
      blueShift := 0, redShift := 16, greenShift := 8
      blueMax := 0xff, redMax := 0xff, greenMax := 0xff }

/-- `bpp` of guac_vnc_update: `client->format.bitsPerPixel/8`. -/
def PixelFormat.bytesPerPixel (format : PixelFormat) : Nat := format.bitsPerPixel.toNat / 8

/-- A true-colour format of 8, 16 or 32 bits per pixel whose channels are fields of `redBits`,
`greenBits` and `blueBits` bits inside the pixel, adding up to the depth. -/
structure PixelFormat.Valid (format : PixelFormat) (redBits greenBits blueBits : Nat) : Prop where
  bitsPerPixel : format.bitsPerPixel = 8 ∨ format.bitsPerPixel = 16 ∨ format.bitsPerPixel = 32
  trueColour : format.trueColour = 1
  depth : format.depth.toNat = redBits + greenBits + blueBits
  redMax : format.redMax.toNat = 2 ^ redBits - 1
  greenMax : format.greenMax.toNat = 2 ^ greenBits - 1
  blueMax : format.blueMax.toNat = 2 ^ blueBits - 1
  redField : 0 < redBits ∧ format.redShift.toNat + redBits ≤ format.bitsPerPixel.toNat
  greenField : 0 < greenBits ∧ format.greenShift.toNat + greenBits ≤ format.bitsPerPixel.toNat
  blueField : 0 < blueBits ∧ format.blueShift.toNat + blueBits ≤ format.bitsPerPixel.toNat

theorem guacVncSetPixelFormat_valid (format : PixelFormat) (colorDepth : Int) :
    ∃ r g b, (guacVncSetPixelFormat format colorDepth).Valid r g b := by
  unfold guacVncSetPixelFormat
  split_ifs
  · exact ⟨3, 3, 2, by constructor <;> dsimp only <;> decide⟩
  · exact ⟨5, 6, 5, by constructor <;> dsimp only <;> decide⟩
  · exact ⟨8, 8, 8, by constructor <;> dsimp only <;> decide⟩

theorem PixelFormat.Valid.bitsPerPixel_toNat {format : PixelFormat} {r g b : Nat}
    (hv : format.Valid r g b) : format.bitsPerPixel.toNat ≤ 32 := by
  rcases hv.bitsPerPixel with h | h | h <;> rw [h] <;> decide

/-- One channel: `(v >> shift) * 0x100 / (max + 1)`. The shift and product are `unsigned int`;
`max + 1` is an `int` in `[1, 65536]` converted to `unsigned int`; the result is stored into an
`unsigned char`. -/
def translateChannel (v : UInt32) (shift : UInt8) (max : UInt16) : UInt8 :=
  ((v >>> shift.toUInt32) * 0x100 / (max.toUInt32 + 1)).toUInt8

/-- The word guac_vnc_update writes for the raw pixel value `v`. -/
def updateWord (format : PixelFormat) (swapRedBlue : Bool) (v : UInt32) : UInt32 :=
  let red := translateChannel v format.redShift format.redMax
  let green := translateChannel v format.greenShift format.greenMax
  let blue := translateChannel v format.blueShift format.blueMax
  if swapRedBlue then (blue.toUInt32 <<< 16) ||| (green.toUInt32 <<< 8) ||| red.toUInt32
  else (red.toUInt32 <<< 16) ||| (green.toUInt32 <<< 8) ||| blue.toUInt32

/-- The word guac_vnc_cursor writes for the raw pixel value `v` and its mask byte. The code
shifts `alpha` into the sign bit of an `int`; the model keeps the unsigned value stored. -/
def cursorWord (format : PixelFormat) (swapRedBlue : Bool) (v : UInt32) (mask : UInt8) :
    UInt32 :=
  let alpha : UInt8 := if mask ≠ 0 then 0xFF else 0x00
  let red := translateChannel v format.redShift format.redMax
  let green := translateChannel v format.greenShift format.greenMax
  let blue := translateChannel v format.blueShift format.blueMax
  if swapRedBlue then
    (alpha.toUInt32 <<< 24) ||| (blue.toUInt32 <<< 16) ||| (green.toUInt32 <<< 8) ||| red.toUInt32
  else
    (alpha.toUInt32 <<< 24) ||| (red.toUInt32 <<< 16) ||| (green.toUInt32 <<< 8) ||| blue.toUInt32

/-! ### Channel values -/

theorem scale_byte (x k : Nat) (hk : k ≤ 24) :
    x * 256 % 2 ^ 32 / 2 ^ k % 256 = x % 2 ^ k * 256 / 2 ^ k := by
  have hP : 0 < 2 ^ k := Nat.two_pow_pos k
  have h24 : x * 256 % 2 ^ 32 = x % 2 ^ 24 * 256 := Nat.mul_mod_mul_right 256 x (2 ^ 24)
  have hsplit : x % 2 ^ 24 = 2 ^ k * (x % 2 ^ 24 / 2 ^ k) + x % 2 ^ k := by
    conv_rhs => rw [← Nat.mod_mod_of_dvd x (Nat.pow_dvd_pow 2 hk)]
    exact (Nat.div_add_mod _ _).symm
  have hr : x % 2 ^ k * 256 / 2 ^ k < 256 :=
    Nat.div_lt_of_lt_mul (Nat.mul_lt_mul_of_pos_right (Nat.mod_lt x hP) (by decide))
  rw [h24, hsplit, Nat.add_mul, Nat.mul_assoc, Nat.mul_add_div hP, Nat.mul_add_mod_of_lt hr]

theorem divisor_toNat (max : UInt16) : (max.toUInt32 + 1).toNat = max.toNat + 1 := by
  have := uint16_toNat_lt max
  simp only [uint32_toNat_add, uint16_toUInt32_toNat, uint32_toNat_ofNat]
  omega

theorem translateChannel_toNat (v : UInt32) (shift : UInt8) (max : UInt16) :
    (translateChannel v shift max).toNat =
      (v.toNat >>> (shift.toNat % 32)) * 256 % 2 ^ 32 / (max.toNat + 1) % 256 := by
  simp only [translateChannel, Nat.reducePow, Nat.reduceMod, uint32_toUInt8_toNat, UInt32.toNat_div, divisor_toNat,
    uint32_toNat_mul, uint32_toNat_shiftRight, uint8_toUInt32_toNat, uint32_toNat_ofNat]

theorem exponent_le_of_uint16 {max : UInt16} {k : Nat} (hmax : max.toNat = 2 ^ k - 1) : k ≤ 16 := by
  have hlt : 2 ^ k < 2 ^ 17 := by have := uint16_toNat_lt max; have := Nat.two_pow_pos k; omega
  exact Nat.lt_succ_iff.mp ((Nat.pow_lt_pow_iff_right (by decide)).mp hlt)

theorem translateChannel_toNat_scaled (v : UInt32) (shift : UInt8) {max : UInt16} {k : Nat}
    (hshift : shift.toNat < 32) (hmax : max.toNat = 2 ^ k - 1) :
    (translateChannel v shift max).toNat = (v.toNat >>> shift.toNat) % 2 ^ k * 256 / 2 ^ k := by
  have hP : max.toNat + 1 = 2 ^ k := by have := Nat.two_pow_pos k; omega
  rw [translateChannel_toNat, Nat.mod_eq_of_lt hshift, hP,
    scale_byte _ _ (by have := exponent_le_of_uint16 hmax; omega)]

/-- For every 32-bit value and every RFB channel (`shift < 32`, `max = 2^k - 1`), the byte the
code stores is the masked channel value scaled exactly to `[0, 256)`, and the divisor is never 0. -/
theorem translateChannel_exact (v : UInt32) (shift : UInt8) (max : UInt16) (k : Nat)
    (hshift : shift.toNat < 32) (hmax : max.toNat = 2 ^ k - 1) :
    (translateChannel v shift max).toNat =
        (v.toNat >>> shift.toNat &&& max.toNat) * 256 / (max.toNat + 1) ∧
      (v.toNat >>> shift.toNat &&& max.toNat) * 256 / (max.toNat + 1) < 256 ∧
      max.toUInt32 + 1 ≠ 0 := by
  have hP : max.toNat + 1 = 2 ^ k := by have := Nat.two_pow_pos k; omega
  have hmask : v.toNat >>> shift.toNat &&& max.toNat = (v.toNat >>> shift.toNat) % 2 ^ k := by
    rw [hmax, Nat.and_pow_two_sub_one_eq_mod]
  refine ⟨?_, ?_, ?_⟩
  · rw [hmask, hP]; exact translateChannel_toNat_scaled v shift hshift hmax
  · rw [hmask, hP]
    exact Nat.div_lt_of_lt_mul
      (Nat.mul_lt_mul_of_pos_right (Nat.mod_lt _ (Nat.two_pow_pos k)) (by decide))
  · intro h
    have := divisor_toNat max
    rw [h] at this
    exact absurd this (by simp)

theorem translateChannel_exact_top_byte :
    (0 : UInt8).toNat < 32 ∧ (0xFF : UInt16).toNat = 2 ^ 8 - 1 ∧
      (translateChannel 0xFF0000FF 0 0xFF).toNat = 0xFF :=
  ⟨by decide, by decide, (translateChannel_exact 0xFF0000FF 0 0xFF 8 (by decide) (by decide)).1⟩

/-! ### Assembled words -/

theorem or_shift_eq_add {y : Nat} (x k : Nat) (hy : y < 2 ^ k) : x * 2 ^ k ||| y = x * 2 ^ k + y := by
  rw [Nat.mul_comm]; exact (Nat.mul_add_lt_is_or hy x).symm

theorem byte_shiftLeft_toNat (a : UInt8) (k : Nat) (hk : k ≤ 24) :
    (a.toUInt32 <<< (OfNat.ofNat k : UInt32)).toNat = a.toNat * 2 ^ k := by
  have ha := uint8_toNat_lt a
  have hpow : 2 ^ k ≤ 2 ^ 24 := Nat.pow_le_pow_right (by decide) hk
  have hlt : a.toNat * 2 ^ k < 2 ^ 32 :=
    calc a.toNat * 2 ^ k < 2 ^ 8 * 2 ^ 24 :=
          Nat.mul_lt_mul_of_lt_of_le (by omega) hpow (Nat.two_pow_pos 24)
      _ = 2 ^ 32 := rfl
  rw [uint32_toNat_shiftLeft, uint32_toNat_ofNat, Nat.mod_eq_of_lt (by omega : k < 2 ^ 32),
    Nat.mod_eq_of_lt (by omega : k < 32), Nat.shiftLeft_eq, uint8_toUInt32_toNat,
    Nat.mod_eq_of_lt hlt]

theorem rgb_toNat (a b c : UInt8) :
    ((a.toUInt32 <<< 16) ||| (b.toUInt32 <<< 8) ||| c.toUInt32).toNat =
      a.toNat * 2 ^ 16 + b.toNat * 2 ^ 8 + c.toNat := by
  have := uint8_toNat_lt b; have := uint8_toNat_lt c
  rw [uint32_toNat_or, uint32_toNat_or, byte_shiftLeft_toNat _ 16 (by decide),
    byte_shiftLeft_toNat _ 8 (by decide), uint8_toUInt32_toNat, Nat.lor_assoc,
    or_shift_eq_add _ 8 (by omega), or_shift_eq_add _ 16 (by omega)]
  omega

/-- The exact value of the `bits`-wide channel at `shift` of `v`, scaled to a byte. -/
def exactChannel (v : UInt32) (shift : UInt8) (bits : Nat) : Nat :=
  (v.toNat >>> shift.toNat) % 2 ^ bits * 256 / 2 ^ bits

/-- For a valid format the word guac_vnc_update writes is the three exactly scaled channels, red,
green and blue from the high byte down, or blue first when `swap_red_blue` is set. -/
theorem updateWord_toNat_of_valid {format : PixelFormat} {r g b : Nat} (hv : format.Valid r g b)
    (swapRedBlue : Bool) (v : UInt32) :
    (updateWord format swapRedBlue v).toNat =
      if swapRedBlue then
        exactChannel v format.blueShift b * 2 ^ 16 + exactChannel v format.greenShift g * 2 ^ 8 +
          exactChannel v format.redShift r
      else
        exactChannel v format.redShift r * 2 ^ 16 + exactChannel v format.greenShift g * 2 ^ 8 +
          exactChannel v format.blueShift b := by
  have hbpp := hv.bitsPerPixel_toNat
  have hr := translateChannel_toNat_scaled v format.redShift (by have := hv.redField; omega) hv.redMax
  have hg := translateChannel_toNat_scaled v format.greenShift (by have := hv.greenField; omega) hv.greenMax
  have hb := translateChannel_toNat_scaled v format.blueShift (by have := hv.blueField; omega) hv.blueMax
  unfold updateWord
  cases swapRedBlue <;> simp only [Bool.false_eq_true, if_true, if_false, rgb_toNat, hr, hg, hb, exactChannel]

theorem updateWord_toNat_of_valid_rgb888 :
    (⟨32, 24, 1, 255, 255, 255, 16, 8, 0⟩ : PixelFormat).Valid 8 8 8 ∧
      (updateWord ⟨32, 24, 1, 255, 255, 255, 16, 8, 0⟩ false 0x00123456).toNat =
        exactChannel 0x00123456 16 8 * 2 ^ 16 + exactChannel 0x00123456 8 8 * 2 ^ 8 +
          exactChannel 0x00123456 0 8 := by
  have hv : (⟨32, 24, 1, 255, 255, 255, 16, 8, 0⟩ : PixelFormat).Valid 8 8 8 := by constructor <;> decide
  exact ⟨hv, updateWord_toNat_of_valid hv false 0x00123456⟩

/-! ### No colour is lost -/

theorem scale_small (c : Nat) {bits : Nat} (hbits : bits ≤ 8) : c * 256 / 2 ^ bits = c * 2 ^ (8 - bits) := by
  have h256 : (256 : Nat) = 2 ^ bits * 2 ^ (8 - bits) := by rw [← Nat.pow_add, Nat.add_sub_cancel' hbits]
  rw [h256, Nat.mul_left_comm, Nat.mul_div_cancel_left _ (Nat.two_pow_pos bits)]

theorem translateChannel_toNat_small (v : UInt32) (shift : UInt8) {max : UInt16} {k : Nat}
    (hshift : shift.toNat < 32) (hmax : max.toNat = 2 ^ k - 1) (hk : k ≤ 8) :
    (translateChannel v shift max).toNat = (v.toNat >>> shift.toNat) % 2 ^ k * 2 ^ (8 - k) := by
  rw [translateChannel_toNat_scaled v shift hshift hmax, scale_small _ hk]

theorem translateChannel_eq_iff (v w : UInt32) (shift : UInt8) {max : UInt16} {k : Nat}
    (hshift : shift.toNat < 32) (hmax : max.toNat = 2 ^ k - 1) (hk : k ≤ 8) :
    (translateChannel v shift max).toNat = (translateChannel w shift max).toNat ↔
      (v.toNat >>> shift.toNat) % 2 ^ k = (w.toNat >>> shift.toNat) % 2 ^ k := by
  rw [translateChannel_toNat_small v shift hshift hmax hk, translateChannel_toNat_small w shift hshift hmax hk]
  exact Nat.mul_left_inj (Nat.two_pow_pos _).ne'

theorem bytes_eq_iff {a b c a' b' c' : Nat} (hb : b < 256) (hc : c < 256) (hb' : b' < 256) (hc' : c' < 256) :
    a * 2 ^ 16 + b * 2 ^ 8 + c = a' * 2 ^ 16 + b' * 2 ^ 8 + c' ↔ a = a' ∧ b = b' ∧ c = c' := by
  simp only [Nat.reducePow]; omega

/-- For every valid format whose channels have at most 8 bits, as the 3-3-2, 5-6-5 and 8-8-8
formats the client requests do, two pixel values give the viewers the same word exactly when their
three channels agree: with or without `swap_red_blue`, the translation loses no colour. -/
theorem updateWord_eq_iff {format : PixelFormat} {r g b : Nat} (hv : format.Valid r g b) (hr : r ≤ 8)
    (hg : g ≤ 8) (hb : b ≤ 8) (swapRedBlue : Bool) (v w : UInt32) :
    updateWord format swapRedBlue v = updateWord format swapRedBlue w ↔
      (v.toNat >>> format.redShift.toNat) % 2 ^ r = (w.toNat >>> format.redShift.toNat) % 2 ^ r ∧
        (v.toNat >>> format.greenShift.toNat) % 2 ^ g = (w.toNat >>> format.greenShift.toNat) % 2 ^ g ∧
        (v.toNat >>> format.blueShift.toNat) % 2 ^ b = (w.toNat >>> format.blueShift.toNat) % 2 ^ b := by
  have hbpp := hv.bitsPerPixel_toNat
  have hR := translateChannel_eq_iff v w format.redShift (by have := hv.redField; omega) hv.redMax hr
  have hG := translateChannel_eq_iff v w format.greenShift (by have := hv.greenField; omega) hv.greenMax hg
  have hB := translateChannel_eq_iff v w format.blueShift (by have := hv.blueField; omega) hv.blueMax hb
  have htoNat : Function.Injective UInt32.toNat := fun _ _ => uint32_eq_of_toNat_eq
  rw [← hR, ← hG, ← hB, ← htoNat.eq_iff, updateWord, updateWord]
  cases swapRedBlue <;> simp only [Bool.false_eq_true, if_true, if_false, rgb_toNat] <;>
    rw [bytes_eq_iff (uint8_toNat_lt _) (uint8_toNat_lt _) (uint8_toNat_lt _) (uint8_toNat_lt _)]
  -- with the swap, blue is the high byte
  exact ⟨fun ⟨hb, hg, hr⟩ => ⟨hr, hg, hb⟩, fun ⟨hr, hg, hb⟩ => ⟨hb, hg, hr⟩⟩

theorem updateWord_eq_iff_rgb565 :
    ((⟨16, 16, 1, 0x1f, 0x3f, 0x1f, 11, 5, 0⟩ : PixelFormat).Valid 5 6 5 ∧ 5 ≤ 8 ∧ 6 ≤ 8 ∧ 5 ≤ 8) ∧
      (updateWord ⟨16, 16, 1, 0x1f, 0x3f, 0x1f, 11, 5, 0⟩ true 0xFFFF = updateWord ⟨16, 16, 1, 0x1f, 0x3f, 0x1f, 11, 5, 0⟩ true 0x1FFFF ↔
        ((0xFFFF : UInt32).toNat >>> 11) % 2 ^ 5 = ((0x1FFFF : UInt32).toNat >>> 11) % 2 ^ 5 ∧
          ((0xFFFF : UInt32).toNat >>> 5) % 2 ^ 6 = ((0x1FFFF : UInt32).toNat >>> 5) % 2 ^ 6 ∧
          ((0xFFFF : UInt32).toNat >>> 0) % 2 ^ 5 = ((0x1FFFF : UInt32).toNat >>> 0) % 2 ^ 5) := by
  have hv : (⟨16, 16, 1, 0x1f, 0x3f, 0x1f, 11, 5, 0⟩ : PixelFormat).Valid 5 6 5 := by constructor <;> decide
  exact ⟨⟨hv, by decide, by decide, by decide⟩,
    updateWord_eq_iff hv (by decide) (by decide) (by decide) true 0xFFFF 0x1FFFF⟩

end OccamyVnc
