import Mathlib.Data.Nat.Bitwise

/-!
# C integer arithmetic of the VNC plugin

`vnc.c` computes pixel values in `unsigned int` and `unsigned char`, buffer sizes and timeouts in
`int`, and timestamps in the 64-bit `guac_timestamp`. Unsigned C values are Lean's `UInt8`,
`UInt16` and `UInt32`. Signed values are `Int`, narrowed by `toInt32` or `toInt64` wherever C
converts to a narrower type or an operation can overflow. Signed overflow is undefined in C; the
model takes the two's-complement value the generated code computes.
-/

namespace OccamyVnc

/-- The `int` that holds `n` after a narrowing conversion or a wrapped signed operation:
`n` reduced into `[-2^31, 2^31)` modulo `2^32`. -/
def toInt32 (n : Int) : Int := (n + 2147483648) % 4294967296 - 2147483648

/-- The `int64_t` that holds `n` after a wrapped signed operation: `n` reduced into
`[-2^63, 2^63)` modulo `2^64`. -/
def toInt64 (n : Int) : Int :=
  (n + 9223372036854775808) % 18446744073709551616 - 9223372036854775808

/-- The `unsigned int` that holds a non-negative `n`. -/
def toUInt32 (n : Nat) : Nat := n % 2 ^ 32

theorem toInt32_of_range {n : Int} (h1 : -2147483648 ≤ n) (h2 : n < 2147483648) :
    toInt32 n = n := by
  unfold toInt32; omega

theorem toInt64_of_range {n : Int} (h1 : -9223372036854775808 ≤ n)
    (h2 : n < 9223372036854775808) : toInt64 n = n := by
  unfold toInt64; omega

theorem toUInt32_of_lt {n : Nat} (h : n < 2 ^ 32) : toUInt32 n = n := Nat.mod_eq_of_lt h

/-! ### `UInt32` operations read as natural numbers -/

@[simp] theorem uint32_toNat_shiftRight (a b : UInt32) :
    (a >>> b).toNat = a.toNat >>> (b.toNat % 32) := by
  show (a.toBitVec >>> (b % 32).toBitVec.toNat).toNat = _
  rw [BitVec.toNat_ushiftRight]; rfl

@[simp] theorem uint32_toNat_shiftLeft (a b : UInt32) :
    (a <<< b).toNat = a.toNat <<< (b.toNat % 32) % 2 ^ 32 := by
  show (a.toBitVec <<< (b % 32).toBitVec.toNat).toNat = _
  rw [BitVec.toNat_shiftLeft]; rfl

@[simp] theorem uint32_toNat_mul (a b : UInt32) : (a * b).toNat = a.toNat * b.toNat % 2 ^ 32 :=
  BitVec.toNat_mul _ _

@[simp] theorem uint32_toNat_add (a b : UInt32) : (a + b).toNat = (a.toNat + b.toNat) % 2 ^ 32 :=
  BitVec.toNat_add _ _

@[simp] theorem uint32_toNat_or (a b : UInt32) : (a ||| b).toNat = a.toNat ||| b.toNat :=
  BitVec.toNat_or _ _

@[simp] theorem uint32_toNat_ofNat (n : Nat) :
    (no_index (OfNat.ofNat n) : UInt32).toNat = n % 2 ^ 32 :=
  BitVec.toNat_ofNat _ _

@[simp] theorem uint32_toUInt8_toNat (a : UInt32) : a.toUInt8.toNat = a.toNat % 256 :=
  BitVec.toNat_ofNat _ _

@[simp] theorem uint8_toUInt32_toNat (a : UInt8) : a.toUInt32.toNat = a.toNat := rfl

@[simp] theorem uint16_toUInt32_toNat (a : UInt16) : a.toUInt32.toNat = a.toNat := rfl

theorem uint8_toNat_lt (a : UInt8) : a.toNat < 256 := a.toBitVec.isLt

theorem uint16_toNat_lt (a : UInt16) : a.toNat < 65536 := a.toBitVec.isLt

theorem uint32_eq_of_toNat_eq {a b : UInt32} (h : a.toNat = b.toNat) : a = b :=
  UInt32.toNat.inj h

end OccamyVnc
