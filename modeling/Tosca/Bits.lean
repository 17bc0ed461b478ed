/-
# Bytes as numbers

The drivers assemble and split bytes with `|`, `<<`, `>>` and `&`. In Lean 4.14 the
fixed-width integers are built on `BitVec`; the lemmas here take these operations down to
`Nat` once, so that the drivers' proofs end in `omega`.
-/

import Mathlib.Data.Nat.Bitwise

namespace Tosca

/-- Bits below `2 ^ k` do not meet those of a multiple of `2 ^ k`. -/
theorem two_pow_mul_or_of_lt (a : Nat) {b k : Nat} (small : b < 2 ^ k) :
    2 ^ k * a ||| b = 2 ^ k * a + b := by
  apply Nat.eq_of_testBit_eq
  intro j
  rw [Nat.testBit_or, Nat.testBit_mul_pow_two_add a small, Nat.testBit_mul_pow_two]
  split
  · simp [show ¬ j ≥ k by omega]
  · rw [Nat.testBit_lt_two_pow (lt_of_lt_of_le small (Nat.pow_le_pow_right (by omega) (by omega)))]
    simp [show j ≥ k by omega]

theorem toNat_or_uint8 (a b : UInt8) : (a ||| b).toNat = a.toNat ||| b.toNat :=
  BitVec.toNat_or ..

theorem toNat_or_uint16 (a b : UInt16) : (a ||| b).toNat = a.toNat ||| b.toNat :=
  BitVec.toNat_or ..

theorem toNat_add_uint8 (a b : UInt8) : (a + b).toNat = (a.toNat + b.toNat) % 256 :=
  BitVec.toNat_add ..

theorem toNat_shiftLeft_eight (a : UInt16) : (a <<< 8).toNat = a.toNat * 256 % 65536 := by
  show (a.toBitVec <<< (UInt16.mod 8 16).toBitVec).toNat = _
  rw [BitVec.shiftLeft_eq', BitVec.toNat_shiftLeft, Nat.shiftLeft_eq]
  rfl

theorem uint8_eq_iff {x y : UInt8} : x = y ↔ x.toNat = y.toNat :=
  ⟨congrArg _, UInt8.toNat.inj⟩

/-- `u16::from(high) << 8 | u16::from(low)`: the two bytes as one 16-bit value. -/
theorem pack_eq (high low : UInt8) :
    (high.toUInt16 <<< 8) ||| low.toUInt16 = (high.toNat * 256 + low.toNat).toUInt16 := by
  have hb : high.toNat < 256 := high.toNat_lt_size
  have lb : low.toNat < 2 ^ 8 := low.toNat_lt_size
  apply UInt16.toNat.inj
  rw [toNat_or_uint16, toNat_shiftLeft_eight]
  change high.toNat * 256 % 65536 ||| low.toNat = _
  rw [Nat.mod_eq_of_lt (by omega), show high.toNat * 256 = 2 ^ 8 * high.toNat by omega,
    two_pow_mul_or_of_lt _ lb]
  exact (UInt16.toNat_ofNat_of_lt (show _ < 65536 by omega)).symm

end Tosca
