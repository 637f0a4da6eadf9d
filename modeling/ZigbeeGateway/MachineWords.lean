import Mathlib.Data.Nat.Bits
import Mathlib.Data.Int.DivMod
import Mathlib.Tactic.Linarith
import Mathlib.Tactic.Ring

namespace ZigbeeGateway.MachineWords

def int32 (x : ℤ) : ℤ := (x + 2147483648) % 4294967296 - 2147483648

def int16 (x : ℤ) : ℤ := (x + 32768) % 65536 - 32768

def InInt32 (x : ℤ) : Prop := -2147483648 ≤ x ∧ x ≤ 2147483647

def InInt16 (x : ℤ) : Prop := -32768 ≤ x ∧ x ≤ 32767

instance (x : ℤ) : Decidable (InInt32 x) := inferInstanceAs (Decidable (_ ∧ _))

instance (x : ℤ) : Decidable (InInt16 x) := inferInstanceAs (Decidable (_ ∧ _))

theorem int32_mem (x : ℤ) : InInt32 (int32 x) := by unfold InInt32 int32; omega

theorem int32_of_mem {x : ℤ} (h : InInt32 x) : int32 x = x := by
  unfold InInt32 at h; unfold int32; omega

theorem int16_eq_self_iff {x : ℤ} : int16 x = x ↔ InInt16 x := by
  unfold InInt16 int16; omega

/-- The cast keeps the residue modulo 2^16. -/
theorem int16_emod (x : ℤ) : int16 x % 65536 = x % 65536 := by unfold int16; omega

def beWord (hi lo : UInt8) : UInt16 := hi.toUInt16 <<< 8 ||| lo.toUInt16

def beUnsigned (hi lo : UInt8) : ℤ := 256 * hi.toNat + lo.toNat

def beSigned (hi lo : UInt8) : ℤ :=
  if beUnsigned hi lo < 32768 then beUnsigned hi lo else beUnsigned hi lo - 65536

theorem toNat_beWord (hi lo : UInt8) : (beWord hi lo).toNat = 256 * hi.toNat + lo.toNat := by
  have hh := hi.toNat_lt
  have hl := lo.toNat_lt
  have hs : hi.toNat <<< 8 < 2 ^ 16 := by rw [Nat.shiftLeft_eq]; omega
  simp only [beWord, UInt16.toNat_or, UInt16.toNat_shiftLeft, UInt8.toNat_toUInt16]
  rw [show (8 : UInt16).toNat % 16 = 8 from rfl, Nat.mod_eq_of_lt hs,
    ← Nat.shiftLeft_add_eq_or_of_lt hl, Nat.shiftLeft_eq]
  omega

theorem toNat_beWord_int (hi lo : UInt8) : ((beWord hi lo).toNat : ℤ) = beUnsigned hi lo := by
  rw [toNat_beWord, beUnsigned]
  push_cast
  ring

theorem toInt_beWord (hi lo : UInt8) : (beWord hi lo).toInt16.toInt = beSigned hi lo := by
  have hw := toNat_beWord hi lo
  have hh := hi.toNat_lt
  have hl := lo.toNat_lt
  have hi16 : (beWord hi lo).toInt16.toInt =
      if 2 * (beWord hi lo).toNat < 65536 then ((beWord hi lo).toNat : ℤ)
      else (beWord hi lo).toNat - 65536 := BitVec.toInt_eq_toNat_cond _
  rw [hi16, hw, beSigned, beUnsigned]
  push_cast
  split_ifs <;> omega

/-- A word is put together again from its two bytes. -/
theorem beWord_bytes (w : UInt16) : beWord (w >>> 8).toUInt8 w.toUInt8 = w := by
  apply UInt16.toNat_inj.mp
  have hw := w.toNat_lt
  rw [toNat_beWord]
  simp [Nat.shiftRight_eq_div_pow]
  omega

theorem beWord_high (hi lo : UInt8) : (beWord hi lo >>> 8).toUInt8 = hi := by
  apply UInt8.toNat_inj.mp
  have hh := hi.toNat_lt
  have hl := lo.toNat_lt
  simp [toNat_beWord, Nat.shiftRight_eq_div_pow]
  omega

theorem beWord_low (hi lo : UInt8) : (beWord hi lo).toUInt8 = lo := by
  apply UInt8.toNat_inj.mp
  have hl := lo.toNat_lt
  simp [toNat_beWord]

/-- The `int` that a `uint8_t` operand becomes; for an `int16_t` it is `Int16.toInt32`. -/
def promote (b : UInt8) : Int32 := b.toUInt32.toInt32

def castUInt8 (x : Int32) : UInt8 := x.toUInt32.toUInt8

theorem castUInt8_mask (x : Int32) : castUInt8 (x &&& 0xFF) = castUInt8 x := by
  have hmask : (Int32.toUInt32 0xFF).toUInt8 = -1 := by decide
  rw [castUInt8, Int32.toUInt32_and, UInt32.toUInt8_and, hmask, UInt8.and_neg_one, castUInt8]

theorem castUInt8_toInt32 (x : Int16) : castUInt8 x.toInt32 = x.toUInt16.toUInt8 := by
  apply UInt8.toBitVec_inj.mp
  apply BitVec.eq_of_getLsbD_eq
  intro i hi
  have hext : (BitVec.signExtend 32 x.toBitVec).getLsbD i = x.toBitVec.getLsbD i := by
    rw [BitVec.getLsbD_signExtend]
    simp [show i < 32 by omega, show i < 16 by omega]
  simp [castUInt8, hext]

theorem castUInt8_shiftRight (x : Int16) :
    castUInt8 (x.toInt32 >>> 8) = (x.toUInt16 >>> 8).toUInt8 := by
  apply UInt8.toBitVec_inj.mp
  apply BitVec.eq_of_getLsbD_eq
  intro i hi
  have hshift : (BitVec.sshiftRight (BitVec.signExtend 32 x.toBitVec) 8).getLsbD i =
      x.toBitVec.getLsbD (8 + i) := by
    rw [BitVec.getLsbD_sshiftRight, BitVec.getLsbD_signExtend]
    simp [show i < 32 by omega, show 8 + i < 32 by omega, show 8 + i < 16 by omega]
  simp [castUInt8, hshift]

/-- `(int16_t)(hi << 8 | lo)` is the word of the two bytes. -/
theorem toInt16_promote (hi lo : UInt8) :
    (promote hi <<< 8 ||| promote lo).toInt16 = (beWord hi lo).toInt16 := by
  have htrunc : ∀ x : BitVec 32, x.signExtend 16 = x.setWidth 16 :=
    fun x => BitVec.signExtend_eq_setWidth_of_le x (by decide)
  apply Int16.toBitVec_inj.mp
  apply BitVec.eq_of_getLsbD_eq
  intro i hi
  simp [promote, beWord, htrunc]

end ZigbeeGateway.MachineWords
