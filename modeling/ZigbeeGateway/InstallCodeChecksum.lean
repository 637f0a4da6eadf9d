import ZigbeeGateway.InstallCode
import ZigbeeGateway.ShiftRegister

namespace ZigbeeGateway.InstallCode
open Polynomial BinaryPolynomials ShiftRegister

def messageBits (data : List UInt8) : List Bool := data.flatMap fun b => lsbBits b.toBitVec

theorem crcBit_eq_shiftBit : crcBit = shiftBit 0x8408 := by
  funext crc
  have h1 : (crc &&& 1 ≠ 0) ↔ crc.getLsbD 0 = true := by
    rw [show (1 : BitVec 16) = 1#16 from rfl, BitVec.and_one_eq_setWidth_ofBool_getLsbD]
    cases crc.getLsbD 0 <;> decide
  simp only [crcBit, shiftBit, h1]

theorem crcByte_eq_feed (crc : BitVec 16) (b : UInt8) :
    crcByte crc b = feed 0x8408 crc b.toBitVec := by
  rw [crcByte, crcBit_eq_shiftBit, feed]

theorem foldl_crcByte (data : List UInt8) (crc : BitVec 16) :
    data.foldl crcByte crc = (data.map UInt8.toBitVec).foldl (feed 0x8408) crc := by
  simp only [List.foldl_map, ← crcByte_eq_feed]

theorem flatMap_toBitVec (data : List UInt8) :
    (data.map UInt8.toBitVec).flatMap lsbBits = messageBits data := by
  rw [List.flatMap_map]
  rfl

theorem toPoly_mask : toPoly (0x8408 : BitVec 16) = X ^ 12 + X ^ 5 + 1 := by
  have hl : lsbBits (0x8408 : BitVec 16) =
      [false, false, false, true, false, false, false, false,
        false, false, true, false, false, false, false, true] := by decide
  rw [toPoly, hl]
  simp [ofBits_cons, add_assoc]

noncomputable def x25Generator : (ZMod 2)[X] := X ^ 16 + X ^ 12 + X ^ 5 + 1

theorem generator_mask : generator (0x8408 : BitVec 16) = x25Generator := by
  rw [generator, toPoly_mask, x25Generator]
  ring

theorem coeff_zero_generator : (generator (0x8408 : BitVec 16)).coeff 0 = 1 := by
  rw [generator_mask, x25Generator]
  simp

section Reference

noncomputable section

def complementFirst (n : ℕ) (l : List Bool) : List Bool := (l.take n).map not ++ l.drop n

def complementLow (p : (ZMod 2)[X]) (n : ℕ) : (ZMod 2)[X] := p + ofBits (List.replicate n true)

/-- The coefficient of the highest degree goes to bit 0. -/
def pack (p : (ZMod 2)[X]) : BitVec 16 :=
  BitVec.ofNat 16 (Nat.ofBits fun i : Fin 16 => decide (p.coeff (15 - i) = 1))

/-- CRC-16/X-25 by polynomial arithmetic. -/
def crc16X25 (data : List UInt8) : BitVec 16 :=
  let message := messageBits data ++ List.replicate 16 false
  pack (complementLow (ofBits (complementFirst 16 message) %ₘ x25Generator) 16)

end

theorem ofBits_complementFirst {n : ℕ} {l : List Bool} (h : n ≤ l.length) :
    ofBits (complementFirst n l) =
      X ^ (l.length - n) * ofBits (List.replicate n true) + ofBits l := by
  have hnot : (l.take n).map not = List.zipWith xor (List.replicate n true) (l.take n) := by
    apply List.ext_getElem
    · simp
    · intro i h1 h2
      simp
  have hlen : (List.replicate n true).length = (l.take n).length := by simp [h]
  conv_rhs => rw [← List.take_append_drop n l, ofBits_append]
  rw [complementFirst, ofBits_append, hnot, ofBits_zipWith_xor hlen]
  simp [mul_add, add_assoc]

theorem pack_toPoly (v : BitVec 16) : pack (toPoly v) = v := by
  apply BitVec.eq_of_getLsbD_eq
  intro i hi
  rw [pack, BitVec.getLsbD_ofNat, decide_eq_true hi, Bool.true_and, Nat.testBit_ofBits_lt _ _ hi,
    coeff_toPoly, BitVec.getMsbD, decide_eq_true (by omega : 15 - i < 16), Bool.true_and,
    show 16 - 1 - (15 - i) = i by omega]
  cases v.getLsbD i <;> decide

theorem toPoly_ones : toPoly (0xFFFF : BitVec 16) = ofBits (List.replicate 16 true) := by
  have hl : lsbBits (0xFFFF : BitVec 16) = List.replicate 16 true := by decide
  rw [toPoly, hl]

/-- The preset is the complement of the leading bits, the sixteen zero bits
behind the message are the bits that the register still holds. -/
theorem toPoly_register (data : List UInt8) :
    toPoly (data.foldl crcByte 0xFFFF) =
      ofBits (complementFirst 16 (messageBits data ++ List.replicate 16 false)) %ₘ
        x25Generator := by
  have hlen : (messageBits data ++ List.replicate 16 false).length - 16 =
      (messageBits data).length := by simp
  rw [foldl_crcByte, toPoly_foldl_feed _ _ (by decide), flatMap_toBitVec, generator_mask,
    ofBits_complementFirst (by simp), hlen, ofBits_append, ofBits_replicate_false, add_zero,
    List.length_replicate, toPoly_ones]

theorem icCrc16X25_eq_crc16X25 (data : List UInt8) : icCrc16X25 data = crc16X25 data := by
  have hpoly : toPoly (icCrc16X25 data) = complementLow
      (ofBits (complementFirst 16 (messageBits data ++ List.replicate 16 false)) %ₘ
        x25Generator) 16 := by
    rw [icCrc16X25, toPoly_xor, toPoly_register, toPoly_ones, complementLow]
  rw [crc16X25, ← hpoly, pack_toPoly]

-- the key and checksum of `security_changes_log.md`
example : icCrc16X25 [0xFF, 0xEE, 0xDD, 0xCC, 0xBB, 0xAA, 0x99, 0x88,
    0x77, 0x66, 0x55, 0x44, 0x33, 0x22, 0x11, 0x00] = 0x0D52 := by decide +kernel

end Reference

theorem icCrc16X25_append (d : List UInt8) (a b : UInt8) :
    icCrc16X25 (d ++ [a, b]) =
      (shiftBit 0x8408)^[16] (icCrc16X25 d ^^^ 0xFFFF ^^^ (b.toBitVec ++ a.toBitVec)) ^^^
        0xFFFF := by
  have hreg : icCrc16X25 d ^^^ 0xFFFF = d.foldl crcByte 0xFFFF := by
    rw [icCrc16X25, BitVec.xor_assoc, BitVec.xor_self, BitVec.xor_zero]
  have hfeed := feed_feed 0x8408 (d.foldl crcByte 0xFFFF) a.toBitVec b.toBitVec (by decide)
  rw [hreg, icCrc16X25, List.foldl_append, List.foldl_cons, List.foldl_cons, List.foldl_nil,
    crcByte_eq_feed, crcByte_eq_feed, hfeed, feed]
  simp only [BitVec.setWidth_eq]

theorem toBitVec_lowByte (c : BitVec 16) : (lowByte c).toBitVec = c.setWidth 8 := by
  change (c &&& 0xFF).setWidth 8 = c.setWidth 8
  rw [BitVec.setWidth_and]
  exact BitVec.and_allOnes

theorem toBitVec_highByte (c : BitVec 16) : (highByte c).toBitVec = (c >>> 8).setWidth 8 := by
  change (c >>> 8 &&& 0xFF).setWidth 8 = (c >>> 8).setWidth 8
  rw [BitVec.setWidth_and]
  exact BitVec.and_allOnes

theorem bytes_append (c : BitVec 16) (a b : UInt8) :
    b.toBitVec ++ a.toBitVec = c ↔ a = lowByte c ∧ b = highByte c := by
  rw [← UInt8.toBitVec_inj, ← UInt8.toBitVec_inj, toBitVec_lowByte, toBitVec_highByte]
  constructor
  · rintro rfl
    constructor <;> apply BitVec.eq_of_getLsbD_eq <;> intro i hi
    · simp only [BitVec.getLsbD_setWidth, BitVec.getLsbD_append, hi, if_pos, decide_true,
        Bool.true_and]
    · have h8 : ¬ 8 + i < 8 := by omega
      simp only [BitVec.getLsbD_setWidth, BitVec.getLsbD_ushiftRight, BitVec.getLsbD_append, hi,
        h8, if_neg, not_false_eq_true, Nat.add_sub_cancel_left, decide_true, Bool.true_and]
  · rintro ⟨ha, hb⟩
    rw [ha, hb]
    apply BitVec.eq_of_getLsbD_eq
    intro i hi
    rw [BitVec.getLsbD_append, BitVec.getLsbD_setWidth, BitVec.getLsbD_setWidth,
      BitVec.getLsbD_ushiftRight]
    -- the low half is a, the high half is b
    by_cases h8 : i < 8
    · simp [h8]
    · have hhi : 8 + (i - 8) = i := by omega
      simp [h8, hhi]
      omega

/-- The constant that a message with its own checksum behind it leaves. -/
theorem icCrc16X25_eq_residue_iff (d : List UInt8) (a b : UInt8) :
    icCrc16X25 (d ++ [a, b]) = 0x0F47 ↔
      a = lowByte (icCrc16X25 d) ∧ b = highByte (icCrc16X25 d) := by
  have hinj : Function.Injective (shiftBit (0x8408 : BitVec 16))^[16] :=
    (shiftBit_injective coeff_zero_generator).iterate 16
  have hconst : (shiftBit (0x8408 : BitVec 16))^[16] 0xFFFF ^^^ 0xFFFF = 0x0F47 := by decide +kernel
  have hcancel : ∀ c u : BitVec 16, c ^^^ 0xFFFF ^^^ u = 0xFFFF ↔ u = c := by
    intro c u
    rw [BitVec.xor_assoc, BitVec.xor_comm 0xFFFF, ← BitVec.xor_assoc]
    conv_lhs => rhs; rw [← BitVec.zero_xor (x := (0xFFFF : BitVec 16))]
    rw [BitVec.xor_left_inj, BitVec.xor_eq_zero_iff, eq_comm]
  rw [icCrc16X25_append, ← hconst, BitVec.xor_left_inj, hinj.eq_iff, hcancel, bytes_append]

theorem ofFn_code (ic : Code) : List.ofFn ic = List.ofFn (keyOf ic) ++ [ic 16, ic 17] := by
  rw [List.ofFn_succ_last, List.ofFn_succ_last, List.append_assoc]
  rfl

theorem residue_iff_valid (ic : Code) : icCrc16X25 (List.ofFn ic) = 0x0F47 ↔ Valid ic := by
  rw [ofFn_code, icCrc16X25_eq_residue_iff, Valid]

/-- The residue check accepts the right checksum bytes behind any message and
no others; on a whole code it accepts what the end device can print. -/
theorem residue_law :
    (∀ (d : List UInt8) (a b : UInt8), icCrc16X25 (d ++ [a, b]) = 0x0F47 ↔
      a = lowByte (icCrc16X25 d) ∧ b = highByte (icCrc16X25 d)) ∧
    ∀ ic : Code, icCrc16X25 (List.ofFn ic) = 0x0F47 ↔ ∃ key : Key, installCode key = ic := by
  refine ⟨icCrc16X25_eq_residue_iff, fun ic => ?_⟩
  rw [residue_iff_valid, valid_iff]
  constructor
  · intro h
    exact ⟨keyOf ic, h⟩
  · rintro ⟨key, rfl⟩
    rw [keyOf_installCode]

end ZigbeeGateway.InstallCode
