import ZigbeeGateway.BinaryPolynomials
import Mathlib.Logic.Function.Iterate
import Mathlib.RingTheory.AdjoinRoot

namespace ZigbeeGateway.ShiftRegister
open Polynomial BinaryPolynomials

variable {w n : ℕ}

def lsbBits (v : BitVec w) : List Bool := List.ofFn fun i : Fin w => v.getLsbD i

/-- A reflected register: bit 0 is the coefficient of the highest power, a shift to the right
multiplies by `X`, and `mask` is the remainder of `X ^ w`. -/
def shiftBit (mask v : BitVec w) : BitVec w := if v.getLsbD 0 then v >>> 1 ^^^ mask else v >>> 1

/-- Feed the bits of `u`: all of them at once into the low end, then one shift for each. -/
def feed (mask v : BitVec w) (u : BitVec n) : BitVec w :=
  (shiftBit mask)^[n] (v ^^^ u.setWidth w)

@[simp] theorem length_lsbBits (v : BitVec w) : (lsbBits v).length = w := by simp [lsbBits]

theorem lsbBits_append {m : ℕ} (hi : BitVec m) (lo : BitVec n) :
    lsbBits (hi ++ lo) = lsbBits lo ++ lsbBits hi := by
  apply List.ext_getElem
  · simp [Nat.add_comm]
  · intro i h1 h2
    rw [List.getElem_append]
    simp only [lsbBits, List.getElem_ofFn, List.length_ofFn, BitVec.getLsbD_append]
    split <;> simp_all

noncomputable section

def toPoly (v : BitVec w) : (ZMod 2)[X] := ofBits (lsbBits v)

theorem coeff_toPoly (v : BitVec w) (i : ℕ) : (toPoly v).coeff i = bit (v.getMsbD i) := by
  rw [toPoly, coeff_ofBits]
  congr 1
  by_cases hi : i < w
  · have hlen : i < (lsbBits v).reverse.length := by simpa using hi
    rw [List.getD_eq_getElem _ _ hlen, List.getElem_reverse]
    simp only [lsbBits, List.getElem_ofFn, List.length_ofFn, BitVec.getMsbD, hi, decide_true,
      Bool.true_and]
  · simp [BitVec.getMsbD, hi]

theorem toPoly_xor (u v : BitVec w) : toPoly (u ^^^ v) = toPoly u + toPoly v := by
  ext i
  simp only [coeff_toPoly, coeff_add, BitVec.getMsbD_xor, bit_xor]

theorem toPoly_injective : Function.Injective (toPoly (w := w)) := by
  intro u v h
  apply BitVec.eq_of_getMsbD_eq
  intro i _
  apply bit_injective
  rw [← coeff_toPoly, ← coeff_toPoly, h]

theorem degree_toPoly_lt (v : BitVec w) : (toPoly v).degree < w := by
  have h := degree_ofBits_lt (lsbBits v)
  rwa [length_lsbBits] at h

/-- A narrow word in the low end of the register: the highest powers. -/
theorem toPoly_setWidth (u : BitVec n) (h : n ≤ w) :
    toPoly (u.setWidth w) = X ^ (w - n) * toPoly u := by
  ext i
  rw [coeff_toPoly, coeff_X_pow_mul', coeff_toPoly, BitVec.getMsbD_setWidth,
    show i + n - w = i - (w - n) by omega]
  split <;> rename_i hi <;> simp [hi]

def generator (mask : BitVec w) : (ZMod 2)[X] := X ^ w + toPoly mask

theorem generator_monic (mask : BitVec w) : (generator mask).Monic :=
  monic_X_pow_add (degree_toPoly_lt mask)

theorem degree_generator (mask : BitVec w) : (generator mask).degree = w := by
  have hlt : (toPoly mask).degree < (X ^ w : (ZMod 2)[X]).degree := by
    rw [degree_X_pow]
    exact degree_toPoly_lt mask
  rw [generator, degree_add_eq_left_of_degree_lt hlt, degree_X_pow]

theorem toPoly_shiftBit_eq (mask v : BitVec w) :
    toPoly (shiftBit mask v) = toPoly (v >>> 1) + C (bit (v.getLsbD 0)) * toPoly mask := by
  rw [shiftBit]
  cases v.getLsbD 0 <;> simp [toPoly_xor]

theorem toPoly_ushiftRight_one (v : BitVec w) :
    toPoly (v >>> 1) = X * toPoly v + C (bit (v.getLsbD 0)) * X ^ w := by
  ext i
  rw [coeff_toPoly, coeff_add, coeff_C_mul_X_pow, BitVec.getMsbD_ushiftRight]
  cases i with
  | zero =>
    rw [coeff_X_mul_zero]
    cases w <;> simp
  | succ i =>
    rw [coeff_X_mul, coeff_toPoly]
    rcases lt_trichotomy (i + 1) w with h | rfl | h
    · simp [h, h.ne]
    · simp [BitVec.getMsbD, CharTwo.add_self_eq_zero]
    · have hi : ¬ i < w := by omega
      simp [BitVec.getMsbD, h.ne', h.not_gt, hi]

theorem natDegree_generator (mask : BitVec w) : (generator mask).natDegree = w :=
  natDegree_eq_of_degree_eq_some (degree_generator mask)

/-- One shift multiplies by `X`; the bit that falls out comes back as the generator. -/
theorem toPoly_shiftBit (mask v : BitVec w) :
    toPoly (shiftBit mask v) = X * toPoly v + C (bit (v.getLsbD 0)) * generator mask := by
  rw [toPoly_shiftBit_eq, toPoly_ushiftRight_one, generator]
  ring

section Residue

variable (mask : BitVec w)

/-- The residue class that a register stands for. -/
def residue (v : BitVec w) : AdjoinRoot (generator mask) := AdjoinRoot.mk _ (toPoly v)

theorem residue_injective : Function.Injective (residue mask) := by
  intro u v h
  apply toPoly_injective
  have hdvd : generator mask ∣ toPoly u - toPoly v := AdjoinRoot.mk_eq_mk.mp h
  have hdeg : (toPoly u - toPoly v).degree < (generator mask).degree := by
    rw [degree_generator]
    exact (degree_sub_le _ _).trans_lt (max_lt (degree_toPoly_lt u) (degree_toPoly_lt v))
  exact sub_eq_zero.mp (eq_zero_of_dvd_of_degree_lt hdvd hdeg)

theorem residue_xor (u v : BitVec w) :
    residue mask (u ^^^ v) = residue mask u + residue mask v := by
  rw [residue, toPoly_xor, map_add]
  rfl

theorem residue_shiftBit (v : BitVec w) :
    residue mask (shiftBit mask v) = AdjoinRoot.root _ * residue mask v := by
  simp only [residue, toPoly_shiftBit, map_add, map_mul, AdjoinRoot.mk_self, AdjoinRoot.mk_X,
    mul_zero, add_zero]

theorem residue_iterate (k : ℕ) (v : BitVec w) :
    residue mask ((shiftBit mask)^[k] v) = AdjoinRoot.root _ ^ k * residue mask v := by
  induction k with
  | zero => simp
  | succ k ih => rw [Function.iterate_succ_apply', residue_shiftBit, ih, pow_succ', mul_assoc]

/-- Feeding a word appends its bits to the message. -/
theorem residue_feed (v : BitVec w) (u : BitVec n) (h : n ≤ w) :
    residue mask (feed mask v u) = AdjoinRoot.root _ ^ n * residue mask v +
      AdjoinRoot.mk _ (X ^ w * toPoly u) := by
  have hu : AdjoinRoot.root (generator mask) ^ n * residue mask (u.setWidth w) =
      AdjoinRoot.mk _ (X ^ w * toPoly u) := by
    rw [residue, toPoly_setWidth u h, ← AdjoinRoot.mk_X, ← map_pow, ← map_mul, ← mul_assoc,
      ← pow_add, Nat.add_sub_cancel' h]
  rw [feed, residue_iterate, residue_xor, mul_add, hu]

/-- A register after a message: what it started with, shifted out, and the
message behind `w` zero bits. -/
theorem residue_foldl_feed (us : List (BitVec n)) (v : BitVec w) (h : n ≤ w) :
    residue mask (us.foldl (feed mask) v) =
      AdjoinRoot.mk _ (X ^ (us.flatMap lsbBits).length * toPoly v +
        X ^ w * ofBits (us.flatMap lsbBits)) := by
  induction us using List.reverseRecOn with
  | nil => simp [residue]
  | append_singleton us u ih =>
    have hbits : ofBits ((us ++ [u]).flatMap lsbBits) =
        X ^ n * ofBits (us.flatMap lsbBits) + toPoly u := by
      rw [List.flatMap_append, List.flatMap_singleton, ofBits_append, length_lsbBits, toPoly]
    have hlen : ((us ++ [u]).flatMap lsbBits).length = (us.flatMap lsbBits).length + n := by
      simp
    rw [List.foldl_concat, residue_feed mask _ u h, ih, hbits, hlen]
    simp only [map_add, map_mul, map_pow, AdjoinRoot.mk_X]
    ring

/-- A word may be fed in two parts, the low one first. -/
theorem feed_feed {m : ℕ} (v : BitVec w) (lo : BitVec n) (hi : BitVec m) (h : m + n ≤ w) :
    feed mask (feed mask v lo) hi = feed mask v (hi ++ lo) := by
  have happ : toPoly (hi ++ lo) = X ^ m * toPoly lo + toPoly hi := by
    rw [toPoly, lsbBits_append, ofBits_append, length_lsbBits]
    rfl
  apply residue_injective mask
  rw [residue_feed mask _ hi (by omega), residue_feed mask v lo (by omega),
    residue_feed mask v (hi ++ lo) h, happ]
  simp only [map_add, map_mul, map_pow, AdjoinRoot.mk_X]
  ring

variable {mask}

/-- If the bit that falls out is not lost, a shift can be undone. -/
theorem shiftBit_injective (hg : (generator mask).coeff 0 = 1) :
    Function.Injective (shiftBit mask) := by
  intro u v h
  have hr : residue mask (shiftBit mask u) = residue mask (shiftBit mask v) := by rw [h]
  rw [residue_shiftBit, residue_shiftBit, residue, residue, ← AdjoinRoot.mk_X, ← map_mul,
    ← map_mul, AdjoinRoot.mk_eq_mk, ← mul_sub, ← pow_one X] at hr
  apply residue_injective mask
  exact AdjoinRoot.mk_eq_mk.mpr (dvd_of_dvd_shift hg hr)

/-- The powers of `X` modulo the generator are the orbit of the register that holds 1. -/
theorem iterate_eq_of_dvd {one : BitVec w} (hone : toPoly one = 1) {k : ℕ}
    (h : generator mask ∣ X ^ k + 1) : (shiftBit mask)^[k] one = one := by
  apply residue_injective mask
  rw [residue_iterate, residue, hone, ← AdjoinRoot.mk_X, ← map_pow, ← map_mul, mul_one,
    AdjoinRoot.mk_eq_mk, CharTwo.sub_eq_add]
  exact h

/-- The register is the remainder of the message polynomial, the preset added
to its leading bits. -/
theorem toPoly_foldl_feed (us : List (BitVec n)) (v : BitVec w) (h : n ≤ w) :
    toPoly (us.foldl (feed mask) v) =
      (X ^ (us.flatMap lsbBits).length * toPoly v + X ^ w * ofBits (us.flatMap lsbBits)) %ₘ
        generator mask := by
  have hmod := congrArg (AdjoinRoot.modByMonicHom (generator_monic mask))
    (residue_foldl_feed mask us v h)
  rw [residue, AdjoinRoot.modByMonicHom_mk, AdjoinRoot.modByMonicHom_mk] at hmod
  rw [← hmod, (modByMonic_eq_self_iff (generator_monic mask)).mpr]
  rw [degree_generator]
  exact degree_toPoly_lt _

/-- Two messages of one length leave the same register exactly when their
difference is a multiple of the generator. -/
theorem foldl_feed_eq_iff (hg : (generator mask).coeff 0 = 1) {us ts : List (BitVec n)}
    (hlen : us.length = ts.length) (v : BitVec w) (h : n ≤ w) :
    us.foldl (feed mask) v = ts.foldl (feed mask) v ↔
      generator mask ∣ ofBits (us.flatMap lsbBits) - ofBits (ts.flatMap lsbBits) := by
  have hbits : (us.flatMap lsbBits).length = (ts.flatMap lsbBits).length := by
    simp [List.length_flatMap, hlen]
  rw [← (residue_injective mask).eq_iff, residue_foldl_feed mask us v h,
    residue_foldl_feed mask ts v h, hbits, AdjoinRoot.mk_eq_mk, add_sub_add_left_eq_sub, ← mul_sub]
  exact ⟨dvd_of_dvd_shift hg, fun hd => hd.mul_left _⟩

end Residue

end

end ZigbeeGateway.ShiftRegister
