import ZigbeeGateway.InstallCodeChecksum
import Mathlib.InformationTheory.Hamming

namespace ZigbeeGateway.InstallCode
open Polynomial BinaryPolynomials ShiftRegister

/-- Bit `i` of a code: the bytes in order, the least significant bit first. -/
def codeBit (ic : Code) (i : Fin 144) : Bool :=
  (ic ⟨i / 8, by omega⟩).toBitVec.getLsbD (i % 8)

/-- The codes differ in no other positions than the 16 from `s` on. -/
def Confined (a b : Code) (s : ℕ) : Prop :=
  ∀ i : Fin 144, codeBit a i ≠ codeBit b i → s ≤ i.val ∧ i.val < s + 16

def differences (a b : Code) : List Bool := List.ofFn fun i => codeBit a i ^^ codeBit b i

theorem codeBit_at (ic : Code) (i : Fin 18) (j : ℕ) (hj : j < 8) :
    codeBit ic ⟨i * 8 + j, by omega⟩ = (ic i).toBitVec.getLsbD j := by
  have hdiv : (i.val * 8 + j) / 8 = i := by omega
  have hmod : (i.val * 8 + j) % 8 = j := by omega
  simp only [codeBit, hdiv, hmod]

theorem messageBits_code (ic : Code) : messageBits (List.ofFn ic) = List.ofFn (codeBit ic) := by
  have hbyte : ∀ i : Fin 18, lsbBits (ic i).toBitVec =
      List.ofFn fun j : Fin 8 => codeBit ic ⟨i * 8 + j, by omega⟩ := by
    intro i
    simp only [lsbBits, codeBit_at ic i _ (Fin.isLt _)]
  have hmul : List.ofFn (codeBit ic) = _ := List.ofFn_mul (m := 18) (n := 8) (codeBit ic)
  rw [hmul, messageBits, List.flatMap, List.map_ofFn]
  congr 2
  exact funext hbyte

theorem length_differences (a b : Code) : (differences a b).length = 144 := List.length_ofFn

theorem getElem_differences (a b : Code) (i : ℕ) (hi : i < (differences a b).length) :
    (differences a b)[i] = true ↔ codeBit a ⟨i, by rwa [length_differences] at hi⟩ ≠
      codeBit b ⟨i, by rwa [length_differences] at hi⟩ := by
  simp only [differences, List.getElem_ofFn]
  exact Bool.xor_iff_ne

theorem mem_differences {a b : Code} (hne : a ≠ b) : true ∈ differences a b := by
  contrapose! hne
  funext i
  apply UInt8.toBitVec_inj.mp
  apply BitVec.eq_of_getLsbD_eq
  intro j hj
  rw [← codeBit_at a i j hj, ← codeBit_at b i j hj]
  by_contra hbit
  have hpos : i.val * 8 + j < (differences a b).length := by
    rw [length_differences]
    omega
  apply hne
  rw [← (getElem_differences a b _ hpos).mpr hbit]
  exact List.getElem_mem hpos

theorem zipWith_ofFn {n : ℕ} (f g : Fin n → Bool) :
    List.zipWith xor (List.ofFn f) (List.ofFn g) = List.ofFn fun i => f i ^^ g i := by
  apply List.ext_getElem
  · simp
  · intro i h1 h2
    simp

theorem count_ofFn {n : ℕ} (f : Fin n → Bool) :
    (List.ofFn f).count true = (Finset.univ.filter fun i => f i = true).card := by
  induction n with
  | zero => simp
  | succ n ih =>
    rw [List.ofFn_succ, List.count_cons, ih, Fin.card_filter_univ_succ]
    cases f 0 <;> simp

theorem count_differences (a b : Code) :
    (differences a b).count true = hammingDist (codeBit a) (codeBit b) := by
  rw [differences, count_ofFn, hammingDist]
  congr 1
  ext i
  simp

theorem ofBits_differences (a b : Code) :
    ofBits (differences a b) =
      ofBits (messageBits (List.ofFn a)) - ofBits (messageBits (List.ofFn b)) := by
  have hlen : (List.ofFn (codeBit a)).length = (List.ofFn (codeBit b)).length := by
    rw [List.length_ofFn, List.length_ofFn]
  rw [differences, ← zipWith_ofFn, ofBits_zipWith_xor hlen, messageBits_code, messageBits_code,
    CharTwo.sub_eq_add]

theorem X_add_one_dvd_generator : X + 1 ∣ generator (0x8408 : BitVec 16) := by
  have h1 : (X + 1 : (ZMod 2)[X]) = X - C 1 := by rw [C_1, CharTwo.sub_eq_add]
  rw [h1, dvd_iff_isRoot, generator_mask, x25Generator, IsRoot]
  simp
  decide

/-- `X` has no order below 144. -/
theorem not_generator_dvd (k : ℕ) (hk : 0 < k) (h144 : k < 144) :
    ¬ generator (0x8408 : BitVec 16) ∣ X ^ k + 1 := by
  have hone : toPoly (0x8000 : BitVec 16) = 1 := by
    have hl : lsbBits (0x8000 : BitVec 16) = List.replicate 15 false ++ [true] := by decide
    rw [toPoly, hl, ofBits_append, ofBits_replicate_false]
    simp [ofBits_cons]
  have horder : ∀ k : Fin 144, 0 < k.val →
      (shiftBit (0x8408 : BitVec 16))^[k] 0x8000 ≠ 0x8000 := by decide +kernel
  intro h
  exact horder ⟨k, h144⟩ hk (iterate_eq_of_dvd hone h)

theorem generator_dvd_differences {a b : Code} (ha : Valid a) (hb : Valid b) :
    generator (0x8408 : BitVec 16) ∣ ofBits (differences a b) := by
  have hreg : (List.ofFn a).foldl crcByte 0xFFFF = (List.ofFn b).foldl crcByte 0xFFFF := by
    rw [← BitVec.xor_left_inj 0xFFFF]
    exact ((residue_iff_valid a).mpr ha).trans ((residue_iff_valid b).mpr hb).symm
  rw [foldl_crcByte, foldl_crcByte, foldl_feed_eq_iff coeff_zero_generator (by simp) _ (by decide),
    flatMap_toBitVec, flatMap_toBitVec] at hreg
  rwa [ofBits_differences]

theorem distance_of_valid {a b : Code} (ha : Valid a) (hb : Valid b) (hne : a ≠ b) :
    4 ≤ hammingDist (codeBit a) (codeBit b) ∧ ∀ s, ¬ Confined a b s := by
  have hdvd := generator_dvd_differences ha hb
  constructor
  · rw [← count_differences]
    refine four_le_count coeff_zero_generator X_add_one_dvd_generator ?_ hdvd
      (mem_differences hne)
    intro k hk h
    rw [length_differences] at h
    exact not_generator_dvd k hk h
  · intro s hs
    apply notMem_of_confined coeff_zero_generator hdvd (s := s) _ (mem_differences hne)
    intro i hi hd
    rw [natDegree_generator]
    exact hs _ ((getElem_differences a b i hi).mp hd)

/-- Two different keys have codes at least four bits apart, the difference
never confined to 16 positions; so a valid code that is corrupted in one to
three bits, or within 16 positions, is not valid any more. -/
theorem installCode_distance :
    (∀ k1 k2 : Key, k1 ≠ k2 →
      4 ≤ hammingDist (codeBit (installCode k1)) (codeBit (installCode k2)) ∧
        ∀ s, ¬ Confined (installCode k1) (installCode k2) s) ∧
    ∀ a b : Code, Valid a → a ≠ b →
      (hammingDist (codeBit a) (codeBit b) ≤ 3 ∨ ∃ s, Confined a b s) → ¬ Valid b := by
  constructor
  · intro k1 k2 hk
    apply distance_of_valid (valid_installCode k1) (valid_installCode k2)
    intro h
    apply hk
    rw [← keyOf_installCode k1, h, keyOf_installCode]
  · rintro a b ha hne (hd | ⟨s, hs⟩) hb
    · have := (distance_of_valid ha hb hne).1
      omega
    · exact (distance_of_valid ha hb hne).2 s hs

end ZigbeeGateway.InstallCode
