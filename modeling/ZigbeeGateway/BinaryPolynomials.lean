import Mathlib.Algebra.Polynomial.Div
import Mathlib.Algebra.CharP.Two
import Mathlib.Algebra.Field.ZMod
import Mathlib.Data.List.GetD
import Mathlib.RingTheory.Coprime.Lemmas
import Mathlib.Tactic.LinearCombination

namespace ZigbeeGateway.BinaryPolynomials
open Polynomial

def bit (b : Bool) : ZMod 2 := if b then 1 else 0

@[simp] theorem bit_false : bit false = 0 := rfl

@[simp] theorem bit_true : bit true = 1 := rfl

@[simp] theorem bit_xor (a b : Bool) : bit (a ^^ b) = bit a + bit b := by
  cases a <;> cases b <;> decide

theorem bit_injective : Function.Injective bit := by decide

noncomputable section

/-- The first bit of a string is the coefficient of the highest power. -/
def ofBits (l : List Bool) : (ZMod 2)[X] := l.foldl (fun p b => X * p + C (bit b)) 0

@[simp] theorem ofBits_nil : ofBits [] = 0 := rfl

@[simp] theorem ofBits_concat (l : List Bool) (b : Bool) :
    ofBits (l ++ [b]) = X * ofBits l + C (bit b) := by
  simp only [ofBits, List.foldl_concat]

theorem ofBits_append (l m : List Bool) :
    ofBits (l ++ m) = X ^ m.length * ofBits l + ofBits m := by
  induction m using List.reverseRecOn with
  | nil => simp
  | append_singleton m b ih =>
    rw [← List.append_assoc, ofBits_concat, ofBits_concat, ih, List.length_append,
      List.length_singleton, pow_succ]
    ring

theorem ofBits_cons (b : Bool) (l : List Bool) :
    ofBits (b :: l) = X ^ l.length * C (bit b) + ofBits l := by
  have hb : ofBits [b] = C (bit b) := by simp [ofBits]
  rw [← List.singleton_append, ofBits_append, hb]

theorem ofBits_replicate_false (n : ℕ) : ofBits (List.replicate n false) = 0 := by
  induction n with
  | zero => rfl
  | succ n ih => simp [List.replicate_succ, ofBits_cons, ih]

theorem coeff_ofBits (l : List Bool) (i : ℕ) :
    (ofBits l).coeff i = bit (l.reverse.getD i false) := by
  induction l using List.reverseRecOn generalizing i with
  | nil => simp
  | append_singleton l b ih =>
    rw [ofBits_concat, coeff_add, List.reverse_append]
    cases i with
    | zero => simp
    | succ i => simp [coeff_X_mul, ih]

theorem degree_ofBits_lt (l : List Bool) : (ofBits l).degree < l.length := by
  rw [degree_lt_iff_coeff_zero]
  intro i hi
  rw [coeff_ofBits, List.getD_eq_default _ _ (by simpa using hi), bit_false]

theorem ofBits_zipWith_xor {l m : List Bool} (h : l.length = m.length) :
    ofBits (List.zipWith xor l m) = ofBits l + ofBits m := by
  induction l generalizing m with
  | nil => simp [List.length_eq_zero_iff.mp h.symm]
  | cons a l ih =>
    cases m with
    | nil => simp at h
    | cons b m =>
      have hlen : l.length = m.length := by simpa using h
      simp only [List.zipWith_cons_cons, ofBits_cons, List.length_zipWith, hlen, min_self,
        bit_xor, C_add, ih hlen]
      ring

theorem ofBits_eq_zero_iff (l : List Bool) : ofBits l = 0 ↔ true ∉ l := by
  induction l with
  | nil => simp
  | cons b l ih =>
    cases b with
    | false => simp [ofBits_cons, ih]
    | true =>
      -- the leading coefficient is not cancelled
      have hl : (ofBits l).coeff l.length = 0 :=
        coeff_eq_zero_of_degree_lt (degree_ofBits_lt l)
      have h1 : (ofBits (true :: l)).coeff l.length = 1 := by
        rw [ofBits_cons, coeff_add, hl, bit_true, C_1, mul_one, coeff_X_pow_self, add_zero]
      have hne : ofBits (true :: l) ≠ 0 := by
        intro h0
        rw [h0, coeff_zero] at h1
        exact absurd h1 (by decide)
      simp [hne]

theorem eval_one_ofBits (l : List Bool) : (ofBits l).eval 1 = (l.count true : ZMod 2) := by
  induction l with
  | nil => simp
  | cons b l ih => cases b <;> simp [ofBits_cons, ih, add_comm]

/-- A multiple of `X + 1` has an even number of bits set. -/
theorem even_count_of_dvd {l : List Bool} (h : X + 1 ∣ ofBits l) : Even (l.count true) := by
  obtain ⟨q, hq⟩ := h
  have h0 : (ofBits l).eval 1 = 0 := by
    have h2 : (1 + 1 : ZMod 2) = 0 := by decide
    rw [hq, eval_mul, eval_add, eval_X, eval_one, h2, zero_mul]
  rw [eval_one_ofBits] at h0
  exact (ZMod.natCast_eq_zero_iff_even).mp h0

theorem ofBits_of_count_one {l : List Bool} (h : l.count true = 1) :
    ∃ s, s < l.length ∧ ofBits l = X ^ s := by
  induction l with
  | nil => simp at h
  | cons b l ih =>
    cases b with
    | false =>
      obtain ⟨s, hs, hl⟩ := ih (by simpa using h)
      exact ⟨s, by simp; omega, by simp [ofBits_cons, hl]⟩
    | true =>
      have h0 : true ∉ l := List.count_eq_zero.mp (by simpa using h)
      exact ⟨l.length, by simp, by simp [ofBits_cons, (ofBits_eq_zero_iff l).mpr h0]⟩

theorem ofBits_of_count_two {l : List Bool} (h : l.count true = 2) :
    ∃ s k, 0 < k ∧ s + k < l.length ∧ ofBits l = X ^ s * (X ^ k + 1) := by
  induction l with
  | nil => simp at h
  | cons b l ih =>
    cases b with
    | false =>
      obtain ⟨s, k, hk, hs, hl⟩ := ih (by simpa using h)
      exact ⟨s, k, hk, by simp; omega, by simp [ofBits_cons, hl]⟩
    | true =>
      obtain ⟨s, hs, hl⟩ := ofBits_of_count_one (l := l) (by simpa using h)
      refine ⟨s, l.length - s, by omega, by simp; omega, ?_⟩
      rw [ofBits_cons, hl, mul_add, ← pow_add, Nat.add_sub_cancel' hs.le]
      simp

section Generator

variable {g : (ZMod 2)[X]}

theorem isCoprime_X (hg : g.coeff 0 = 1) : IsCoprime g X := by
  refine ⟨1, -divX g, ?_⟩
  have hdiv := divX_mul_X_add g
  rw [hg, C_1] at hdiv
  linear_combination -hdiv

theorem dvd_of_dvd_shift (hg : g.coeff 0 = 1) {s : ℕ} {p : (ZMod 2)[X]} (h : g ∣ X ^ s * p) :
    g ∣ p :=
  (isCoprime_X hg).pow_right.dvd_of_dvd_mul_left h

/-- A pattern of fewer than four errors is no multiple of `g` if `X + 1` divides
`g` and `g` divides no binomial `X ^ k + 1` that fits in the pattern. -/
theorem four_le_count (hg : g.coeff 0 = 1) (heven : X + 1 ∣ g) {l : List Bool}
    (hpair : ∀ k, 0 < k → k < l.length → ¬ g ∣ X ^ k + 1) (h : g ∣ ofBits l) (hne : true ∈ l) :
    4 ≤ l.count true := by
  have hpos : 0 < l.count true := List.count_pos_iff.mpr hne
  have h2 : l.count true ≠ 2 := by
    intro hc
    obtain ⟨s, k, hk, hs, hl⟩ := ofBits_of_count_two hc
    apply hpair k hk (by omega)
    apply dvd_of_dvd_shift hg (s := s)
    rwa [← hl]
  obtain ⟨m, hm⟩ := even_count_of_dvd (heven.trans h)
  omega

/-- A burst that is no longer than the degree of `g` is no multiple of it. -/
theorem burst_eq_zero (hg : g.coeff 0 = 1) {pre m post : List Bool} (hm : m.length ≤ g.natDegree)
    (hpre : true ∉ pre) (hpost : true ∉ post) (h : g ∣ ofBits (pre ++ m ++ post)) : true ∉ m := by
  rw [ofBits_append, ofBits_append, (ofBits_eq_zero_iff pre).mpr hpre,
    (ofBits_eq_zero_iff post).mpr hpost, mul_zero, zero_add, add_zero] at h
  rw [← ofBits_eq_zero_iff]
  by_contra h0
  have hdvd : g ∣ ofBits m := dvd_of_dvd_shift hg h
  have hdeg := natDegree_le_of_dvd hdvd h0
  have hlt : (ofBits m).natDegree < m.length :=
    (natDegree_lt_iff_degree_lt h0).mpr (degree_ofBits_lt m)
  omega

/-- A multiple of `g` is not confined to as many positions as `g` has degree. -/
theorem notMem_of_confined (hg : g.coeff 0 = 1) {l : List Bool} (h : g ∣ ofBits l) {s : ℕ}
    (hconf : ∀ i (hi : i < l.length), l[i] = true → s ≤ i ∧ i < s + g.natDegree) : true ∉ l := by
  have hpre : true ∉ l.take s := by
    intro hmem
    obtain ⟨i, hi, hb⟩ := List.getElem_of_mem hmem
    rw [List.length_take] at hi
    rw [List.getElem_take] at hb
    have := hconf i (by omega) hb
    omega
  have hpost : true ∉ l.drop (s + g.natDegree) := by
    intro hmem
    obtain ⟨i, hi, hb⟩ := List.getElem_of_mem hmem
    rw [List.length_drop] at hi
    rw [List.getElem_drop] at hb
    have := hconf (s + g.natDegree + i) (by omega) hb
    omega
  -- the positions from s on are a burst no longer than the degree
  have hsplit : l.take s ++ (l.drop s).take g.natDegree ++ l.drop (s + g.natDegree) = l := by
    rw [List.append_assoc, ← List.drop_drop, List.take_append_drop,
      List.take_append_drop]
  have hm : true ∉ (l.drop s).take g.natDegree := by
    apply burst_eq_zero hg (List.length_take_le _ _) hpre hpost
    rwa [hsplit]
  rw [← hsplit, List.mem_append, List.mem_append, not_or, not_or]
  exact ⟨⟨hpre, hm⟩, hpost⟩

end Generator

end

end ZigbeeGateway.BinaryPolynomials
