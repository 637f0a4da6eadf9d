import Mathlib.Algebra.Order.Field.Basic
import Mathlib.Data.Rat.Cast.Order
import Mathlib.Tactic.FieldSimp
import Mathlib.Tactic.GCongr
import Mathlib.Tactic.Linarith
import Mathlib.Tactic.Positivity
import Mathlib.Tactic.Ring

namespace ZigbeeGateway.TruncatedDivision

theorem tdiv_mem {lo hi x k : ℤ} (hk : 0 < k) (hlo : lo ≤ 0) (hhi : 0 ≤ hi)
    (h : lo ≤ x ∧ x ≤ hi) : lo ≤ x.tdiv k ∧ x.tdiv k ≤ hi := by
  constructor
  · have hneg : (-lo).tdiv k ≤ -lo := Int.tdiv_le_self k (by omega)
    calc lo ≤ lo.tdiv k := by rw [Int.neg_tdiv] at hneg; omega
      _ ≤ x.tdiv k := Int.tdiv_le_tdiv hk h.1
  · calc x.tdiv k ≤ hi.tdiv k := Int.tdiv_le_tdiv hk h.2
      _ ≤ hi := Int.tdiv_le_self k hhi

theorem abs_tdiv_le (a b : ℤ) : |a.tdiv b| ≤ |a| := by
  rw [Int.abs_eq_natAbs, Int.abs_eq_natAbs]
  exact_mod_cast Int.natAbs_tdiv_le_natAbs a b

theorem tdiv_le_tdiv_of_pos {a b c : ℤ} (ha : a ≤ 0) (hb : 0 < b) (h : b ≤ c) :
    a.tdiv b ≤ a.tdiv c := by
  obtain ⟨n, rfl⟩ := Int.exists_eq_neg_ofNat ha
  lift b to ℕ using hb.le
  lift c to ℕ using hb.le.trans h
  rw [Int.neg_tdiv, Int.neg_tdiv, ← Int.ofNat_tdiv, ← Int.ofNat_tdiv, neg_le_neg_iff]
  exact_mod_cast Nat.div_le_div_left (by exact_mod_cast h) (by exact_mod_cast hb)

theorem tdiv_le_tdiv_of_neg {a b c : ℤ} (ha : a ≤ 0) (hc : c < 0) (h : b ≤ c) :
    a.tdiv b ≤ a.tdiv c := by
  have hpos := tdiv_le_tdiv_of_pos ha (b := -c) (c := -b) (by omega) (by omega)
  rw [Int.tdiv_neg, Int.tdiv_neg] at hpos
  omega

/-- The remainder has the sign of the dividend. -/
theorem tmod_range (a : ℤ) {n : ℤ} (hn : 0 < n) :
    0 ≤ a ∧ 0 ≤ a.tmod n ∧ a.tmod n < n ∨ a < 0 ∧ -n < a.tmod n ∧ a.tmod n ≤ 0 := by
  rcases lt_or_ge a 0 with ha | ha
  · have h0 := Int.tmod_nonneg (a := -a) n (by omega)
    have hlt := Int.tmod_lt_of_pos (-a) hn
    rw [Int.neg_tmod] at h0 hlt
    exact .inr ⟨ha, by omega, by omega⟩
  · exact .inl ⟨ha, Int.tmod_nonneg n ha, Int.tmod_lt_of_pos a hn⟩

/-- Quotients are as far apart as their dividends, up to one more. -/
theorem tdiv_sub_tdiv_le {a b n : ℤ} (hn : 0 < n) (h : a ≤ b) :
    n * (b.tdiv n - a.tdiv n) ≤ b - a + (n - 1) := by
  have ha := Int.mul_tdiv_add_tmod a n
  have hb := Int.mul_tdiv_add_tmod b n
  have hra := tmod_range a hn
  have hrb := tmod_range b hn
  rw [mul_sub]
  omega

/-- Away from its pole a quotient changes by no more than its divisor. -/
theorem abs_tdiv_sub_tdiv_le {m d d' : ℤ} (hd : 0 < d) (h : d ≤ d') (hm : |m| ≤ d * (d - 1)) :
    |m.tdiv d - m.tdiv d'| ≤ d' - d := by
  -- for a numerator that is not negative
  have hpos : ∀ k : ℤ, 0 ≤ k → k ≤ d * (d - 1) → |k.tdiv d - k.tdiv d'| ≤ d' - d := by
    intro k hk hkd
    rw [Int.tdiv_eq_ediv_of_nonneg hk, Int.tdiv_eq_ediv_of_nonneg hk]
    have hq0 : 0 ≤ k / d := Int.ediv_nonneg hk hd.le
    have hq : k / d ≤ d - 1 := Int.ediv_le_of_le_mul hd (by linarith)
    have hqk : k / d * d ≤ k := Int.ediv_mul_le k hd.ne'
    have hlow : k / d - (d' - d) ≤ k / d' := by
      rw [Int.le_ediv_iff_mul_le (by omega)]
      calc (k / d - (d' - d)) * d' = k / d * d + (d' - d) * (k / d - d') := by ring
        _ ≤ k / d * d + 0 := by
          gcongr
          exact mul_nonpos_of_nonneg_of_nonpos (by omega) (by omega)
        _ ≤ k := by omega
    have hhigh : k / d' ≤ k / d := by
      rw [Int.le_ediv_iff_mul_le hd]
      calc k / d' * d ≤ k / d' * d' :=
            mul_le_mul_of_nonneg_left h (Int.ediv_nonneg hk (by omega))
        _ ≤ k := Int.ediv_mul_le k (by omega)
    rw [abs_le]
    omega
  rcases le_or_gt 0 m with hm0 | hm0
  · exact hpos m hm0 (by rwa [abs_of_nonneg hm0] at hm)
  · have hneg := hpos (-m) (by omega) (by rwa [abs_of_neg hm0] at hm)
    rw [Int.neg_tdiv, Int.neg_tdiv] at hneg
    rw [abs_le] at hneg ⊢
    omega

theorem tdiv_error (a : ℤ) {b : ℤ} (hb : b ≠ 0) :
    |(a.tdiv b : ℚ) - a / b| ≤ 1 - 1 / |(b : ℚ)| := by
  have hb' : (b : ℚ) ≠ 0 := by exact_mod_cast hb
  have hpos : 0 < |(b : ℚ)| := abs_pos.mpr hb'
  have hmod : |(a.tmod b : ℚ)| ≤ |(b : ℚ)| - 1 := by
    have hlt : |a.tmod b| + 1 ≤ |b| := by
      rw [Int.abs_eq_natAbs, Int.abs_eq_natAbs, Int.natAbs_tmod]
      exact_mod_cast Nat.mod_lt _ (Int.natAbs_pos.mpr hb)
    have hcast : |(a.tmod b : ℚ)| + 1 ≤ |(b : ℚ)| := by exact_mod_cast hlt
    linarith
  have hdiff : (a.tdiv b : ℚ) - a / b = -(a.tmod b : ℚ) / b := by
    have hsum : (a : ℚ) = b * a.tdiv b + a.tmod b := by
      exact_mod_cast (Int.mul_tdiv_add_tmod a b).symm
    field_simp
    linarith
  rw [hdiff, abs_div, abs_neg, div_le_iff₀ hpos, sub_mul, one_mul, div_mul_cancel₀ _ hpos.ne']
  exact hmod

theorem tdiv_error_lt_one (a : ℤ) {b : ℤ} (hb : b ≠ 0) : |(a.tdiv b : ℚ) - a / b| < 1 := by
  have hpos : 0 < 1 / |(b : ℚ)| := by positivity
  have := tdiv_error a hb
  linarith

/-- Away from its pole a quotient passes on no more than the error of its divisor. -/
theorem div_perturbation {m d δ : ℚ} (hd : 1 < d) (hm : |m| ≤ d * (d - 1)) (hδ : |δ| < 1) :
    |m / (d + δ) - m / d| ≤ |δ| := by
  have hlow : d - 1 < d + δ := by linarith [neg_abs_le δ]
  have hpos : 0 < d + δ := by linarith
  have hd0 : 0 < d := by linarith
  have hdiff : m / (d + δ) - m / d = -(m * δ) / (d * (d + δ)) := by
    field_simp
    ring
  rw [hdiff, abs_div, abs_neg, abs_mul, abs_of_pos (mul_pos hd0 hpos), div_le_iff₀ (by positivity)]
  calc |m| * |δ| ≤ d * (d - 1) * |δ| := by gcongr
    _ ≤ d * (d + δ) * |δ| := by gcongr
    _ = |δ| * (d * (d + δ)) := by ring

end ZigbeeGateway.TruncatedDivision
