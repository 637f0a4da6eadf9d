import ZigbeeGateway.Bmp180History
import ZigbeeGateway.TruncatedDivision

namespace ZigbeeGateway.Bmp180
open MachineWords TruncatedDivision

/-- The exact results of the 32-bit operations, in the order of the code, each
on the operands that the code has there; behind a zero divisor nothing is
executed. -/
def executed (UT : ℤ) (cal : Calib) : List ℤ :=
  let difference := UT - cal.ac6.toNat
  let product := int32 difference * cal.ac5.toNat
  [difference, product, (int32 product).tdiv 32768, X1 UT cal + cal.md.toInt] ++
    if divisor UT cal = 0 then []
    else [cal.mc.toInt * 2048, (int32 (cal.mc.toInt * 2048)).tdiv (divisor UT cal),
      X1 UT cal + X2 UT cal, B5 UT cal + 8, (int32 (B5 UT cal + 8)).tdiv 16]

def executedDivisors (UT : ℤ) (cal : Calib) : List ℤ :=
  32768 :: if divisor UT cal = 0 then [] else [divisor UT cal, 16]

def Safe (UT : ℤ) (cal : Calib) : Prop :=
  (∀ v ∈ executed UT cal, InInt32 v) ∧ 0 ∉ executedDivisors UT cal

instance (UT : ℤ) (cal : Calib) : Decidable (Safe UT cal) := inferInstanceAs (Decidable (_ ∧ _))

def product (UT : ℤ) (cal : Calib) : ℤ :=
  -- without wraparound
  (UT - cal.ac6.toNat) * cal.ac5.toNat

theorem word_range (w : UInt16) : (0 : ℤ) ≤ w.toNat ∧ (w.toNat : ℤ) ≤ 65535 := by
  have := w.toNat_lt
  omega

theorem short_range (i : Int16) : -32768 ≤ i.toInt ∧ i.toInt ≤ 32767 := by
  have h1 := i.le_toInt
  have h2 := i.toInt_lt
  omega

/-- Whatever the product, `X1` is a quotient of an `int32_t`. -/
theorem X1_range (UT : ℤ) (cal : Calib) : -65536 ≤ X1 UT cal ∧ X1 UT cal ≤ 65535 := by
  have h := int32_mem (int32 (UT - cal.ac6.toNat) * cal.ac5.toNat)
  exact ⟨Int.tdiv_le_tdiv (by decide) h.1, Int.tdiv_le_tdiv (by decide) h.2⟩

theorem X1_add_md_mem (UT : ℤ) (cal : Calib) : InInt32 (X1 UT cal + cal.md.toInt) := by
  have h1 := X1_range UT cal
  have h2 := short_range cal.md
  unfold InInt32
  omega

theorem divisor_eq (UT : ℤ) (cal : Calib) : divisor UT cal = X1 UT cal + cal.md.toInt :=
  int32_of_mem (X1_add_md_mem UT cal)

theorem numerator_mem (cal : Calib) : InInt32 (cal.mc.toInt * 2048) := by
  have h := short_range cal.mc
  unfold InInt32
  omega

theorem quotient_range (UT : ℤ) (cal : Calib) :
    |(cal.mc.toInt * 2048).tdiv (divisor UT cal)| ≤ 67108864 := by
  have h := short_range cal.mc
  calc |(cal.mc.toInt * 2048).tdiv (divisor UT cal)| ≤ |cal.mc.toInt * 2048| := abs_tdiv_le _ _
    _ ≤ 67108864 := abs_le.mpr (by omega)

theorem quotient_mem (UT : ℤ) (cal : Calib) :
    InInt32 ((cal.mc.toInt * 2048).tdiv (divisor UT cal)) := by
  have h := abs_le.mp (quotient_range UT cal)
  unfold InInt32
  omega

theorem X2_eq (UT : ℤ) (cal : Calib) :
    X2 UT cal = (cal.mc.toInt * 2048).tdiv (divisor UT cal) := by
  rw [X2, int32_of_mem (numerator_mem cal), int32_of_mem (quotient_mem UT cal)]

theorem X1_add_X2_range (UT : ℤ) (cal : Calib) :
    -67174400 ≤ X1 UT cal + X2 UT cal ∧ X1 UT cal + X2 UT cal ≤ 67174399 := by
  have h1 := X1_range UT cal
  have h2 := abs_le.mp (quotient_range UT cal)
  rw [X2_eq]
  omega

theorem B5_eq (UT : ℤ) (cal : Calib) : B5 UT cal = X1 UT cal + X2 UT cal := by
  have h := X1_add_X2_range UT cal
  apply int32_of_mem
  unfold InInt32
  omega

theorem B5_add_eight_mem (UT : ℤ) (cal : Calib) : InInt32 (B5 UT cal + 8) := by
  have h := X1_add_X2_range UT cal
  rw [B5_eq]
  unfold InInt32
  omega

theorem temperature_eq (UT : ℤ) (cal : Calib) :
    temperature UT cal = (X1 UT cal + X2 UT cal + 8).tdiv 16 := by
  rw [temperature, int32_of_mem (B5_add_eight_mem UT cal), B5_eq]

section Reading

variable {UT : ℤ} (cal : Calib)

theorem difference_mem (hUT : 0 ≤ UT ∧ UT ≤ 65535) : InInt32 (UT - cal.ac6.toNat) := by
  have h := word_range cal.ac6
  unfold InInt32
  omega

theorem X1_eq (hUT : 0 ≤ UT ∧ UT ≤ 65535) (hp : InInt32 (product UT cal)) :
    X1 UT cal = (product UT cal).tdiv 32768 := by
  rw [X1, int32_of_mem (difference_mem cal hUT)]
  exact congrArg (Int.tdiv · 32768) (int32_of_mem hp)

theorem first_operations_mem (hUT : 0 ≤ UT ∧ UT ≤ 65535) (hp : InInt32 (product UT cal)) :
    ∀ v ∈ [UT - cal.ac6.toNat, int32 (UT - cal.ac6.toNat) * cal.ac5.toNat, X1 UT cal,
      X1 UT cal + cal.md.toInt], InInt32 v := by
  have hdiff := difference_mem cal hUT
  have hX := X1_range UT cal
  have hproduct : InInt32 (int32 (UT - cal.ac6.toNat) * cal.ac5.toNat) := by
    rwa [int32_of_mem hdiff]
  simp only [List.forall_mem_cons, List.not_mem_nil, false_imp_iff, implies_true, and_true]
  exact ⟨hdiff, hproduct, ⟨by omega, by omega⟩, X1_add_md_mem UT cal⟩

theorem later_operations_mem :
    ∀ v ∈ [cal.mc.toInt * 2048, (int32 (cal.mc.toInt * 2048)).tdiv (divisor UT cal),
      X1 UT cal + X2 UT cal, B5 UT cal + 8, temperature UT cal], InInt32 v := by
  have hB := X1_add_X2_range UT cal
  have hq := quotient_mem UT cal
  rw [← int32_of_mem (numerator_mem cal)] at hq
  simp only [List.forall_mem_cons, List.not_mem_nil, false_imp_iff, implies_true, and_true]
  exact ⟨numerator_mem cal, hq, ⟨by omega, by omega⟩, B5_add_eight_mem UT cal,
    tdiv_mem (by decide) (by decide) (by decide) (int32_mem _)⟩

/-- Only the product can leave the range. -/
theorem safe_iff (hUT : 0 ≤ UT ∧ UT ≤ 65535) : Safe UT cal ↔ InInt32 (product UT cal) := by
  constructor
  · intro h
    have hp := h.1 (int32 (UT - cal.ac6.toNat) * cal.ac5.toNat) (by simp [executed])
    rwa [int32_of_mem (difference_mem cal hUT)] at hp
  · intro hp
    have hfirst := first_operations_mem cal hUT hp
    by_cases hdiv : divisor UT cal = 0
    · refine ⟨?_, by simp [executedDivisors, hdiv]⟩
      simp only [executed, hdiv, if_true, List.append_nil]
      exact hfirst
    · refine ⟨?_, by simp [executedDivisors, hdiv, Ne.symm hdiv]⟩
      simp only [executed, hdiv, if_false]
      exact List.forall_mem_append.mpr ⟨hfirst, later_operations_mem cal⟩

end Reading

/-- For every calibration block and every reading the arithmetic is safe
exactly when the product of the first step fits. -/
theorem compensation_safe_iff (raw : Fin 22 → UInt8) (hi lo : UInt8) :
    Safe (beWord hi lo).toNat (loadCalib raw) ↔
      InInt32 ((beUnsigned hi lo - beUnsigned (raw 10) (raw 11)) * beUnsigned (raw 8) (raw 9)) := by
  have hw := word_range (beWord hi lo)
  rw [safe_iff _ hw, product, toNat_beWord_int, (decodes_loadCalib raw).ac5,
    (decodes_loadCalib raw).ac6]

/-- `ac5` and the reading at their largest, `ac6` zero. -/
theorem compensation_unsafe :
    ¬ ∀ (raw : Fin 22 → UInt8) (hi lo : UInt8), Safe (beWord hi lo).toNat (loadCalib raw) := by
  intro h
  have hbad := h (fun i => if i = 8 ∨ i = 9 then 0xFF else 0) 0xFF 0xFF
  revert hbad
  decide

theorem X1_mono {UT₁ UT₂ : ℤ} (cal : Calib) (h0 : 0 ≤ UT₁) (h12 : UT₁ ≤ UT₂) (h2 : UT₂ ≤ 65535)
    (hp₁ : InInt32 (product UT₁ cal)) (hp₂ : InInt32 (product UT₂ cal)) :
    X1 UT₁ cal ≤ X1 UT₂ cal := by
  have ha := word_range cal.ac5
  rw [X1_eq cal ⟨h0, h12.trans h2⟩ hp₁, X1_eq cal ⟨h0.trans h12, h2⟩ hp₂]
  apply Int.tdiv_le_tdiv (by decide)
  exact mul_le_mul_of_nonneg_right (by omega) ha.1

/-- Where the divisor keeps its sign, both summands grow with the reading. -/
theorem temperature_mono {UT₁ UT₂ : ℤ} {cal : Calib} (hmc : cal.mc.toInt ≤ 0)
    (hX : X1 UT₁ cal ≤ X1 UT₂ cal)
    (hsign : (0 < divisor UT₁ cal ∧ 0 < divisor UT₂ cal) ∨
      (divisor UT₁ cal < 0 ∧ divisor UT₂ cal < 0)) :
    temperature UT₁ cal ≤ temperature UT₂ cal := by
  have hdiv : divisor UT₁ cal ≤ divisor UT₂ cal := by
    rw [divisor_eq, divisor_eq]
    omega
  have hX2 : X2 UT₁ cal ≤ X2 UT₂ cal := by
    have hnum : cal.mc.toInt * 2048 ≤ 0 := by omega
    rw [X2_eq, X2_eq]
    rcases hsign with ⟨hpos, -⟩ | ⟨-, hneg⟩
    · exact tdiv_le_tdiv_of_pos hnum hpos hdiv
    · exact tdiv_le_tdiv_of_neg hnum hneg hdiv
  rw [temperature_eq, temperature_eq]
  apply Int.tdiv_le_tdiv (by decide)
  omega

/-- With a calibration whose `mc` is not positive, a higher reading never gives
a lower temperature, as long as the products fit and the divisors are on the
same side of zero. -/
theorem compute_mono {UT₁ UT₂ : ℤ} (cal : Calib) (out₁ out₂ : ℤ) (hmc : cal.mc.toInt ≤ 0)
    (h0 : 0 ≤ UT₁) (h12 : UT₁ ≤ UT₂) (h2 : UT₂ ≤ 65535)
    (hp₁ : InInt32 (product UT₁ cal)) (hp₂ : InInt32 (product UT₂ cal))
    (hsign : (0 < X1 UT₁ cal + cal.md.toInt ∧ 0 < X1 UT₂ cal + cal.md.toInt) ∨
      (X1 UT₁ cal + cal.md.toInt < 0 ∧ X1 UT₂ cal + cal.md.toInt < 0)) :
    ∃ t₁ t₂, bmp180ComputeTemperature UT₁ (some cal) (some out₁) = (0, some t₁) ∧
      bmp180ComputeTemperature UT₂ (some cal) (some out₂) = (0, some t₂) ∧ t₁ ≤ t₂ := by
  rw [← divisor_eq, ← divisor_eq] at hsign
  refine ⟨_, _, compute_ok (by omega), compute_ok (by omega), ?_⟩
  exact temperature_mono hmc (X1_mono cal h0 h12 h2 hp₁ hp₂) hsign

theorem compute_mono_datasheet :
    ∃ t₁ t₂, bmp180ComputeTemperature 25000 (some dsCalib) (some 0) = (0, some t₁) ∧
      bmp180ComputeTemperature 27898 (some dsCalib) (some 0) = (0, some t₂) ∧ t₁ ≤ t₂ :=
  compute_mono dsCalib 0 0 (by decide) (by decide) (by decide) (by decide) (by decide) (by decide)
    (by decide)

/-- The datasheet formula without any truncation, in tenths of a degree. -/
def exactTemperature (UT : ℤ) (cal : Calib) : ℚ :=
  let x1 : ℚ := (UT - cal.ac6.toNat) * cal.ac5.toNat / 2 ^ 15
  let x2 : ℚ := cal.mc.toInt * 2 ^ 11 / (x1 + cal.md.toInt)
  (x1 + x2 + 8) / 2 ^ 4

theorem X1_error {UT : ℤ} (cal : Calib) (hUT : 0 ≤ UT ∧ UT ≤ 65535)
    (hp : InInt32 (product UT cal)) :
    |(X1 UT cal : ℚ) - (UT - cal.ac6.toNat) * cal.ac5.toNat / 2 ^ 15| < 1 := by
  have h := tdiv_error_lt_one (product UT cal) (show (32768 : ℤ) ≠ 0 by decide)
  rw [← X1_eq cal hUT hp, product] at h
  push_cast at h
  norm_num at h ⊢
  exact h

theorem X2_truncation {UT : ℤ} {cal : Calib} (hd : divisor UT cal ≠ 0) :
    |(X2 UT cal : ℚ) - cal.mc.toInt * 2 ^ 11 / divisor UT cal| < 1 := by
  have h := tdiv_error_lt_one (cal.mc.toInt * 2048) hd
  rw [← X2_eq] at h
  push_cast at h
  norm_num at h ⊢
  exact h

/-- `X2` is off by its own truncation and by what the error of `X1` does to the divisor. -/
theorem X2_error {UT : ℤ} {cal : Calib} {x1 : ℚ} (hx1 : |(X1 UT cal : ℚ) - x1| < 1)
    (hd : 2 ≤ divisor UT cal)
    (hmc : |cal.mc.toInt| * 2048 ≤ divisor UT cal * (divisor UT cal - 1)) :
    |(X2 UT cal : ℚ) - cal.mc.toInt * 2 ^ 11 / (x1 + cal.md.toInt)| < 2 := by
  have hdiv : (X1 UT cal : ℚ) + cal.md.toInt = divisor UT cal := by
    rw [divisor_eq]
    push_cast
    rfl
  have hd' : (1 : ℚ) < divisor UT cal := by exact_mod_cast (show (1 : ℤ) < divisor UT cal by omega)
  have hm : |(cal.mc.toInt * 2 ^ 11 : ℚ)| ≤ divisor UT cal * (divisor UT cal - 1) := by
    rw [abs_mul, show |(2 ^ 11 : ℚ)| = 2048 by norm_num]
    exact_mod_cast hmc
  have htrunc := X2_truncation (show divisor UT cal ≠ 0 by omega)
  have hδ : |x1 - X1 UT cal| < 1 := by rwa [abs_sub_comm]
  have hpert := div_perturbation hd' hm hδ
  have hsum : (divisor UT cal : ℚ) + (x1 - X1 UT cal) = x1 + cal.md.toInt := by
    rw [← hdiv]
    ring
  rw [hsum] at hpert
  -- its own truncation, then the error that the divisor brings
  calc |(X2 UT cal : ℚ) - cal.mc.toInt * 2 ^ 11 / (x1 + cal.md.toInt)|
      ≤ |(X2 UT cal : ℚ) - cal.mc.toInt * 2 ^ 11 / divisor UT cal| +
          |cal.mc.toInt * 2 ^ 11 / divisor UT cal -
            cal.mc.toInt * 2 ^ 11 / (x1 + cal.md.toInt)| := abs_sub_le _ _ _
    _ < 1 + 1 := by
      rw [abs_sub_comm (_ / (divisor UT cal : ℚ))]
      exact add_lt_add htrunc (hpert.trans_lt hδ)
    _ = 2 := by norm_num

/-- The result is within 9/8 of a tenth of a degree of the exact value, in the
region where the formula is away from its pole. -/
theorem compute_accuracy {UT : ℤ} (cal : Calib) (out : ℤ) (hUT : 0 ≤ UT ∧ UT ≤ 65535)
    (hp : InInt32 (product UT cal)) (hd : 2 ≤ X1 UT cal + cal.md.toInt)
    (hmc : |cal.mc.toInt| * 2048 ≤
      (X1 UT cal + cal.md.toInt) * (X1 UT cal + cal.md.toInt - 1)) :
    ∃ t : ℤ, bmp180ComputeTemperature UT (some cal) (some out) = (0, some t) ∧
      |(t : ℚ) - exactTemperature UT cal| < 9 / 8 := by
  rw [← divisor_eq] at hd hmc
  refine ⟨temperature UT cal, compute_ok (by omega), ?_⟩
  have h1 := X1_error cal hUT hp
  have h2 := X2_error h1 hd hmc
  have h3 := tdiv_error (X1 UT cal + X2 UT cal + 8) (show (16 : ℤ) ≠ 0 by decide)
  rw [← temperature_eq] at h3
  push_cast at h3
  norm_num only [abs_of_pos] at h3
  unfold exactTemperature
  rw [abs_lt] at h1 h2 ⊢
  rw [abs_le] at h3
  constructor <;> linarith

theorem compute_accuracy_datasheet :
    ∃ t : ℤ, bmp180ComputeTemperature 27898 (some dsCalib) (some 0) = (0, some t) ∧
      |(t : ℚ) - exactTemperature 27898 dsCalib| < 9 / 8 :=
  compute_accuracy dsCalib 0 (by decide) (by decide) (by decide) (by decide)

theorem X1_step {UT₁ UT₂ : ℤ} (cal : Calib) (h0 : 0 ≤ UT₁) (h12 : UT₁ ≤ UT₂) (h2 : UT₂ ≤ 65535)
    (hp₁ : InInt32 (product UT₁ cal)) (hp₂ : InInt32 (product UT₂ cal)) :
    X1 UT₂ cal - X1 UT₁ cal ≤ 2 * (UT₂ - UT₁) := by
  have ha := word_range cal.ac5
  have hproduct : product UT₂ cal - product UT₁ cal = (UT₂ - UT₁) * cal.ac5.toNat := by
    unfold product
    ring
  have hfactor : (UT₂ - UT₁) * cal.ac5.toNat ≤ (UT₂ - UT₁) * 65535 :=
    mul_le_mul_of_nonneg_left ha.2 (by omega)
  have hle : product UT₁ cal ≤ product UT₂ cal := mul_le_mul_of_nonneg_right (by omega) ha.1
  have hquot := tdiv_sub_tdiv_le (n := 32768) (by decide) hle
  rw [X1_eq cal ⟨h0, h12.trans h2⟩ hp₁, X1_eq cal ⟨h0.trans h12, h2⟩ hp₂]
  omega

/-- Away from the pole `X2` moves by no more than `X1`, whichever way it goes. -/
theorem X2_step {UT₁ UT₂ : ℤ} {cal : Calib} (hX : X1 UT₁ cal ≤ X1 UT₂ cal)
    (hd : 0 < divisor UT₁ cal)
    (hmc : |cal.mc.toInt| * 2048 ≤ divisor UT₁ cal * (divisor UT₁ cal - 1)) :
    |X2 UT₁ cal - X2 UT₂ cal| ≤ X1 UT₂ cal - X1 UT₁ cal := by
  have hdiff : divisor UT₂ cal - divisor UT₁ cal = X1 UT₂ cal - X1 UT₁ cal := by
    rw [divisor_eq, divisor_eq]
    ring
  rw [X2_eq, X2_eq, ← hdiff]
  apply abs_tdiv_sub_tdiv_le hd (by omega)
  rwa [abs_mul, show |(2048 : ℤ)| = 2048 from rfl]

/-- Away from the pole the temperature rises with the reading, whatever the sign
of `mc`, and four steps of the reading raise it by a tenth of a degree at most. -/
theorem compute_resolution {UT₁ UT₂ : ℤ} (cal : Calib) (out₁ out₂ : ℤ) (h0 : 0 ≤ UT₁)
    (h12 : UT₁ ≤ UT₂) (h2 : UT₂ ≤ 65535) (hp₁ : InInt32 (product UT₁ cal))
    (hp₂ : InInt32 (product UT₂ cal)) (hd : 0 < X1 UT₁ cal + cal.md.toInt)
    (hmc : |cal.mc.toInt| * 2048 ≤
      (X1 UT₁ cal + cal.md.toInt) * (X1 UT₁ cal + cal.md.toInt - 1)) :
    ∃ t₁ t₂, bmp180ComputeTemperature UT₁ (some cal) (some out₁) = (0, some t₁) ∧
      bmp180ComputeTemperature UT₂ (some cal) (some out₂) = (0, some t₂) ∧
      t₁ ≤ t₂ ∧ 4 * (t₂ - t₁) ≤ UT₂ - UT₁ + 3 := by
  have hmono := X1_mono cal h0 h12 h2 hp₁ hp₂
  have hstep := X1_step cal h0 h12 h2 hp₁ hp₂
  rw [← divisor_eq] at hd hmc
  have hX2 := abs_le.mp (X2_step hmono hd hmc)
  have hdiv : divisor UT₁ cal ≤ divisor UT₂ cal := by
    rw [divisor_eq, divisor_eq]
    omega
  refine ⟨_, _, compute_ok (by omega), compute_ok (by omega), ?_⟩
  have hsum : X1 UT₁ cal + X2 UT₁ cal + 8 ≤ X1 UT₂ cal + X2 UT₂ cal + 8 := by omega
  have hquot := tdiv_sub_tdiv_le (n := 16) (by decide) hsum
  rw [temperature_eq, temperature_eq]
  exact ⟨Int.tdiv_le_tdiv (by decide) hsum, by omega⟩

theorem compute_resolution_datasheet :
    ∃ t₁ t₂, bmp180ComputeTemperature 25000 (some dsCalib) (some 0) = (0, some t₁) ∧
      bmp180ComputeTemperature 27898 (some dsCalib) (some 0) = (0, some t₂) ∧
      t₁ ≤ t₂ ∧ 4 * (t₂ - t₁) ≤ 27898 - 25000 + 3 :=
  compute_resolution dsCalib 0 0 (by decide) (by decide) (by decide) (by decide) (by decide)
    (by decide) (by decide)

/-- Some multiple of a positive factor lies between 1 and 4 times 2^15. -/
theorem exists_multiple {c : ℤ} (hc : 1 ≤ c) (hc' : c ≤ 65535) :
    ∃ k, 1 ≤ k ∧ k ≤ 32768 ∧ 32768 ≤ k * c ∧ k * c ≤ 131072 := by
  have hdiv := Int.mul_ediv_add_emod (32767 + c) c
  have hmod := Int.emod_nonneg (32767 + c) (show c ≠ 0 by omega)
  have hlt := Int.emod_lt_of_pos (32767 + c) (show 0 < c by omega)
  refine ⟨(32767 + c) / c, ?_, ?_, ?_, ?_⟩
  · rw [Int.le_ediv_iff_mul_le (by omega)]
    omega
  · apply Int.ediv_le_of_le_mul (by omega)
    nlinarith
  · rw [mul_comm]
    omega
  · rw [mul_comm]
    omega

/-- The divisor is zero for every raw word exactly if both AC5 and MD are. -/
theorem divisor_zero_iff (cal : Calib) :
    (∀ hi lo : UInt8, divisor (beUnsigned hi lo) cal = 0) ↔ cal.ac5 = 0 ∧ cal.md = 0 := by
  constructor
  · intro h
    have hX1 : ∀ w : UInt16, X1 w.toNat cal + cal.md.toInt = 0 := by
      intro w
      rw [← divisor_eq, ← beWord_bytes w, toNat_beWord_int]
      exact h _ _
    have hac6 := word_range cal.ac6
    have hac5 := word_range cal.ac5
    have hprod : ∀ d : ℤ, product (cal.ac6.toNat + d) cal = d * cal.ac5.toNat := by
      intro d
      rw [product, add_sub_cancel_left]
    -- the word AC6 itself leaves only MD
    have hmd : cal.md.toInt = 0 := by
      have h0 := hX1 cal.ac6
      rw [X1_eq cal hac6 (by simp [product, InInt32]), product, sub_self, zero_mul] at h0
      simpa using h0
    refine ⟨?_, Int16.toInt_inj.mp (hmd.trans rfl)⟩
    by_contra hne
    have hpos : (1 : ℤ) ≤ cal.ac5.toNat := by
      have : cal.ac5.toNat ≠ 0 := fun h0 => hne (UInt16.toNat_inj.mp h0)
      omega
    obtain ⟨k, hk1, hk, hlo, hhi⟩ := exists_multiple hpos hac5.2
    have hoff : ∀ d : ℤ, 0 ≤ cal.ac6.toNat + d → cal.ac6.toNat + d ≤ 65535 →
        InInt32 (d * cal.ac5.toNat) → (d * cal.ac5.toNat).tdiv 32768 = 0 := by
      intro d h0 h1 hin
      have hw := hX1 (UInt16.ofNat (cal.ac6.toNat + d).toNat)
      have hnat : ((UInt16.ofNat (cal.ac6.toNat + d).toNat).toNat : ℤ) = cal.ac6.toNat + d := by
        rw [UInt16.toNat_ofNat_of_lt' (by simp [UInt16.size]; omega)]
        omega
      rw [hnat, X1_eq cal ⟨h0, h1⟩ (by rwa [hprod]), hprod, hmd] at hw
      simpa using hw
    by_cases hside : (cal.ac6.toNat : ℤ) ≤ 32767
    · have := hoff k (by omega) (by omega) ⟨by omega, by omega⟩
      have hone : 1 ≤ (k * cal.ac5.toNat : ℤ).tdiv 32768 := Int.tdiv_le_tdiv (by decide) hlo
      omega
    · have hneg : -k * cal.ac5.toNat = -(k * cal.ac5.toNat) := neg_mul _ _
      have := hoff (-k) (by omega) (by omega) ⟨by omega, by omega⟩
      have hone : (-(k * cal.ac5.toNat) : ℤ).tdiv 32768 ≤ -1 :=
        Int.tdiv_le_tdiv (by decide) (neg_le_neg hlo)
      rw [← hneg] at hone
      omega
  · rintro ⟨hac5, hmd⟩ hi lo
    rw [divisor_eq, X1, hac5, hmd]
    simp [int32]

end ZigbeeGateway.Bmp180
