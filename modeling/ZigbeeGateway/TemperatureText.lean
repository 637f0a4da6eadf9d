import ZigbeeGateway.TemperaturePath
import ZigbeeGateway.DecimalText

namespace ZigbeeGateway.TemperatureText
open CStrings MachineWords DecimalText TemperaturePath

/-- `%d.%d` in `bmp180_read_temperature`, for `*temp_out / 10` and `*temp_out % 10`. -/
def temperatureText (t : ℤ) : List UInt8 :=
  Coordinator.decimal (t.tdiv 10) ++ text "." ++ Coordinator.decimal (t.tmod 10)

def receivedLine (caller : List UInt8) (t : ℤ) : List UInt8 :=
  caller ++ text " - Temperature: " ++ temperatureText t ++ text " C (Raw value: " ++
    Coordinator.decimal t ++ text ")"

/-- The text of the end device denotes the temperature, and where the value fits
the attribute both callbacks of the coordinator log the same text. -/
structure LogsAgree (t : ℤ) : Prop where
  denotes : readDecimal (temperatureText t) = some ((t : ℚ) / 10)
  zcl : InInt16 t → Coordinator.zclDeviceCb
      (some ⟨Coordinator.ZB_ZCL_CLUSTER_ID_TEMP_MEASUREMENT,
        Coordinator.ZB_ZCL_ATTR_TEMP_MEASUREMENT_VALUE_ID, (Int16.ofInt t).toUInt16⟩) =
    ([receivedLine (text "zcl_device_cb") t], Coordinator.RET_OK)
  modify : InInt16 t → ∀ rest, Coordinator.modifyAttrValueCallback
      Coordinator.ZB_ZCL_CLUSTER_ID_TEMP_MEASUREMENT
      Coordinator.ZB_ZCL_ATTR_TEMP_MEASUREMENT_VALUE_ID (valueBytes (Int16.ofInt t) ++ rest) =
    [receivedLine (text "modify_attr_value_callback") t]

theorem temperatureText_eq (t : ℤ) : temperatureText t =
    text (toString (t.tdiv 10)) ++ '.'.toUInt8 :: text (toString (t.tmod 10)) := by
  have hpoint : text "." = ['.'.toUInt8] := by decide
  rw [temperatureText, hpoint, List.append_assoc]
  rfl

theorem readDecimal_nonneg (n : ℕ) : readDecimal (temperatureText n) = some ((n : ℚ) / 10) := by
  have hdiv : (n : ℤ).tdiv 10 = (n / 10 : ℕ) := rfl
  have hmod : (n : ℤ).tmod 10 = (n % 10 : ℕ) := rfl
  have hlen : (text (n % 10).repr).length = 1 := by
    rw [text_repr_of_lt (Nat.mod_lt n (by decide))]
    rfl
  have hsum : (n : ℚ) = 10 * (n / 10 : ℕ) + (n % 10 : ℕ) := by
    exact_mod_cast (Nat.div_add_mod n 10).symm
  rw [temperatureText_eq, hdiv, hmod, readDecimal_natCast, text_toString_natCast, readDigits_repr,
    Option.map_some, hlen, hsum]
  congr 1
  ring

theorem readDecimal_neg_multiple {k : ℕ} (hk : 0 < k) :
    readDecimal (temperatureText (-(10 * k : ℕ))) = some (-(k : ℚ)) := by
  have hdiv : (-((10 * k : ℕ) : ℤ)).tdiv 10 = -(k : ℤ) := by
    push_cast
    rw [Int.neg_tdiv, Int.mul_tdiv_cancel_left _ (by decide)]
  have hmod : (-((10 * k : ℕ) : ℤ)).tmod 10 = (0 : ℕ) := by
    push_cast
    rw [Int.neg_tmod, Int.mul_tmod_right, neg_zero]
  rw [temperatureText_eq, hdiv, hmod, readDecimal_neg hk, text_toString_natCast, readDigits_repr,
    Option.map_some]
  simp

/-- A remainder below zero puts a minus sign behind the point. -/
theorem readDecimal_neg_remainder {m : ℕ} (hm : m % 10 ≠ 0) :
    readDecimal (temperatureText (-(m : ℤ))) = none := by
  have hmod : (-(m : ℤ)).tmod 10 = -((m % 10 : ℕ) : ℤ) := by
    rw [Int.neg_tmod]
    rfl
  have hminus : text (toString (-((m % 10 : ℕ) : ℤ))) = '-'.toUInt8 :: text (m % 10).repr :=
    text_toString_neg (by omega)
  have hdiv : (-(m : ℤ)).tdiv 10 = -((m / 10 : ℕ) : ℤ) := by
    rw [Int.neg_tdiv]
    rfl
  rw [temperatureText_eq, hmod, hminus, hdiv]
  rcases Nat.eq_zero_or_pos (m / 10) with h0 | hpos
  · -- no minus sign before the point
    have hzero : -((m / 10 : ℕ) : ℤ) = (0 : ℕ) := by omega
    rw [hzero, readDecimal_natCast, readDigits_minus]
    rfl
  · rw [readDecimal_neg hpos, readDigits_minus]
    rfl

theorem denotes_iff (t : ℤ) :
    readDecimal (temperatureText t) = some ((t : ℚ) / 10) ↔ 0 ≤ t ∨ 10 ∣ t := by
  rcases le_or_gt 0 t with h0 | hneg
  · lift t to ℕ using h0
    exact iff_of_true (readDecimal_nonneg t) (.inl (Int.natCast_nonneg t))
  · obtain ⟨m, rfl⟩ := Int.exists_eq_neg_ofNat hneg.le
    by_cases hm : m % 10 = 0
    · obtain ⟨k, rfl⟩ := Nat.dvd_of_mod_eq_zero hm
      refine iff_of_true ?_ (.inr (by omega))
      rw [readDecimal_neg_multiple (by omega)]
      congr 1
      push_cast
      ring
    · refine iff_of_false ?_ (by omega)
      rw [readDecimal_neg_remainder hm]
      simp

theorem temperatureLine_eq {t : ℤ} (h16 : InInt16 t) (h : 0 ≤ t ∨ 10 ∣ t) (caller : List UInt8) :
    Coordinator.temperatureLine caller (Int16.ofInt t) = receivedLine caller t := by
  have ht : (Int16.ofInt t).toInt = t := (toInt_ofInt t).trans (int16_eq_self_iff.mpr h16)
  have hrem : ¬ t.tmod 10 < 0 := by
    rcases h with h | h
    · exact not_lt.mpr (Int.tmod_nonneg 10 h)
    · rw [Int.tmod_eq_zero_of_dvd h]
      decide
  simp only [Coordinator.temperatureLine, receivedLine, temperatureText, ht, hrem, if_false,
    List.append_assoc]

/-- The logs denote the temperature and agree exactly for the temperatures from
zero on and for whole degrees below. -/
theorem logsAgree_iff (t : ℤ) : LogsAgree t ↔ 0 ≤ t ∨ 10 ∣ t := by
  constructor
  · intro h
    exact (denotes_iff t).mp h.denotes
  · intro h
    refine ⟨(denotes_iff t).mpr h, fun h16 => ?_, fun h16 rest => ?_⟩
    · rw [← temperatureLine_eq h16 h]
      rfl
    · rw [← temperatureLine_eq h16 h]
      have hraw := modifyTemperatureRaw_valueBytes (Int16.ofInt t) rest
      exact congrArg (fun raw => [Coordinator.temperatureLine _ raw]) hraw

/-- At -1.5 degrees the end device logs `-1.-5`. -/
theorem logs_disagree_below_zero : ¬∀ t : ℤ, InInt32 t → LogsAgree t := by
  intro h
  have hdenotes := (denotes_iff (-15)).mp (h (-15) (by decide)).denotes
  omega

example : temperatureText (-15) = text "-1.-5" ∧
    Coordinator.temperatureLine [] (-15) = text " - Temperature: -1.5 C (Raw value: -15)" := by
  decide

end ZigbeeGateway.TemperatureText
