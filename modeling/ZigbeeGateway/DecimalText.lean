import ZigbeeGateway.CStrings
import Mathlib.Data.List.Basic
import Mathlib.Data.Rat.Defs
import Mathlib.Algebra.Order.Field.Rat
import Mathlib.Tactic.IntervalCases

namespace ZigbeeGateway.DecimalText
open CStrings

def isDigit (c : UInt8) : Bool := 48 ≤ c && c ≤ 57

def digitsValue (l : List UInt8) : ℕ := l.foldl (fun n c => 10 * n + (c.toNat - 48)) 0

def readDigits (l : List UInt8) : Option ℕ :=
  if !l.isEmpty && l.all isDigit then some (digitsValue l) else none

/-- Digits, a point, digits. -/
def readUnsigned (l : List UInt8) : Option ℚ :=
  let whole := l.takeWhile (· ≠ '.'.toUInt8)
  let frac := l.drop (whole.length + 1)
  match readDigits whole, readDigits frac with
  | some w, some f => some (w + f / 10 ^ frac.length)
  | _, _ => none

/-- The same with an optional minus sign in front. -/
def readDecimal (l : List UInt8) : Option ℚ :=
  if l.head? = some '-'.toUInt8 then (readUnsigned l.tail).map (- ·) else readUnsigned l

theorem text_append (s t : String) : text (s ++ t) = text s ++ text t := by
  simp [text, String.toByteArray_append, ByteArray.data_append]

theorem text_repr_of_lt {n : ℕ} (h : n < 10) : text n.repr = [48 + UInt8.ofNat n] := by
  interval_cases n <;> decide

theorem text_repr_of_ge {n : ℕ} (h : 10 ≤ n) :
    text n.repr = text (n / 10).repr ++ [48 + UInt8.ofNat (n % 10)] := by
  rw [Nat.repr_eq_repr_append_repr h, text_append, text_repr_of_lt (Nat.mod_lt n (by decide))]

theorem isDigit_of_lt {n : ℕ} (h : n < 10) :
    isDigit (48 + UInt8.ofNat n) = true ∧ (48 + UInt8.ofNat n).toNat - 48 = n := by
  interval_cases n <;> decide

theorem digitsValue_concat (l : List UInt8) (c : UInt8) :
    digitsValue (l ++ [c]) = 10 * digitsValue l + (c.toNat - 48) := by
  rw [digitsValue, List.foldl_concat]
  rfl

/-- A printed number is digits, and they denote it. -/
theorem repr_digits (n : ℕ) : text n.repr ≠ [] ∧ (∀ c ∈ text n.repr, isDigit c = true) ∧
    digitsValue (text n.repr) = n := by
  -- on the number of digits; the last one is split off
  induction n using Nat.strongRecOn with
  | ind n ih =>
    by_cases h : n < 10
    · obtain ⟨hdigit, hval⟩ := isDigit_of_lt h
      rw [text_repr_of_lt h]
      simp only [ne_eq, List.cons_ne_self, not_false_eq_true, List.mem_singleton, forall_eq,
        digitsValue, List.foldl_cons, List.foldl_nil, hval]
      exact ⟨by simp, hdigit, by omega⟩
    · obtain ⟨-, hall, hv⟩ := ih (n / 10) (by omega)
      obtain ⟨hdigit, hval⟩ := isDigit_of_lt (Nat.mod_lt n (by decide : 10 > 0))
      rw [text_repr_of_ge (by omega), digitsValue_concat, hv, hval]
      refine ⟨by simp, ?_, by omega⟩
      intro c hc
      rcases List.mem_append.mp hc with hc | hc
      · exact hall c hc
      · rw [List.mem_singleton.mp hc]
        exact hdigit

theorem readDigits_repr (n : ℕ) : readDigits (text n.repr) = some n := by
  obtain ⟨hne, hall, hval⟩ := repr_digits n
  have hdigits : (!(text n.repr).isEmpty && (text n.repr).all isDigit) = true := by
    rw [List.all_eq_true.mpr hall, Bool.and_true, Bool.not_eq_true']
    exact List.isEmpty_eq_false_iff.mpr hne
  rw [readDigits, if_pos hdigits, hval]

theorem readDigits_minus (l : List UInt8) : readDigits ('-'.toUInt8 :: l) = none := by
  have hminus : isDigit '-'.toUInt8 = false := by decide
  rw [readDigits, List.all_cons, hminus, Bool.false_and, Bool.and_false, if_neg (by decide)]

theorem readUnsigned_point (n : ℕ) (l : List UInt8) :
    readUnsigned (text n.repr ++ '.'.toUInt8 :: l) =
      (readDigits l).map fun f : ℕ => (n : ℚ) + f / 10 ^ l.length := by
  -- no digit is a point, so the whole part ends at the first one
  have hwhole : (text n.repr ++ '.'.toUInt8 :: l).takeWhile (· ≠ '.'.toUInt8) = text n.repr := by
    rw [List.takeWhile_append_of_pos]
    · simp
    · intro c hc
      have hd := (repr_digits n).2.1 c hc
      have hne : c ≠ '.'.toUInt8 := by
        rintro rfl
        exact absurd hd (by decide)
      simpa using hne
  have hfrac : (text n.repr ++ '.'.toUInt8 :: l).drop ((text n.repr).length + 1) = l := by
    rw [← List.drop_drop, List.drop_left]
    rfl
  unfold readUnsigned
  dsimp only
  rw [hwhole, hfrac, readDigits_repr]
  cases readDigits l <;> rfl

theorem text_toString_natCast (n : ℕ) : text (toString (n : ℤ)) = text n.repr := rfl

theorem text_toString_neg {n : ℕ} (h : 0 < n) :
    text (toString (-(n : ℤ))) = '-'.toUInt8 :: text n.repr := by
  obtain ⟨m, rfl⟩ := Nat.exists_eq_succ_of_ne_zero h.ne'
  have hs : toString (-((m + 1 : ℕ) : ℤ)) = "-" ++ (m + 1).repr := rfl
  have hminus : text "-" = ['-'.toUInt8] := by decide
  rw [Nat.succ_eq_add_one, hs, text_append, hminus]
  rfl

theorem readDecimal_natCast (n : ℕ) (l : List UInt8) :
    readDecimal (text (toString (n : ℤ)) ++ '.'.toUInt8 :: l) =
      (readDigits l).map fun f : ℕ => (n : ℚ) + f / 10 ^ l.length := by
  obtain ⟨hne, hall, -⟩ := repr_digits n
  have hhead : (text n.repr ++ '.'.toUInt8 :: l).head? ≠ some '-'.toUInt8 := by
    rw [List.head?_append_of_ne_nil _ hne]
    intro h
    exact absurd (hall _ (List.mem_of_mem_head? h)) (by decide)
  rw [text_toString_natCast, readDecimal, if_neg hhead, readUnsigned_point]

theorem readDecimal_neg {n : ℕ} (h : 0 < n) (l : List UInt8) :
    readDecimal (text (toString (-(n : ℤ))) ++ '.'.toUInt8 :: l) =
      (readDigits l).map fun f : ℕ => -((n : ℚ) + f / 10 ^ l.length) := by
  rw [text_toString_neg h, List.cons_append, readDecimal, List.head?_cons, if_pos rfl,
    List.tail_cons, readUnsigned_point, Option.map_map]
  rfl

end ZigbeeGateway.DecimalText
