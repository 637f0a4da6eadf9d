import Mathlib.Data.List.TakeWhile
import Mathlib.Data.Int.Notation

namespace ZigbeeGateway.CStrings

abbrev Buffer := List UInt8

def text (s : String) : List UInt8 := s.toByteArray.data.toList

/-- The string that a buffer holds; behind its NUL is whatever was left there. -/
def cstr (buf : Buffer) : List UInt8 := buf.takeWhile (· ≠ 0)

def strlen (buf : Buffer) : ℕ := (cstr buf).length

/-- The difference of the first two bytes that differ among the first `n`,
reading the end of a list as NUL. -/
def strncmp : Buffer → Buffer → ℕ → ℤ
  | _, _, 0 => 0
  | s, t, n + 1 =>
    if s.headD 0 ≠ t.headD 0 then ((s.headD 0).toNat : ℤ) - (t.headD 0).toNat
    else if s.headD 0 = 0 then 0 else strncmp s.tail t.tail n

def strcmp (s t : Buffer) : ℤ := strncmp s t (s.length + 1)

theorem cstr_eq (buf : Buffer) :
    cstr buf = if buf.headD 0 = 0 then [] else buf.headD 0 :: cstr buf.tail := by
  cases buf with
  | nil => rfl
  | cons a as => by_cases ha : a = 0 <;> simp [cstr, ha]

theorem zero_notMem_cstr (buf : Buffer) : 0 ∉ cstr buf := by
  intro h
  simpa using List.mem_takeWhile_imp h

theorem cstr_eq_self {s : List UInt8} (hs : 0 ∉ s) : cstr s = s := by
  rw [cstr, List.takeWhile_eq_self_iff]
  intro c hc
  simpa using ne_of_mem_of_not_mem hc hs

theorem cstr_append_left {s : List UInt8} (hs : 0 ∉ s) (rest : Buffer) :
    cstr (s ++ rest) = s ++ cstr rest := by
  have hall : ∀ c ∈ s, decide (c ≠ 0) = true := by
    intro c hc
    simpa using ne_of_mem_of_not_mem hc hs
  exact List.takeWhile_append_of_pos hall

theorem cstr_append_zero (s : List UInt8) (stale : Buffer) : cstr (s ++ 0 :: stale) = cstr s := by
  simp only [cstr, List.takeWhile_append]
  split
  · rename_i h
    rw [(List.takeWhile_prefix _).eq_of_length h]
    simp
  · rfl

/-- A string followed by a NUL is read back whole, whatever lies behind the NUL. -/
theorem cstr_append {s : List UInt8} (hs : 0 ∉ s) (stale : Buffer) :
    cstr (s ++ 0 :: stale) = s := by
  rw [cstr_append_zero, cstr_eq_self hs]

theorem toNat_sub_ne_zero {a b : UInt8} (h : a ≠ b) : (a.toNat : ℤ) - b.toNat ≠ 0 := by
  have hn : a.toNat ≠ b.toNat := fun he => h (UInt8.toNat_inj.mp he)
  omega

theorem strncmp_eq_zero_iff (s t : Buffer) (n : ℕ) :
    strncmp s t n = 0 ↔ (cstr s).take n = (cstr t).take n := by
  induction n generalizing s t with
  | zero => simp [strncmp]
  | succ n ih =>
    rw [strncmp, cstr_eq s, cstr_eq t]
    have hih := ih s.tail t.tail
    generalize s.headD 0 = a at *
    generalize t.headD 0 = b at *
    by_cases hab : a = b
    · -- the strings end together, or the comparison goes on behind an equal byte
      by_cases hb : b = 0
      · simp [hab, hb]
      · simp [hab, hb, hih]
    · rw [if_pos hab]
      refine iff_of_false (toNat_sub_ne_zero hab) ?_
      split_ifs with ha hb hb <;> simp_all

theorem cstr_length_le (buf : Buffer) : (cstr buf).length ≤ buf.length :=
  (List.takeWhile_prefix _).length_le

/-- `strcmp` tells apart exactly the buffers that hold different strings. -/
theorem strcmp_eq_zero_iff (s t : Buffer) : strcmp s t = 0 ↔ cstr s = cstr t := by
  rw [strcmp, strncmp_eq_zero_iff]
  have hs := cstr_length_le s
  rw [List.take_of_length_le (by omega)]
  constructor
  · intro h
    have hl := congrArg List.length h
    rw [List.length_take] at hl
    rw [h, List.take_of_length_le (by omega)]
  · intro h
    rw [← h, List.take_of_length_le (by omega)]

end ZigbeeGateway.CStrings
