import ZigbeeGateway.CStrings
import Mathlib.Tactic.IntervalCases
import Mathlib.Data.Fin.Basic

namespace ZigbeeGateway.HexText
open CStrings

/-- `hex_char_to_val`: every byte that is not a digit counts as `0`. -/
def hexCharToVal (c : UInt8) : UInt8 :=
  if '0'.toUInt8 ≤ c ∧ c ≤ '9'.toUInt8 then c - '0'.toUInt8
  else if 'a'.toUInt8 ≤ c ∧ c ≤ 'f'.toUInt8 then 10 + (c - 'a'.toUInt8)
  else if 'A'.toUInt8 ≤ c ∧ c ≤ 'F'.toUInt8 then 10 + (c - 'A'.toUInt8)
  else 0

def hexPairToByte (hex : Buffer) : UInt8 :=
  hexCharToVal (hex.getD 0 0) <<< 4 ||| hexCharToVal (hex.getD 1 0)

def hexDigit (n : UInt8) : UInt8 :=
  if n < 10 then '0'.toUInt8 + n else 'a'.toUInt8 + (n - 10)

def hexPair (b : UInt8) : List UInt8 := [hexDigit (b >>> 4), hexDigit (b &&& 15)]

/-- Bytes printed one after the other with `%02x`. -/
def hexText (bs : List UInt8) : List UInt8 := bs.flatMap hexPair

@[simp] theorem hexPair_length (b : UInt8) : (hexPair b).length = 2 := rfl

@[simp] theorem hexText_length (bs : List UInt8) : (hexText bs).length = 2 * bs.length := by
  induction bs with
  | nil => rfl
  | cons b bs ih => simp [hexText] at ih ⊢; omega

/-- The two digits of a byte are read back as the byte, and neither is NUL. -/
theorem hexPair_decode (b : UInt8) :
    hexCharToVal (hexDigit (b >>> 4)) <<< 4 ||| hexCharToVal (hexDigit (b &&& 15)) = b ∧
      hexDigit (b >>> 4) ≠ 0 ∧ hexDigit (b &&& 15) ≠ 0 := by
  have h : ∀ n : Fin 256, let b := UInt8.ofNat n.val
      hexCharToVal (hexDigit (b >>> 4)) <<< 4 ||| hexCharToVal (hexDigit (b &&& 15)) = b ∧
        hexDigit (b >>> 4) ≠ 0 ∧ hexDigit (b &&& 15) ≠ 0 := by decide +kernel
  simpa using h ⟨b.toNat, b.toNat_lt⟩

theorem zero_notMem_hexText (bs : List UInt8) : 0 ∉ hexText bs := by
  intro h
  obtain ⟨b, -, hb⟩ := List.mem_flatMap.mp h
  obtain ⟨-, hhi, hlo⟩ := hexPair_decode b
  simp only [hexPair, List.mem_cons, List.not_mem_nil, or_false] at hb
  exact hb.elim (fun h => hhi h.symm) fun h => hlo h.symm

theorem hexPairToByte_hexText (bs : List UInt8) (i : ℕ) (hi : i < bs.length) (rest : Buffer) :
    hexPairToByte ((hexText bs ++ rest).drop (2 * i)) = bs[i] := by
  induction bs generalizing i with
  | nil => simp at hi
  | cons b bs ih =>
    cases i with
    | zero => simpa [hexPairToByte, hexText, hexPair] using (hexPair_decode b).1
    | succ i =>
      have h := ih i (by simpa using hi)
      simpa [hexText, hexPair, Nat.mul_add] using h

end ZigbeeGateway.HexText
