import ZigbeeGateway.MachineWords
import Mathlib.Tactic.IntervalCases

namespace ZigbeeGateway.PayloadParser
open MachineWords

structure SensorPayload where
  nodeId : UInt8
  temperature : Int16
  batteryLevel : UInt8
  deriving DecidableEq

section Code

variable {n : ℕ}

/-- The buffer has the four bytes and any number behind them. -/
def serializePayload (payload : SensorPayload) (buffer : Vector UInt8 (n + 4)) :
    Vector UInt8 (n + 4) :=
  let buffer := buffer.set 0 payload.nodeId
  -- `>>` shifts the promoted operand, so the sign comes in from the left
  let buffer := buffer.set 1 (castUInt8 (payload.temperature.toInt32 >>> 8))
  let buffer := buffer.set 2 (castUInt8 (payload.temperature.toInt32 &&& 0xFF))
  buffer.set 3 payload.batteryLevel

def deserializePayload (buffer : Vector UInt8 (n + 4)) : SensorPayload where
  nodeId := buffer[0]
  temperature := (promote buffer[1] <<< 8 ||| promote buffer[2]).toInt16
  batteryLevel := buffer[3]

end Code

variable {n : ℕ}

theorem serializePayload_getElem (payload : SensorPayload) (buffer : Vector UInt8 (n + 4)) (i : ℕ)
    (hi : i < n + 4) :
    (serializePayload payload buffer)[i] =
      if i = 0 then payload.nodeId
      else if i = 1 then (payload.temperature.toUInt16 >>> 8).toUInt8
      else if i = 2 then payload.temperature.toUInt16.toUInt8
      else if i = 3 then payload.batteryLevel else buffer[i] := by
  simp only [serializePayload, castUInt8_shiftRight, castUInt8_mask, castUInt8_toInt32,
    Vector.getElem_set]
  grind

theorem deserializePayload_eq (buffer : Vector UInt8 (n + 4)) :
    deserializePayload buffer = ⟨buffer[0], (beWord buffer[1] buffer[2]).toInt16, buffer[3]⟩ := by
  rw [deserializePayload, toInt16_promote]

/-- The temperature is in two's complement, high byte first. -/
theorem temperature_deserializePayload (buffer : Vector UInt8 (n + 4)) :
    (deserializePayload buffer).temperature.toInt = beSigned buffer[1] buffer[2] := by
  rw [deserializePayload_eq, toInt_beWord]

theorem deserialize_serialize (payload : SensorPayload) (buffer : Vector UInt8 (n + 4)) :
    deserializePayload (serializePayload payload buffer) = payload := by
  rw [deserializePayload_eq]
  simp [serializePayload_getElem, beWord_bytes]

theorem serialize_deserialize (buffer out : Vector UInt8 4) :
    serializePayload (deserializePayload buffer) out = buffer := by
  apply Vector.ext
  intro i hi
  rw [serializePayload_getElem, deserializePayload_eq]
  interval_cases i <;> simp [beWord_high, beWord_low]

theorem serializePayload_behind (payload : SensorPayload) (buffer : Vector UInt8 (n + 4))
    (i : Fin n) : (serializePayload payload buffer)[i.val + 4] = buffer[i.val + 4] := by
  rw [serializePayload_getElem, if_neg (by omega), if_neg (by omega), if_neg (by omega),
    if_neg (by omega)]

theorem deserializePayload_congr {m : ℕ} {buffer : Vector UInt8 (n + 4)}
    {buffer' : Vector UInt8 (m + 4)} (h : ∀ i : Fin 4, buffer[i.val] = buffer'[i.val]) :
    deserializePayload buffer = deserializePayload buffer' := by
  have h0 : buffer[0] = buffer'[0] := h 0
  have h1 : buffer[1] = buffer'[1] := h 1
  have h2 : buffer[2] = buffer'[2] := h 2
  have h3 : buffer[3] = buffer'[3] := h 3
  rw [deserializePayload_eq, deserializePayload_eq, h0, h1, h2, h3]

/-- The codec is a bijection between the payloads and the contents of four
bytes, and the bytes behind these are neither written nor read. -/
theorem payload_codec :
    (∀ n payload (buffer : Vector UInt8 (n + 4)),
      deserializePayload (serializePayload payload buffer) = payload) ∧
    (∀ buffer out : Vector UInt8 4, serializePayload (deserializePayload buffer) out = buffer) ∧
    (∀ n payload (buffer : Vector UInt8 (n + 4)) (i : Fin n),
      (serializePayload payload buffer)[i.val + 4] = buffer[i.val + 4]) ∧
    ∀ n m (buffer : Vector UInt8 (n + 4)) (buffer' : Vector UInt8 (m + 4)),
      (∀ i : Fin 4, buffer[i.val] = buffer'[i.val]) →
        deserializePayload buffer = deserializePayload buffer' := by
  refine ⟨?_, serialize_deserialize, ?_, ?_⟩
  · intro n payload buffer
    exact deserialize_serialize payload buffer
  · intro n payload buffer i
    exact serializePayload_behind payload buffer i
  · intro n m buffer buffer' h
    exact deserializePayload_congr h

theorem payload_codec_below_zero :
    deserializePayload (serializePayload ⟨10, -255, 95⟩ (Vector.replicate 4 0)) = ⟨10, -255, 95⟩ ∧
      deserializePayload (n := 1) ⟨#[10, 255, 1, 95, 7], rfl⟩ =
        deserializePayload (n := 0) ⟨#[10, 255, 1, 95], rfl⟩ :=
  ⟨payload_codec.1 0 ⟨10, -255, 95⟩ _, payload_codec.2.2.2 1 0 _ _ (by decide)⟩

end ZigbeeGateway.PayloadParser
