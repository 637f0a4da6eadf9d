import ZigbeeGateway.Coordinator
import ZigbeeGateway.EndDevice

namespace ZigbeeGateway.PairingRoundTrip
open CStrings HexText InstallCode PairingCommand

/-- The pair that the coordinator schedules for registration on a line, if it
accepts the line. -/
def icAddAccepted (s : Coordinator.State) (line : Buffer) : Option IcParams :=
  let s' := Coordinator.parseUartCommand s line
  if s'.queue = s.queue ++ [.icAddCallback] then some s'.gIcAddParams else none

def icSetAccepted (cfg : EndDevice.Config) (s : EndDevice.State) (line : Buffer) :
    Option IcParams :=
  let s' := EndDevice.parseUartCommand cfg s line
  if s'.queue = s.queue ++ [.icSetCallback] then some s'.gIcSetParams else none

theorem append_ne_append_singleton {α : Type*} {q cbs : List α} {cb : α} (h : cb ∉ cbs) :
    q ++ cbs ≠ q ++ [cb] := by
  intro heq
  rw [List.append_cancel_left heq] at h
  exact h List.mem_cons_self

theorem icAddAccepted_operands (s : Coordinator.State) (ops : List UInt8) (stale : Buffer) :
    icAddAccepted s (text "ic_add " ++ ops ++ 0 :: stale) = IcLine.params (readOperands ops) := by
  have hread := icCommand_operands icAdd_keyword.1 icAdd_keyword.2 s.gIcAddParams ops stale
  unfold icAddAccepted
  cases h : readOperands ops with
  | accepted p =>
    rw [h] at hread
    rw [Coordinator.parseUartCommand_accepted hread]
    exact if_pos rfl
  | other | invalid =>
    have hno := fun p => hread.trans_ne (h.trans_ne (c := IcLine.accepted p) (by simp))
    obtain ⟨-, cbs, hq, hcbs⟩ := Coordinator.parseUartCommand_refused hno
    dsimp only
    rw [hq]
    exact if_neg (append_ne_append_singleton hcbs)

theorem icSetAccepted_operands (cfg : EndDevice.Config) (s : EndDevice.State) (ops : List UInt8)
    (stale : Buffer) :
    icSetAccepted cfg s (text "ic_set " ++ ops ++ 0 :: stale) =
      IcLine.params (readOperands ops) := by
  have hread := icCommand_operands icSet_keyword.1 icSet_keyword.2 s.gIcSetParams ops stale
  unfold icSetAccepted
  cases h : readOperands ops with
  | accepted p =>
    rw [h] at hread
    rw [EndDevice.parseUartCommand_accepted hread]
    exact if_pos rfl
  | other | invalid =>
    have hno := fun p => hread.trans_ne (h.trans_ne (c := IcLine.accepted p) (by simp))
    obtain ⟨-, cbs, hq, hcbs⟩ := EndDevice.parseUartCommand_refused hno cfg
    dsimp only
    rw [hq]
    exact if_neg (append_ne_append_singleton hcbs)

def console (out : List Coordinator.Entry) : List UInt8 :=
  out.flatMap fun
    | .printk line => line
    | _ => []

theorem flatMap_hexPair (addr : IeeeAddr) :
    (List.finRange 8).flatMap (fun i : Fin 8 => hexPair (addr i.rev)) =
      hexText (List.ofFn fun i : Fin 8 => addr i.rev) := by
  rw [hexText, List.ofFn_eq_map, List.flatMap_map]

theorem console_icAddEntries (p : IcParams) (started : Bool) :
    console (Coordinator.icAddEntries p started) = text "ic_add_success: " ++
      hexText (List.ofFn fun i : Fin 8 => p.addr i.rev) ++ text "\n" ++
        Coordinator.steeringReply started := by
  rw [← flatMap_hexPair, Coordinator.icAddEntries]
  generalize List.finRange 8 = l
  simp [console, List.flatMap_append, List.flatMap_map]

/-- The address text of the printed operands. -/
theorem operandText_take (selfIeee : IeeeAddr) (key : Key) :
    (operandText selfIeee key).take 16 = hexText (List.ofFn fun i : Fin 8 => selfIeee i.rev) := by
  unfold operandText
  generalize hA : (List.ofFn fun i : Fin 8 => selfIeee i.rev) = A
  have hlen : (hexText A).length = 16 := by simp [← hA]
  rw [List.append_assoc, List.take_left' hlen]

end ZigbeeGateway.PairingRoundTrip
