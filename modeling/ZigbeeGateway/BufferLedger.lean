import Mathlib.Data.List.Induction
import Mathlib.Tactic.Cases

namespace ZigbeeGateway.BufferLedger

inductive Owner
  | pool
  | client
  | service
  deriving DecidableEq

inductive Move
  | hand
  | free
  | lend
  | giveBack
  deriving DecidableEq

/-- The owner after a move, if the owner before could make it. -/
def Owner.act : Owner → Move → Option Owner
  | .pool, .hand => some .client
  | .client, .free => some .pool
  | .client, .lend => some .service
  | .service, .giveBack => some .client
  | _, _ => none

/-- The owner after the moves of one buffer, which is in the pool at first.  There is none
after a double free, a free of a lent buffer, or a buffer handed out twice. -/
def owner (moves : List Move) : Option Owner := moves.foldlM Owner.act .pool

@[simp] theorem owner_nil : owner [] = some .pool := rfl

theorem owner_append (moves moves' : List Move) :
    owner (moves ++ moves') = (owner moves).bind fun o => moves'.foldlM Owner.act o := by
  simp [owner, List.foldlM_append]

theorem owner_concat (moves : List Move) (m : Move) :
    owner (moves ++ [m]) = (owner moves).bind (·.act m) := by
  simp [owner_append]

/-- In a legal sequence every hand-out is freed exactly once, apart from the
last one while the buffer is still out. -/
theorem count_hand {moves : List Move} {o : Owner} (h : owner moves = some o) :
    moves.count .hand = moves.count .free + if o = .pool then 0 else 1 := by
  induction moves using List.reverseRecOn generalizing o with
  | nil =>
    obtain rfl : Owner.pool = o := by simpa using h
    rfl
  | append_singleton moves m ih =>
    rw [owner_concat, Option.bind_eq_some_iff] at h
    obtain ⟨o', ho', hact⟩ := h
    have hcount := ih ho'
    -- four of the twelve moves are legal
    cases o' <;> cases m <;> simp only [Owner.act, Option.some.injEq, reduceCtorEq] at hact
    all_goals
      subst hact
      simp [List.count_append] at hcount ⊢
      omega

end ZigbeeGateway.BufferLedger
