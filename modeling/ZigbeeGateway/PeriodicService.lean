import ZigbeeGateway.Histories

namespace ZigbeeGateway.PeriodicService
open Histories

inductive Act
  | idle
  | tick
  | serve
  | restart
  deriving DecidableEq

/-- The ticks since the timer was rearmed, up to the `p` at which it is due. -/
def Act.apply (p n : ℕ) : Act → ℕ
  | .idle => n
  | .tick => min p (n + 1)
  | .serve | .restart => 0

structure Tally where
  ticks : ℕ
  served : ℕ
  /-- the ticks that passed while the timer was due -/
  waited : ℕ
  /-- the ticks that a restart threw away -/
  lost : ℕ
  deriving DecidableEq

def Tally.zero : Tally := ⟨0, 0, 0, 0⟩

def Tally.add (t : Tally) (p n : ℕ) : Act → Tally
  | .idle => t
  | .tick => { t with ticks := t.ticks + 1, waited := t.waited + if n = p then 1 else 0 }
  | .serve => { t with served := t.served + 1 }
  | .restart => { t with lost := t.lost + n }

/-- Every tick counts towards a service, was waited or lost, or is one of the
`n` since the timer was rearmed. -/
structure Tally.Balanced (t : Tally) (p n : ℕ) : Prop where
  le : n ≤ p
  ticks : t.ticks = p * t.served + t.waited + t.lost + n

theorem Tally.Balanced.add {t : Tally} {p n : ℕ} (h : t.Balanced p n) {a : Act}
    (hserve : a = .serve → n = p) : (t.add p n a).Balanced p (a.apply p n) := by
  obtain ⟨hle, hticks⟩ := h
  cases a with
  | idle => exact ⟨hle, hticks⟩
  | tick =>
    refine ⟨min_le_left _ _, ?_⟩
    simp only [Tally.add, Act.apply]
    -- a timer that is due waits, any other counts
    by_cases hdue : n = p
    · simp only [hdue, if_true]
      omega
    · simp only [hdue, if_false]
      omega
  | serve =>
    refine ⟨Nat.zero_le p, ?_⟩
    simp only [Tally.add, Act.apply, Nat.mul_succ]
    have hdue := hserve rfl
    omega
  | restart =>
    refine ⟨Nat.zero_le p, ?_⟩
    simp only [Tally.add, Act.apply]
    omega

/-- A device with the steps `R` whose timer, in the states that meet `Inv`, is
due every `p` ticks and is served only when it is due. -/
structure Device {S E : Type*} (R : S → E → S → Prop) (p : ℕ) where
  Inv : S → Prop
  elapsed : S → ℕ
  act : S → E → Act
  inv : ∀ {s e s'}, Inv s → R s e s' → Inv s'
  law : ∀ {s e s'}, Inv s → R s e s' → elapsed s' = (act s e).apply p (elapsed s)
  due : ∀ {s e s'}, Inv s → R s e s' → act s e = .serve → elapsed s = p

namespace Device

variable {S E : Type*} {R : S → E → S → Prop} {p : ℕ} (D : Device R p)

def Tallied (q : S × Tally) (e : E) (q' : S × Tally) : Prop :=
  R q.1 e q'.1 ∧ q'.2 = q.2.add p (D.elapsed q.1) (D.act q.1 e)

variable {D} {s₀ s : S} {es : List E} {t t₀ : Tally}

theorem tallied_of_run (h : Run R s₀ es s) (t₀ : Tally) :
    ∃ t, Run D.Tallied (s₀, t₀) es (s, t) :=
  h.beside (fun s (t : Tally) e => t.add p (D.elapsed s) (D.act s e)) t₀

theorem run_of_tallied {q₀ q : S × Tally} (h : Run D.Tallied q₀ es q) : Run R q₀.1 es q.1 :=
  h.of_beside fun _ _ _ hs => hs.1

theorem run_inv (h : Run R s₀ es s) (h0 : D.Inv s₀) : D.Inv s :=
  h.invariant h0 fun _ _ _ hi hs => D.inv hi hs

/-- In a run from a rearmed timer every tick is accounted for. -/
theorem run_balanced (h0 : D.Inv s₀) (hn : D.elapsed s₀ = 0)
    (h : Run D.Tallied (s₀, .zero) es (s, t)) : t.Balanced p (D.elapsed s) := by
  have hboth : D.Inv (s, t).1 ∧ (s, t).2.Balanced p (D.elapsed (s, t).1) := by
    apply Run.invariant (P := fun q => D.Inv q.1 ∧ q.2.Balanced p (D.elapsed q.1)) h
    · exact ⟨h0, by rw [hn]; exact ⟨Nat.zero_le p, rfl⟩⟩
    · rintro q e q' ⟨hi, hb⟩ ⟨hs, ht⟩
      refine ⟨D.inv hi hs, ?_⟩
      rw [ht, D.law hi hs]
      exact hb.add (D.due hi hs)
  exact hboth.2

end Device

end ZigbeeGateway.PeriodicService
