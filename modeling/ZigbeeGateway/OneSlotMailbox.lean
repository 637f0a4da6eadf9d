import Mathlib.Data.List.Basic

namespace ZigbeeGateway.OneSlotMailbox

structure Mailbox (α : Type*) where
  slot : α
  waiting : ℕ
  posted : List α
  taken : List α

namespace Mailbox

variable {α : Type*} {m m' : Mailbox α} {ok : Prop}

def post (m : Mailbox α) (a : α) : Mailbox α := ⟨a, m.waiting + 1, m.posted ++ [a], m.taken⟩

def take (m : Mailbox α) : Mailbox α := ⟨m.slot, m.waiting - 1, m.posted, m.taken ++ [m.slot]⟩

def clear (m : Mailbox α) (a : α) : Mailbox α := ⟨a, 0, m.posted, m.taken⟩

/-- The moves of a mailbox, each with the condition under which it loses
nothing: a post has to find no request waiting or repeat the slot, a clear has
to find no request waiting. -/
inductive Move (m : Mailbox α) (ok : Prop) : Mailbox α → Prop
  | keep : ok → Move m ok m
  | post (a : α) : (ok ↔ m.waiting = 0 ∨ m.slot = a) → Move m ok (m.post a)
  | take : ok → 0 < m.waiting → Move m ok m.take
  | clear (a : α) : (ok ↔ m.waiting = 0) → Move m ok (m.clear a)

/-- The requests that wait were all posted, and the slot is the last post. -/
structure WellFormed (m : Mailbox α) : Prop where
  length_le : m.taken.length + m.waiting ≤ m.posted.length
  last : 0 < m.waiting → m.posted.getLast? = some m.slot

/-- Every request that waits was posted with what the slot holds now. -/
def Faithful (m : Mailbox α) : Prop := m.posted = m.taken ++ List.replicate m.waiting m.slot

theorem Move.wellFormed (h : m.Move ok m') (hm : m.WellFormed) : m'.WellFormed := by
  have hle := hm.length_le
  cases h with
  | keep => exact hm
  | post a =>
    refine ⟨?_, fun _ => List.getLast?_concat⟩
    simp only [Mailbox.post, List.length_append, List.length_singleton]
    omega
  | take _ hw =>
    constructor
    · simp only [Mailbox.take, List.length_append, List.length_singleton]
      omega
    · exact fun _ => hm.last hw
  | clear a =>
    constructor
    · simp only [Mailbox.clear]
      omega
    · -- no request waits any more, so nothing is said of the slot
      intro hw
      exact absurd hw (Nat.lt_irrefl 0)

theorem post_faithful_iff (hm : m.WellFormed) (a : α) :
    (m.post a).Faithful ↔ m.Faithful ∧ (m.waiting = 0 ∨ m.slot = a) := by
  have hpost : (m.post a).Faithful ↔ m.posted = m.taken ++ List.replicate m.waiting a := by
    unfold Faithful
    show m.posted ++ [a] = m.taken ++ List.replicate (m.waiting + 1) a ↔ _
    rw [List.replicate_succ', ← List.append_assoc, List.append_left_inj]
  rw [hpost, Faithful]
  constructor
  · intro h
    by_cases hw : m.waiting = 0
    · exact ⟨by rw [h, hw]; rfl, .inl hw⟩
    · -- the last post is still in the slot
      have hlast := hm.last (by omega)
      rw [h, List.getLast?_append, List.getLast?_replicate, if_neg hw] at hlast
      obtain rfl : a = m.slot := by simpa using hlast
      exact ⟨h, .inr rfl⟩
  · rintro ⟨h, hw | rfl⟩
    · rw [h, hw]
      rfl
    · exact h

theorem take_faithful_iff (hw : 0 < m.waiting) : m.take.Faithful ↔ m.Faithful := by
  obtain ⟨n, hn⟩ := Nat.exists_eq_add_of_lt hw
  rw [Nat.zero_add] at hn
  unfold Faithful
  show m.posted = m.taken ++ [m.slot] ++ List.replicate (m.waiting - 1) m.slot ↔ _
  rw [hn, List.replicate_succ, List.append_assoc]
  rfl

theorem clear_faithful_iff (hm : m.WellFormed) (a : α) :
    (m.clear a).Faithful ↔ m.Faithful ∧ m.waiting = 0 := by
  unfold Faithful
  show m.posted = m.taken ++ [] ↔ _
  rw [List.append_nil]
  constructor
  · intro h
    have hle := hm.length_le
    rw [h] at hle
    have hw : m.waiting = 0 := by omega
    exact ⟨by rw [hw, h]; exact (List.append_nil _).symm, hw⟩
  · rintro ⟨h, hw⟩
    rw [h, hw]
    exact List.append_nil _

/-- A move keeps the mailbox faithful exactly when it loses nothing. -/
theorem Move.faithful_iff (h : m.Move ok m') (hm : m.WellFormed) :
    m'.Faithful ↔ m.Faithful ∧ ok := by
  cases h with
  | keep hok => exact (and_iff_left hok).symm
  | post a hok => rw [post_faithful_iff hm, hok]
  | take hok hw => rw [take_faithful_iff hw, and_iff_left hok]
  | clear a hok => rw [clear_faithful_iff hm, hok]

/-- Once no request waits, the mailbox is faithful exactly when everything was
taken as it was posted. -/
theorem faithful_iff_of_empty (hw : m.waiting = 0) : m.Faithful ↔ m.taken = m.posted := by
  rw [Faithful, hw, List.replicate_zero, List.append_nil, eq_comm]

end Mailbox

end ZigbeeGateway.OneSlotMailbox
