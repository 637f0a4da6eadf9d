import Mathlib.Data.List.DropRight
import Mathlib.Tactic.TypeStar

namespace ZigbeeGateway.Histories

section Runs

variable {S E : Type*}

/-- The runs of `R` from `s₀`: the events so far and the state they lead to. -/
inductive Run (R : S → E → S → Prop) (s₀ : S) : List E → S → Prop
  | nil : Run R s₀ [] s₀
  | concat {es : List E} {s s' : S} {e : E} :
      Run R s₀ es s → R s e s' → Run R s₀ (es ++ [e]) s'

/-- The step relation of a partial step function. -/
def Fires (step : S → E → Option S) (s : S) (e : E) (s' : S) : Prop := step s e = some s'

/-- The steps of `R` that meet the condition `C` on the state before them. -/
def When (C : S → E → Prop) (R : S → E → S → Prop) (s : S) (e : E) (s' : S) : Prop :=
  C s e ∧ R s e s'

variable {R R' : S → E → S → Prop} {s₀ s : S} {es : List E}

theorem Run.history {P : List E → S → Prop} (h : Run R s₀ es s) (h0 : P [] s₀)
    (hstep : ∀ es s e s', Run R s₀ es s → P es s → R s e s' → P (es ++ [e]) s') : P es s := by
  induction h with
  | nil => exact h0
  | concat hr hs ih => exact hstep _ _ _ _ hr ih hs

theorem Run.invariant {P : S → Prop} (h : Run R s₀ es s) (h0 : P s₀)
    (hstep : ∀ s e s', P s → R s e s' → P s') : P s :=
  Run.history (P := fun _ s => P s) h h0 fun _ s e s' _ hp hs => hstep s e s' hp hs

theorem Run.mono (h : Run R s₀ es s) (hR : ∀ s e s', R s e s' → R' s e s') :
    Run R' s₀ es s := by
  induction h with
  | nil => exact .nil
  | concat _ hs ih => exact .concat ih (hR _ _ _ hs)

theorem Run.append {s' : S} {es' : List E} (h : Run R s₀ es s) (h' : Run R s es' s') :
    Run R s₀ (es ++ es') s' := by
  induction h' with
  | nil => rwa [List.append_nil]
  | concat _ hs ih =>
    rw [← List.append_assoc]
    exact .concat ih hs

theorem Run.map {S' E' : Type*} {R' : S' → E' → S' → Prop} {f : E → E'} {g : S → S'}
    (h : Run R s₀ es s) (hstep : ∀ s e s', e ∈ es → R s e s' → R' (g s) (f e) (g s')) :
    Run R' (g s₀) (es.map f) (g s) := by
  induction h with
  | nil => exact .nil
  | concat _ hs ih =>
    rw [List.map_append]
    refine .concat (ih fun s e s' he => hstep s e s' (List.mem_append_left _ he)) ?_
    exact hstep _ _ _ (by simp) hs

theorem Run.of_when {C : S → E → Prop} (h : Run (When C R) s₀ es s) : Run R s₀ es s :=
  h.mono fun _ _ _ hs => hs.2

/-- If a step keeps `P` exactly when it meets `C`, then `P` holds after a run
exactly when every step of the run meets `C`. -/
theorem Run.iff_when {P : List E → S → Prop} {C : S → E → Prop} (h : Run R s₀ es s)
    (h0 : P [] s₀) (hstep : ∀ es s e s', Run R s₀ es s → R s e s' →
      (P (es ++ [e]) s' ↔ P es s ∧ C s e)) :
    P es s ↔ Run (When C R) s₀ es s := by
  constructor
  · intro hp
    induction h with
    | nil => exact .nil
    | concat hr hs ih =>
      obtain ⟨hp', hc⟩ := (hstep _ _ _ _ hr hs).mp hp
      exact .concat (ih hp') ⟨hc, hs⟩
  · intro hw
    refine Run.history (P := P) hw h0 ?_
    intro es s e s' hr hp hs
    exact (hstep es s e s' hr.of_when hs.2).mpr ⟨hp, hs.1⟩

/-- If the steps that meet `C` keep the invariant `I`, and under it a step meets
`Q` exactly when it meets `C`, then the runs whose steps meet `Q` are those whose
steps meet `C`. -/
theorem Run.steps_iff_of_invariant {I : S → Prop} {Q : S → E → S → Prop} {C : S → E → Prop}
    (h0 : I s₀) (hstep : ∀ s e s', I s → R s e s' → (Q s e s' ↔ C s e) ∧ (C s e → I s')) :
    Run (fun s e s' => R s e s' ∧ Q s e s') s₀ es s ↔ Run (When C R) s₀ es s := by
  constructor
  · intro h
    have hboth : Run (When C R) s₀ es s ∧ I s := by
      refine Run.history (P := fun es s => Run (When C R) s₀ es s ∧ I s) h ⟨.nil, h0⟩ ?_
      rintro es s e s' - ⟨hr, hi⟩ ⟨hs, hq⟩
      obtain ⟨hiff, hkeep⟩ := hstep s e s' hi hs
      have hc := hiff.mp hq
      exact ⟨.concat hr ⟨hc, hs⟩, hkeep hc⟩
    exact hboth.1
  · intro h
    have hboth : Run (fun s e s' => R s e s' ∧ Q s e s') s₀ es s ∧ I s := by
      refine Run.history
        (P := fun es s => Run (fun s e s' => R s e s' ∧ Q s e s') s₀ es s ∧ I s) h ⟨.nil, h0⟩ ?_
      rintro es s e s' - ⟨hr, hi⟩ ⟨hc, hs⟩
      obtain ⟨hiff, hkeep⟩ := hstep s e s' hi hs
      exact ⟨.concat hr ⟨hs, hiff.mpr hc⟩, hkeep hc⟩
    exact hboth.1

/-- If from a state with `P` a step leads to one with `P` exactly when it meets
`C`, then the runs through states with `P` are those whose steps all meet `C`. -/
theorem Run.through_iff_when {P : S → Prop} {C : S → E → Prop} (h0 : P s₀)
    (hstep : ∀ es s e s', Run R s₀ es s → P s → R s e s' → (P s' ↔ C s e)) :
    Run (fun s e s' => R s e s' ∧ P s') s₀ es s ↔ Run (When C R) s₀ es s := by
  apply Run.steps_iff_of_invariant (I := fun s => (∃ es, Run R s₀ es s) ∧ P s)
  · exact ⟨⟨[], .nil⟩, h0⟩
  · rintro s e s' ⟨⟨es, hr⟩, hp⟩ hs
    have hiff := hstep es s e s' hr hp hs
    exact ⟨hiff, fun hc => ⟨⟨_, .concat hr hs⟩, hiff.mpr hc⟩⟩

/-- If in the states that can be reached a step meets `Q` exactly when it meets
`C`, then the runs whose steps meet the one are those whose steps meet the other. -/
theorem Run.steps_iff_when {Q : S → E → S → Prop} {C : S → E → Prop}
    (hstep : ∀ es s e s', Run R s₀ es s → R s e s' → (Q s e s' ↔ C s e)) :
    Run (fun s e s' => R s e s' ∧ Q s e s') s₀ es s ↔ Run (When C R) s₀ es s := by
  apply Run.steps_iff_of_invariant (I := fun s => ∃ es, Run R s₀ es s)
  · exact ⟨[], .nil⟩
  · rintro s e s' ⟨es, hr⟩ hs
    exact ⟨hstep es s e s' hr hs, fun _ => ⟨_, .concat hr hs⟩⟩

/-- Run a step function on a list of events; `none` if one of them is not enabled. -/
def exec (step : S → E → Option S) (s : S) (es : List E) : Option S := es.foldlM step s

theorem exec_concat (step : S → E → Option S) (s : S) (es : List E) (e : E) :
    exec step s (es ++ [e]) = (exec step s es).bind (step · e) := by
  simp [exec, List.foldlM_append]

theorem run_of_exec {step : S → E → Option S} (h : exec step s₀ es = some s) :
    Run (Fires step) s₀ es s := by
  induction es using List.reverseRecOn generalizing s with
  | nil =>
    obtain rfl : s₀ = s := by simpa [exec] using h
    exact .nil
  | append_singleton es e ih =>
    rw [exec_concat, Option.bind_eq_some_iff] at h
    obtain ⟨s', hs', hs⟩ := h
    exact .concat (ih hs') hs

theorem run_foldl (f : S → E → S) (s₀ : S) (es : List E) :
    Run (fun s e s' => s' = f s e) s₀ es (es.foldl f s₀) := by
  induction es using List.reverseRecOn with
  | nil => exact .nil
  | append_singleton es e ih =>
    rw [List.foldl_concat]
    exact .concat ih rfl

def restrict (C : S → E → Bool) (step : S → E → Option S) (s : S) (e : E) : Option S :=
  if C s e then step s e else none

theorem run_of_exec_restrict {C : S → E → Bool} {step : S → E → Option S}
    (h : exec (restrict C step) s₀ es = some s) :
    Run (When (fun s e => C s e = true) (Fires step)) s₀ es s := by
  refine (run_of_exec h).mono ?_
  intro s e s' hs
  unfold Fires restrict at hs
  split at hs
  · exact ⟨by assumption, hs⟩
  · exact absurd hs (by simp)

/-- Every run can be kept a record of, beside the state. -/
theorem Run.beside {G : Type*} (h : Run R s₀ es s) (next : S → G → E → G) (g₀ : G) :
    ∃ g, Run (fun q e q' => R q.1 e q'.1 ∧ q'.2 = next q.1 q.2 e) (s₀, g₀) es (s, g) := by
  induction h with
  | nil => exact ⟨g₀, .nil⟩
  | @concat es s s' e _ hs ih =>
    obtain ⟨g, hr⟩ := ih
    exact ⟨next s g e, .concat hr ⟨hs, rfl⟩⟩

theorem Run.of_beside {G : Type*} {Q : S × G → E → S × G → Prop} {q₀ q : S × G}
    (h : Run Q q₀ es q) (hstep : ∀ q e q', Q q e q' → R q.1 e q'.1) : Run R q₀.1 es q.1 := by
  induction h with
  | nil => exact .nil
  | concat _ hs ih => exact .concat ih (hstep _ _ _ hs)

/-- The steps of `R` with the sum of their costs beside the state. -/
def Counted (cost : S → E → ℕ) (R : S → E → S → Prop) (q : S × ℕ) (e : E) (q' : S × ℕ) : Prop :=
  R q.1 e q'.1 ∧ q'.2 = q.2 + cost q.1 e

variable {cost : S → E → ℕ}

theorem Run.counted (h : Run R s₀ es s) (cost : S → E → ℕ) :
    ∃ n, Run (Counted cost R) (s₀, 0) es (s, n) := h.beside (fun s n e => n + cost s e) 0

theorem Run.when_of_counted {q : S × ℕ} (h : Run (Counted cost R) (s₀, 0) es q) (hzero : q.2 = 0) :
    Run (When (fun s e => cost s e = 0) R) s₀ es q.1 := by
  induction h with
  | nil => exact .nil
  | concat _ hs ih =>
    obtain ⟨hstep, hcost⟩ := hs
    exact .concat (ih (by omega)) ⟨by omega, hstep⟩

/-- The runs that cost nothing are those in which no step does. -/
theorem Run.counted_zero_iff :
    Run (Counted cost R) (s₀, 0) es (s, 0) ↔ Run (When (fun s e => cost s e = 0) R) s₀ es s := by
  constructor
  · intro h
    exact h.when_of_counted rfl
  · intro h
    induction h with
    | nil => exact .nil
    | concat _ hs ih => exact .concat ih ⟨hs.2, by rw [hs.1]⟩

end Runs

section Histories

variable {α : Type*} {P : α → List α → Prop}

/-- Every entry of the history meets `P` with the entries before it. -/
def Whenever (P : α → List α → Prop) (l : List α) : Prop :=
  ∀ pre a post, l = pre ++ a :: post → P a pre

@[simp] theorem whenever_nil : Whenever P [] := by
  intro pre a post h
  simp at h

@[simp] theorem whenever_concat (l : List α) (a : α) :
    Whenever P (l ++ [a]) ↔ Whenever P l ∧ P a l := by
  constructor
  · intro h
    exact ⟨fun pre b post hl => h pre b (post ++ [a]) (by simp [hl]), h l a [] rfl⟩
  · rintro ⟨hl, ha⟩ pre b post h
    -- the entry is the new one or stood in the old history
    rcases List.eq_nil_or_concat post with rfl | ⟨post', c, rfl⟩
    · obtain ⟨rfl, hb⟩ := List.append_inj' h rfl
      obtain rfl : a = b := by simpa using hb
      exact ha
    · rw [List.concat_eq_append, ← List.cons_append, ← List.append_assoc] at h
      exact hl pre b post' (List.append_inj' h rfl).1

theorem Whenever.append {l m : List α} (hl : Whenever P l) (hm : Whenever P m)
    (hP : ∀ a pre, P a pre → P a (l ++ pre)) : Whenever P (l ++ m) := by
  induction m using List.reverseRecOn with
  | nil => rwa [List.append_nil]
  | append_singleton m a ih =>
    obtain ⟨hm, ha⟩ := (whenever_concat m a).mp hm
    rw [← List.append_assoc, whenever_concat]
    exact ⟨ih hm, hP a m ha⟩

/-- The entries after the last one that `p` marks; all of them if it marks none. -/
def since (p : α → Bool) (l : List α) : List α := l.rtakeWhile fun a => !p a

@[simp] theorem since_nil (p : α → Bool) : since p [] = [] := List.rtakeWhile_nil _

theorem since_concat (p : α → Bool) (l : List α) (a : α) :
    since p (l ++ [a]) = if p a then [] else since p l ++ [a] := by
  unfold since
  rw [List.rtakeWhile_concat]
  cases p a <;> rfl

theorem since_append {p : α → Bool} (l : List α) {m : List α} (h : ∀ a ∈ m, p a = false) :
    since p (l ++ m) = since p l ++ m := by
  induction m using List.reverseRecOn with
  | nil => simp
  | append_singleton m a ih =>
    have hm : ∀ b ∈ m, p b = false := fun b hb => h b (by simp [hb])
    rw [← List.append_assoc, since_concat, h a (by simp), ih hm, if_neg (by simp),
      List.append_assoc]

/-- The last thing that `f` reads off the history. -/
def latest {β : Type*} (f : α → Option β) (l : List α) : Option β := (l.filterMap f).getLast?

@[simp] theorem latest_concat {β : Type*} (f : α → Option β) (l : List α) (a : α) :
    latest f (l ++ [a]) = (f a).or (latest f l) := by
  unfold latest
  rw [List.filterMap_append, List.getLast?_append]
  cases h : f a <;> simp [h]

/-- The history `l'` is `l` with entries behind it that all meet `Q`. -/
def Extends (Q : α → Prop) (l l' : List α) : Prop := ∃ m, l' = l ++ m ∧ ∀ a ∈ m, Q a

variable {Q : α → Prop} {l l' l'' : List α}

theorem Extends.refl (l : List α) : Extends Q l l := ⟨[], by simp, by simp⟩

theorem Extends.concat {a : α} (h : Extends Q l l') (ha : Q a) : Extends Q l (l' ++ [a]) := by
  obtain ⟨m, rfl, hm⟩ := h
  refine ⟨m ++ [a], List.append_assoc _ _ _, ?_⟩
  intro b hb
  rcases List.mem_append.mp hb with hb | hb
  · exact hm b hb
  · rwa [List.mem_singleton.mp hb]

theorem Extends.trans (h : Extends Q l l') (h' : Extends Q l' l'') : Extends Q l l'' := by
  obtain ⟨m, rfl, hm⟩ := h
  obtain ⟨m', rfl, hm'⟩ := h'
  refine ⟨m ++ m', List.append_assoc _ _ _, ?_⟩
  intro a ha
  exact (List.mem_append.mp ha).elim (hm a) (hm' a)

theorem Extends.mono {Q' : α → Prop} (h : Extends Q l l') (hQ : ∀ a, Q a → Q' a) :
    Extends Q' l l' := by
  obtain ⟨m, rfl, hm⟩ := h
  exact ⟨m, rfl, fun a ha => hQ a (hm a ha)⟩

theorem Extends.filterMap_eq {β : Type*} {f : α → Option β}
    (h : Extends (fun a => f a = none) l l') : l'.filterMap f = l.filterMap f := by
  obtain ⟨m, rfl, hm⟩ := h
  rw [List.filterMap_append, List.filterMap_eq_nil_iff.mpr hm, List.append_nil]

/-- What holds of a history and is kept by each further entry holds of its
extensions. -/
theorem Extends.induction {I : List α → Prop} (h : Extends Q l l') (hl : I l)
    (hstep : ∀ k a, I k → Q a → I (k ++ [a])) : I l' := by
  obtain ⟨m, rfl, hm⟩ := h
  induction m generalizing l with
  | nil => simpa using hl
  | cons a m ih =>
    rw [← List.singleton_append, ← List.append_assoc]
    apply ih (hstep l a hl (hm a (by simp)))
    intro b hb
    exact hm b (by simp [hb])

end Histories

end ZigbeeGateway.Histories
