import ZigbeeGateway.Histories

namespace ZigbeeGateway.JobQueue
open Histories

/-- How the jobs of a system are read off its states, events and log. -/
structure View (S E A J : Type*) where
  log : S → List A
  waiting : S → List J
  /-- the job that an event brings -/
  brings : E → Option J
  /-- the job that an entry of the log shows to be done -/
  done : A → Option J
  /-- the entries at which the jobs that wait are lost -/
  lost : A → Bool

namespace View

variable {S E A J : Type*}

/-- From `s` to `s'` the jobs that are done and those that wait in the end are among
those that waited and those that came, in the same order; and if none are lost on
the way, they are all of them. -/
def Served (v : View S E A J) (s : S) (es : List E) (s' : S) : Prop :=
  ∃ new, v.log s' = v.log s ++ new ∧
    (new.filterMap v.done ++ v.waiting s').Sublist (v.waiting s ++ es.filterMap v.brings) ∧
    ((∀ a ∈ new, v.lost a = false) →
      new.filterMap v.done ++ v.waiting s' = v.waiting s ++ es.filterMap v.brings)

variable {v : View S E A J} {s s' s'' : S} {es es' : List E} {e : E} {new : List A}

theorem served_of_eq (hlog : v.log s' = v.log s ++ new)
    (h : new.filterMap v.done ++ v.waiting s' = v.waiting s ++ es.filterMap v.brings) :
    v.Served s es s' := ⟨new, hlog, h ▸ .refl _, fun _ => h⟩

theorem served_of_queued (hlog : Extends (fun a => v.done a = none) (v.log s) (v.log s'))
    (hwaiting : v.waiting s' = v.waiting s ++ (v.brings e).toList) : v.Served s [e] s' := by
  obtain ⟨new, hlog, hnew⟩ := hlog
  apply served_of_eq hlog
  rw [hwaiting, List.filterMap_eq_nil_iff.mpr hnew, List.nil_append]
  cases h : v.brings e <;> simp [h]

theorem served_of_done {js : List J} (hbrings : v.brings e = none)
    (hlog : v.log s' = v.log s ++ new) (hnew : new.filterMap v.done = js)
    (hwaiting : v.waiting s = js ++ v.waiting s') : v.Served s [e] s' := by
  apply served_of_eq hlog
  rw [hnew, hwaiting, List.filterMap_cons_none hbrings, List.filterMap_nil, List.append_nil]

theorem served_of_lost {a : A} (hlog : v.log s' = v.log s ++ new) (ha : a ∈ new)
    (hlost : v.lost a = true) (hnew : new.filterMap v.done = []) (hwaiting : v.waiting s' = []) :
    v.Served s es s' := by
  refine ⟨new, hlog, ?_, fun hkept => absurd hlost (by simp [hkept a ha])⟩
  rw [hnew, hwaiting]
  exact List.nil_sublist _

theorem Served.refl (s : S) : v.Served s [] s :=
  served_of_eq (List.append_nil _).symm (List.append_nil _).symm

theorem Served.trans (h : v.Served s es s') (h' : v.Served s' es' s'') :
    v.Served s (es ++ es') s'' := by
  obtain ⟨new, hlog, hsub, hall⟩ := h
  obtain ⟨new', hlog', hsub', hall'⟩ := h'
  have hleft : (new ++ new').filterMap v.done ++ v.waiting s'' =
      new.filterMap v.done ++ (new'.filterMap v.done ++ v.waiting s'') := by
    rw [List.filterMap_append, List.append_assoc]
  have hright : v.waiting s ++ (es ++ es').filterMap v.brings =
      v.waiting s ++ es.filterMap v.brings ++ es'.filterMap v.brings := by
    rw [List.filterMap_append, List.append_assoc]
  refine ⟨new ++ new', by rw [hlog', hlog, List.append_assoc], ?_, fun hkept => ?_⟩
  · rw [hleft, hright]
    apply (hsub'.append_left _).trans
    rw [← List.append_assoc]
    exact hsub.append_right _
  · rw [hleft, hright, hall' fun a ha => hkept a (List.mem_append_right _ ha), ← List.append_assoc,
      hall fun a ha => hkept a (List.mem_append_left _ ha)]

theorem served_run {R : S → E → S → Prop} (hstep : ∀ s e s', R s e s' → v.Served s [e] s')
    (h : Run R s es s') : v.Served s es s' := by
  induction h with
  | nil => exact .refl s
  | concat _ hs ih => exact ih.trans (hstep _ _ _ hs)

end View

end ZigbeeGateway.JobQueue
