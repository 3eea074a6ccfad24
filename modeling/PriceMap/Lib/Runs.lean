import Mathlib.Data.List.Basic

/-!
# Runs of event-driven systems

A system is a partial step function `step : σ → α → Option σ`: `none` means
that the event cannot happen in that state (or kills the process), `some s'`
is the state after the event has been handled to its end.

A run is the list of transitions a list of events executes. Properties of runs
are stated over these transitions (`∀ t ∈ transitions step s₀ as, …`), over the
visited states (`∀ s ∈ states step s₀ as, …`), or over the events a run comes to
(`∀ x ∈ attempts step s₀ as, …`), of which the last may be impossible.

* `forall_transitions` — the induction rule: an invariant preserved by
  every step whose transition meets a condition holds all along a run that
  meets the condition.
* `forall_states`      — the same rule for the visited states.
* `forall_states_iff`  — where the condition says exactly which steps preserve
  the invariant, it holds along exactly the runs that meet the condition.
-/

namespace PriceMap.Lib

variable {σ α : Type*}

/-- One executed step: the state before it, its event, the state after it. -/
structure Transition (σ α : Type*) where
  pre : σ
  event : α
  post : σ

variable (step : σ → α → Option σ)

/-- The transitions a list of events executes from `s`. The run stops at the
first event that is not possible. -/
def transitions : σ → List α → List (Transition σ α)
  | _, [] => []
  | s, a :: as =>
    match step s a with
    | none => []
    | some s' => ⟨s, a, s'⟩ :: transitions s' as

def states (s : σ) (as : List α) : List σ :=
  s :: (transitions step s as).map Transition.post

/-- The events a run comes to, each with the state that meets it. The last one
may not be possible. -/
def attempts : σ → List α → List (σ × α)
  | _, [] => []
  | s, a :: as =>
    (s, a) ::
      match step s a with
      | none => []
      | some s' => attempts s' as

variable {step}

@[simp] theorem transitions_nil (s : σ) : transitions step s [] = [] := rfl

theorem transitions_cons_some {s s' : σ} {a : α} {as : List α}
    (h : step s a = some s') :
    transitions step s (a :: as) = ⟨s, a, s'⟩ :: transitions step s' as := by
  simp [transitions, h]

theorem transitions_cons_none {s : σ} {a : α} {as : List α}
    (h : step s a = none) : transitions step s (a :: as) = [] := by
  simp [transitions, h]

/-- The states of a run are the first one and those its steps end in. -/
@[simp] theorem mem_states {s x : σ} {as : List α} :
    x ∈ states step s as ↔ x = s ∨ ∃ t ∈ transitions step s as, t.post = x := by
  simp [states]

/-- A step starts in a state of the run. -/
theorem pre_mem_states {s : σ} {as : List α} {t : Transition σ α}
    (ht : t ∈ transitions step s as) : t.pre ∈ states step s as := by
  induction as generalizing s with
  | nil => cases ht
  | cons a as ih =>
    cases h : step s a with
    | none =>
      rw [transitions_cons_none h] at ht
      cases ht
    | some s' =>
      rw [transitions_cons_some h] at ht
      rcases List.mem_cons.mp ht with rfl | ht
      · exact mem_states.mpr (Or.inl rfl)
      · rcases mem_states.mp (ih ht) with hFirst | ⟨u, hu, hPost⟩
        · refine mem_states.mpr (Or.inr ⟨⟨s, a, s'⟩, ?_, hFirst.symm⟩)
          rw [transitions_cons_some h]
          exact List.mem_cons_self ..
        · refine mem_states.mpr (Or.inr ⟨u, ?_, hPost⟩)
          rw [transitions_cons_some h]
          exact List.mem_cons_of_mem _ hu

/-- The transitions of a run are steps. -/
theorem step_of_mem_transitions {s : σ} {as : List α} {t : Transition σ α}
    (ht : t ∈ transitions step s as) : step t.pre t.event = some t.post := by
  induction as generalizing s with
  | nil => cases ht
  | cons a as ih =>
    cases h : step s a with
    | none =>
      rw [transitions_cons_none h] at ht
      cases ht
    | some s' =>
      rw [transitions_cons_some h] at ht
      rcases List.mem_cons.mp ht with rfl | ht
      · exact h
      · exact ih ht

/-- What a run executes is among its events. -/
theorem event_mem_of_mem_transitions {s : σ} {as : List α} {t : Transition σ α}
    (ht : t ∈ transitions step s as) : t.event ∈ as := by
  induction as generalizing s with
  | nil => cases ht
  | cons a as ih =>
    cases h : step s a with
    | none =>
      rw [transitions_cons_none h] at ht
      cases ht
    | some s' =>
      rw [transitions_cons_some h] at ht
      rcases List.mem_cons.mp ht with rfl | ht
      · exact List.mem_cons_self ..
      · exact List.mem_cons_of_mem _ (ih ht)

theorem states_cons_some {s s' : σ} {a : α} {as : List α} (h : step s a = some s') :
    states step s (a :: as) = s :: states step s' as := by
  rw [states, states, transitions_cons_some h, List.map_cons]

theorem foldlM_cons_some {s s' : σ} {a : α} {as : List α} (h : step s a = some s') :
    (a :: as).foldlM step s = as.foldlM step s' := by
  rw [List.foldlM_cons, h]
  rfl

theorem attempts_cons_some {s s' : σ} {a : α} {as : List α} (h : step s a = some s') :
    attempts step s (a :: as) = (s, a) :: attempts step s' as := by
  simp [attempts, h]

/-- A state that meets an event is one the run visits. -/
theorem fst_mem_states {s : σ} {as : List α} {x : σ × α} (hx : x ∈ attempts step s as) :
    x.1 ∈ states step s as := by
  induction as generalizing s with
  | nil => cases hx
  | cons a as ih =>
    cases h : step s a with
    | none =>
      obtain rfl : x = (s, a) := by simpa [attempts, h] using hx
      exact mem_states.mpr (Or.inl rfl)
    | some s' =>
      rw [attempts_cons_some h] at hx
      rw [states_cons_some h]
      rcases List.mem_cons.mp hx with rfl | hx
      · exact List.mem_cons_self ..
      · exact List.mem_cons_of_mem _ (ih hx)

-- ---------------------------------------------------------------------------
-- The induction rule
-- ---------------------------------------------------------------------------

/-- **Run induction.** If `Inv` holds at the start and every step from a state
with `Inv` whose transition meets `C` ends in a state with `Inv`, then `Inv`
holds before and after every transition of a run that meets `C` throughout,
and each of its transitions is a step. -/
theorem forall_transitions {Inv : σ → Prop} {C : Transition σ α → Prop}
    (hStep : ∀ s a s', Inv s → step s a = some s' → C ⟨s, a, s'⟩ → Inv s')
    {s : σ} {as : List α} (hInit : Inv s)
    (hC : ∀ t ∈ transitions step s as, C t) :
    ∀ t ∈ transitions step s as,
      Inv t.pre ∧ step t.pre t.event = some t.post ∧ Inv t.post := by
  induction as generalizing s with
  | nil => simp
  | cons a as ih =>
    cases h : step s a with
    | none => simp [transitions_cons_none h]
    | some s' =>
      rw [transitions_cons_some h] at hC ⊢
      have hPost : Inv s' := hStep s a s' hInit h (hC _ (List.mem_cons_self ..))
      intro t ht
      rcases List.mem_cons.mp ht with rfl | ht
      · exact ⟨hInit, h, hPost⟩
      · exact ih hPost (fun u hu => hC u (List.mem_cons_of_mem _ hu)) t ht

/-- The same rule for the states a run visits. -/
theorem forall_states {Inv : σ → Prop} {C : Transition σ α → Prop}
    (hStep : ∀ s a s', Inv s → step s a = some s' → C ⟨s, a, s'⟩ → Inv s')
    {s : σ} {as : List α} (hInit : Inv s)
    (hC : ∀ t ∈ transitions step s as, C t) :
    ∀ x ∈ states step s as, Inv x := by
  intro x hx
  rcases mem_states.mp hx with rfl | ⟨t, ht, rfl⟩
  · exact hInit
  · exact (forall_transitions hStep hInit hC t ht).2.2

/-- A run that keeps `Inv` in all visited states meets a condition that each
step from `Inv` to `Inv` meets. -/
theorem forall_transitions_of_states {Inv : σ → Prop} {C : Transition σ α → Prop}
    (hStep : ∀ s a s', Inv s → step s a = some s' → Inv s' → C ⟨s, a, s'⟩)
    {s : σ} {as : List α} (hInv : ∀ x ∈ states step s as, Inv x) :
    ∀ t ∈ transitions step s as, C t := by
  intro t ht
  have hExecuted : step t.pre t.event = some t.post := step_of_mem_transitions ht
  have hPost : Inv t.post := hInv _ (mem_states.mpr (Or.inr ⟨t, ht, rfl⟩))
  exact hStep t.pre t.event t.post (hInv _ (pre_mem_states ht)) hExecuted hPost

/-- **Exact conditions.** If the steps from a state with `Inv` that end in one
are those whose transition meets `C`, the runs that keep `Inv` are those that
meet `C` throughout. -/
theorem forall_states_iff {Inv : σ → Prop} {C : Transition σ α → Prop}
    (hStep : ∀ s a s', Inv s → step s a = some s' → (Inv s' ↔ C ⟨s, a, s'⟩))
    {s : σ} {as : List α} (hInit : Inv s) :
    (∀ x ∈ states step s as, Inv x) ↔ ∀ t ∈ transitions step s as, C t :=
  ⟨forall_transitions_of_states fun s a s' hInv hs => (hStep s a s' hInv hs).mp,
    forall_states (fun s a s' hInv hs => (hStep s a s' hInv hs).mpr) hInit⟩

end PriceMap.Lib
