import Mathlib.Data.List.Forall2
import PriceMap.Lib.Runs

/-!
# Machines that answer calls, and their refinement

A machine holds a state and answers calls one after the other; a call may also
kill it. One machine simulates another if a relation between their states is
kept by every call, with agreeing answers.

* `Simulation.outputs` — the answers of a run are then those of the other
  machine, one for one.
* `Simulation.rel`     — and every state reached is related to one the other
  machine reaches by the same calls.
-/

namespace PriceMap.Lib

structure Machine (σ ι ο : Type*) where
  init : σ
  /-- the state after a call and its answer; `none` kills the machine -/
  call : σ → ι → Option (σ × ο)

variable {σ τ ι ο π : Type*}

namespace Machine

variable (m : Machine σ ι ο)

/-- A call as a step of a system. -/
def step (s : σ) (i : ι) : Option σ := (m.call s i).map Prod.fst

/-- The answers to a list of calls, up to one that kills the machine. -/
def outputsFrom : σ → List ι → List ο
  | _, [] => []
  | s, i :: is =>
    match m.call s i with
    | none => []
    | some (s', o) => o :: outputsFrom s' is

def outputs (is : List ι) : List ο := m.outputsFrom m.init is

/-- The state after a list of calls, if none of them kills the machine. -/
def stateAfter (is : List ι) : Option σ := is.foldlM m.step m.init

variable {m} in
/-- A machine that no call kills gets to the end of every run. -/
theorem exists_stateAfter (h : ∀ s i, (m.call s i).isSome = true) (is : List ι) :
    ∃ s, m.stateAfter is = some s := by
  have hStep : ∀ s i, m.step s i = some ((m.step s i).getD s) := by
    intro s i
    obtain ⟨r, hr⟩ := Option.isSome_iff_exists.mp (h s i)
    simp [step, hr]
  have hFrom : ∀ s, ∃ s', is.foldlM m.step s = some s' := by
    induction is with
    | nil => exact fun s => ⟨s, rfl⟩
    | cons i is ih =>
      intro s
      rw [List.foldlM_cons, hStep s i]
      exact ih _
  exact hFrom m.init

end Machine

/-- Related states answer each call alike and stay related; a call kills both
machines or none. -/
structure Simulation (m : Machine σ ι ο) (m' : Machine τ ι π) (Rel : σ → τ → Prop)
    (Agree : ο → π → Prop) : Prop where
  init : Rel m.init m'.init
  call : ∀ s t i, Rel s t →
    Option.Rel (fun x y => Rel x.1 y.1 ∧ Agree x.2 y.2) (m.call s i) (m'.call t i)

namespace Simulation

variable {m : Machine σ ι ο} {m' : Machine τ ι π} {Rel : σ → τ → Prop} {Agree : ο → π → Prop}

/-- Related states answer every run alike. -/
theorem outputsFrom (h : Simulation m m' Rel Agree) (is : List ι) {s : σ} {t : τ}
    (hRel : Rel s t) : List.Forall₂ Agree (m.outputsFrom s is) (m'.outputsFrom t is) := by
  induction is generalizing s t with
  | nil => exact .nil
  | cons i is ih =>
    have hCall := h.call s t i hRel
    rw [Machine.outputsFrom, Machine.outputsFrom]
    generalize m.call s i = x at hCall ⊢
    generalize m'.call t i = y at hCall ⊢
    cases hCall with
    | none => exact .nil
    | some hNext => exact .cons hNext.2 (ih hNext.1)

/-- **The answers agree**, call by call. -/
theorem outputs (h : Simulation m m' Rel Agree) (is : List ι) :
    List.Forall₂ Agree (m.outputs is) (m'.outputs is) :=
  h.outputsFrom is h.init

/-- Related states stay related over every run, or both runs die. -/
theorem foldlM_step (h : Simulation m m' Rel Agree) (is : List ι) {s : σ} {t : τ}
    (hRel : Rel s t) : Option.Rel Rel (is.foldlM m.step s) (is.foldlM m'.step t) := by
  induction is generalizing s t with
  | nil => exact .some hRel
  | cons i is ih =>
    have hCall := h.call s t i hRel
    rw [List.foldlM_cons, List.foldlM_cons, Machine.step, Machine.step]
    generalize m.call s i = x at hCall ⊢
    generalize m'.call t i = y at hCall ⊢
    cases hCall with
    | none => exact .none
    | some hNext => exact ih hNext.1

/-- **The states stay related.** -/
theorem rel (h : Simulation m m' Rel Agree) (is : List ι) :
    Option.Rel Rel (m.stateAfter is) (m'.stateAfter is) :=
  h.foldlM_step is h.init

/-- A state that one machine reaches has a related one of the other. -/
theorem exists_rel (h : Simulation m m' Rel Agree) {is : List ι} {s : σ}
    (hState : m.stateAfter is = some s) : ∃ t, m'.stateAfter is = some t ∧ Rel s t := by
  have hRel := h.rel is
  rw [hState] at hRel
  generalize m'.stateAfter is = y at hRel ⊢
  cases hRel with
  | some hNext => exact ⟨_, rfl, hNext⟩

end Simulation

end PriceMap.Lib
