/-!
# Computations that change a state and may throw

`EStateM ε σ` with the rules for running it: what was changed before a throw
stays changed. `catching` is a `catch` clause for the exceptions that satisfy a
predicate; the others go through it.
-/

namespace PriceMap.Lib

variable {ε σ α β : Type} {x : EStateM ε σ α} {s s' : σ} {a : α} {e : ε}

/-- `try { body } catch (e : p) { handler }`. -/
def catching (p : ε → Bool) (body : EStateM ε σ α) (handler : ε → EStateM ε σ α) :
    EStateM ε σ α := fun s =>
  match body.run s with
  | .ok a s' => .ok a s'
  | .error e s' => if p e then (handler e).run s' else .error e s'

/-- The state a computation leaves behind, whether it returns or throws. -/
def finalState (x : EStateM ε σ α) (s : σ) : σ :=
  match x.run s with
  | .ok _ s' => s'
  | .error _ s' => s'

theorem run_bind_ok {f : α → EStateM ε σ β} (h : x.run s = .ok a s') :
    (x >>= f).run s = (f a).run s' := by
  show EStateM.bind x f s = _
  rw [EStateM.bind, show x s = .ok a s' from h]
  rfl

theorem run_bind_error {f : α → EStateM ε σ β} (h : x.run s = .error e s') :
    (x >>= f).run s = .error e s' := by
  show EStateM.bind x f s = _
  rw [EStateM.bind, show x s = .error e s' from h]

/-- What succeeds is not caught. -/
theorem run_catching_ok {p : ε → Bool} {handler : ε → EStateM ε σ α} (h : x.run s = .ok a s') :
    (catching p x handler).run s = .ok a s' := by
  rw [EStateM.run, catching, h]

/-- A caught error goes to the handler, in the state it was thrown in. -/
theorem run_catching_caught {p : ε → Bool} {handler : ε → EStateM ε σ α}
    (h : x.run s = .error e s') (hp : p e = true) :
    (catching p x handler).run s = (handler e).run s' := by
  rw [EStateM.run, catching, h]
  exact if_pos hp

/-- Another error is thrown on. -/
theorem run_catching_thrown {p : ε → Bool} {handler : ε → EStateM ε σ α}
    (h : x.run s = .error e s') (hp : p e = false) :
    (catching p x handler).run s = .error e s' := by
  rw [EStateM.run, catching, h]
  exact if_neg (Bool.eq_false_iff.mp hp)

/-- The final state of a sequence whose first part succeeds. -/
theorem finalState_bind_ok {f : α → EStateM ε σ β} (h : x.run s = .ok a s') :
    finalState (x >>= f) s = finalState (f a) s' := by
  rw [finalState, run_bind_ok h]
  rfl

/-- The final state after a caught error. -/
theorem finalState_catching_caught {p : ε → Bool} {handler : ε → EStateM ε σ α}
    (h : x.run s = .error e s') (hp : p e = true) :
    finalState (catching p x handler) s = finalState (handler e) s' := by
  rw [finalState, run_catching_caught h hp]
  rfl

/-- Catching what is never thrown changes nothing. -/
theorem finalState_catching_of_not_caught {p : ε → Bool} {handler : ε → EStateM ε σ α}
    (h : ∀ e s', x.run s = .error e s' → p e = false) :
    finalState (catching p x handler) s = finalState x s := by
  cases hRun : x.run s with
  | ok a s' => rw [finalState, finalState, run_catching_ok hRun, hRun]
  | error e s' => rw [finalState, finalState, run_catching_thrown hRun (h e s' hRun), hRun]

end PriceMap.Lib
