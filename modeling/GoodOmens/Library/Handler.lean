/-!
# Handlers that throw

A handler reads and writes a state and may throw, and what it wrote before it threw
stays written: the state is outside the exception.  `exec` runs a handler from a state
to its result and the state it leaves.  There is one rule for each way to build a
handler, so a handler whose outcomes are given is run by rewriting.
-/

universe u

/-- Computations on a state that may throw and keep what was written. -/
abbrev Handler (ε σ : Type u) := ExceptT ε (StateM σ)

namespace Handler

variable {ε σ α β : Type u} {s t : σ}

/-- The result and the state that is left. -/
def exec (m : Handler ε σ α) (s : σ) : Except ε α × σ := (ExceptT.run m).run s

/-- An expression that may throw. -/
def eval : Except ε α → Handler ε σ α
  | .ok a => pure a
  | .error e => throw e

@[simp] theorem exec_pure (a : α) : (pure a : Handler ε σ α).exec s = (.ok a, s) := rfl

@[simp] theorem exec_throw (e : ε) : (throw e : Handler ε σ α).exec s = (.error e, s) := rfl

@[simp] theorem exec_get : (get : Handler ε σ σ).exec s = (.ok s, s) := rfl

@[simp] theorem exec_set (t : σ) : (set t : Handler ε σ PUnit).exec s = (.ok .unit, t) := rfl

@[simp] theorem exec_modify (f : σ → σ) :
    (modify f : Handler ε σ PUnit).exec s = (.ok .unit, f s) := rfl

@[simp] theorem exec_eval (x : Except ε α) : (eval x : Handler ε σ α).exec s = (x, s) := by
  cases x <;> rfl

/-- The second computation runs where the first has left the state, unless the first
has thrown. -/
theorem exec_bind (m : Handler ε σ α) (f : α → Handler ε σ β) :
    (m >>= f).exec s =
      match m.exec s with
      | (.ok a, t) => (f a).exec t
      | (.error e, t) => (.error e, t) := by
  cases hm : m.exec s with
  | mk r t =>
    replace hm : StateT.run (ExceptT.run m) s = (r, t) := hm
    rw [exec, ExceptT.run_bind, StateT.run_bind, hm]
    cases r <;> rfl

/-- The clause runs where the body has left the state. -/
theorem exec_tryCatch (m : Handler ε σ α) (h : ε → Handler ε σ α) :
    (tryCatch m h).exec s =
      match m.exec s with
      | (.ok a, t) => (.ok a, t)
      | (.error e, t) => (h e).exec t := by
  cases hm : m.exec s with
  | mk r t =>
    replace hm : StateT.run (ExceptT.run m) s = (r, t) := hm
    rw [exec, ExceptT.run_tryCatch, StateT.run_bind, hm]
    cases r <;> rfl

theorem exec_bind_ok {m : Handler ε σ α} {f : α → Handler ε σ β} {a : α}
    (hm : m.exec s = (.ok a, t)) : (m >>= f).exec s = (f a).exec t := by
  rw [exec_bind, hm]

end Handler
