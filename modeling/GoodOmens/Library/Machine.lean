/-!
# Machines, runs and what holds along them

A `Machine` has start states and a partial step: in a state an action either
cannot be taken, or leads to one state and emits outputs.  Nondeterminism is in
the choice of the action, so an interleaving of several parties is a list of
actions.

`Along Q s as` says that every step of the run `as` from `s` satisfies `Q`, a
condition on the state before, the action, the state after and the outputs.  Two
rules prove it, both from what a single step does.  `along_of_inv` is the
invariant rule for runs whose steps all meet a condition `G` (`along_of_keeps` when
there is none), and `along_iff` turns a step-by-step equivalence `Q ↔ G` into one
over whole runs.  `Along.last` reads a run that was executed (`exec`), for refuting.

`exec_countP_le` is the potential method: a weight that some steps take from and the others
put into bounds the number of the former by that of the latter.

`watch` puts next to a machine a value that its actions bring up to date, for
statements that compare the state with what has happened.
-/

universe u v w u'

/-- Start states, and in every state at most one step for an action. -/
structure Machine (σ : Type u) (α : Type v) (ε : Type w) where
  start : σ → Prop
  step : σ → α → Option (σ × List ε)

namespace Machine

variable {σ : Type u} {α : Type v} {ε : Type w} {M : Machine σ α ε} {G : σ → α → Prop}

/-! ### Executing a list of actions -/

/-- Take the actions of a list in order. -/
def exec (M : Machine σ α ε) : σ → List α → Option (σ × List ε)
  | s, [] => some (s, [])
  | s, a :: as =>
    match M.step s a with
    | none => none
    | some (s', es) =>
      match M.exec s' as with
      | none => none
      | some (t, fs) => some (t, es ++ fs)

section

variable {s t u : σ} {a : α} {as bs : List α} {es fs : List ε}

theorem exec_cons (ha : M.step s a = some (t, es)) (has : M.exec t as = some (u, fs)) :
    M.exec s (a :: as) = some (u, es ++ fs) := by
  simp only [exec, ha, has]

theorem exec_cons_inv (h : M.exec s (a :: as) = some (u, fs)) :
    ∃ t es gs, M.step s a = some (t, es) ∧ M.exec t as = some (u, gs) ∧ fs = es ++ gs := by
  simp only [exec] at h
  split at h
  · cases h
  · rename_i t es hst
    split at h
    · cases h
    · rename_i v gs hex
      cases h
      exact ⟨t, es, gs, hst, hex, rfl⟩

theorem exec_append (has : M.exec s as = some (t, es)) (hbs : M.exec t bs = some (u, fs)) :
    M.exec s (as ++ bs) = some (u, es ++ fs) := by
  induction as generalizing s es with
  | nil =>
    cases has
    exact hbs
  | cons a as ih =>
    obtain ⟨v, es, gs, hst, hex, rfl⟩ := exec_cons_inv has
    rw [List.append_assoc]
    exact exec_cons hst (ih hex)

end

/-! ### What holds along a run -/

/-- Every step of the run `as` from `s` satisfies `Q`, a condition on the state
before, the action, the state after and the outputs.  A step that cannot be
taken ends the run. -/
def Along (M : Machine σ α ε) (Q : σ → α → σ → List ε → Prop) : σ → List α → Prop
  | _, [] => True
  | s, a :: as =>
    match M.step s a with
    | none => True
    | some (s', es) => Q s a s' es ∧ M.Along Q s' as

/-- A condition on the state before and the action, read as one on the step. -/
def before (G : σ → α → Prop) : σ → α → σ → List ε → Prop := fun s a _ _ => G s a

theorem along_cons {Q : σ → α → σ → List ε → Prop} {s s' : σ} {a : α} {es : List ε}
    (h : M.step s a = some (s', es)) (as : List α) :
    M.Along Q s (a :: as) ↔ Q s a s' es ∧ M.Along Q s' as := by
  simp only [Along, h]

theorem along_cons_none {Q : σ → α → σ → List ε → Prop} {s : σ} {a : α}
    (h : M.step s a = none) (as : List α) : M.Along Q s (a :: as) := by
  simp only [Along, h]

/-- What holds along a run holds of its last step. -/
theorem Along.last {Q : σ → α → σ → List ε → Prop} {a : α} {t t' : σ} {gs : List ε} :
    ∀ {as : List α} {s : σ} {es : List ε}, M.Along Q s (as ++ [a]) →
      M.exec s as = some (t, es) → M.step t a = some (t', gs) → Q t a t' gs := by
  intro as
  induction as with
  | nil =>
    intro s es h he hst
    simp only [exec, Option.some.injEq, Prod.mk.injEq] at he
    rw [List.nil_append, he.1, along_cons hst] at h
    exact h.1
  | cons b as ih =>
    intro s es h he hst
    simp only [exec] at he
    cases hb : M.step s b with
    | none => simp [hb] at he
    | some p =>
      obtain ⟨u, ds⟩ := p
      cases hex : M.exec u as with
      | none => simp [hb, hex] at he
      | some q =>
        obtain ⟨v, cs⟩ := q
        simp only [hb, hex, Option.some.injEq, Prod.mk.injEq] at he
        rw [List.cons_append, along_cons hb] at h
        exact ih h.2 (he.1 ▸ hex) hst

/-- Two properties that hold along a run hold together. -/
theorem Along.and {P Q : σ → α → σ → List ε → Prop} :
    ∀ {as : List α} {s : σ}, M.Along P s as → M.Along Q s as →
      M.Along (fun s a s' es => P s a s' es ∧ Q s a s' es) s as := by
  intro as
  induction as with
  | nil => intro s _ _; exact trivial
  | cons a as ih =>
    intro s hp hq
    cases hst : M.step s a with
    | none => exact along_cons_none hst as
    | some p =>
      rw [along_cons hst] at hp hq ⊢
      exact ⟨⟨hp.1, hq.1⟩, ih hp.2 hq.2⟩

/-- **A property of every step gives another**, by an invariant that the steps with the
one keep. -/
theorem along_of_along {P Q : σ → α → σ → List ε → Prop} (I : σ → Prop)
    (hs : ∀ s a s' es, I s → P s a s' es → M.step s a = some (s', es) → Q s a s' es ∧ I s') :
    ∀ (as : List α) (s : σ), I s → M.Along P s as → M.Along Q s as := by
  intro as
  induction as with
  | nil => intro s _ _; exact trivial
  | cons a as ih =>
    intro s hi hp
    cases hst : M.step s a with
    | none => exact along_cons_none hst as
    | some p =>
      obtain ⟨s', es⟩ := p
      rw [along_cons hst] at hp ⊢
      obtain ⟨hq, hi'⟩ := hs s a s' es hi hp.1 hst
      exact ⟨hq, ih s' hi' hp.2⟩

/-- **A condition on every step gives a property of every step**, by an
invariant that the steps meeting the condition keep. -/
theorem along_of_inv {Q : σ → α → σ → List ε → Prop} (I : σ → Prop)
    (hs : ∀ s a s' es, I s → G s a → M.step s a = some (s', es) → Q s a s' es ∧ I s')
    (as : List α) (s : σ) (hi : I s) (hg : M.Along (before G) s as) : M.Along Q s as :=
  along_of_along I hs as s hi hg

/-- A condition that is always met holds along every run. -/
theorem along_before_true : ∀ (as : List α) (s : σ), M.Along (before fun _ _ => True) s as := by
  intro as
  induction as with
  | nil => intro s; exact trivial
  | cons a as ih =>
    intro s
    cases hst : M.step s a with
    | none => exact along_cons_none hst as
    | some p =>
      obtain ⟨s', es⟩ := p
      exact (along_cons hst as).mpr ⟨trivial, ih s'⟩

/-- **An invariant gives a property of every step**, in every run. -/
theorem along_of_keeps {Q : σ → α → σ → List ε → Prop} (I : σ → Prop)
    (hs : ∀ s a s' es, I s → M.step s a = some (s', es) → Q s a s' es ∧ I s')
    (as : List α) (s : σ) (hi : I s) : M.Along Q s as :=
  along_of_inv I (fun s a s' es hi _ hst => hs s a s' es hi hst) as s hi (along_before_true as s)

/-- **Step by step equivalent conditions are equivalent along a run.**  The
equivalence may use an invariant `I` that the steps meeting `G` keep. -/
theorem along_iff {Q : σ → α → σ → List ε → Prop} (I : σ → Prop)
    (hq : ∀ s a s' es, I s → M.step s a = some (s', es) → (Q s a s' es ↔ G s a))
    (hi : ∀ s a s' es, I s → G s a → M.step s a = some (s', es) → I s') :
    ∀ (as : List α) (s : σ), I s → (M.Along Q s as ↔ M.Along (before G) s as) := by
  intro as
  induction as with
  | nil => intro s _; exact Iff.rfl
  | cons a as ih =>
    intro s hs
    cases hst : M.step s a with
    | none => exact iff_of_true (along_cons_none hst as) (along_cons_none hst as)
    | some p =>
      obtain ⟨s', es⟩ := p
      rw [along_cons hst, along_cons hst, hq s a s' es hs hst]
      exact and_congr_right (fun hg => ih s' (hi s a s' es hs hg hst))

/-! ### Counting steps -/

/-- **Steps that take from a weight are few** if the others put in no more than `k` each. -/
theorem exec_countP_le (weight : σ → Nat) (takes : α → Bool) (k : Nat)
    (ht : ∀ s a s' es, M.step s a = some (s', es) → takes a → 1 + weight s' ≤ weight s)
    (hp : ∀ s a s' es, M.step s a = some (s', es) → takes a = false → weight s' ≤ weight s + k) :
    ∀ (as : List α) {s t : σ} {es : List ε}, M.exec s as = some (t, es) →
      as.countP takes + weight t ≤ weight s + k * as.countP (fun a => !takes a) := by
  intro as
  induction as with
  | nil =>
    intro s t es he
    cases he
    exact Nat.le_of_eq (by simp)
  | cons a as ih =>
    intro s t es he
    unfold exec at he
    cases hst : M.step s a with
    | none =>
      rw [hst] at he
      cases he
    | some p =>
      obtain ⟨s', ds⟩ := p
      rw [hst] at he
      cases hex : M.exec s' as with
      | none => simp [hex] at he
      | some q =>
        obtain ⟨u, fs⟩ := q
        simp only [hex, Option.some.injEq, Prod.mk.injEq] at he
        obtain ⟨rfl, -⟩ := he
        have hrest := ih hex
        cases ha : takes a with
        | true =>
          have hstep := ht s a s' ds hst ha
          rw [List.countP_cons_of_pos ha, List.countP_cons_of_neg (by simp [ha])]
          omega
        | false =>
          have hstep := hp s a s' ds hst ha
          rw [List.countP_cons_of_neg (by simp [ha]), List.countP_cons_of_pos (by simp [ha]),
            Nat.mul_add]
          omega

/-! ### Watching a machine -/

/-- The machine together with a value that is brought up to date by every action
taken. -/
def watch {τ : Type u'} (M : Machine σ α ε) (init : σ → τ → Prop) (update : τ → α → τ) :
    Machine (σ × τ) α ε where
  start p := M.start p.1 ∧ init p.1 p.2
  step p a := (M.step p.1 a).map (fun q => ((q.1, update p.2 a), q.2))

theorem watch_step {τ : Type u'} {init : σ → τ → Prop} {update : τ → α → τ} {p p' : σ × τ}
    {a : α} {es : List ε} (h : (M.watch init update).step p a = some (p', es)) :
    M.step p.1 a = some (p'.1, es) ∧ p'.2 = update p.2 a := by
  obtain ⟨q, hq, he⟩ := Option.map_eq_some_iff.mp h
  cases he
  exact ⟨hq, rfl⟩

end Machine
