import Mathlib.Algebra.BigOperators.Group.Finset.Basic
import Mathlib.Algebra.Module.BigOperators
import Mathlib.Algebra.Module.LinearMap.Basic
import Mathlib.LinearAlgebra.BilinearMap

/-!
# Particles under central forces

Particles of any number in a module over a field, each with a mass, a position and a
velocity.  Between two of them acts a force along the line through both, and the two
coefficients are the same (`CentralForce`), so the forces are opposite and so are their
moments.

One `step` of the semi-implicit method gives every particle first its new velocity and
then, with that, its new position.  Three sums over the particles are known after it:
the momentum is what it was (`momentum_step`), the first moment of the masses has moved
by the time times the momentum (`firstMoment_step`), and for an alternating bilinear
product the angular momentum is what it was (`angular_step`).  Each follows from
`sum_pairs_eq_zero`: over all ordered pairs, what cancels in each pair cancels.

A run does not depend on who watches it: from a frame that is turned, shifted and moves with
a constant speed the particles are seen to make the same run (`run_seen`), and so are they
under other numbers (`run_reorder`), if the coefficients depend on neither.
-/

universe u v w x

/-- Masses, positions and velocities. -/
structure Particles (ι : Type u) (K : Type v) (V : Type w) where
  mass : ι → K
  position : ι → V
  velocity : ι → V

/-- The force on a particle from another is a multiple of the way there, with the same
coefficient for both of them. -/
structure CentralForce (ι : Type u) (K : Type v) (V : Type w) where
  coefficient : Particles ι K V → ι → ι → K
  symmetric : ∀ p i j, coefficient p i j = coefficient p j i

theorem Particles.eq_of_parts {ι : Type u} {K : Type v} {V : Type w} {p q : Particles ι K V}
    (hmass : p.mass = q.mass) (hposition : ∀ i, p.position i = q.position i)
    (hvelocity : ∀ i, p.velocity i = q.velocity i) : p = q := by
  cases p
  cases q
  obtain rfl : _ = _ := hmass
  obtain rfl : _ = _ := funext hposition
  obtain rfl : _ = _ := funext hvelocity
  rfl

/-- Over all ordered pairs of different indices, what cancels in each pair cancels. -/
theorem sum_pairs_eq_zero {ι : Type u} {M : Type v} [Fintype ι] [DecidableEq ι] [AddCommMonoid M]
    (f : ι → ι → M) (h : ∀ i j, i ≠ j → f i j + f j i = 0) :
    (∑ i, ∑ j, if i ≠ j then f i j else 0) = 0 := by
  rw [← Finset.sum_product']
  refine Finset.sum_involution (fun p _ => (p.2, p.1)) ?_ ?_ ?_ ?_
  · intro p _
    by_cases hp : p.1 = p.2
    · simp [hp]
    · rw [if_pos hp, if_pos (Ne.symm hp)]
      exact h p.1 p.2 hp
  · intro p _ hne hswap
    have heq : p.2 = p.1 := congrArg Prod.fst hswap
    exact hne (if_neg (not_not.mpr heq.symm))
  · intro p _
    exact Finset.mem_product.mpr ⟨Finset.mem_univ _, Finset.mem_univ _⟩
  · intro p _
    rfl

namespace Particles

variable {ι : Type u} {K : Type v} {V : Type w} [Field K] [AddCommGroup V] [Module K V]

/-- The force on `i` from `j`. -/
def force (L : CentralForce ι K V) (p : Particles ι K V) (i j : ι) : V :=
  L.coefficient p i j • (p.position j - p.position i)

/-- Action and reaction. -/
theorem force_add_force (L : CentralForce ι K V) (p : Particles ι K V) (i j : ι) :
    p.force L i j + p.force L j i = 0 := by
  unfold force
  rw [L.symmetric p j i, ← smul_add]
  simp

/-- The moments of a force and its reaction cancel: both act along the line through the
two particles. -/
theorem moment_add_moment {W : Type x} [AddCommGroup W] [Module K W] {B : V →ₗ[K] V →ₗ[K] W}
    (hB : ∀ v, B v v = 0) (L : CentralForce ι K V) (p : Particles ι K V) (i j : ι) :
    B (p.position i) (p.force L i j) + B (p.position j) (p.force L j i) = 0 := by
  have hskew : B (p.position j) (p.position i) = -B (p.position i) (p.position j) := by
    have hsum := hB (p.position i + p.position j)
    simp only [map_add, LinearMap.add_apply, hB, zero_add, add_zero] at hsum
    exact (neg_eq_of_add_eq_zero_left hsum).symm
  unfold force
  rw [L.symmetric p j i]
  simp only [map_smul, map_sub, hB, sub_zero, hskew]
  rw [smul_neg, add_neg_cancel]

variable [Fintype ι] [DecidableEq ι]

section

variable (L : CentralForce ι K V) (p : Particles ι K V) (t : K)

/-- The sum of the forces on `i`. -/
def totalForce (i : ι) : V := ∑ j, if i ≠ j then p.force L i j else 0

/-- The new velocities, and with them the new positions. -/
def step : Particles ι K V where
  mass := p.mass
  position i := p.position i + t • (p.velocity i + t • (p.mass i)⁻¹ • p.totalForce L i)
  velocity i := p.velocity i + t • (p.mass i)⁻¹ • p.totalForce L i

/-- The sum of the momenta. -/
def momentum : V := ∑ i, p.mass i • p.velocity i

/-- The first moment of the masses: the sum of the positions, weighted. -/
def firstMoment : V := ∑ i, p.mass i • p.position i

/-- The sum of the moments of momentum, for the product `B`. -/
def angular {W : Type x} [AddCommGroup W] [Module K W] (B : V →ₗ[K] V →ₗ[K] W) : W :=
  ∑ i, p.mass i • B (p.position i) (p.velocity i)

end

/-- A number of steps. -/
def run (L : CentralForce ι K V) (t : K) (n : Nat) : Particles ι K V → Particles ι K V :=
  (fun p => p.step L t)^[n]

variable {L : CentralForce ι K V} {p : Particles ι K V} {t : K}

theorem run_succ (n : Nat) : run L t (n + 1) p = run L t n (p.step L t) :=
  Function.iterate_succ_apply _ n p

theorem run_mass (n : Nat) : ∀ {p : Particles ι K V}, (run L t n p).mass = p.mass := by
  induction n with
  | zero => intro p; rfl
  | succ n ih =>
    intro p
    rw [run_succ, ih]
    rfl

/-! ### Momentum -/

theorem sum_totalForce : ∑ i, p.totalForce L i = 0 :=
  sum_pairs_eq_zero _ (fun i j _ => force_add_force L p i j)

/-- The impulse of a particle that has a mass. -/
theorem mass_smul_velocity_step {i : ι} (hm : p.mass i ≠ 0) :
    p.mass i • (p.step L t).velocity i = p.mass i • p.velocity i + t • p.totalForce L i := by
  show p.mass i • (p.velocity i + t • (p.mass i)⁻¹ • p.totalForce L i) = _
  rw [smul_add, smul_comm (p.mass i) t, smul_inv_smul₀ hm]

/-- **A step keeps the momentum.** -/
theorem momentum_step (hm : ∀ i, p.mass i ≠ 0) : (p.step L t).momentum = p.momentum := by
  have hsum : (p.step L t).momentum = ∑ i, (p.mass i • p.velocity i + t • p.totalForce L i) :=
    Finset.sum_congr rfl (fun i _ => mass_smul_velocity_step (hm i))
  rw [hsum, Finset.sum_add_distrib, ← Finset.smul_sum, sum_totalForce, smul_zero, add_zero]
  rfl

/-- **A step moves the first moment by the time times the momentum.** -/
theorem firstMoment_step (hm : ∀ i, p.mass i ≠ 0) :
    (p.step L t).firstMoment = p.firstMoment + t • p.momentum := by
  have hsum : (p.step L t).firstMoment =
      ∑ i, (p.mass i • p.position i + t • p.mass i • (p.step L t).velocity i) := by
    refine Finset.sum_congr rfl ?_
    intro i _
    show p.mass i • (p.position i + t • (p.step L t).velocity i) = _
    rw [smul_add, smul_comm (p.mass i) t]
  rw [hsum, Finset.sum_add_distrib, ← Finset.smul_sum]
  exact congrArg (fun q => p.firstMoment + t • q) (momentum_step hm)

theorem momentum_run (n : Nat) : ∀ {p : Particles ι K V}, (∀ i, p.mass i ≠ 0) →
    (run L t n p).momentum = p.momentum := by
  induction n with
  | zero => intro p _; rfl
  | succ n ih =>
    intro p hm
    rw [run_succ, ih (p := p.step L t) hm, momentum_step hm]

theorem firstMoment_run (n : Nat) : ∀ {p : Particles ι K V}, (∀ i, p.mass i ≠ 0) →
    (run L t n p).firstMoment = p.firstMoment + (t * n) • p.momentum := by
  induction n with
  | zero =>
    intro p _
    rw [Nat.cast_zero, mul_zero, zero_smul, add_zero]
    rfl
  | succ n ih =>
    intro p hm
    have htime : t + t * (n : K) = t * ((n + 1 : Nat) : K) := by
      push_cast
      ring
    rw [run_succ, ih (p := p.step L t) hm, firstMoment_step hm, momentum_step hm, add_assoc,
      ← add_smul, htime]

/-! ### Angular momentum -/

section

variable {W : Type x} [AddCommGroup W] [Module K W] {B : V →ₗ[K] V →ₗ[K] W}

theorem sum_moment (hB : ∀ v, B v v = 0) : ∑ i, B (p.position i) (p.totalForce L i) = 0 := by
  have hpairs : ∀ i, B (p.position i) (p.totalForce L i) =
      ∑ j, if i ≠ j then B (p.position i) (p.force L i j) else 0 := by
    intro i
    unfold totalForce
    rw [map_sum]
    refine Finset.sum_congr rfl ?_
    intro j _
    split
    · rfl
    · exact map_zero _
  rw [Finset.sum_congr rfl (fun i _ => hpairs i)]
  exact sum_pairs_eq_zero _ (fun i j _ => moment_add_moment hB L p i j)

/-- The velocity of the step is the one by which the position moves, so the moment of
momentum changes by the moment of the force where the particle was. -/
theorem mass_smul_angular_step (hB : ∀ v, B v v = 0) {i : ι} (hm : p.mass i ≠ 0) :
    p.mass i • B ((p.step L t).position i) ((p.step L t).velocity i) =
      p.mass i • B (p.position i) (p.velocity i) + t • B (p.position i) (p.totalForce L i) := by
  have hmove : B ((p.step L t).position i) ((p.step L t).velocity i) =
      B (p.position i) ((p.step L t).velocity i) := by
    show B (p.position i + t • (p.step L t).velocity i) ((p.step L t).velocity i) = _
    simp only [map_add, map_smul, LinearMap.add_apply, LinearMap.smul_apply, hB, smul_zero,
      add_zero]
  rw [hmove, ← map_smul, mass_smul_velocity_step hm, map_add, map_smul, map_smul]

/-- **A step keeps the angular momentum.** -/
theorem angular_step (hB : ∀ v, B v v = 0) (hm : ∀ i, p.mass i ≠ 0) :
    (p.step L t).angular B = p.angular B := by
  have hsum : (p.step L t).angular B =
      ∑ i, (p.mass i • B (p.position i) (p.velocity i) +
        t • B (p.position i) (p.totalForce L i)) :=
    Finset.sum_congr rfl (fun i _ => mass_smul_angular_step hB (hm i))
  rw [hsum, Finset.sum_add_distrib, ← Finset.smul_sum, sum_moment hB, smul_zero, add_zero]
  rfl

theorem angular_run (hB : ∀ v, B v v = 0) (n : Nat) : ∀ {p : Particles ι K V},
    (∀ i, p.mass i ≠ 0) → (run L t n p).angular B = p.angular B := by
  induction n with
  | zero => intro p _; rfl
  | succ n ih =>
    intro p hm
    rw [run_succ, ih (p := p.step L t) hm, angular_step hB hm]

end

end Particles

/-! ### Watched from another frame -/

/-- A linear map of the vectors, and then a shift of the positions and one of the
velocities. -/
structure Frame (K : Type v) (V : Type w) [Field K] [AddCommGroup V] [Module K V] where
  map : V →ₗ[K] V
  shift : V
  speed : V

section

variable {ι : Type u} {K : Type v} {V : Type w} [Field K] [AddCommGroup V] [Module K V]

/-- The frame, some time later. -/
def Frame.after (F : Frame K V) (t : K) : Frame K V := { F with shift := F.shift + t • F.speed }

theorem Frame.after_zero (F : Frame K V) : F.after 0 = F := by
  show Frame.mk F.map (F.shift + (0 : K) • F.speed) F.speed = F
  rw [zero_smul, add_zero]

theorem Frame.after_after (F : Frame K V) (t t' : K) : (F.after t).after t' = F.after (t + t') := by
  show Frame.mk F.map (F.shift + t • F.speed + t' • F.speed) F.speed =
    Frame.mk F.map (F.shift + (t + t') • F.speed) F.speed
  rw [add_assoc, ← add_smul]

/-- What is seen of the particles. -/
def Particles.seen (F : Frame K V) (p : Particles ι K V) : Particles ι K V where
  mass := p.mass
  position i := F.map (p.position i) + F.shift
  velocity i := F.map (p.velocity i) + F.speed

/-- The particles under other numbers. -/
def Particles.reorder (σ : Equiv.Perm ι) (p : Particles ι K V) : Particles ι K V where
  mass i := p.mass (σ i)
  position i := p.position (σ i)
  velocity i := p.velocity (σ i)

/-- The coefficients are the same in all frames with the linear map `e`. -/
def CentralForce.SameIn (L : CentralForce ι K V) (e : V →ₗ[K] V) : Prop :=
  ∀ shift speed p i j, L.coefficient (p.seen ⟨e, shift, speed⟩) i j = L.coefficient p i j

/-- The coefficients are the same under other numbers. -/
def CentralForce.Unordered (L : CentralForce ι K V) (σ : Equiv.Perm ι) : Prop :=
  ∀ p i j, L.coefficient (p.reorder σ) i j = L.coefficient p (σ i) (σ j)

namespace Particles

variable {L : CentralForce ι K V} {F : Frame K V} {σ : Equiv.Perm ι} {t : K}

/-- The way from one to the other is turned, and neither shift is seen in it. -/
theorem force_seen (hL : L.SameIn F.map) (p : Particles ι K V) (i j : ι) :
    (p.seen F).force L i j = F.map (p.force L i j) := by
  have hway : (p.seen F).position j - (p.seen F).position i =
      F.map (p.position j - p.position i) := by
    show F.map (p.position j) + F.shift - (F.map (p.position i) + F.shift) = _
    rw [add_sub_add_right_eq_sub, ← map_sub]
  have hcoefficient : L.coefficient (p.seen F) i j = L.coefficient p i j :=
    hL F.shift F.speed p i j
  unfold force
  rw [hway, hcoefficient, map_smul]

variable [Fintype ι] [DecidableEq ι]

theorem totalForce_seen (hL : L.SameIn F.map) (p : Particles ι K V) (i : ι) :
    (p.seen F).totalForce L i = F.map (p.totalForce L i) := by
  unfold totalForce
  rw [map_sum]
  refine Finset.sum_congr rfl ?_
  intro j _
  split
  · exact force_seen hL p i j
  · exact (map_zero _).symm

/-- **A step of what is seen is the step, seen when it has been made.** -/
theorem step_seen (hL : L.SameIn F.map) (p : Particles ι K V) :
    (p.seen F).step L t = (p.step L t).seen (F.after t) := by
  have hvelocity : ∀ i, ((p.seen F).step L t).velocity i =
      F.map ((p.step L t).velocity i) + F.speed := by
    intro i
    show F.map (p.velocity i) + F.speed + t • (p.mass i)⁻¹ • (p.seen F).totalForce L i =
      F.map (p.velocity i + t • (p.mass i)⁻¹ • p.totalForce L i) + F.speed
    rw [totalForce_seen hL, map_add, map_smul, map_smul, add_right_comm]
  have hposition : ∀ i, ((p.seen F).step L t).position i =
      F.map ((p.step L t).position i) + (F.shift + t • F.speed) := by
    intro i
    show F.map (p.position i) + F.shift + t • ((p.seen F).step L t).velocity i =
      F.map (p.position i + t • (p.step L t).velocity i) + (F.shift + t • F.speed)
    rw [hvelocity i, map_add, map_smul, smul_add, add_add_add_comm]
  exact eq_of_parts rfl hposition hvelocity

/-- **And so is a run.** -/
theorem run_seen (n : Nat) : ∀ {F : Frame K V} (p : Particles ι K V), L.SameIn F.map →
    run L t n (p.seen F) = (run L t n p).seen (F.after (t * n)) := by
  induction n with
  | zero =>
    intro F p _
    rw [Nat.cast_zero, mul_zero, Frame.after_zero]
    rfl
  | succ n ih =>
    intro F p hL
    have htime : t + t * (n : K) = t * ((n + 1 : Nat) : K) := by
      push_cast
      ring
    rw [run_succ, run_succ, step_seen hL, ih (F := F.after t) (p.step L t) hL,
      Frame.after_after, htime]

/-! ### Under other numbers -/

theorem totalForce_reorder (hL : L.Unordered σ) (p : Particles ι K V) (i : ι) :
    (p.reorder σ).totalForce L i = p.totalForce L (σ i) := by
  unfold totalForce
  rw [← Equiv.sum_comp σ (fun j => if σ i ≠ j then p.force L (σ i) j else 0)]
  refine Finset.sum_congr rfl ?_
  intro j _
  have hforce : (p.reorder σ).force L i j = p.force L (σ i) (σ j) := by
    unfold force
    rw [hL p i j]
    rfl
  simp only [hforce, ne_eq, σ.injective.eq_iff]

theorem step_reorder (hL : L.Unordered σ) (p : Particles ι K V) :
    (p.reorder σ).step L t = (p.step L t).reorder σ := by
  have hvelocity : ∀ i, ((p.reorder σ).step L t).velocity i = (p.step L t).velocity (σ i) := by
    intro i
    show p.velocity (σ i) + t • (p.mass (σ i))⁻¹ • (p.reorder σ).totalForce L i = _
    rw [totalForce_reorder hL]
    rfl
  refine eq_of_parts rfl ?_ hvelocity
  intro i
  show p.position (σ i) + t • ((p.reorder σ).step L t).velocity i = _
  rw [hvelocity i]
  rfl

/-- **A run does not depend on the numbers of the particles.** -/
theorem run_reorder (hL : L.Unordered σ) (n : Nat) : ∀ p : Particles ι K V,
    run L t n (p.reorder σ) = (run L t n p).reorder σ := by
  induction n with
  | zero => intro p; rfl
  | succ n ih =>
    intro p
    rw [run_succ, run_succ, step_reorder hL, ih]

end Particles

end
