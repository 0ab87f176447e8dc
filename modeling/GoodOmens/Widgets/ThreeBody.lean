import GoodOmens.Library.Loops
import GoodOmens.Library.Mechanics
import Mathlib.Algebra.Field.Basic
import Mathlib.Analysis.Real.Sqrt
import Mathlib.LinearAlgebra.CrossProduct

/-!
# The three bodies on the loading page

`three_body.dart` moves bodies under their gravitation while an explanation is being
fetched.  The arithmetic is that of a field, exact, and the length of a vector is any
function `length`; what is proved needs of it only that `-r` is as long as `r`.
Division by zero is zero here, so nothing has to be said about distances.

The loops of `integrate` run over a vector of any number of bodies and assign to its
places, as in the source.  `particles_pass` says that a pass through them is a step of
`Library/Mechanics.lean`, with the gravitation as a central force, and then the sums
known there are those of the bodies: `integrate_momentum` and `integrate_angular`.
-/

namespace GoodOmens.Widgets

universe u

/-- `vector_math.Vector3`. -/
abbrev Vector3 (K : Type u) := Fin 3 → K

structure Body (K : Type u) where
  position : Vector3 K
  velocity : Vector3 K
  mass : K

section

variable {K : Type u} [Field K] [DecidableEq K] (length : Vector3 K → K)

/-- `Vector3.normalize`: a vector of length zero stays as it is. -/
def normalize (r : Vector3 K) : Vector3 K :=
  let l := length r
  if l = 0 then r else (1 / l) • r

/-- The force on `a` from `b`. -/
def gravitationalForce (a b : Body K) : Vector3 K :=
  let G : K := 6.67430e-9
  let r := b.position - a.position
  let distance := length r
  let magnitude := (G * a.mass * b.mass) / (distance * distance)
  magnitude • normalize length r

variable {n : Nat}

/-- The first loop of a pass: the force on every body, from all the others. -/
def fillForces (bodies : Vector (Body K) n) (forces : Vector (Vector3 K) n) :
    Vector (Vector3 K) n :=
  (List.finRange n).foldl (fun forces (i : Fin n) =>
    (List.finRange n).foldl (fun forces (j : Fin n) =>
      if i ≠ j then forces.set i (forces[i] + gravitationalForce length bodies[i] bodies[j])
      else forces) (forces.set i 0)) forces

/-- The body with its new velocity, and with that its new position. -/
def Body.move (body : Body K) (force : Vector3 K) (timestep : K) : Body K :=
  let acceleration := (1 / body.mass) • force
  let body := { body with velocity := body.velocity + timestep • acceleration }
  { body with position := body.position + timestep • body.velocity }

/-- The second loop of a pass. -/
def moveBodies (bodies : Vector (Body K) n) (forces : Vector (Vector3 K) n) (timestep : K) :
    Vector (Body K) n :=
  (List.finRange n).foldl (fun bodies (i : Fin n) =>
    bodies.set i (bodies[i].move forces[i] timestep)) bodies

/-- One pass of `integrate`, on the bodies and the forces. -/
def pass (timestep : K) (s : Vector (Body K) n × Vector (Vector3 K) n) :
    Vector (Body K) n × Vector (Vector3 K) n :=
  let forces := fillForces length s.1 s.2
  (moveBodies s.1 forces timestep, forces)

def integrate (bodies : Vector (Body K) n) (timestep : K) (iterations : Nat) :
    Vector (Body K) n :=
  ((pass length timestep)^[iterations] (bodies, Vector.replicate n 0)).1

/-- `initState`: the velocity of the centre of mass is taken away from every body. -/
def initState (bodies : Vector (Body K) n) : Vector (Body K) n :=
  let sums := (List.finRange n).foldl (fun (sums : Vector3 K × K) (i : Fin n) =>
    (sums.1 + bodies[i].mass • bodies[i].velocity, sums.2 + bodies[i].mass)) (0, 0)
  let centerOfMassVelocity := (1 / sums.2) • sums.1
  (List.finRange n).foldl (fun bodies (i : Fin n) =>
    bodies.set i { bodies[i] with velocity := bodies[i].velocity - centerOfMassVelocity }) bodies

/-- `bodies` of the state, as it is built. -/
def initialBodies (K : Type u) [Field K] : Vector (Body K) 3 :=
  #v[⟨![0, -1e11, -1e11], ![0, 1000, 0], 3e25⟩,
    ⟨![-1e11, 1e11, 0], ![-1000, 0, 0], 4e25⟩,
    ⟨![1e11, 0, -1e11], ![0, -1000, 0], 5e25⟩]

/-- A tick of the `Ticker`. -/
def tick (bodies : Vector (Body K) n) : Vector (Body K) n := integrate length bodies 10000 100

/-! ### What is conserved -/

variable (bodies : Vector (Body K) n)

/-- The sum of mass times velocity. -/
def totalMomentum : Vector3 K := ∑ i : Fin n, bodies[i].mass • bodies[i].velocity

/-- The sum of the positions, each weighted with the mass. -/
def weightedPositions : Vector3 K := ∑ i : Fin n, bodies[i].mass • bodies[i].position

def totalMass : K := ∑ i : Fin n, bodies[i].mass

def centerOfMass : Vector3 K := (totalMass bodies)⁻¹ • weightedPositions bodies

/-- The sum of mass times position cross velocity. -/
def totalAngularMomentum : Vector3 K :=
  ∑ i : Fin n, bodies[i].mass • crossProduct bodies[i].position bodies[i].velocity

/-- Every body has a mass. -/
def Massive : Prop := ∀ i : Fin n, bodies[i].mass ≠ 0

end

/-! ### The bodies as particles -/

section

variable {K : Type u} [Field K] {n : Nat} {bodies : Vector (Body K) n} {timestep : K}

def particles (bodies : Vector (Body K) n) : Particles (Fin n) K (Vector3 K) where
  mass i := bodies[i].mass
  position i := bodies[i].position
  velocity i := bodies[i].velocity

theorem moveBodies_eq (forces : Vector (Vector3 K) n) :
    moveBodies bodies forces timestep =
      Vector.ofFn (fun i => bodies[i].move forces[i] timestep) :=
  Loops.foldl_set (fun i (body : Body K) => body.move forces[i] timestep) bodies

theorem initState_eq (bodies : Vector (Body K) n) : initState bodies = Vector.ofFn (fun i =>
    { bodies[i] with
      velocity := bodies[i].velocity - (1 / totalMass bodies) • totalMomentum bodies }) := by
  have hsums : (List.finRange n).foldl (fun (sums : Vector3 K × K) (i : Fin n) =>
      (sums.1 + bodies[i].mass • bodies[i].velocity, sums.2 + bodies[i].mass)) (0, 0) =
        (totalMomentum bodies, totalMass bodies) :=
    Loops.foldl_add_add (fun i : Fin n => bodies[i].mass • bodies[i].velocity)
      (fun i : Fin n => bodies[i].mass)
  unfold initState
  rw [hsums]
  exact Loops.foldl_set (fun _ (body : Body K) => { body with
    velocity := body.velocity - (1 / totalMass bodies) • totalMomentum bodies }) bodies

/-- The bodies start with their masses, where they are. -/
theorem initState_kept : totalMass (initState bodies) = totalMass bodies ∧
    weightedPositions (initState bodies) = weightedPositions bodies ∧
    (Massive bodies → Massive (initState bodies)) := by
  rw [initState_eq]
  refine ⟨?_, ?_, ?_⟩
  · simp [totalMass]
  · simp [weightedPositions]
  · intro hm i
    simpa using hm i

/-- **They start without momentum.** -/
theorem initState_momentum (hM : totalMass bodies ≠ 0) : totalMomentum (initState bodies) = 0 := by
  have hsum : totalMomentum (initState bodies) =
      ∑ i : Fin n, (bodies[i].mass • bodies[i].velocity -
        bodies[i].mass • (1 / totalMass bodies) • totalMomentum bodies) := by
    rw [initState_eq]
    simp [totalMomentum, smul_sub]
  rw [hsum, Finset.sum_sub_distrib, ← Finset.sum_smul]
  show totalMomentum bodies - totalMass bodies • (1 / totalMass bodies) • totalMomentum bodies = 0
  rw [one_div, smul_inv_smul₀ hM, sub_self]

end

section

variable {K : Type u} [Field K] [DecidableEq K] {length : Vector3 K → K} {n : Nat}
  {bodies : Vector (Body K) n} {timestep : K}

/-- What `gravitationalForce` multiplies the difference of the positions with. -/
def gravitation (length : Vector3 K → K) (hlen : ∀ r, length (-r) = length r) (n : Nat) :
    CentralForce (Fin n) K (Vector3 K) where
  coefficient p i j :=
    let distance := length (p.position j - p.position i)
    (6.67430e-9 * p.mass i * p.mass j) / (distance * distance) *
      (if distance = 0 then 1 else 1 / distance)
  symmetric := by
    intro p i j
    have hdist : length (p.position j - p.position i) = length (p.position i - p.position j) := by
      rw [← hlen, neg_sub]
    simp only [hdist, mul_right_comm]

theorem normalize_eq (r : Vector3 K) :
    normalize length r = (if length r = 0 then 1 else 1 / length r) • r := by
  show (if length r = 0 then r else (1 / length r) • r) = _
  split
  · rw [one_smul]
  · rfl

theorem gravitationalForce_eq (hlen : ∀ r, length (-r) = length r) (i j : Fin n) :
    gravitationalForce length bodies[i] bodies[j] =
      (particles bodies).force (gravitation length hlen n) i j := by
  show _ • normalize length (bodies[j].position - bodies[i].position) = _
  rw [normalize_eq, ← mul_smul]
  rfl

/-- The first loop leaves the total forces, whatever stood there. -/
theorem fillForces_eq (hlen : ∀ r, length (-r) = length r) (forces : Vector (Vector3 K) n) :
    fillForces length bodies forces =
      Vector.ofFn ((particles bodies).totalForce (gravitation length hlen n)) := by
  have hinner : ∀ (forces : Vector (Vector3 K) n) (i : Fin n),
      (List.finRange n).foldl (fun forces (j : Fin n) =>
        if i ≠ j then forces.set i (forces[i] + gravitationalForce length bodies[i] bodies[j])
        else forces) (forces.set i 0) =
      forces.set i ((particles bodies).totalForce (gravitation length hlen n) i) := by
    intro forces i
    refine (Loops.foldl_set_add i (fun j => i ≠ j)
      (fun j => gravitationalForce length bodies[i] bodies[j]) forces).trans ?_
    simp only [gravitationalForce_eq hlen]
    rfl
  unfold fillForces
  simp only [hinner]
  exact Loops.foldl_set (fun i _ => (particles bodies).totalForce (gravitation length hlen n) i)
    forces

/-- **A pass of `integrate` is a step of the particles.** -/
theorem particles_pass (hlen : ∀ r, length (-r) = length r) (forces : Vector (Vector3 K) n) :
    particles (pass length timestep (bodies, forces)).1 =
      (particles bodies).step (gravitation length hlen n) timestep := by
  have hpass : (pass length timestep (bodies, forces)).1 =
      Vector.ofFn (fun i => bodies[i].move
        ((particles bodies).totalForce (gravitation length hlen n) i) timestep) := by
    show moveBodies bodies (fillForces length bodies forces) timestep = _
    rw [fillForces_eq hlen, moveBodies_eq]
    simp
  rw [hpass]
  simp [particles, Particles.step, Body.move]

theorem particles_integrate (hlen : ∀ r, length (-r) = length r) (iterations : Nat) :
    particles (integrate length bodies timestep iterations) =
      (particles bodies).run (gravitation length hlen n) timestep iterations := by
  have hpasses : ∀ (k : Nat) (s : Vector (Body K) n × Vector (Vector3 K) n),
      particles ((pass length timestep)^[k] s).1 =
        (particles s.1).run (gravitation length hlen n) timestep k := by
    intro k
    induction k with
    | zero => intro s; rfl
    | succ k ih =>
      intro s
      rw [Function.iterate_succ_apply, ih, particles_pass hlen, Particles.run_succ]
  exact hpasses iterations _

/-! ### What `integrate` keeps -/

theorem integrate_mass (hlen : ∀ r, length (-r) = length r) (iterations : Nat) :
    (particles (integrate length bodies timestep iterations)).mass = (particles bodies).mass := by
  rw [particles_integrate hlen, Particles.run_mass]

theorem integrate_totalMomentum (hlen : ∀ r, length (-r) = length r) (hm : Massive bodies)
    (iterations : Nat) :
    totalMomentum (integrate length bodies timestep iterations) = totalMomentum bodies := by
  show (particles (integrate length bodies timestep iterations)).momentum = _
  rw [particles_integrate hlen, Particles.momentum_run iterations (p := particles bodies) hm]
  rfl

theorem integrate_weightedPositions (hlen : ∀ r, length (-r) = length r) (hm : Massive bodies)
    (iterations : Nat) :
    weightedPositions (integrate length bodies timestep iterations) =
      weightedPositions bodies + (timestep * iterations) • totalMomentum bodies := by
  show (particles (integrate length bodies timestep iterations)).firstMoment = _
  rw [particles_integrate hlen, Particles.firstMoment_run iterations (p := particles bodies) hm]
  rfl

/-- Bodies without momentum in all keep their centre through a tick, and stay such. -/
theorem tick_atRest (hlen : ∀ r, length (-r) = length r) (ticks : Nat) :
    ∀ bodies : Vector (Body K) n, Massive bodies → totalMomentum bodies = 0 →
      totalMomentum ((tick length)^[ticks] bodies) = 0 ∧
      centerOfMass ((tick length)^[ticks] bodies) = centerOfMass bodies := by
  induction ticks with
  | zero => intro bodies _ hrest; exact ⟨hrest, rfl⟩
  | succ ticks ih =>
    intro bodies hm hrest
    have hmass : (particles (tick length bodies)).mass = (particles bodies).mass :=
      integrate_mass hlen 100
    have hm' : Massive (tick length bodies) := fun i => (congrFun hmass i).trans_ne (hm i)
    have hrest' : totalMomentum (tick length bodies) = 0 :=
      (integrate_totalMomentum hlen hm 100).trans hrest
    have hcentre : centerOfMass (tick length bodies) = centerOfMass bodies := by
      have htotal : totalMass (tick length bodies) = totalMass bodies :=
        Finset.sum_congr rfl (fun i _ => congrFun hmass i)
      have hpositions : weightedPositions (tick length bodies) = weightedPositions bodies := by
        unfold tick
        rw [integrate_weightedPositions hlen hm, hrest, smul_zero, add_zero]
      unfold centerOfMass
      rw [htotal, hpositions]
    rw [Function.iterate_succ_apply]
    obtain ⟨hmomentum, hposition⟩ := ih (tick length bodies) hm' hrest'
    exact ⟨hmomentum, hposition.trans hcentre⟩

end

/-! ### The bodies of the loading page -/

section

/-- `vector_math.Vector3.length`. -/
noncomputable def Vector3.length (r : Vector3 ℝ) : ℝ := √(r 0 ^ 2 + r 1 ^ 2 + r 2 ^ 2)

theorem Vector3.length_neg (r : Vector3 ℝ) : Vector3.length (-r) = Vector3.length r := by
  simp [Vector3.length]

theorem massive_initialBodies : Massive (initialBodies ℝ) := by
  intro i
  fin_cases i <;> norm_num [initialBodies]

theorem totalMass_initialBodies : totalMass (initialBodies ℝ) ≠ 0 := by
  have hsum : totalMass (initialBodies ℝ) = 3e25 + 4e25 + 5e25 := by
    simp [totalMass, Fin.sum_univ_three, initialBodies]
  rw [hsum]
  norm_num

end

/-! ### The conservation laws -/

section

variable {K : Type u} [Field K] [DecidableEq K] {length : Vector3 K → K} {n : Nat}
  {bodies : Vector (Body K) n}

/-- **The momentum is kept and the weighted positions move with it**, so after
`initState` the momentum is zero and the centre of mass stays where it was. -/
theorem integrate_momentum (hlen : ∀ r, length (-r) = length r) (hm : Massive bodies)
    (timestep : K) (iterations : Nat) :
    totalMomentum (integrate length bodies timestep iterations) = totalMomentum bodies ∧
    weightedPositions (integrate length bodies timestep iterations) =
      weightedPositions bodies + (timestep * iterations) • totalMomentum bodies ∧
    (totalMass bodies ≠ 0 → ∀ ticks : Nat,
      totalMomentum ((tick length)^[ticks] (initState bodies)) = 0 ∧
      centerOfMass ((tick length)^[ticks] (initState bodies)) = centerOfMass bodies) := by
  refine ⟨integrate_totalMomentum hlen hm iterations,
    integrate_weightedPositions hlen hm iterations, ?_⟩
  intro hM ticks
  obtain ⟨hmass, hpositions, hmassive⟩ := @initState_kept K _ n bodies
  obtain ⟨hmomentum, hcentre⟩ :=
    tick_atRest hlen ticks (initState bodies) (hmassive hm) (initState_momentum hM)
  refine ⟨hmomentum, hcentre.trans ?_⟩
  unfold centerOfMass
  rw [hmass, hpositions]

/-- A second of ticks of the bodies on the loading page. -/
theorem integrate_momentum_initialBodies :
    totalMomentum (integrate Vector3.length (initialBodies ℝ) 10000 100) =
      totalMomentum (initialBodies ℝ) ∧
    totalMomentum ((tick Vector3.length)^[60] (initState (initialBodies ℝ))) = 0 ∧
    centerOfMass ((tick Vector3.length)^[60] (initState (initialBodies ℝ))) =
      centerOfMass (initialBodies ℝ) := by
  obtain ⟨hmomentum, -, hticks⟩ :=
    integrate_momentum Vector3.length_neg massive_initialBodies 10000 100
  exact ⟨hmomentum, hticks totalMass_initialBodies 60⟩

/-- **The angular momentum is kept**, with any timestep. -/
theorem integrate_angular (hlen : ∀ r, length (-r) = length r) (hm : Massive bodies)
    (timestep : K) (iterations : Nat) :
    totalAngularMomentum (integrate length bodies timestep iterations) =
      totalAngularMomentum bodies := by
  show (particles (integrate length bodies timestep iterations)).angular crossProduct = _
  rw [particles_integrate hlen,
    Particles.angular_run cross_self iterations (p := particles bodies) hm]
  rfl

theorem integrate_angular_initialBodies :
    totalAngularMomentum (integrate Vector3.length (initialBodies ℝ) 10000 100) =
      totalAngularMomentum (initialBodies ℝ) :=
  integrate_angular Vector3.length_neg massive_initialBodies 10000 100

end

end GoodOmens.Widgets
