import GoodOmens.Widgets.ThreeBody

/-!
# The same motion, watched otherwise

`integrate` knows nothing of where the origin is, which way the axes point, how fast the
watcher moves and in which order the bodies stand in the list.  Each of these is a change of
the bodies before the run (`Body.seen`, `reorder`), and `integrate_seen` and `integrate_reorder`
say that the same change of the bodies after the run comes out.

What `initState` takes away from every velocity is such a change, so it does not alter how the
bodies move among themselves (`initState_relative`): the loading page shows the motion that
the list describes, only without the drift.

The steps of the particles do the work (`Library/Mechanics.lean`), and a list of bodies is
told by its particles.
-/

namespace GoodOmens.Widgets

universe u

section

variable {K : Type u} {n : Nat} {bodies bodies' : Vector (Body K) n}

/-- The bodies in another order. -/
def reorder (σ : Equiv.Perm (Fin n)) (bodies : Vector (Body K) n) : Vector (Body K) n :=
  Vector.ofFn (fun i => bodies[σ i])

theorem particles_reorder (σ : Equiv.Perm (Fin n)) (bodies : Vector (Body K) n) :
    particles (reorder σ bodies) = (particles bodies).reorder σ := by
  simp [particles, Particles.reorder, reorder]

theorem eq_of_particles (h : particles bodies = particles bodies') : bodies = bodies' := by
  have hbody : ∀ b b' : Body K, b.mass = b'.mass → b.position = b'.position →
      b.velocity = b'.velocity → b = b' := by
    rintro ⟨_, _, _⟩ ⟨_, _, _⟩ rfl rfl rfl
    rfl
  refine Vector.ext ?_
  intro i hi
  exact hbody _ _ (congrFun (congrArg Particles.mass h) ⟨i, hi⟩)
    (congrFun (congrArg Particles.position h) ⟨i, hi⟩)
    (congrFun (congrArg Particles.velocity h) ⟨i, hi⟩)

end

section

variable {K : Type u} [Field K] {n : Nat}

/-- The body as a frame shows it. -/
def Body.seen (F : Frame K (Vector3 K)) (body : Body K) : Body K where
  position := F.map body.position + F.shift
  velocity := F.map body.velocity + F.speed
  mass := body.mass

theorem particles_map_seen (F : Frame K (Vector3 K)) (bodies : Vector (Body K) n) :
    particles (bodies.map (Body.seen F)) = (particles bodies).seen F := by
  simp [particles, Particles.seen, Body.seen]

/-- The way from a body to another, and the velocity of the other as the first sees it. -/
def relative (bodies : Vector (Body K) n) (i j : Fin n) : Vector3 K × Vector3 K :=
  ((bodies.get j).position - (bodies.get i).position,
    (bodies.get j).velocity - (bodies.get i).velocity)

/-- A frame that only moves shows the bodies in the same way to each other. -/
theorem relative_map_seen {F : Frame K (Vector3 K)} (hF : F.map = LinearMap.id)
    (bodies : Vector (Body K) n) (i j : Fin n) :
    relative (bodies.map (Body.seen F)) i j = relative bodies i j := by
  have hget (k : Fin n) : (bodies.map (Body.seen F)).get k = Body.seen F (bodies.get k) :=
    Vector.getElem_map (Body.seen F) k.isLt
  simp [relative, hget, Body.seen, hF]

/-- The frame in which the centre of mass does not move. -/
def centreFrame (bodies : Vector (Body K) n) : Frame K (Vector3 K) where
  map := LinearMap.id
  shift := 0
  speed := -((1 / totalMass bodies) • totalMomentum bodies)

/-- **`initState` changes the frame.** -/
theorem initState_eq_map_seen (bodies : Vector (Body K) n) :
    initState bodies = bodies.map (Body.seen (centreFrame bodies)) := by
  rw [initState_eq]
  refine Vector.ext ?_
  intro i hi
  simp [Body.seen, centreFrame, sub_eq_add_neg]

end

section

variable {K : Type u} [Field K] [DecidableEq K] {length : Vector3 K → K} {n : Nat}

/-- The gravitation is the same in a frame that keeps lengths. -/
theorem sameIn_gravitation (hlen : ∀ r, length (-r) = length r)
    {e : Vector3 K →ₗ[K] Vector3 K} (he : ∀ r, length (e r) = length r) :
    (gravitation length hlen n).SameIn e := by
  intro shift speed p i j
  have hdist : length ((p.seen ⟨e, shift, speed⟩).position j -
      (p.seen ⟨e, shift, speed⟩).position i) = length (p.position j - p.position i) := by
    show length (e (p.position j) + shift - (e (p.position i) + shift)) = _
    rw [add_sub_add_right_eq_sub, ← map_sub, he]
  simp only [gravitation, hdist]
  rfl

theorem unordered_gravitation (hlen : ∀ r, length (-r) = length r) (σ : Equiv.Perm (Fin n)) :
    (gravitation length hlen n).Unordered σ := fun _ _ _ => rfl

variable (bodies : Vector (Body K) n)

/-- **Turned, shifted and in motion, the bodies make the same run.** -/
theorem integrate_seen (hlen : ∀ r, length (-r) = length r) (F : Frame K (Vector3 K))
    (hF : ∀ r, length (F.map r) = length r) (timestep : K) (iterations : Nat) :
    integrate length (bodies.map (Body.seen F)) timestep iterations =
      (integrate length bodies timestep iterations).map
        (Body.seen (F.after (timestep * iterations))) := by
  apply eq_of_particles
  rw [particles_integrate hlen, particles_map_seen, particles_map_seen, particles_integrate hlen]
  exact Particles.run_seen iterations (particles bodies) (sameIn_gravitation hlen hF)

/-- **The order of the bodies in the list is of no account.** -/
theorem integrate_reorder (hlen : ∀ r, length (-r) = length r) (σ : Equiv.Perm (Fin n))
    (timestep : K) (iterations : Nat) :
    integrate length (reorder σ bodies) timestep iterations =
      reorder σ (integrate length bodies timestep iterations) := by
  apply eq_of_particles
  rw [particles_integrate hlen, particles_reorder, particles_reorder, particles_integrate hlen]
  exact Particles.run_reorder (unordered_gravitation hlen σ) iterations (particles bodies)

/-- The ticks are one long run of the particles. -/
theorem particles_ticks (hlen : ∀ r, length (-r) = length r) (ticks : Nat) :
    ∀ bodies : Vector (Body K) n, particles ((tick length)^[ticks] bodies) =
      (particles bodies).run (gravitation length hlen n) 10000 (100 * ticks) := by
  induction ticks with
  | zero => intro bodies; rfl
  | succ ticks ih =>
    intro bodies
    have htick : particles (tick length bodies) =
        (particles bodies).run (gravitation length hlen n) 10000 100 :=
      particles_integrate hlen 100
    rw [Function.iterate_succ_apply, ih, htick]
    exact (Function.iterate_add_apply _ (100 * ticks) 100 (particles bodies)).symm

/-- The ticks in a frame that only moves. -/
theorem ticks_seen (hlen : ∀ r, length (-r) = length r) (ticks : Nat) {F : Frame K (Vector3 K)}
    (hF : F.map = LinearMap.id) :
    (tick length)^[ticks] (bodies.map (Body.seen F)) =
      ((tick length)^[ticks] bodies).map
        (Body.seen (F.after (10000 * ((100 * ticks : Nat) : K)))) := by
  have hsame : (gravitation length hlen n).SameIn F.map := by
    refine sameIn_gravitation hlen (fun r => ?_)
    rw [hF]
    rfl
  apply eq_of_particles
  rw [particles_ticks hlen, particles_map_seen, particles_map_seen, particles_ticks hlen]
  exact Particles.run_seen (100 * ticks) (particles bodies) hsame

/-- **Without the drift, the bodies move among themselves as before.** -/
theorem initState_relative (hlen : ∀ r, length (-r) = length r) (ticks : Nat) (i j : Fin n) :
    relative ((tick length)^[ticks] (initState bodies)) i j =
      relative ((tick length)^[ticks] bodies) i j := by
  rw [initState_eq_map_seen, ticks_seen bodies hlen ticks rfl]
  exact relative_map_seen rfl _ i j

end

/-! ### The bodies of the loading page -/

section

/-- The mirror that swaps the first and the last axis. -/
def mirror : Vector3 ℝ →ₗ[ℝ] Vector3 ℝ := LinearMap.funLeft ℝ ℝ Fin.rev

theorem length_mirror (r : Vector3 ℝ) : Vector3.length (mirror r) = Vector3.length r := by
  have hrev : ∀ i, mirror r i = r i.rev := fun _ => rfl
  have h0 : (0 : Fin 3).rev = 2 := rfl
  have h1 : (1 : Fin 3).rev = 1 := rfl
  have h2 : (2 : Fin 3).rev = 0 := rfl
  unfold Vector3.length
  rw [hrev, hrev, hrev, h0, h1, h2]
  congr 1
  ring

theorem integrate_seen_initialBodies :
    integrate Vector3.length ((initialBodies ℝ).map (Body.seen ⟨mirror, ![1, 2, 3], ![4, 5, 6]⟩))
        10000 100 =
      (integrate Vector3.length (initialBodies ℝ) 10000 100).map
        (Body.seen (Frame.after ⟨mirror, ![1, 2, 3], ![4, 5, 6]⟩ (10000 * (100 : Nat)))) :=
  integrate_seen (initialBodies ℝ) Vector3.length_neg ⟨mirror, ![1, 2, 3], ![4, 5, 6]⟩
    length_mirror 10000 100

theorem integrate_reorder_initialBodies :
    integrate Vector3.length (reorder (Equiv.swap 0 2) (initialBodies ℝ)) 10000 100 =
      reorder (Equiv.swap 0 2) (integrate Vector3.length (initialBodies ℝ) 10000 100) :=
  integrate_reorder (initialBodies ℝ) Vector3.length_neg (Equiv.swap 0 2) 10000 100

/-- The first two bodies of the list, after a second of ticks. -/
theorem initState_relative_initialBodies :
    relative ((tick Vector3.length)^[60] (initState (initialBodies ℝ))) 0 1 =
      relative ((tick Vector3.length)^[60] (initialBodies ℝ)) 0 1 :=
  initState_relative (initialBodies ℝ) Vector3.length_neg 60 0 1

end

end GoodOmens.Widgets
