import GoodOmens.App.Lowest

/-!
# What the answer to a form takes off

The rest of `signIn`, `signUp` and `resetPassword` runs when the call of the form comes back,
and pops the page on top for its own loading dialog.  The dialog may be gone by then, since
the system back button takes it off; another page may stand over the form; and the form may
be moving out, with nothing of its own left on the stack.

A form on the stack that waits is not the lowest page, whatever has happened, so a pop takes
off the form or what stands over it.  Only a success of `signIn` takes off two, and then the
page below goes too exactly if the form itself is on top.  A form that is moving out has to
find as many newer routes on top as its answer takes off (`along_keepsBelow_iff`).
-/

namespace GoodOmens.App

open Navigator

/-- The answer to a form takes off nothing older than the form. -/
def KeepsBelow (t : Screen) (b : Screen.Act) (t' : Screen) (_ : List Effect) : Prop :=
  ∀ a i, b = .app a → a.form = some i → ∀ r, Removed t.app.nav t'.app.nav r → i ≤ r.id

/-- What the answer to a form must find: over a form on the stack whose sign-in succeeds
another page, and in the place of a form that is moving out newer pages. -/
structure Covered (t : Screen) (b : Screen.Act) : Prop where
  standing : ∀ i uid emailVerified, b = .app (.signInAnswer i (.success uid emailVerified)) →
    t.find i = none → t.app.mounted i → ∃ r, t.app.nav.top = some r ∧ r.id ≠ i
  leaving : ∀ a i, b = .app a → a.form = some i → (t.find i).isSome →
    ∀ j ∈ t.app.nav.ids.take a.takesOff, i ≤ j

variable {s s' : AppState} {t t' : Screen} {a : Act} {b : Screen.Act} {es : List Effect} {i : Nat}

theorem owner_of_form (h : a.form = some i) : a.owner = some i := by
  cases a with
  | signInAnswer | signUpAnswer | signInMethodsAnswer | resetAnswer => exact h
  | _ => cases h

/-! ### A form on the stack -/

/-- The answers to a form, by what they take off. -/
theorem drops_form (ha : a.form = some i) : s.popsTheme a = none ∧
    (s.drops a = 0 ∨ s.mounted i ∧ s.drops a = 1 ∨
      s.mounted i ∧ (∃ uid v, a = .signInAnswer i (.success uid v)) ∧ s.drops a = 2) := by
  have hite {k : Nat} (c : Prop) [Decidable c] (hc : c → s.mounted i) (hk : k = 0 ∨ k = 1 ∨
      (∃ uid v, a = .signInAnswer i (.success uid v)) ∧ k = 2) :
      (if c then k else 0) = 0 ∨ s.mounted i ∧ (if c then k else 0) = 1 ∨
        s.mounted i ∧ (∃ uid v, a = .signInAnswer i (.success uid v)) ∧
          (if c then k else 0) = 2 := by
    by_cases h : c
    · rw [if_pos h]
      rcases hk with hk | hk | ⟨hs, hk⟩
      · exact .inl hk
      · exact .inr (.inl ⟨hc h, hk⟩)
      · exact .inr (.inr ⟨hc h, hs, hk⟩)
    · rw [if_neg h]
      exact .inl rfl
  cases a with
  | signInAnswer j answer =>
    obtain rfl := Option.some.inj ha
    refine ⟨rfl, hite _ id ?_⟩
    cases answer with
    | success uid v => exact .inr (.inr ⟨⟨uid, v, rfl⟩, rfl⟩)
    | authException => exact .inr (.inl rfl)
    | exception => exact .inl rfl
  | signUpAnswer j answer =>
    obtain rfl := Option.some.inj ha
    exact ⟨rfl, hite _ id (.inr (.inl rfl))⟩
  | signInMethodsAnswer j isEmpty => exact ⟨rfl, .inl rfl⟩
  | resetAnswer j answer =>
    obtain rfl := Option.some.inj ha
    exact ⟨rfl, hite _ And.left (.inr (.inl rfl))⟩
  | _ => cases ha

/-- A success of `signIn` takes off the page below the form, if the form is on top. -/
theorem top_of_keeps {uid : Uid} {v : Bool} (hf : FormsStand s)
    (h : step s (.signInAnswer i (.success uid v)) = some (s', es)) (hm : s.mounted i)
    (hk : ∀ r, Removed s.nav s'.nav r → i ≤ r.id) : ∃ r, s.nav.top = some r ∧ r.id ≠ i := by
  have htask : .signIn i ∈ s.tasks := (AppState.finish_bind h).1
  have hlen := two_le_of_form hf htask rfl hm
  obtain ⟨x, y, rest, hh⟩ : ∃ x y rest, s.nav.history = x :: y :: rest := by
    match hh : s.nav.history, hlen with
    | x :: y :: rest, _ => exact ⟨x, y, rest, rfl⟩
  refine ⟨x, by rw [top, hh]; rfl, ?_⟩
  rintro rfl
  have hlt : y.id < x.id := by
    have hfalling := s.nav.falling
    rw [hh] at hfalling
    exact (List.pairwise_cons.mp hfalling).1 y List.mem_cons_self
  have hy : y ∈ s.nav.history := by
    rw [hh]
    exact List.mem_cons_of_mem _ List.mem_cons_self
  have hremoved : Removed s.nav s'.nav y := by
    refine (removed_of_drops (drops_step h) hy).mpr ?_
    have hdrops : s.drops (.signInAnswer x.id (.success uid v)) = 2 := if_pos hm
    rw [hdrops, ids, hh]
    exact List.mem_cons_of_mem _ List.mem_cons_self
  exact Nat.lt_irrefl _ (Nat.lt_of_lt_of_le hlt (hk y hremoved))

/-- The other answers leave what is below, and so does a success that finds a page over the
form. -/
theorem keeps_of_top (h : step s a = some (s', es)) (ha : a.form = some i)
    (htop : ∀ uid v, a = .signInAnswer i (.success uid v) → s.mounted i →
      ∃ r, s.nav.top = some r ∧ r.id ≠ i) :
    ∀ r, Removed s.nav s'.nav r → i ≤ r.id := by
  intro r hr
  have hmem := (removed_of_drops (drops_step h) hr.1).mp hr
  obtain ⟨hno, hzero | ⟨hm, hone⟩ | ⟨hm, ⟨uid, v, rfl⟩, htwo⟩⟩ := drops_form (s := s) ha
  · rw [hno, hzero] at hmem
    cases hmem
  · rw [hno, hone] at hmem
    obtain ⟨p, hp⟩ := Option.isSome_iff_exists.mp hm
    exact le_of_mem_take_one (id_mem_ids (mem_of_find hp)) hmem
  · rw [hno, htwo] at hmem
    obtain ⟨p, hp⟩ := Option.isSome_iff_exists.mp hm
    exact le_of_mem_take_two (id_mem_ids (mem_of_find hp)) (htop uid v rfl hm) hmem

/-! ### A form that is moving out -/

/-- A late answer takes off as many routes as it takes off on the stack, whichever they are. -/
theorem keeps_late_iff {p : Page} (h : s.late p a = some (s', es)) (ha : a.form = some i) :
    (∀ r, Removed s.nav s'.nav r → i ≤ r.id) ↔ ∀ j ∈ s.nav.ids.take a.takesOff, i ≤ j := by
  have hd := drops_late h
  rw [dropsLate_of_form (Option.isSome_of_eq_some ha)] at hd
  constructor
  · intro hkeep j hj
    obtain ⟨r, hr, rfl⟩ := List.mem_map.mp (List.mem_of_mem_take hj)
    exact hkeep r ((removed_of_drops hd hr).mpr hj)
  · intro htake r hr
    exact htake r.id ((removed_of_drops hd hr.1).mp hr)

/-! ### The main result -/

/-- One step on the screen. -/
theorem keepsBelow_iff (hf : FormsStand t.app) (h : t.step b = some (t', es)) :
    KeepsBelow t b t' es ↔ Covered t b := by
  constructor
  · intro hk
    refine ⟨?_, ?_⟩
    · rintro i uid v rfl hno hm
      obtain ⟨-, ⟨-, hst, -⟩ | ⟨r, hl, -⟩⟩ := appStep_cases h
      · exact top_of_keeps hf hst hm (hk _ i rfl rfl)
      · obtain ⟨ho, hfind⟩ := late_eq_some.mp hl
        obtain rfl : i = r.id := Option.some.inj ho
        rw [hno] at hfind
        cases hfind
    · rintro a i rfl ha hfind
      obtain ⟨-, ⟨hl, -⟩ | ⟨r, -, hst, -⟩⟩ := appStep_cases h
      · rw [find_of_not_late hl (owner_of_form ha)] at hfind
        cases hfind
      · exact (keeps_late_iff hst ha).mp (hk a i rfl ha)
  · rintro hc a i rfl ha
    obtain ⟨-, ⟨hl, hst, -⟩ | ⟨r, hl, hst, -⟩⟩ := appStep_cases h
    · refine keeps_of_top hst ha ?_
      rintro uid v rfl hm
      exact hc.standing i uid v rfl (find_of_not_late hl rfl) hm
    · obtain ⟨ho, hfind⟩ := late_eq_some.mp hl
      rw [owner_of_form ha] at ho
      obtain rfl : i = r.id := Option.some.inj ho
      exact (keeps_late_iff hst ha).mpr
        (hc.leaving a r.id rfl ha (Option.isSome_of_eq_some hfind))

/-- **The answer to a form takes off nothing below the form, exactly in the runs in which a
sign-in that succeeds finds something over its form, and the answer to a form that is moving
out as many newer pages as it takes off.** -/
theorem along_keepsBelow_iff (h : screen.start t) (bs : List Screen.Act) :
    screen.Along KeepsBelow t bs ↔ screen.Along (Machine.before Covered) t bs := by
  refine Machine.along_iff (Stands (fun p => p.isForm = false)) ?_ ?_ bs t
    (stands_start base_noForm h)
  · intro t b t' es hi hst
    exact keepsBelow_iff hi.forms hst
  · intro t b t' es hi _ hst
    exact stands_step base_noForm hi (fun _ _ hp => Page.isForm_of_isVerse hp) hst

/-- The dialog is dismissed before the sign-in succeeds, and the page below the form goes. -/
theorem not_along_keepsBelow_dismissed :
    ¬ screen.Along KeepsBelow (.of startedByNobody)
      ([.app .frame, .app (.open .login), .app .signIn, .app .systemBack] ++
        [.app (.signInAnswer 2 (.success "u" true))]) := by
  intro h
  have hlast := Machine.Along.last h rfl rfl
  have hle := hlast _ 2 rfl rfl ⟨1, .profileNav false .auth⟩
    ⟨List.mem_cons_of_mem _ List.mem_cons_self, by decide⟩
  exact absurd hle (by decide)

/-- The form is left as well, and a failure takes off the page below while it is moving out. -/
theorem not_along_keepsBelow_movingOut :
    ¬ screen.Along KeepsBelow (.of startedByNobody)
      ([.app .frame, .app (.open .login), .app .signIn, .app .systemBack, .app .backButton] ++
        [.app (.signInAnswer 2 .authException)]) := by
  rw [along_keepsBelow_iff (start_of starts_startedByNobody)]
  intro h
  have hlast := Machine.Along.last h rfl rfl
  have hle := hlast.leaving _ 2 rfl rfl rfl 1 List.mem_cons_self
  exact absurd hle (by decide)

end GoodOmens.App
