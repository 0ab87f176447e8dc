import GoodOmens.App.Inversion

/-!
# Log Out ends its own session

One press of Log Out starts two sign-outs and waits for neither.  Each clears
whatever session is current when it comes back, and until the first has come
back the session that was logged out is still there, for the login page to find.
So two things can go wrong: a session established since then is ended
(`EndsEarlier` fails), or a cover page opens for the session being logged out
(`OpensNoLoggedOut` fails).

Both are a matter of what happens while a sign-out is pending.  If no session is
established then, and no cover page is opened while a session is there
(`WaitsForSignOut`), the invariant `SignOutInv` holds: the current session is
older than every pending press, and if it was logged out, a `FirebaseAuth.signOut`
is pending that will clear it.  `along_keepsSessions` is the run theorem.
-/

namespace GoodOmens.App

/-- The session that the step ends, if any, was established before the press. -/
def EndsEarlier (_ : AppState) (_ : Act) (_ : AppState) (es : List Effect) : Prop :=
  ∀ σ press, .signedOut σ press ∈ es → σ.sid < press.before

/-- When the step opens a cover page, the session that the page will find is not
one in which Log Out was pressed. -/
def OpensNoLoggedOut (_ : AppState) (_ : Act) (s' : AppState) (es : List Effect) : Prop :=
  ∀ path σ, .openCover path σ ∈ es →
    ∀ τ, s'.auth.currentUser = some τ → τ.sid ∉ s'.auth.loggedOut

/-- Both. -/
def KeepsSessions (s : AppState) (a : Act) (s' : AppState) (es : List Effect) : Prop :=
  EndsEarlier s a s' es ∧ OpensNoLoggedOut s a s' es

/-- While a sign-out is pending nobody signs in, and no cover page is opened as
long as there is a session. -/
structure WaitsForSignOut (s : AppState) (a : Act) : Prop where
  signsIn : a.signsIn.isSome → s.settled
  opensCover : s.OpensCover a → s.auth.currentUser.isSome → s.settled

/-- The current session and the sign-outs pending for it. -/
structure SignOutInv (s : AppState) : Prop where
  fresh : ∀ σ, s.auth.currentUser = some σ → σ.sid < s.auth.nextSid
  logged : ∀ sid ∈ s.auth.loggedOut, sid < s.auth.nextSid
  earlier : ∀ press ∈ s.auth.signOuts, ∀ σ, s.auth.currentUser = some σ → σ.sid < press.before
  pending : ∀ σ, s.auth.currentUser = some σ → σ.sid ∈ s.auth.loggedOut →
    ∃ press ∈ s.auth.signOuts, press.google = false

variable {s s' : AppState} {a : Act} {es : List Effect}

theorem signOutInv_start (h : Starts s) : SignOutInv s := by
  obtain ⟨-, -, -, -, hs, hl, hf⟩ := h
  exact ⟨hf, by simp [hl], by simp [hs], by simp [hl]⟩

theorem signOutInv_congr (hi : SignOutInv s) (ha : s'.auth = s.auth) : SignOutInv s' := by
  obtain ⟨hf, hl, he, hp⟩ := hi
  exact ⟨ha ▸ hf, ha ▸ hl, ha ▸ he, ha ▸ hp⟩

/-- With no sign-out pending, a new session is younger than every session that
was logged out. -/
theorem signOutInv_establish (hi : SignOutInv s) (hs : s.settled) (uid : Uid) (v : Bool) :
    SignOutInv (s.establish uid v) := by
  have hnone : (s.establish uid v).auth.signOuts = [] := hs
  refine ⟨?_, ?_, ?_, ?_⟩
  · intro σ hσ
    obtain rfl := Option.some.inj hσ
    exact Nat.lt_succ_self _
  · intro sid hsid
    exact Nat.lt_succ_of_lt (hi.logged sid hsid)
  · intro press hpress
    rw [hnone] at hpress
    cases hpress
  · intro σ hσ hlog
    obtain rfl := Option.some.inj hσ
    exact absurd (hi.logged _ hlog) (Nat.lt_irrefl _)

/-- A press starts a sign-out that will clear the current session. -/
theorem signOutInv_signOut (hi : SignOutInv s) : SignOutInv s.signOut := by
  refine ⟨hi.fresh, ?_, ?_, ?_⟩
  · intro sid hsid
    rcases List.mem_append.mp hsid with hcur | hold
    · obtain ⟨σ, hσ, rfl⟩ := Option.map_eq_some_iff.mp (Option.mem_toList.mp hcur)
      exact hi.fresh σ hσ
    · exact hi.logged sid hold
  · intro press hpress σ hσ
    rcases List.mem_cons.mp hpress with rfl | hpress
    · exact hi.fresh σ hσ
    rcases List.mem_cons.mp hpress with rfl | hpress
    · exact hi.fresh σ hσ
    · exact hi.earlier press hpress σ hσ
  · intro σ _ _
    exact ⟨⟨s.auth.nextSid, false⟩, by simp [AppState.signOut], rfl⟩

/-- **One step keeps the invariant.** -/
theorem signOutInv_step (hi : SignOutInv s) (hg : WaitsForSignOut s a)
    (h : step s a = some (s', es)) : SignOutInv s' := by
  obtain ⟨ha, -⟩ | ⟨uid, v, hin, ha⟩ | ⟨τ, v, hτ, -, ha⟩ | ⟨-, ha⟩ |
    ⟨b, rest, -, hb, hrest, ha⟩ | ⟨b, -, hb, ha⟩ := auth_cases h
  · exact signOutInv_congr hi ha
  · have hs := hg.signsIn (by rw [hin]; rfl)
    exact signOutInv_congr (signOutInv_establish hi hs uid v) ha
  · -- a reload changes the flag of the session, not its identity
    refine ⟨?_, ?_, ?_, ?_⟩ <;> rw [ha]
    · rintro σ ⟨⟩
      exact hi.fresh τ hτ
    · exact hi.logged
    · rintro press hpress σ ⟨⟩
      exact hi.earlier press hpress τ hτ
    · rintro σ ⟨⟩
      exact hi.pending τ hτ
  · exact signOutInv_congr (signOutInv_signOut hi) ha
  · have hsub : ∀ press ∈ rest, press ∈ s.auth.signOuts ∨ press = ⟨b, false⟩ := by
      intro press hpress
      rcases hrest with rfl | rfl
      · exact .inl (List.mem_of_mem_erase hpress)
      · rcases List.mem_cons.mp hpress with hp | hp
        · exact .inr hp
        · exact .inl (List.mem_of_mem_erase hp)
    refine ⟨?_, ?_, ?_, ?_⟩ <;> rw [ha]
    · exact hi.fresh
    · exact hi.logged
    · intro press hpress σ hσ
      rcases hsub press hpress with hp | rfl
      · exact hi.earlier press hp σ hσ
      · exact hi.earlier ⟨b, true⟩ hb σ hσ
    · -- what comes back is Google's, so the press that is still to clear stays
      intro σ hσ hlog
      obtain ⟨press, hp, hf⟩ := hi.pending σ hσ hlog
      refine ⟨press, ?_, hf⟩
      have hne : press ≠ ⟨b, true⟩ := by
        rintro rfl
        cases hf
      have hmem := (List.mem_erase_of_ne hne).mpr hp
      rcases hrest with rfl | rfl
      · exact hmem
      · exact List.mem_cons_of_mem _ hmem
  · refine ⟨?_, ?_, ?_, ?_⟩ <;> rw [ha]
    · rintro σ ⟨⟩
    · exact hi.logged
    · rintro press - σ ⟨⟩
    · rintro σ ⟨⟩

/-- With no sign-out pending the current session was not logged out. -/
theorem not_mem_loggedOut (hi : SignOutInv s) (hs : s.settled) {σ : Session}
    (hσ : s.auth.currentUser = some σ) : σ.sid ∉ s.auth.loggedOut := by
  intro hlog
  obtain ⟨press, hp, -⟩ := hi.pending σ hσ hlog
  rw [AppState.settled] at hs
  rw [hs] at hp
  cases hp

/-- What a step ends was there before every press that is pending. -/
theorem endsEarlier_of_inv (hi : SignOutInv s) (h : step s a = some (s', es)) :
    EndsEarlier s a s' es := by
  intro σ press hm
  obtain ⟨rfl, hσ⟩ := signedOut_of_mem h hm
  obtain ⟨hb, -, -⟩ := AppState.firebaseSignedOut_inv h
  exact hi.earlier _ hb σ hσ

/-- A step that opens a cover page on a session leaves no sign-out pending. -/
theorem settled_of_opensCover (hg : WaitsForSignOut s a) (h : step s a = some (s', es))
    (ho : s.OpensCover a) {τ : Session} (hτ : s'.auth.currentUser = some τ) : s'.settled := by
  obtain ⟨ha, -⟩ | ⟨uid, v, hin, ha⟩ | ⟨σ, v, hσ, -, ha⟩ | ⟨rfl, -⟩ |
    ⟨b, rest, -, hb, -, ha⟩ | ⟨b, rfl, -, -⟩ := auth_cases h
  · rw [ha] at hτ
    rw [AppState.settled, ha]
    exact hg.opensCover ho (by rw [hτ]; rfl)
  · rw [AppState.settled, ha]
    exact hg.signsIn (by rw [hin]; rfl)
  · rw [AppState.settled, ha]
    exact hg.opensCover ho (by rw [hσ]; rfl)
  · exact ho.elim
  · rw [ha] at hτ
    have hs := hg.opensCover ho (by rw [show s.auth.currentUser = some τ from hτ]; rfl)
    rw [AppState.settled] at hs
    rw [hs] at hb
    cases hb
  · exact ho.elim

/-- A cover page finds a session that was not logged out. -/
theorem opensNoLoggedOut_of_inv (hi : SignOutInv s) (hg : WaitsForSignOut s a)
    (h : step s a = some (s', es)) : OpensNoLoggedOut s a s' es := by
  intro path σ hm τ hτ
  have hs := settled_of_opensCover hg h (opensCover_of_mem h hm) hτ
  exact not_mem_loggedOut (signOutInv_step hi hg h) hs hτ

/-- **Log Out ends its own session only, in every run that waits for the
sign-outs.** -/
theorem along_keepsSessions {s : AppState} (h : Starts s) (as : List Act)
    (hg : app.Along (Machine.before WaitsForSignOut) s as) : app.Along KeepsSessions s as := by
  refine Machine.along_of_inv SignOutInv ?_ as s (signOutInv_start h) hg
  intro s a s' es hi hg hst
  exact ⟨⟨endsEarlier_of_inv hi hst, opensNoLoggedOut_of_inv hi hg hst⟩,
    signOutInv_step hi hg hst⟩

/-- A step that neither signs in nor opens a cover page waits for nothing. -/
theorem along_cons_neither {as : List Act} (h : step s a = some (s', es))
    (hs : a.signsIn = none) (ho : ¬ s.OpensCover a)
    (hrest : app.Along (Machine.before WaitsForSignOut) s' as) :
    app.Along (Machine.before WaitsForSignOut) s (a :: as) := by
  refine (Machine.along_cons h as).mpr ⟨⟨fun hin => ?_, fun hop => absurd hop ho⟩, hrest⟩
  rw [hs] at hin
  cases hin

/-- Log Out, all its sign-outs, and only then a sign-in. -/
theorem along_keepsSessions_signInAgain :
    app.Along KeepsSessions (startedBy "a" ["a"])
      [.frame, .openMenu, .logOut, .firebaseSignedOut 1, .googleSignedOut 1 true,
        .firebaseSignedOut 1, .open .login, .signIn, .signInAnswer 3 (.success "b" true)] := by
  refine along_keepsSessions (starts_startedBy _ _) _ ?_
  refine along_cons_neither rfl rfl (fun h => h) ?_
  refine along_cons_neither rfl rfl (fun h => h) ?_
  refine along_cons_neither rfl rfl (fun h => h) ?_
  refine along_cons_neither rfl rfl (fun h => h) ?_
  refine along_cons_neither rfl rfl (fun h => h) ?_
  refine along_cons_neither rfl rfl (fun h => h) ?_
  refine along_cons_neither rfl rfl (fun h => h) ?_
  refine along_cons_neither rfl rfl (fun h => h) ?_
  exact (Machine.along_cons rfl _).mpr ⟨⟨fun _ => rfl, fun _ _ => rfl⟩, trivial⟩

/-- A Google sign-out that comes back after the next sign-in ends that session,
and the login page redirects to a cover page while the session that was logged
out is still there. -/
theorem not_along_keepsSessions :
    (¬ ∀ s, Starts s → ∀ as, app.Along EndsEarlier s as) ∧
    ¬ ∀ s, Starts s → ∀ as, app.Along OpensNoLoggedOut s as := by
  constructor
  · intro h
    have hrun := h (startedBy "a" ["a"]) (starts_startedBy _ _)
      ([.frame, .openMenu, .logOut, .firebaseSignedOut 1, .open .login, .signIn,
        .signInAnswer 3 (.success "a" true), .googleSignedOut 1 true] ++ [.firebaseSignedOut 1])
    have hlast := Machine.Along.last hrun rfl rfl
    exact absurd (hlast ⟨1, "a", true⟩ ⟨1, false⟩ (by decide)) (by decide)
  · intro h
    have hrun := h (startedBy "a" ["a"]) (starts_startedBy _ _)
      ([.frame, .openMenu, .logOut, .open .login] ++ [.initializeFirebase 3])
    have hlast := Machine.Along.last hrun rfl rfl
    exact hlast .redirect ⟨0, "a", true⟩ (by decide) ⟨0, "a", true⟩ rfl (by decide)

end GoodOmens.App
