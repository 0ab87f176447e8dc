import GoodOmens.App.Submit
import GoodOmens.Forms.Google

/-!
# A press of the Google button, seen from the button and from the app

`Forms/Google.lean` follows `onPressed` through its calls; the app cuts it at them.
`google_refines` joins the two: if nothing else happens between the steps of the app, they
leave the navigator that the handler leaves, and ask the backend for what the handler asks.

An exception that the `catch` of the button swallows is for the app an answer without a user.
-/

namespace GoodOmens.App

open Forms.Google (Answers ButtonState Ending GoogleUser World onPressed pressed)

/-- The steps of the app that a press is.  `create` is how `createUser` ends, should it be
called; its result is dropped. -/
def googleActs (i : Nat) (σ : GoogleUser → Session) (a : Answers) (create : Outcome) :
    Ending → List Act
  | .signedIn user =>
    [.signInWithGoogle, .googleAnswer i (some (user.uid, (σ user).emailVerified)),
      .checkAnswer i (σ user) a.check true] ++
      if a.check.Answered 404 then [.createAnswer i (σ user) create true] else []
  | .nobody | .failed _ | .threw _ => [.signInWithGoogle, .googleAnswer i none]

/-- What a step asks of the backend. -/
def Effect.backendCall : Effect → Option (Uid × Bool)
  | getUser id => some (id, false)
  | createUser id => some (id, true)
  | _ => none

/-- What a call of the button asks of the backend. -/
def backendCall : Forms.Google.Call → Option (Uid × Bool)
  | .checkIfFirstTimeLogin id => some (id, false)
  | .createUser id _ _ => some (id, true)
  | _ => none

variable {s t u : AppState} {i : Nat} {es : List Effect} {f : ButtonState} {a : Answers}
  {kIsWeb : Bool}

/-! ### The steps -/

theorem step_signInWithGoogle {p : Page} (hf : s.front = some ⟨i, p⟩) (hp : p.hasGoogleButton) :
    step s .signInWithGoogle = some (s.await (.signInWithGoogle i), []) := by
  show s.signInWithGoogle = _
  rw [AppState.signInWithGoogle, hf]
  exact if_pos hp

theorem step_googleAnswer_none (ht : .signInWithGoogle i ∈ s.tasks) :
    step s (.googleAnswer i none) = some (s.done (.signInWithGoogle i), []) := by
  show s.googleAnswer i none = _
  rw [AppState.googleAnswer, AppState.finish_of_mem ht]
  rfl

theorem step_googleAnswer_some (ht : .signInWithGoogle i ∈ s.tasks) (uid : Uid) (v : Bool) :
    ∃ t, step s (.googleAnswer i (some (uid, v))) = some (t, [.getUser uid]) ∧ t.nav = s.nav ∧
      t.records = s.records ∧ .checkIfFirstTimeLogin i (s.nextSession uid v) ∈ t.tasks := by
  refine ⟨((s.done (.signInWithGoogle i)).establish uid v).await
    (.checkIfFirstTimeLogin i (s.nextSession uid v)), ?_, rfl, rfl, List.mem_cons_self⟩
  show s.googleAnswer i (some (uid, v)) = _
  rw [AppState.googleAnswer, AppState.finish_of_mem ht]
  rfl

/-- The answers of the backend that its records allow. -/
def Consistent (records : List Uid) (o : Outcome) (uid : Uid) : Prop :=
  (o.Answered 200 → uid ∈ records) ∧ (o.Answered 404 → uid ∉ records)

/-- The guard of `checkAnswer` lets the answer through. -/
theorem not_inconsistent {records : List Uid} {o : Outcome} {uid : Uid}
    (ho : Consistent records o uid) :
    ¬ (o.Answered 200 ∧ uid ∉ records ∨ o.Answered 404 ∧ uid ∈ records) := by
  rintro (⟨h200, hu⟩ | ⟨h404, hu⟩)
  · exact hu (ho.1 h200)
  · exact ho.2 h404 hu

theorem step_checkAnswer_known {σ : Session} {o : Outcome}
    (ht : .checkIfFirstTimeLogin i σ ∈ s.tasks) (hi : (s.nav.find i).isSome)
    (ho : Consistent s.records o σ.uid) (hfirst : ¬ o.Answered 404) :
    ∃ t, step s (.checkAnswer i σ o true) = some (t, [.openCover .google σ]) ∧
      t.nav = s.nav.pushReplacement (.cover none) := by
  refine ⟨(s.done (.checkIfFirstTimeLogin i σ)).pushReplacement (.cover none), ?_, rfl⟩
  show s.checkAnswer i σ o true = _
  rw [AppState.checkAnswer, AppState.finish_of_mem ht, Option.bind_eq_bind, Option.bind_some]
  refine (if_neg (not_inconsistent ho)).trans ?_
  rw [if_neg (fun h => hfirst (UserService.checkIfFirstTimeLogin_eq_true.mp h)),
    show (true && ((s.done (.checkIfFirstTimeLogin i σ)).nav.find i).isSome) = true from hi]
  rfl

theorem step_checkAnswer_first {σ : Session} {o : Outcome}
    (ht : .checkIfFirstTimeLogin i σ ∈ s.tasks) (ho : Consistent s.records o σ.uid)
    (hfirst : o.Answered 404) :
    ∃ t, step s (.checkAnswer i σ o true) = some (t, [.createUser σ.uid]) ∧ t.nav = s.nav ∧
      .createUser i σ ∈ t.tasks := by
  refine ⟨(s.done (.checkIfFirstTimeLogin i σ)).await (.createUser i σ), ?_, rfl,
    List.mem_cons_self⟩
  show s.checkAnswer i σ o true = _
  rw [AppState.checkAnswer, AppState.finish_of_mem ht, Option.bind_eq_bind, Option.bind_some]
  refine (if_neg (not_inconsistent ho)).trans ?_
  rw [if_pos (UserService.checkIfFirstTimeLogin_eq_true.mpr hfirst)]

theorem step_createAnswer {σ : Session} (ht : .createUser i σ ∈ s.tasks)
    (hi : (s.nav.find i).isSome) (o : Outcome) :
    ∃ t, step s (.createAnswer i σ o true) = some (t, [.openCover .google σ]) ∧
      t.nav = s.nav.pushReplacement (.cover none) := by
  refine ⟨((s.done (.createUser i σ)).store σ.uid o).pushReplacement (.cover none), ?_, ?_⟩
  · show s.createAnswer i σ o true = _
    rw [AppState.createAnswer, AppState.finish_of_mem ht, Option.bind_eq_bind, Option.bind_some,
      show (true && ((s.done (.createUser i σ)).nav.find i).isSome) = true from hi]
    rfl
  · rw [AppState.pushReplacement_nav, AppState.store_nav]
    rfl

/-! ### The handler -/

/-- In a world in which nothing happens, the calls leave the navigator alone. -/
theorem run_idle (cs : List Forms.Google.Call) (n : Navigator Page) :
    World.idle.run cs (n, true) = (n, true) := by
  induction cs with
  | nil => rfl
  | cons c cs ih => exact ih

theorem backendCalls_of_google (a : Answers) (kIsWeb : Bool) :
    (a.googleCalls kIsWeb).filterMap backendCall = [] := by
  unfold Answers.googleCalls
  split
  · rfl
  · split
    · rfl
    · rfl
    · rfl

theorem backendCalls_of_backend (a : Answers) (user : GoogleUser) :
    (a.backendCalls user).filterMap backendCall =
      (user.uid, false) :: if a.check.Answered 404 then [(user.uid, true)] else [] := by
  unfold Answers.backendCalls
  split
  · rfl
  · rfl

/-- A press that ends without a user. -/
theorem google_nobody {p : Page} (hf : s.front = some ⟨i, p⟩) (hp : p.hasGoogleButton) :
    ∃ u, app.exec s [.signInWithGoogle, .googleAnswer i none] = some (u, []) ∧
      u.nav = s.nav := by
  have hanswer : step (s.await (.signInWithGoogle i)) (.googleAnswer i none) =
      some ((s.await (.signInWithGoogle i)).done (.signInWithGoogle i), []) :=
    step_googleAnswer_none List.mem_cons_self
  exact ⟨(s.await (.signInWithGoogle i)).done (.signInWithGoogle i),
    exec_step (step_signInWithGoogle hf hp) (exec_step hanswer rfl), rfl⟩

/-- A press that ends with a user. -/
theorem google_signedIn {p : Page} {user : GoogleUser} {emailVerified : Bool} (create : Outcome)
    (hf : s.front = some ⟨i, p⟩) (hp : p.hasGoogleButton)
    (ho : Consistent s.records a.check user.uid) :
    ∃ u es, app.exec s (googleActs i (fun user => s.nextSession user.uid emailVerified) a create
        (.signedIn user)) = some (u, es) ∧
      u.nav = s.nav.pushReplacement (.cover none) ∧
      es.filterMap Effect.backendCall =
        (user.uid, false) :: if a.check.Answered 404 then [(user.uid, true)] else [] := by
  have hi : (s.nav.find i).isSome := Navigator.isSome_find (AppState.mem_of_front hf)
  obtain ⟨t, hgoogle, htnav, htrecords, ht⟩ := step_googleAnswer_some
    (s := s.await (.signInWithGoogle i)) List.mem_cons_self user.uid emailVerified
  have hti : (t.nav.find i).isSome := by
    rw [htnav]
    exact hi
  have hto : Consistent t.records a.check user.uid := by
    rw [htrecords]
    exact ho
  by_cases hfirst : a.check.Answered 404
  · obtain ⟨u, hcheck, hunav, hu⟩ := step_checkAnswer_first ht hto hfirst
    obtain ⟨v, hcreate, hvnav⟩ :=
      step_createAnswer hu (by rw [hunav]; exact hti) create
    have hacts : googleActs i (fun user => s.nextSession user.uid emailVerified) a create
        (.signedIn user) = [.signInWithGoogle, .googleAnswer i (some (user.uid, emailVerified)),
          .checkAnswer i (s.nextSession user.uid emailVerified) a.check true,
          .createAnswer i (s.nextSession user.uid emailVerified) create true] := by
      unfold googleActs
      dsimp only
      rw [if_pos hfirst]
      rfl
    rw [hacts, if_pos hfirst]
    refine ⟨v, _, exec_step (step_signInWithGoogle hf hp)
      (exec_step hgoogle (exec_step hcheck (exec_step hcreate rfl))), ?_, rfl⟩
    rw [hvnav, hunav, htnav]
    rfl
  · obtain ⟨u, hcheck, hunav⟩ := step_checkAnswer_known ht hti hto hfirst
    have hacts : googleActs i (fun user => s.nextSession user.uid emailVerified) a create
        (.signedIn user) = [.signInWithGoogle, .googleAnswer i (some (user.uid, emailVerified)),
          .checkAnswer i (s.nextSession user.uid emailVerified) a.check true] := by
      unfold googleActs
      dsimp only
      rw [if_neg hfirst]
      rfl
    rw [hacts, if_neg hfirst]
    refine ⟨u, _, exec_step (step_signInWithGoogle hf hp)
      (exec_step hgoogle (exec_step hcheck rfl)), ?_, rfl⟩
    rw [hunav, htnav]
    rfl

/-- **The steps of the app leave the navigator that the handler leaves**, and ask the backend
for the same. -/
theorem google_refines {p : Page} {emailVerified : Bool} (create : Outcome)
    (hf : s.front = some ⟨i, p⟩) (hp : p.hasGoogleButton) (hn : f.nav = s.nav)
    (hm : f.mounted) (hcalls : f.calls = [])
    (ho : ∀ user, a.Gives kIsWeb user → Consistent s.records a.check user.uid) :
    let acts := googleActs i (fun user => s.nextSession user.uid emailVerified) a create
      (a.ending kIsWeb)
    let g := ((onPressed .idle kIsWeb a).exec f).2
    ∃ u es, app.exec s acts = some (u, es) ∧ u.nav = g.nav ∧
      es.filterMap Effect.backendCall = g.calls.filterMap backendCall := by
  have hnobody (hno : ∀ user, ¬ a.Gives kIsWeb user) :
      ∃ u es, app.exec s [.signInWithGoogle, .googleAnswer i none] = some (u, es) ∧
        u.nav = ((onPressed .idle kIsWeb a).exec f).2.nav ∧
        es.filterMap Effect.backendCall =
          ((onPressed .idle kIsWeb a).exec f).2.calls.filterMap backendCall := by
    obtain ⟨u, hu, hunav⟩ := google_nobody hf hp
    obtain ⟨hgcalls, hgnav⟩ := Forms.Google.exec_onPressed_nobody (w := .idle) hm hno
    refine ⟨u, [], hu, ?_, ?_⟩
    · rw [hunav, hgnav, run_idle, hn]
    · rw [hgcalls, hcalls, List.nil_append, backendCalls_of_google]
      rfl
  cases he : a.ending kIsWeb with
  | signedIn user =>
    have hgives := Forms.Google.ending_eq_signedIn.mp he
    obtain ⟨hgcalls, hgnav⟩ := Forms.Google.exec_onPressed_gives (w := .idle) hm hgives
    obtain ⟨u, es, hu, hunav, hes⟩ := google_signedIn create hf hp (ho user hgives)
    refine ⟨u, es, hu, ?_, ?_⟩
    · rw [hunav, hgnav, run_idle, hn]
      rfl
    · rw [hes, hgcalls, hcalls, List.nil_append, List.filterMap_append,
        backendCalls_of_google, backendCalls_of_backend, List.nil_append]
  | nobody =>
    refine hnobody (fun user h => ?_)
    rw [Forms.Google.ending_eq_signedIn.mpr h] at he
    cases he
  | failed content =>
    refine hnobody (fun user h => ?_)
    rw [Forms.Google.ending_eq_signedIn.mpr h] at he
    cases he
  | threw thrown =>
    refine hnobody (fun user h => ?_)
    rw [Forms.Google.ending_eq_signedIn.mpr h] at he
    cases he

/-- The app on its log-in page. -/
def appOnLogin : AppState := { startedByNobody with nav := Forms.Google.onLogin.nav }

/-- A user whom the backend does not know. -/
theorem google_refines_newUser : ∃ u es,
    app.exec appOnLogin (googleActs 1 (fun user => appOnLogin.nextSession user.uid true)
      Forms.Google.newUser (.response 200 "") (Forms.Google.newUser.ending false)) =
        some (u, es) ∧
    u.nav = ((onPressed .idle false Forms.Google.newUser).exec Forms.Google.onLogin).2.nav ∧
    es.filterMap Effect.backendCall = ((onPressed .idle false Forms.Google.newUser).exec
      Forms.Google.onLogin).2.calls.filterMap backendCall := by
  refine google_refines (s := appOnLogin) (p := .login) (.response 200 "") rfl rfl rfl rfl rfl ?_
  intro user _
  exact ⟨(fun h => by cases h), (fun _ h => by cases h)⟩

end GoodOmens.App
