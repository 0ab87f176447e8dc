import GoodOmens.App.Inversion
import GoodOmens.Forms.Handlers

/-!
# A form that is submitted, seen from the page and from the app

`Forms/Handlers.lean` runs `signIn`, `signUp` and `resetPassword` from the press of the
button to their end, on the navigator and with what is thrown; the app cuts them at
their awaits and knows of an outcome only its kind.  `submit_refines` joins the two: if
nothing else happens between the steps of the app, they leave the navigator that the
handler leaves.
-/

namespace GoodOmens.App

open Forms (Thrown TextFields Submission FormState isValid)

/-- How the call of `signIn` ends for the app. -/
def signInOutcome (uid : Uid) (emailVerified : Bool) : Except Thrown Unit → SignInAnswer
  | .ok _ => .success uid emailVerified
  | .error (.firebaseAuthException _ _) => .authException
  | .error (.other _) => .exception

/-- How the first call of `signUp` ends for the app. -/
def signUpOutcome (uid : Uid) : Except Thrown Unit → SignUpAnswer
  | .ok _ => .success uid
  | .error (.firebaseAuthException code _) =>
    if code = "email-already-in-use" then .emailAlreadyInUse else .failure
  | .error (.other _) => .failure

def resetOutcome : Except Thrown Unit → ResetAnswer
  | .ok _ => .success
  | .error (.firebaseAuthException _ _) => .authException
  | .error (.other _) => .exception

/-- Firebase answers that the email has no sign-in method. -/
def isEmptyMethods : Except Thrown (List String) → Bool
  | .ok methods => methods.isEmpty
  | .error _ => false

/-- The steps of the app that a submission is, on the page `i` for the user `uid`. -/
def submitActs (uid : Uid) (emailVerified : Bool) (i : Nat) : Submission → List Act
  | .signIn outcome => [.signIn, .signInAnswer i (signInOutcome uid emailVerified outcome)]
  | .signUp outcome signInMethods =>
    let answer := signUpOutcome uid outcome
    [.signUp, .signUpAnswer i answer] ++
      if answer = .emailAlreadyInUse then [.signInMethodsAnswer i (isEmptyMethods signInMethods)]
      else []
  | .resetPassword outcome => [.resetPassword, .resetAnswer i (resetOutcome outcome)]

variable {s t u : AppState} {i : Nat} {uid : Uid} {emailVerified : Bool} {es : List Effect}
  {outcome : Except Thrown Unit} {validate : String → Bool} {fields : TextFields} {f : FormState}

/-- A step of the app and what is run after it. -/
theorem exec_step {a : Act} {as : List Act} {fs : List Effect}
    (ha : step s a = some (t, es)) (has : app.exec t as = some (u, fs)) :
    app.exec s (a :: as) = some (u, es ++ fs) :=
  Machine.exec_cons ha has

/-! ### The steps, on a page that is there -/

theorem step_signInAnswer (ht : .signIn i ∈ s.tasks) (hi : (s.nav.find i).isSome)
    (answer : SignInAnswer) : ∃ u es, step s (.signInAnswer i answer) = some (u, es) ∧
      u.nav = match answer with
        | .success _ _ => s.nav.pop.pushReplacement (.cover none)
        | .authException => s.nav.pop
        | .exception => s.nav := by
  refine ⟨((s.done (.signIn i)).signInRest true answer).1,
    ((s.done (.signIn i)).signInRest true answer).2, ?_, ?_⟩
  · show s.signInAnswer i answer = _
    rw [AppState.signInAnswer, AppState.finish_of_mem ht, ← hi]
    rfl
  · cases answer <;> rfl

theorem step_signUpAnswer (ht : .signUp i ∈ s.tasks) (hi : (s.nav.find i).isSome)
    (answer : SignUpAnswer) : ∃ u es, step s (.signUpAnswer i answer) = some (u, es) ∧
      (u.nav = match answer with
        | .success _ => s.nav.pop.push .verifyEmail
        | .emailAlreadyInUse | .failure => s.nav.pop) ∧
      (answer = .emailAlreadyInUse → .fetchSignInMethods i ∈ u.tasks) := by
  refine ⟨(s.done (.signUp i)).signUpRest i true answer, [], ?_, ?_, ?_⟩
  · show s.signUpAnswer i answer = _
    rw [AppState.signUpAnswer, AppState.finish_of_mem ht, ← hi]
    rfl
  · cases answer <;> rfl
  · rintro rfl
    exact List.mem_cons_self

theorem step_signInMethodsAnswer (ht : .fetchSignInMethods i ∈ s.tasks)
    (hi : (s.nav.find i).isSome) (isEmpty : Bool) :
    ∃ u es, step s (.signInMethodsAnswer i isEmpty) = some (u, es) ∧
      u.nav = if isEmpty then s.nav.push .verifyEmail else s.nav := by
  refine ⟨(s.done (.fetchSignInMethods i)).signInMethodsRest true isEmpty, [], ?_, ?_⟩
  · show s.signInMethodsAnswer i isEmpty = _
    rw [AppState.signInMethodsAnswer, AppState.finish_of_mem ht, ← hi]
    rfl
  · cases isEmpty <;> rfl

theorem step_resetAnswer (ht : .resetPassword i ∈ s.tasks) (hi : (s.nav.find i).isSome)
    (answer : ResetAnswer) : ∃ u es, step s (.resetAnswer i answer) = some (u, es) ∧
      u.nav = match answer with
        | .success => s.nav.pushReplacement .emailSent
        | .authException => s.nav.pop
        | .exception => s.nav := by
  refine ⟨(s.done (.resetPassword i)).resetRest true answer, [], ?_, ?_⟩
  · show s.resetAnswer i answer = _
    rw [AppState.resetAnswer, AppState.finish_of_mem ht, ← hi]
    rfl
  · cases answer <;> rfl

/-- The app after the button of a form: the dialog is shown and a call is awaited. -/
structure Pressed (s t : AppState) (task : Task) : Prop where
  nav : t.nav = s.nav.push .loadingDialog
  task : task ∈ t.tasks

theorem press_of_front {page : Page} (task : Nat → Task) (hf : s.front = some ⟨i, page⟩) :
    ∃ t, s.press page task = some (t, []) ∧ Pressed s t (task i) := by
  refine ⟨(s.push .loadingDialog).await (task i), ?_, rfl, List.mem_cons_self⟩
  rw [AppState.press, hf]
  exact if_pos rfl

/-! ### The handlers -/

/-- The page of a form in front is found, with and without the dialog over it. -/
theorem find_of_front {page : Page} (hf : s.front = some ⟨i, page⟩) (hn : f.nav = s.nav) :
    (f.nav.find i).isSome ∧ ((s.nav.push .loadingDialog).find i).isSome := by
  have hfind : (s.nav.find i).isSome := Navigator.isSome_find (AppState.mem_of_front hf)
  exact ⟨hn ▸ hfind, Forms.isSome_find_push hfind⟩

theorem submit_signIn (hf : s.front = some ⟨i, .login⟩) (hn : f.nav = s.nav) :
    ∃ u es, app.exec s (submitActs uid emailVerified i (.signIn outcome)) = some (u, es) ∧
      u.nav = ((Forms.signIn fields i outcome).exec f).2.nav := by
  obtain ⟨hform, hdialog⟩ := find_of_front hf hn
  obtain ⟨t, hpress, ht⟩ := press_of_front .signIn hf
  obtain ⟨u, es, hanswer, hu⟩ :=
    step_signInAnswer ht.task (ht.nav ▸ hdialog) (signInOutcome uid emailVerified outcome)
  refine ⟨u, _, exec_step hpress (exec_step hanswer rfl), ?_⟩
  rw [hu, ht.nav, ← hn]
  cases outcome with
  | ok _ => rw [Forms.signIn_success hform]; rfl
  | error thrown =>
    cases thrown with
    | firebaseAuthException code message => rw [Forms.signIn_authException hform]; rfl
    | other e => rw [Forms.signIn_other hform]; rfl

theorem submit_resetPassword (hf : s.front = some ⟨i, .forgotPassword⟩) (hn : f.nav = s.nav) :
    ∃ u es, app.exec s (submitActs uid emailVerified i (.resetPassword outcome)) = some (u, es) ∧
      u.nav = ((Forms.resetPassword fields i outcome).exec f).2.nav := by
  obtain ⟨hform, hdialog⟩ := find_of_front hf hn
  obtain ⟨t, hpress, ht⟩ := press_of_front .resetPassword hf
  obtain ⟨u, es, hanswer, hu⟩ :=
    step_resetAnswer ht.task (ht.nav ▸ hdialog) (resetOutcome outcome)
  refine ⟨u, _, exec_step hpress (exec_step hanswer rfl), ?_⟩
  rw [hu, ht.nav, ← hn]
  cases outcome with
  | ok _ => rw [Forms.resetPassword_success hform]; rfl
  | error thrown =>
    cases thrown with
    | firebaseAuthException code message => rw [Forms.resetPassword_authException hform]; rfl
    | other e => rw [Forms.resetPassword_other hform]; rfl

theorem submit_signUp {signInMethods : Except Thrown (List String)}
    (hf : s.front = some ⟨i, .signUp⟩) (hn : f.nav = s.nav)
    (hv : isValid validate fields = true) :
    ∃ u es, app.exec s (submitActs uid emailVerified i (.signUp outcome signInMethods)) =
        some (u, es) ∧
      u.nav = ((Forms.signUp validate fields i outcome signInMethods).exec f).2.nav := by
  obtain ⟨hform, hdialog⟩ := find_of_front hf hn
  obtain ⟨t, hpress, ht⟩ := press_of_front .signUp hf
  obtain ⟨u, es, hanswer, hu, htask⟩ :=
    step_signUpAnswer ht.task (ht.nav ▸ hdialog) (signUpOutcome uid outcome)
  rw [ht.nav, ← hn] at hu
  by_cases huse : signUpOutcome uid outcome = .emailAlreadyInUse
  · -- the second call comes back as well
    rw [huse] at hu
    obtain ⟨v, fs, hmethods, hw⟩ :=
      step_signInMethodsAnswer (htask huse) (by rw [hu]; exact hform) (isEmptyMethods signInMethods)
    have hacts : submitActs uid emailVerified i (.signUp outcome signInMethods) =
        [.signUp, .signUpAnswer i (signUpOutcome uid outcome),
          .signInMethodsAnswer i (isEmptyMethods signInMethods)] := by
      simp [submitActs, huse]
    rw [hacts]
    refine ⟨v, _, exec_step hpress (exec_step hanswer (exec_step hmethods rfl)), ?_⟩
    obtain ⟨message, rfl⟩ : ∃ message,
        outcome = .error (.firebaseAuthException "email-already-in-use" message) := by
      unfold signUpOutcome at huse
      split at huse
      · cases huse
      · rename_i code message
        split at huse
        · rename_i hc
          exact ⟨message, by rw [hc]⟩
        · cases huse
      · cases huse
    rw [Forms.signUp_emailAlreadyInUse hform hv, hw, hu]
    cases signInMethods with
    | error thrown => rfl
    | ok methods => cases methods <;> rfl
  · have hacts : submitActs uid emailVerified i (.signUp outcome signInMethods) =
        [.signUp, .signUpAnswer i (signUpOutcome uid outcome)] := by
      simp [submitActs, huse]
    rw [hacts]
    refine ⟨u, _, exec_step hpress (exec_step hanswer rfl), ?_⟩
    rw [hu]
    cases outcome with
    | ok _ => rw [Forms.signUp_success hform hv]; rfl
    | error thrown =>
      cases thrown with
      | firebaseAuthException code message =>
        have hc : code ≠ "email-already-in-use" := fun hc => huse (if_pos hc)
        have hfailure : signUpOutcome uid (.error (.firebaseAuthException code message)) =
            .failure := if_neg hc
        rw [Forms.signUp_authException hform hv hc, hfailure]
        rfl
      | other e => rw [Forms.signUp_other hform hv]; rfl

/-- **The steps of the app leave the navigator that the handler leaves.**  The form of a
sign-up is valid. -/
theorem submit_refines (p : Submission) (hf : s.front = some ⟨i, p.page⟩) (hn : f.nav = s.nav)
    (hv : p.page = .signUp → isValid validate fields = true) :
    ∃ u es, app.exec s (submitActs uid emailVerified i p) = some (u, es) ∧
      u.nav = ((p.run validate fields i).exec f).2.nav := by
  cases p with
  | signIn outcome => exact submit_signIn hf hn
  | signUp outcome signInMethods => exact submit_signUp hf hn (hv rfl)
  | resetPassword outcome => exact submit_resetPassword hf hn

/-- A sign-in whose password is wrong. -/
theorem submit_refines_signIn : ∃ u es,
    app.exec { startedByNobody with nav := (Navigator.home .auth).push .login }
      (submitActs "u" true 1 (.signIn (.error (.firebaseAuthException "wrong-password" none)))) =
        some (u, es) ∧
    u.nav = (((Submission.signIn (.error (.firebaseAuthException "wrong-password" none))).run
      (fun _ => true) ⟨"e", "passwords", "passwords"⟩ 1).exec
        ⟨(Navigator.home .auth).push .login, [], []⟩).2.nav :=
  submit_refines (.signIn (.error (.firebaseAuthException "wrong-password" none))) rfl rfl
    (fun h => by cases h)

end GoodOmens.App
