import GoodOmens.Forms.Handlers

/-!
# What is validated and what is submitted

The validators of the three forms look at the texts in the fields; what goes to Firebase
are the texts with the white space at their ends taken off.  And only `SignUpWidget` runs
its validators: `LoginWidget` has no form at all, and `ForgotPasswordPage` never asks its
own.

`calls_run` lists the calls that a handler makes, whatever they end with, so
`submitsValidated_iff` compares the two: a sign-up submits what was validated if trimming
does not spoil it, the other two if the trimmed email happens to be valid.
-/

namespace GoodOmens.Forms

open App (Page)

/-- The email that a call passes. -/
def FirebaseCall.email : FirebaseCall → String
  | signInWithEmailAndPassword email _ | createUserWithEmailAndPassword email _
  | fetchSignInMethodsForEmail email | sendPasswordResetEmail email => email

/-- The call passes an email that the validator of its field accepts, and a new password
that is long enough and was confirmed. -/
def FirebaseCall.Validated (validate : String → Bool) (fields : TextFields) (c : FirebaseCall) :
    Prop :=
  emailValidator validate c.email = none ∧
    ∀ email password, c = .createUserWithEmailAndPassword email password →
      8 ≤ length password ∧ password = trim fields.confirmPassword

/-- The calls of `signUp`, when it makes any. -/
def signUpCalls (fields : TextFields) (outcome : Except Thrown Unit) : List FirebaseCall :=
  .createUserWithEmailAndPassword (trim fields.email) (trim fields.password) ::
    match outcome with
    | .error (.firebaseAuthException code _) =>
      if code = "email-already-in-use" then [.fetchSignInMethodsForEmail (trim fields.email)]
      else []
    | _ => []

namespace Submission

/-- The calls of the handler. -/
def calls (validate : String → Bool) (fields : TextFields) : Submission → List FirebaseCall
  | signIn _ => [.signInWithEmailAndPassword (trim fields.email) (trim fields.password)]
  | signUp outcome _ => if isValid validate fields then signUpCalls fields outcome else []
  | resetPassword _ => [.sendPasswordResetEmail (trim fields.email)]

/-- Every call that `p` makes from `s` is validated. -/
def SubmitsValidated (validate : String → Bool) (fields : TextFields) (i : Nat)
    (p : Submission) (s : FormState) : Prop :=
  ∀ c ∈ ((p.run validate fields i).exec s).2.calls.drop s.calls.length,
    c.Validated validate fields

/-- What is left of the texts when they are trimmed is valid as well; the forms that do
not validate have no more to rely on. -/
def ValidTrimmed (validate : String → Bool) (fields : TextFields) : Submission → Prop
  | signUp _ _ => isValid validate fields = true →
      validate (trim fields.email) = true ∧ 8 ≤ length (trim fields.password)
  | signIn _ | resetPassword _ => validate (trim fields.email) = true

variable {validate : String → Bool} {fields : TextFields} {i : Nat} {p : Submission}
  {s : FormState}

/-! ### The calls of a handler -/

theorem calls_signUp {outcome : Except Thrown Unit} {signInMethods : Except Thrown (List String)}
    (h : (s.nav.find i).isSome) (hv : isValid validate fields = true) :
    ((Forms.signUp validate fields i outcome signInMethods).exec s).2.calls =
      s.calls ++ signUpCalls fields outcome := by
  cases outcome with
  | ok u => rw [signUp_success h hv]; rfl
  | error thrown =>
    cases thrown with
    | firebaseAuthException code message =>
      by_cases hc : code = "email-already-in-use"
      · subst hc
        rw [signUp_emailAlreadyInUse h hv]
        rfl
      · rw [signUp_authException h hv hc]
        simp only [signUpCalls, if_neg hc]
    | other e => rw [signUp_other h hv]; rfl

/-- **The calls of a handler, in order.** -/
theorem calls_run (h : (s.nav.find i).isSome) :
    ((p.run validate fields i).exec s).2.calls = s.calls ++ p.calls validate fields := by
  cases p with
  | signIn outcome =>
    unfold run
    cases outcome with
    | ok u => rw [signIn_success h]; rfl
    | error thrown =>
      cases thrown with
      | firebaseAuthException code message => rw [signIn_authException h]; rfl
      | other e => rw [signIn_other h]; rfl
  | signUp outcome signInMethods =>
    unfold run
    cases hv : isValid validate fields with
    | true =>
      have hcalls : (signUp outcome signInMethods).calls validate fields =
          signUpCalls fields outcome := if_pos hv
      rw [hcalls]
      exact calls_signUp h hv
    | false =>
      rw [signUp_invalid hv]
      simp [calls, hv]
  | resetPassword outcome =>
    unfold run
    cases outcome with
    | ok u => rw [resetPassword_success h]; rfl
    | error thrown =>
      cases thrown with
      | firebaseAuthException code message => rw [resetPassword_authException h]; rfl
      | other e => rw [resetPassword_other h]; rfl

/-! ### Validated before, valid after -/

theorem emailValidator_eq_none {email : String} :
    emailValidator validate email = none ↔ validate email = true := by
  unfold emailValidator
  cases validate email <;> decide

theorem isValid_iff : isValid validate fields = true ↔
    validate fields.email = true ∧ 8 ≤ length fields.password ∧
      fields.password = fields.confirmPassword := by
  simp [isValid, emailValidator, passwordValidator, confirmPasswordValidator]

/-- Of a call that creates no user only the email matters. -/
theorem validated_iff {c : FirebaseCall}
    (hc : ∀ email password, c ≠ .createUserWithEmailAndPassword email password) :
    c.Validated validate fields ↔ validate c.email = true := by
  unfold FirebaseCall.Validated
  rw [emailValidator_eq_none]
  exact and_iff_left (fun email password he => absurd he (hc email password))

theorem validated_create (hv : isValid validate fields = true) :
    (FirebaseCall.createUserWithEmailAndPassword (trim fields.email)
      (trim fields.password)).Validated validate fields ↔
      validate (trim fields.email) = true ∧ 8 ≤ length (trim fields.password) := by
  obtain ⟨-, -, hsame⟩ := isValid_iff.mp hv
  unfold FirebaseCall.Validated
  rw [emailValidator_eq_none]
  refine and_congr_right (fun _ => ?_)
  constructor
  · intro h
    exact (h _ _ rfl).1
  · intro h email password he
    cases he
    exact ⟨h, congrArg trim hsame⟩

theorem forall_signUpCalls (outcome : Except Thrown Unit) (hv : isValid validate fields = true) :
    (∀ c ∈ signUpCalls fields outcome, c.Validated validate fields) ↔
      validate (trim fields.email) = true ∧ 8 ≤ length (trim fields.password) := by
  have hfetch : (FirebaseCall.fetchSignInMethodsForEmail (trim fields.email)).Validated validate
      fields ↔ validate (trim fields.email) = true := validated_iff (by intro _ _ h; cases h)
  unfold signUpCalls
  rw [List.forall_mem_cons, validated_create hv]
  -- the second call passes the email of the first
  refine and_iff_left_of_imp ?_
  intro hcreate
  split
  · split
    · rw [List.forall_mem_singleton]
      exact hfetch.mpr hcreate.1
    · exact List.forall_mem_nil _
  · exact List.forall_mem_nil _

theorem submitsValidated_signUp {outcome : Except Thrown Unit}
    {signInMethods : Except Thrown (List String)} (h : (s.nav.find i).isSome)
    (hv : isValid validate fields = true) :
    (signUp outcome signInMethods).SubmitsValidated validate fields i s ↔
      validate (trim fields.email) = true ∧ 8 ≤ length (trim fields.password) := by
  have hcalls : (signUp outcome signInMethods).calls validate fields =
      signUpCalls fields outcome := if_pos hv
  unfold SubmitsValidated
  rw [calls_run h, List.drop_left, hcalls]
  exact forall_signUpCalls outcome hv

/-- **What is submitted was validated exactly if it is still valid when it is trimmed.** -/
theorem submitsValidated_iff (p : Submission) (h : s.nav.top = some ⟨i, p.page⟩) :
    p.SubmitsValidated validate fields i s ↔ p.ValidTrimmed validate fields := by
  have hfind : (s.nav.find i).isSome := Navigator.isSome_find (Navigator.mem_of_top h)
  cases p with
  | signIn outcome =>
    unfold SubmitsValidated
    rw [calls_run hfind, List.drop_left, calls, List.forall_mem_singleton]
    exact validated_iff (by intro _ _ h; cases h)
  | signUp outcome signInMethods =>
    cases hv : isValid validate fields with
    | true =>
      rw [submitsValidated_signUp hfind hv]
      simp [ValidTrimmed, hv]
    | false =>
      unfold SubmitsValidated
      rw [calls_run hfind, List.drop_left]
      simp [calls, ValidTrimmed, hv]
  | resetPassword outcome =>
    unfold SubmitsValidated
    rw [calls_run hfind, List.drop_left, calls, List.forall_mem_singleton]
    exact validated_iff (by intro _ _ h; cases h)

/-- The stack with the sign-up page over the auth page. -/
def signUpState : FormState where
  nav := (Navigator.home .auth).push .signUp
  snackBars := []
  calls := []

/-- A sign-up with a blank behind the password. -/
theorem submitsValidated_blank :
    (signUp (.ok ()) (.ok [])).SubmitsValidated (fun email => email = "adam@eden.org")
      ⟨"adam@eden.org", "appletree ", "appletree "⟩ 1 signUpState :=
  (submitsValidated_iff _ rfl).mpr (fun _ => by decide)

/-- A sign-up whose password is eight blanks: what is submitted is empty. -/
theorem not_submitsValidated :
    ¬ ∀ validate : String → Bool, validate "" = false →
      ∀ (fields : TextFields) (i : Nat) (p : Submission) (s : FormState),
        s.nav.top = some ⟨i, p.page⟩ → p.SubmitsValidated validate fields i s := by
  intro h
  have hsubmits := h (fun email => email = "adam@eden.org") (by decide)
    ⟨"adam@eden.org", "        ", "        "⟩ 1 (signUp (.ok ()) (.ok [])) signUpState rfl
  have hlong := ((submitsValidated_signUp rfl (by decide)).mp hsubmits).2
  exact absurd hlong (by decide)

/-- Texts without white space at their ends are submitted as they were validated. -/
theorem validTrimmed_of_trim_eq (outcome : Except Thrown Unit)
    (signInMethods : Except Thrown (List String)) (he : trim fields.email = fields.email)
    (hp : trim fields.password = fields.password) :
    (signUp outcome signInMethods).ValidTrimmed validate fields := by
  intro hv
  obtain ⟨hemail, hlong, -⟩ := isValid_iff.mp hv
  rw [he, hp]
  exact ⟨hemail, hlong⟩

end Submission

end GoodOmens.Forms
