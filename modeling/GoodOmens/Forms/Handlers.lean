import GoodOmens.App.Page
import GoodOmens.Library.Handler

/-!
# The forms with a password

`signIn` of `LoginWidget`, `signUp` of `SignUpWidget` and `resetPassword` of
`ForgotPasswordPage`, line by line, on the navigator, the snack bars and the calls made
to Firebase.  Each puts a loading dialog over its page, makes its call, and goes on with
what the call has given.

How a call ends is given from outside: with a value, with a `FirebaseAuthException`,
whose code is any string and whose message may be missing, or with any other exception.
`EmailValidator.validate` is a parameter too.  An `on` clause or a `catch` that throws is
caught by nobody.

`navigatorKey` is made in `main.dart` and given to no widget, so its `currentState` is
null: `?.popUntil` does nothing and `!.popUntil` throws.
-/

namespace GoodOmens.Forms

open App (Page)

/-! ### Dart's strings -/

/-- `String.length`, in UTF-16 code units. -/
def length (text : String) : Nat :=
  text.toList.foldl (fun n c => if c.toNat < 0x10000 then n + 1 else n + 2) 0

/-- What `String.trim` takes off: the white space of Unicode, and the byte order mark. -/
def isWhitespace (c : Char) : Bool :=
  let n := c.toNat
  (0x9 ≤ n && n ≤ 0xD) || n = 0x20 || n = 0x85 || n = 0xA0 || n = 0x1680 ||
    (0x2000 ≤ n && n ≤ 0x200A) || n = 0x2028 || n = 0x2029 || n = 0x202F || n = 0x205F ||
    n = 0x3000 || n = 0xFEFF

/-- `String.trim`. -/
def trim (text : String) : String :=
  let front := text.toList.dropWhile isWhitespace
  String.ofList (front.reverse.dropWhile isWhitespace).reverse

/-! ### The state of a handler -/

/-- What is thrown. -/
inductive Thrown
  | firebaseAuthException (code : String) (message : Option String)
  | other (e : DartError)
deriving DecidableEq, Repr

/-- The calls of `FirebaseAuth.instance`. -/
inductive FirebaseCall
  | signInWithEmailAndPassword (email password : String)
  | createUserWithEmailAndPassword (email password : String)
  | fetchSignInMethodsForEmail (email : String)
  | sendPasswordResetEmail (email : String)
deriving DecidableEq, Repr

/-- The texts in the fields of a form. -/
structure TextFields where
  email : String
  password : String
  confirmPassword : String
deriving DecidableEq, Repr

/-- The navigator, the snack bars shown and the calls made, in order. -/
structure FormState where
  nav : Navigator Page
  snackBars : List String
  calls : List FirebaseCall

abbrev FormM := Handler Thrown FormState

/-- `Navigator.of(context)` and `ScaffoldMessenger.of(context)` in the page `i`: they
throw when it is gone. -/
def ofContext (i : Nat) : FormM Unit := do
  let s ← get
  if (s.nav.find i).isNone then throw (.other .unmounted)

/-- `Navigator.of(context).f`. -/
def navigate (i : Nat) (f : Navigator Page → Navigator Page) : FormM Unit := do
  ofContext i
  modify fun s => { s with nav := f s.nav }

def pop (i : Nat) : FormM Unit := navigate i Navigator.pop

def push (i : Nat) (page : Page) : FormM Unit := navigate i (fun nav => nav.push page)

def pushReplacement (i : Nat) (page : Page) : FormM Unit :=
  navigate i (fun nav => nav.pushReplacement page)

/-- `showDialog` with the loading circle. -/
def showDialog (i : Nat) : FormM Unit := push i .loadingDialog

def showSnackBar (i : Nat) (content : String) : FormM Unit := do
  ofContext i
  modify fun s => { s with snackBars := s.snackBars ++ [content] }

/-- A call of Firebase that ends with `outcome`. -/
def firebase {α : Type} (c : FirebaseCall) (outcome : Except Thrown α) : FormM α := do
  modify fun s => { s with calls := s.calls ++ [c] }
  Handler.eval outcome

/-- `navigatorKey.currentState`. -/
def navigatorKeyState : Option Unit := none

/-- `popUntil((route) => route.isFirst)`. -/
def popUntilIsFirst : FormM Unit :=
  modify fun s => { s with nav := Nat.repeat Navigator.pop (s.nav.history.length - 1) s.nav }

/-! ### The validators -/

section

variable (validate : String → Bool)

/-- The validator of the email fields, the same in the three forms. -/
def emailValidator (email : String) : Option String :=
  if !validate email then some "Enter a valid email" else none

/-- The validator of the first password field of `SignUpWidget`. -/
def passwordValidator (value : String) : Option String :=
  if length value < 8 then some "Enter min. 8 characters" else none

/-- The validator of the second one, which reads both. -/
def confirmPasswordValidator (fields : TextFields) : Option String :=
  if fields.password ≠ fields.confirmPassword then some "Passwords do not match" else none

/-- `formKey.currentState!.validate()` of `SignUpWidget`: every field is asked. -/
def isValid (fields : TextFields) : Bool :=
  let errors := [emailValidator validate fields.email, passwordValidator fields.password,
    confirmPasswordValidator fields]
  errors.all Option.isNone

end

/-! ### The handlers -/

section

variable (validate : String → Bool) (fields : TextFields) (i : Nat)

/-- The snack bars of `signIn`, by the code. -/
def signInMessage (code : String) : Option String :=
  match code with
  | "channel-error" => some "Invalid email or password."
  | "network-request-failed" => some "No internet connection."
  | "INVALID_LOGIN_CREDENTIALS" => some "Invalid email or password."
  | "wrong-password" => some "Wrong password provided for that user."
  | "invalid-email" => some "Invalid email."
  | "unknown" => some "Something went wrong. Please try again later."
  | _ => none

def signIn (outcome : Except Thrown Unit) : FormM Unit := do
  showDialog i
  tryCatch
    (do
      firebase (.signInWithEmailAndPassword (trim fields.email) (trim fields.password)) outcome
      pop i
      pushReplacement i (.cover none))
    (fun
      | .firebaseAuthException code _ => do
        pop i
        match signInMessage code with
        | some content => showSnackBar i content
        | none => pure ()
      | .other _ => showSnackBar i "Something went wrong. Please try again later.")
  match navigatorKeyState with
  | some _ => popUntilIsFirst
  | none => pure ()

/-- The snack bars of `signUp`, by the code, that of an email in use apart. -/
def signUpMessage (code : String) : String :=
  match code with
  | "invalid-email" => "This is not a valid email."
  | "operation-not-allowed" => "Signing in with Email and Password is not enabled."
  | "weak-password" => "The password provided is too weak."
  | _ => "Something went wrong. Please try again later"

def signUp (outcome : Except Thrown Unit) (signInMethods : Except Thrown (List String)) :
    FormM Unit := do
  if isValid validate fields then
    showDialog i
    tryCatch
      (do
        firebase (.createUserWithEmailAndPassword (trim fields.email) (trim fields.password)) outcome
        pop i
        push i .verifyEmail)
      (fun
        | .firebaseAuthException code _ => do
          pop i
          if code = "email-already-in-use" then
            let methods ← firebase (.fetchSignInMethodsForEmail (trim fields.email)) signInMethods
            if methods.isEmpty then push i .verifyEmail
            else showSnackBar i "The account already exists for that email."
          else showSnackBar i (signUpMessage code)
        | .other _ => do
          pop i
          showSnackBar i "Something went wrong. Please try again later")

def resetPassword (outcome : Except Thrown Unit) : FormM Unit := do
  showDialog i
  tryCatch
    (do
      firebase (.sendPasswordResetEmail (trim fields.email)) outcome
      pushReplacement i .emailSent)
    (fun
      | .firebaseAuthException _ message => do
        pop i
        match message with
        | some content => showSnackBar i content
        | none => throw (.other .typeError)
        match navigatorKeyState with
        | some _ => popUntilIsFirst
        | none => throw (.other .typeError)
      | .other e => throw (.other e))

end

/-- A press of the button of a form, with the outcomes of the calls of its handler. -/
inductive Submission
  | signIn (outcome : Except Thrown Unit)
  | signUp (outcome : Except Thrown Unit) (signInMethods : Except Thrown (List String))
  | resetPassword (outcome : Except Thrown Unit)

namespace Submission

/-- The page with the form. -/
def page : Submission → Page
  | signIn _ => .login
  | signUp _ _ => .signUp
  | resetPassword _ => .forgotPassword

/-- How the call that the form is for ends. -/
def outcome : Submission → Except Thrown Unit
  | signIn outcome | signUp outcome _ | resetPassword outcome => outcome

/-- The handler of the button, in the page `i`. -/
def run (validate : String → Bool) (fields : TextFields) (i : Nat) : Submission → FormM Unit
  | signIn outcome => Forms.signIn fields i outcome
  | signUp outcome signInMethods => Forms.signUp validate fields i outcome signInMethods
  | resetPassword outcome => Forms.resetPassword fields i outcome

end Submission

/-! ### Running a handler -/

section

open Handler

variable {validate : String → Bool} {fields : TextFields} {i : Nat} {s : FormState}

theorem exec_ofContext (h : (s.nav.find i).isSome) : (ofContext i).exec s = (.ok (), s) := by
  rw [ofContext, exec_bind_ok exec_get]
  cases hi : s.nav.find i with
  | none => rw [hi] at h; cases h
  | some _ => rfl

theorem exec_navigate {f : Navigator Page → Navigator Page} (h : (s.nav.find i).isSome) :
    (navigate i f).exec s = (.ok (), { s with nav := f s.nav }) := by
  rw [navigate, exec_bind_ok (exec_ofContext h)]
  rfl

theorem exec_pop (h : (s.nav.find i).isSome) :
    (pop i).exec s = (.ok (), { s with nav := s.nav.pop }) := exec_navigate h

theorem exec_push {page : Page} (h : (s.nav.find i).isSome) :
    (push i page).exec s = (.ok (), { s with nav := s.nav.push page }) := exec_navigate h

theorem exec_pushReplacement {page : Page} (h : (s.nav.find i).isSome) :
    (pushReplacement i page).exec s = (.ok (), { s with nav := s.nav.pushReplacement page }) :=
  exec_navigate h

theorem exec_showDialog (h : (s.nav.find i).isSome) :
    (showDialog i).exec s = (.ok (), { s with nav := s.nav.push .loadingDialog }) := exec_push h

theorem exec_showSnackBar {content : String} (h : (s.nav.find i).isSome) :
    (showSnackBar i content).exec s =
      (.ok (), { s with snackBars := s.snackBars ++ [content] }) := by
  rw [showSnackBar, exec_bind_ok (exec_ofContext h)]
  rfl

theorem exec_firebase {α : Type} {c : FirebaseCall} {outcome : Except Thrown α} :
    (firebase c outcome).exec s = (outcome, { s with calls := s.calls ++ [c] }) := by
  rw [firebase, exec_bind_ok (exec_modify _)]
  exact exec_eval outcome

/-- The page is still there under the dialog, and when the dialog is gone. -/
theorem isSome_find_push {n : Navigator Page} {page : Page} (h : (n.find i).isSome) :
    ((n.push page).find i).isSome := by
  obtain ⟨p, hp⟩ := Option.isSome_iff_exists.mp h
  exact Option.isSome_of_eq_some (Navigator.find_push hp)

theorem find_pop_push {n : Navigator Page} {page : Page} :
    (n.push page).pop.find i = n.find i := rfl

attribute [local simp] exec_bind exec_tryCatch exec_pop exec_push exec_pushReplacement
  exec_showDialog exec_showSnackBar exec_firebase isSome_find_push find_pop_push

/-- The stack when the dialog has come and gone. -/
def dismissed (n : Navigator Page) : Navigator Page := (n.push .loadingDialog).pop

section

variable (h : (s.nav.find i).isSome) {code : String} {message : Option String} {e : DartError}
include h

theorem signIn_success : (signIn fields i (.ok ())).exec s = (.ok (), { s with
    nav := (dismissed s.nav).pushReplacement (.cover none)
    calls := s.calls ++
      [.signInWithEmailAndPassword (trim fields.email) (trim fields.password)] }) := by
  simp [signIn, h, navigatorKeyState, dismissed]

theorem signIn_authException :
    (signIn fields i (.error (.firebaseAuthException code message))).exec s = (.ok (), {
      nav := dismissed s.nav
      snackBars := s.snackBars ++ (signInMessage code).toList
      calls := s.calls ++
        [.signInWithEmailAndPassword (trim fields.email) (trim fields.password)] }) := by
  cases hm : signInMessage code with
  | none => simp [signIn, h, navigatorKeyState, dismissed, hm]
  | some content => simp [signIn, h, navigatorKeyState, dismissed, hm]

/-- Any other exception is reported over the dialog, which stays. -/
theorem signIn_other : (signIn fields i (.error (.other e))).exec s = (.ok (), {
    nav := s.nav.push .loadingDialog
    snackBars := s.snackBars ++ ["Something went wrong. Please try again later."]
    calls := s.calls ++
      [.signInWithEmailAndPassword (trim fields.email) (trim fields.password)] }) := by
  simp [signIn, h, navigatorKeyState]

end

section

variable {outcome : Except Thrown Unit} {signInMethods : Except Thrown (List String)}
  {code : String} {message : Option String} {e : DartError}

theorem signUp_invalid (hv : isValid validate fields = false) :
    (signUp validate fields i outcome signInMethods).exec s = (.ok (), s) := by
  simp [signUp, hv]

variable (h : (s.nav.find i).isSome) (hv : isValid validate fields = true)
include h hv

theorem signUp_success :
    (signUp validate fields i (.ok ()) signInMethods).exec s = (.ok (), { s with
      nav := (dismissed s.nav).push .verifyEmail
      calls := s.calls ++
        [.createUserWithEmailAndPassword (trim fields.email) (trim fields.password)] }) := by
  simp [signUp, hv, h, dismissed]

/-- The email is in use, and Firebase is asked how it signs in. -/
theorem signUp_emailAlreadyInUse : (signUp validate fields i
    (.error (.firebaseAuthException "email-already-in-use" message)) signInMethods).exec s =
      (match signInMethods with
        | .ok _ => .ok ()
        | .error thrown => .error thrown, {
        nav := match signInMethods with
          | .ok [] => (dismissed s.nav).push .verifyEmail
          | _ => dismissed s.nav
        snackBars := match signInMethods with
          | .ok (_ :: _) => s.snackBars ++ ["The account already exists for that email."]
          | _ => s.snackBars
        calls := s.calls ++
          [.createUserWithEmailAndPassword (trim fields.email) (trim fields.password),
            .fetchSignInMethodsForEmail (trim fields.email)] }) := by
  cases signInMethods with
  | error thrown => simp [signUp, hv, h, dismissed]
  | ok methods =>
    cases methods with
    | nil => simp [signUp, hv, h, dismissed]
    | cons m methods => simp [signUp, hv, h, dismissed]

theorem signUp_authException (hc : code ≠ "email-already-in-use") : (signUp validate fields i
    (.error (.firebaseAuthException code message)) signInMethods).exec s = (.ok (), {
      nav := dismissed s.nav
      snackBars := s.snackBars ++ [signUpMessage code]
      calls := s.calls ++
        [.createUserWithEmailAndPassword (trim fields.email) (trim fields.password)] }) := by
  simp [signUp, hv, h, hc, dismissed]

theorem signUp_other :
    (signUp validate fields i (.error (.other e)) signInMethods).exec s = (.ok (), {
      nav := dismissed s.nav
      snackBars := s.snackBars ++ ["Something went wrong. Please try again later"]
      calls := s.calls ++
        [.createUserWithEmailAndPassword (trim fields.email) (trim fields.password)] }) := by
  simp [signUp, hv, h, dismissed]

end

section

variable (h : (s.nav.find i).isSome) {code : String} {message : Option String} {e : DartError}
include h

/-- The dialog goes because it is what the new page takes the place of. -/
theorem resetPassword_success : (resetPassword fields i (.ok ())).exec s = (.ok (), { s with
    nav := (s.nav.push .loadingDialog).pushReplacement .emailSent
    calls := s.calls ++ [.sendPasswordResetEmail (trim fields.email)] }) := by
  simp [resetPassword, h]

/-- The clause always throws, at `message!` or at `currentState!`. -/
theorem resetPassword_authException :
    (resetPassword fields i (.error (.firebaseAuthException code message))).exec s =
      (.error (.other .typeError), {
        nav := dismissed s.nav
        snackBars := s.snackBars ++ message.toList
        calls := s.calls ++ [.sendPasswordResetEmail (trim fields.email)] }) := by
  cases message with
  | none => simp [resetPassword, h, dismissed]
  | some content => simp [resetPassword, h, dismissed, navigatorKeyState]

theorem resetPassword_other : (resetPassword fields i (.error (.other e))).exec s =
    (.error (.other e), { s with
      nav := s.nav.push .loadingDialog
      calls := s.calls ++ [.sendPasswordResetEmail (trim fields.email)] }) := by
  simp [resetPassword, h]

end

end

end GoodOmens.Forms
