import GoodOmens.Forms.Handlers
import GoodOmens.Services.User

/-!
# The Google button

`onPressed` of `GoogleSignInButton` and `Authentication.signInWithGoogle`, line by line.  The
button asks Google and Firebase for a user, asks the backend whether it knows the user, stores
the user if it does not, and opens the cover page.

How every call ends is given from outside (`Answers`), and so is what happens while it is in
flight (`World`): other handlers may change the navigator, and the button may leave the tree,
to which it never comes back.  From then on its context and its `setState` throw.

`exec_onPressed` follows one press through all of it.  `onPressed_ends` says that the button
can be pressed again exactly if it is still there, and that nothing else escapes it,
`onPressed_opens` whom the cover page is opened for and what the backend is asked before, and
`onPressed_reports_iff` for which failures a message is shown.
-/

namespace GoodOmens.Forms.Google

open App (Page Uid)

/-! ### The state of the handler -/

/-- What the handler reads of Firebase's `User`. -/
structure GoogleUser where
  uid : Uid
  displayName : Option String
  email : Option String
deriving DecidableEq, Repr

/-- The calls that are awaited. -/
inductive Call
  | signInWithPopup
  | googleSignIn
  | authentication
  | signInWithCredential
  | checkIfFirstTimeLogin (id : Uid)
  | createUser (id : Uid) (name email : String)
deriving DecidableEq, Repr

/-- How each call ends, should it be made.  No account is an account chooser that was closed. -/
structure Answers where
  popup : Except Thrown (Option GoogleUser)
  account : Except Thrown (Option Unit)
  authentication : Except Thrown Unit
  credential : Except Thrown (Option GoogleUser)
  check : Outcome

/-- What happens elsewhere while a call is in flight: to the navigator, and whether the
button stays in the tree. -/
structure World where
  during : Call → Navigator Page → Navigator Page
  stays : Call → Navigator Page → Bool

structure ButtonState where
  nav : Navigator Page
  mounted : Bool
  isSigningIn : Bool
  snackBars : List String
  calls : List Call

abbrev ButtonM := Handler Thrown ButtonState

/-- The call has been made, and has come back. -/
def ButtonState.called (w : World) (s : ButtonState) (c : Call) : ButtonState :=
  { s with
    nav := w.during c s.nav
    mounted := s.mounted && w.stays c s.nav
    calls := s.calls ++ [c] }

/-! ### The handler -/

section

variable (w : World)

def await {α : Type} (c : Call) (answer : Except Thrown α) : ButtonM α := do
  modify fun s => s.called w c
  Handler.eval answer

/-- Whatever needs the element of the button. -/
def ofContext : ButtonM Unit := do
  let s ← get
  if s.mounted then pure () else throw (.other .unmounted)

def showSnackBar (content : String) : ButtonM Unit := do
  ofContext
  modify fun s => { s with snackBars := s.snackBars ++ [content] }

def pushReplacement (page : Page) : ButtonM Unit := do
  ofContext
  modify fun s => { s with nav := s.nav.pushReplacement page }

/-- `setState` of the button. -/
def setIsSigningIn (b : Bool) : ButtonM Unit := do
  ofContext
  modify fun s => { s with isSigningIn := b }

/-- The snack bars of `signInWithGoogle`, by the code. -/
def credentialMessage (code : String) : Option String :=
  match code with
  | "account-exists-with-different-credential" =>
    some "The account already exists with a different credential"
  | "invalid-credential" => some "Error occurred while accessing credentials. Try again."
  | _ => none

/-- `Authentication.signInWithGoogle`.  On the web every exception is swallowed; elsewhere
those of the first two calls go through. -/
def signInWithGoogle (kIsWeb : Bool) (a : Answers) : ButtonM (Option GoogleUser) :=
  if kIsWeb then
    tryCatch (await w .signInWithPopup a.popup) (fun _ => pure none)
  else do
    match ← await w .googleSignIn a.account with
    | none => pure none
    | some () => do
      await w .authentication a.authentication
      tryCatch (await w .signInWithCredential a.credential)
        (fun
          | .firebaseAuthException code _ => do
            match credentialMessage code with
            | some content => showSnackBar content
            | none => pure ()
            pure none
          | .other _ => do
            showSnackBar "Error occurred using Google Sign In. Try again."
            pure none)

/-- The body of the `try` in `onPressed`. -/
def openForUser (kIsWeb : Bool) (a : Answers) : ButtonM Unit := do
  match ← signInWithGoogle w kIsWeb a with
  | none => pure ()
  | some user => do
    await w (.checkIfFirstTimeLogin user.uid) (.ok ())
    if UserService.checkIfFirstTimeLogin a.check then
      await w (.createUser user.uid (user.displayName.getD "") (user.email.getD "")) (.ok ())
    pushReplacement (.cover none)

/-- `onPressed`.  The `catch` prints, and `finally` is what comes after it. -/
def onPressed (kIsWeb : Bool) (a : Answers) : ButtonM Unit := do
  setIsSigningIn true
  tryCatch (openForUser w kIsWeb a) (fun _ => pure ())
  setIsSigningIn false

end

/-! ### How the calls of Google and Firebase end, in all -/

/-- With a user, with nobody, with a message about a failure, or with an exception. -/
inductive Ending
  | signedIn (user : GoogleUser)
  | nobody
  | failed (content : String)
  | threw (thrown : Thrown)

namespace Answers

variable (a : Answers) (kIsWeb : Bool)

/-- The message about what `signInWithCredential` throws. -/
def thrownMessage : Thrown → Option String
  | .firebaseAuthException code _ => credentialMessage code
  | .other _ => some "Error occurred using Google Sign In. Try again."

/-- The ending where there is no web. -/
def nativeEnding : Ending :=
  match a.account, a.authentication, a.credential with
  | .error thrown, _, _ => .threw thrown
  | .ok none, _, _ => .nobody
  | .ok (some ()), .error thrown, _ => .threw thrown
  | .ok (some ()), .ok (), .ok none => .nobody
  | .ok (some ()), .ok (), .ok (some user) => .signedIn user
  | .ok (some ()), .ok (), .error thrown =>
    match thrownMessage thrown with
    | some content => .failed content
    | none => .nobody

def ending : Ending :=
  if kIsWeb then
    match a.popup with
    | .ok (some user) => .signedIn user
    | _ => .nobody
  else a.nativeEnding

/-- The calls of `signInWithGoogle`. -/
def googleCalls : List Call :=
  if kIsWeb then [.signInWithPopup]
  else
    match a.account, a.authentication with
    | .ok (some ()), .ok () => [.googleSignIn, .authentication, .signInWithCredential]
    | .ok (some ()), .error _ => [.googleSignIn, .authentication]
    | _, _ => [.googleSignIn]

/-- The calls of the backend for a user. -/
def backendCalls (user : GoogleUser) : List Call :=
  .checkIfFirstTimeLogin user.uid ::
    if a.check.Answered 404 then
      [.createUser user.uid (user.displayName.getD "") (user.email.getD "")]
    else []

end Answers

/-! ### Running the handler -/

section

open Handler

variable {w : World} {a : Answers} {kIsWeb : Bool} {s t : ButtonState}

/-- One call after the other. -/
def ButtonState.calledAll (w : World) (s : ButtonState) (cs : List Call) : ButtonState :=
  cs.foldl (ButtonState.called w) s

theorem calls_calledAll (cs : List Call) : ∀ s : ButtonState,
    (s.calledAll w cs).calls = s.calls ++ cs ∧ (s.calledAll w cs).snackBars = s.snackBars ∧
      (s.calledAll w cs).isSigningIn = s.isSigningIn := by
  induction cs with
  | nil => intro s; exact ⟨(List.append_nil _).symm, rfl, rfl⟩
  | cons c cs ih =>
    intro s
    obtain ⟨hcalls, hbars, hflag⟩ := ih (s.called w c)
    refine ⟨?_, hbars, hflag⟩
    show ((s.called w c).calledAll w cs).calls = _
    rw [hcalls]
    simp [ButtonState.called]

theorem exec_await {α : Type} {c : Call} {answer : Except Thrown α} :
    (await w c answer).exec s = (answer, s.called w c) := by
  rw [await, exec_bind_ok (exec_modify _)]
  exact exec_eval answer

/-- What needs the element is done exactly while the button is there. -/
theorem exec_ofContext {f : ButtonState → ButtonState} :
    (do ofContext; modify f : ButtonM Unit).exec s =
      if s.mounted then (.ok (), f s) else (.error (.other .unmounted), s) := by
  rw [exec_bind, ofContext, exec_bind_ok exec_get]
  by_cases hm : s.mounted
  · rw [if_pos hm, if_pos hm]
    rfl
  · rw [if_neg hm, if_neg hm]
    rfl

theorem exec_showSnackBar {content : String} : (showSnackBar content).exec s =
    if s.mounted then (.ok (), { s with snackBars := s.snackBars ++ [content] })
    else (.error (.other .unmounted), s) := exec_ofContext

theorem exec_pushReplacement {page : Page} : (pushReplacement page).exec s =
    if s.mounted then (.ok (), { s with nav := s.nav.pushReplacement page })
    else (.error (.other .unmounted), s) := exec_ofContext

theorem exec_setIsSigningIn {b : Bool} : (setIsSigningIn b).exec s =
    if s.mounted then (.ok (), { s with isSigningIn := b })
    else (.error (.other .unmounted), s) := exec_ofContext

/-- What `signInWithGoogle` comes to. -/
def Ending.result (e : Ending) (s : ButtonState) :
    Except Thrown (Option GoogleUser) × ButtonState :=
  match e with
  | signedIn user => (.ok (some user), s)
  | nobody => (.ok none, s)
  | failed content =>
    if s.mounted then (.ok none, { s with snackBars := s.snackBars ++ [content] })
    else (.error (.other .unmounted), s)
  | threw thrown => (.error thrown, s)

/-- The message is shown, and there is no user. -/
theorem exec_failed {content : String} :
    (do showSnackBar content; pure none : ButtonM (Option GoogleUser)).exec s =
      (Ending.failed content).result s := by
  rw [exec_bind, exec_showSnackBar]
  show _ = if s.mounted then _ else _
  by_cases hm : s.mounted
  · rw [if_pos hm, if_pos hm]
    rfl
  · rw [if_neg hm, if_neg hm]

theorem exec_native : (signInWithGoogle w false a).exec s =
    a.nativeEnding.result (s.calledAll w (a.googleCalls false)) := by
  unfold signInWithGoogle Answers.nativeEnding Answers.googleCalls
  rw [if_neg Bool.false_ne_true, if_neg Bool.false_ne_true, exec_bind, exec_await]
  cases a.account with
  | error thrown => rfl
  | ok account =>
    cases account with
    | none => rfl
    | some _ =>
      dsimp only
      rw [exec_bind, exec_await]
      cases a.authentication with
      | error thrown => rfl
      | ok _ =>
        dsimp only
        rw [exec_tryCatch, exec_await]
        cases a.credential with
        | ok user => cases user <;> rfl
        | error thrown =>
          cases thrown with
          | firebaseAuthException code message =>
            show (do
              match credentialMessage code with
              | some content => showSnackBar content
              | none => pure ()
              pure none : ButtonM (Option GoogleUser)).exec _ =
                (match credentialMessage code with
                  | some content => Ending.failed content
                  | none => Ending.nobody).result _
            cases credentialMessage code with
            | none => rfl
            | some content => exact exec_failed
          | other e => exact exec_failed

theorem exec_web : (signInWithGoogle w true a).exec s =
    (a.ending true).result (s.calledAll w (a.googleCalls true)) := by
  unfold signInWithGoogle Answers.ending Answers.googleCalls
  rw [if_pos rfl, if_pos rfl, if_pos rfl, exec_tryCatch, exec_await]
  cases a.popup with
  | error thrown => rfl
  | ok user => cases user <;> rfl

theorem exec_signInWithGoogle : (signInWithGoogle w kIsWeb a).exec s =
    (a.ending kIsWeb).result (s.calledAll w (a.googleCalls kIsWeb)) := by
  cases kIsWeb with
  | true => exact exec_web
  | false => exact exec_native

/-- The backend is asked for the user, and the cover page takes the place of the one on top. -/
def opened (w : World) (a : Answers) (user : GoogleUser) (s : ButtonState) : ButtonState :=
  let t := s.calledAll w (a.backendCalls user)
  if t.mounted then { t with nav := t.nav.pushReplacement (.cover none) } else t

theorem exec_openCover {user : GoogleUser} :
    ((do
      await w (.checkIfFirstTimeLogin user.uid) (.ok ())
      if UserService.checkIfFirstTimeLogin a.check then
        await w (.createUser user.uid (user.displayName.getD "") (user.email.getD "")) (.ok ())
      pushReplacement (.cover none) : ButtonM Unit).exec s).2 = opened w a user s := by
  have hpush (t : ButtonState) : ((pushReplacement (.cover none)).exec t).2 =
      if t.mounted then { t with nav := t.nav.pushReplacement (.cover none) } else t := by
    rw [exec_pushReplacement]
    split <;> rfl
  rw [exec_bind, exec_await]
  dsimp only
  unfold opened Answers.backendCalls
  by_cases hfirst : a.check.Answered 404
  · rw [if_pos (UserService.checkIfFirstTimeLogin_eq_true.mpr hfirst), if_pos hfirst,
      exec_bind, exec_await]
    exact hpush _
  · rw [if_neg (fun h => hfirst (UserService.checkIfFirstTimeLogin_eq_true.mp h)),
      if_neg hfirst]
    exact hpush _

/-- The state in which the `try` of `onPressed` is left. -/
def Ending.leaves (w : World) (a : Answers) (e : Ending) (s : ButtonState) : ButtonState :=
  match e with
  | signedIn user => opened w a user s
  | failed content =>
    if s.mounted then { s with snackBars := s.snackBars ++ [content] } else s
  | nobody | threw _ => s

theorem exec_openForUser : ((openForUser w kIsWeb a).exec s).2 =
    (a.ending kIsWeb).leaves w a (s.calledAll w (a.googleCalls kIsWeb)) := by
  rw [openForUser, exec_bind, exec_signInWithGoogle]
  cases a.ending kIsWeb with
  | signedIn user => exact exec_openCover
  | nobody => rfl
  | threw thrown => rfl
  | failed content =>
    dsimp only [Ending.result, Ending.leaves]
    by_cases hm : (s.calledAll w (a.googleCalls kIsWeb)).mounted
    · rw [if_pos hm, if_pos hm]
      rfl
    · rw [if_neg hm, if_neg hm]

/-- The state before the `finally` of `onPressed`. -/
def pressed (w : World) (kIsWeb : Bool) (a : Answers) (s : ButtonState) : ButtonState :=
  (a.ending kIsWeb).leaves w a
    (ButtonState.calledAll w { s with isSigningIn := true } (a.googleCalls kIsWeb))

/-- **One press, from its first `setState` to its last.** -/
theorem exec_onPressed (hm : s.mounted) : (onPressed w kIsWeb a).exec s =
    let t := pressed w kIsWeb a s
    if t.mounted then (.ok (), { t with isSigningIn := false })
    else (.error (.other .unmounted), t) := by
  have hcaught (u : ButtonState) : (tryCatch (openForUser w kIsWeb a) (fun _ => pure ())).exec u =
      (.ok (), ((openForUser w kIsWeb a).exec u).2) := by
    rw [exec_tryCatch]
    cases (openForUser w kIsWeb a).exec u with
    | mk result v => cases result <;> rfl
  rw [onPressed, exec_bind, exec_setIsSigningIn, if_pos hm]
  dsimp only
  rw [exec_bind, hcaught]
  dsimp only
  rw [exec_setIsSigningIn, exec_openForUser]
  rfl

/-! ### What the answers say -/

namespace Answers

/-- Google and Firebase give this user. -/
def Gives (a : Answers) (kIsWeb : Bool) (user : GoogleUser) : Prop :=
  match kIsWeb with
  | true => a.popup = .ok (some user)
  | false =>
    a.account = .ok (some ()) ∧ a.authentication = .ok () ∧ a.credential = .ok (some user)

/-- Firebase refuses the credential with an exception that has a message. -/
def Refuses (a : Answers) (content : String) : Prop :=
  a.account = .ok (some ()) ∧ a.authentication = .ok () ∧
    ∃ thrown, a.credential = .error thrown ∧ thrownMessage thrown = some content

end Answers

theorem ending_eq_signedIn {user : GoogleUser} :
    a.ending kIsWeb = .signedIn user ↔ a.Gives kIsWeb user := by
  unfold Answers.ending Answers.Gives
  cases kIsWeb with
  | true =>
    rw [if_pos rfl]
    cases a.popup with
    | error thrown => simp
    | ok user' => cases user' <;> simp
  | false =>
    rw [if_neg Bool.false_ne_true]
    unfold Answers.nativeEnding
    cases a.account with
    | error thrown => simp
    | ok account =>
      cases account with
      | none => simp
      | some _ =>
        cases a.authentication with
        | error thrown => simp
        | ok _ =>
          cases a.credential with
          | ok user' => cases user' <;> simp
          | error thrown => cases hc : Answers.thrownMessage thrown <;> simp [hc]

theorem ending_eq_failed {content : String} :
    a.ending kIsWeb = .failed content ↔ kIsWeb = false ∧ a.Refuses content := by
  unfold Answers.ending Answers.Refuses
  cases kIsWeb with
  | true =>
    rw [if_pos rfl]
    cases a.popup with
    | error thrown => simp
    | ok user => cases user <;> simp
  | false =>
    rw [if_neg Bool.false_ne_true]
    unfold Answers.nativeEnding
    cases a.account with
    | error thrown => simp
    | ok account =>
      cases account with
      | none => simp
      | some _ =>
        cases a.authentication with
        | error thrown => simp
        | ok _ =>
          cases a.credential with
          | ok user => cases user <;> simp
          | error thrown => cases hc : Answers.thrownMessage thrown <;> simp [hc]

/-! ### What the rest of the app does meanwhile -/

/-- What becomes of the navigator and of the button while the calls are in flight. -/
def World.run (w : World) (cs : List Call) (n : Navigator Page × Bool) : Navigator Page × Bool :=
  cs.foldl (fun n c => (w.during c n.1, n.2 && w.stays c n.1)) n

theorem run_calledAll (cs : List Call) : ∀ s : ButtonState,
    ((s.calledAll w cs).nav, (s.calledAll w cs).mounted) = w.run cs (s.nav, s.mounted) := by
  induction cs with
  | nil => intro s; rfl
  | cons c cs ih => intro s; exact ih (s.called w c)

/-- The same for a button that is there and has been pressed: no call reads its flag. -/
theorem run_pressed (hm : s.mounted) (cs : List Call) :
    ((ButtonState.calledAll w { s with isSigningIn := true } cs).nav,
      (ButtonState.calledAll w { s with isSigningIn := true } cs).mounted) =
        w.run cs (s.nav, true) :=
  (run_calledAll cs _).trans (congrArg (fun b => w.run cs (s.nav, b)) hm)

theorem calledAll_append (cs ds : List Call) :
    (s.calledAll w cs).calledAll w ds = s.calledAll w (cs ++ ds) :=
  (List.foldl_append ..).symm

/-! ### The state at the end -/

theorem opened_kept {user : GoogleUser} : (opened w a user s).isSigningIn = s.isSigningIn ∧
    (opened w a user s).snackBars = s.snackBars ∧
    (opened w a user s).calls = s.calls ++ a.backendCalls user := by
  obtain ⟨hcalls, hbars, hflag⟩ := calls_calledAll (w := w) (a.backendCalls user) s
  unfold opened
  dsimp only
  split
  · exact ⟨hflag, hbars, hcalls⟩
  · exact ⟨hflag, hbars, hcalls⟩

theorem leaves_isSigningIn (e : Ending) : (e.leaves w a s).isSigningIn = s.isSigningIn := by
  cases e with
  | signedIn user => exact opened_kept.1
  | failed content =>
    unfold Ending.leaves
    dsimp only
    split
    · rfl
    · rfl
  | nobody => rfl
  | threw thrown => rfl

/-- Until `finally` the button shows that it is signing in. -/
theorem pressed_isSigningIn : (pressed w kIsWeb a s).isSigningIn = true := by
  unfold pressed
  rw [leaves_isSigningIn]
  exact (calls_calledAll (w := w) _ _).2.2

/-- The last `setState` changes nothing but the flag. -/
theorem exec_onPressed_kept (hm : s.mounted) :
    let t := ((onPressed w kIsWeb a).exec s).2
    t.nav = (pressed w kIsWeb a s).nav ∧ t.calls = (pressed w kIsWeb a s).calls ∧
      t.snackBars = (pressed w kIsWeb a s).snackBars := by
  rw [exec_onPressed hm]
  dsimp only
  split
  · exact ⟨rfl, rfl, rfl⟩
  · exact ⟨rfl, rfl, rfl⟩

/-- Without a user, neither the navigator is changed nor the backend asked. -/
theorem leaves_of_no_user {e : Ending} (h : ∀ user, e ≠ .signedIn user) :
    (e.leaves w a s).nav = s.nav ∧ (e.leaves w a s).calls = s.calls := by
  cases e with
  | signedIn user => exact absurd rfl (h user)
  | nobody => exact ⟨rfl, rfl⟩
  | threw thrown => exact ⟨rfl, rfl⟩
  | failed content =>
    unfold Ending.leaves
    dsimp only
    split
    · exact ⟨rfl, rfl⟩
    · exact ⟨rfl, rfl⟩

theorem leaves_snackBars {e : Ending} (h : ∀ content, e ≠ .failed content) :
    (e.leaves w a s).snackBars = s.snackBars := by
  cases e with
  | signedIn user => exact opened_kept.2.1
  | nobody => rfl
  | threw thrown => rfl
  | failed content => exact absurd rfl (h content)

theorem opened_nav {user : GoogleUser} {cs : List Call} :
    (opened w a user (s.calledAll w cs)).nav =
      if (w.run (cs ++ a.backendCalls user) (s.nav, s.mounted)).2 then
        (w.run (cs ++ a.backendCalls user) (s.nav, s.mounted)).1.pushReplacement (.cover none)
      else (w.run (cs ++ a.backendCalls user) (s.nav, s.mounted)).1 := by
  unfold opened
  rw [calledAll_append, ← run_calledAll]
  dsimp only
  split
  · rfl
  · rfl

/-- One press that ends with a user. -/
theorem exec_onPressed_gives {user : GoogleUser} (hm : s.mounted) (hgives : a.Gives kIsWeb user) :
    let t := ((onPressed w kIsWeb a).exec s).2
    let cs := a.googleCalls kIsWeb ++ a.backendCalls user
    let n := w.run cs (s.nav, true)
    t.calls = s.calls ++ cs ∧
      t.nav = if n.2 then n.1.pushReplacement (.cover none) else n.1 := by
  obtain ⟨hnav, hcalls, -⟩ := @exec_onPressed_kept w a kIsWeb s hm
  have hgoogle := calls_calledAll (w := w) (a.googleCalls kIsWeb) { s with isSigningIn := true }
  dsimp only
  rw [hnav, hcalls]
  unfold pressed
  rw [ending_eq_signedIn.mpr hgives]
  refine ⟨?_, ?_⟩
  · show (opened w a user _).calls = _
    rw [opened_kept.2.2, hgoogle.1, List.append_assoc]
  · show (opened w a user _).nav = _
    rw [opened_nav, show s.mounted = true from hm]

/-- One press that ends without a user. -/
theorem exec_onPressed_nobody (hm : s.mounted) (hno : ∀ user, ¬ a.Gives kIsWeb user) :
    let t := ((onPressed w kIsWeb a).exec s).2
    t.calls = s.calls ++ a.googleCalls kIsWeb ∧
      t.nav = (w.run (a.googleCalls kIsWeb) (s.nav, true)).1 := by
  obtain ⟨hnav, hcalls, -⟩ := @exec_onPressed_kept w a kIsWeb s hm
  have hgoogle := calls_calledAll (w := w) (a.googleCalls kIsWeb) { s with isSigningIn := true }
  obtain ⟨hkept, hcallskept⟩ := leaves_of_no_user (w := w) (a := a)
    (s := ButtonState.calledAll w { s with isSigningIn := true } (a.googleCalls kIsWeb))
    (fun user he => hno user (ending_eq_signedIn.mp he))
  dsimp only
  rw [hnav, hcalls]
  unfold pressed
  rw [hkept, hcallskept]
  refine ⟨hgoogle.1, ?_⟩
  exact congrArg Prod.fst (run_pressed hm (a.googleCalls kIsWeb))

/-! ### The main results -/

/-- Nothing happens while the calls are in flight. -/
def World.idle : World := ⟨fun _ n => n, fun _ _ => true⟩

/-- The page is left while the call is in flight. -/
def World.leftAt (c : Call) : World := ⟨fun d n => if d = c then n.pop else n, fun d _ => d ≠ c⟩

/-- The button on the log-in page. -/
def onLogin : ButtonState := ⟨(Navigator.home .auth).push .login, true, false, [], []⟩

/-- What comes back where Firebase signs a user in whom the backend does not know. -/
def newUser : Answers where
  popup := .ok none
  account := .ok (some ())
  authentication := .ok ()
  credential := .ok (some ⟨"u", none, some "e"⟩)
  check := .response 404 ""

/-- What comes back where Firebase refuses the credential. -/
def refused : Answers :=
  { newUser with credential := .error (.firebaseAuthException "invalid-credential" none) }

/-- **The button comes back exactly if it is still there**, whatever was thrown, and nothing
escapes it but its own `setState` when it is not. -/
theorem onPressed_ends (hm : s.mounted) :
    let t := ((onPressed w kIsWeb a).exec s).2
    ((onPressed w kIsWeb a).exec s).1 =
        (if t.mounted then .ok () else .error (.other .unmounted)) ∧
      (t.isSigningIn = false ↔ t.mounted) := by
  rw [exec_onPressed hm]
  dsimp only
  by_cases ht : (pressed w kIsWeb a s).mounted
  · rw [if_pos ht]
    exact ⟨(if_pos ht).symm, iff_of_true rfl ht⟩
  · rw [if_neg ht]
    refine ⟨(if_neg ht).symm, iff_of_false ?_ ht⟩
    rw [pressed_isSigningIn]
    exact fun h => Bool.false_ne_true h.symm

/-- The page is left while the accounts are shown, and the flag stays. -/
theorem onPressed_ends_left :
    ((onPressed (.leftAt .googleSignIn) false newUser).exec onLogin).2.isSigningIn ≠ false :=
  fun h => absurd ((onPressed_ends (s := onLogin) rfl).2.mp h) (by decide)

/-- **The cover page is opened for the user that Google and Firebase give**, if the button is
still there.  Before that the backend is asked for this user, and to store it exactly if it
answers `404`.  Without a user, the backend is not asked and nothing is opened. -/
theorem onPressed_opens (hm : s.mounted) :
    let t := ((onPressed w kIsWeb a).exec s).2
    (∀ user, a.Gives kIsWeb user →
      let cs := a.googleCalls kIsWeb ++ a.backendCalls user
      let n := w.run cs (s.nav, true)
      t.calls = s.calls ++ cs ∧
        t.nav = if n.2 then n.1.pushReplacement (.cover none) else n.1) ∧
    ((∀ user, ¬ a.Gives kIsWeb user) →
      t.calls = s.calls ++ a.googleCalls kIsWeb ∧
        t.nav = (w.run (a.googleCalls kIsWeb) (s.nav, true)).1) :=
  ⟨fun _ hgives => exec_onPressed_gives hm hgives, exec_onPressed_nobody hm⟩

theorem onPressed_opens_newUser :
    ((onPressed .idle false newUser).exec onLogin).2.calls =
      [.googleSignIn, .authentication, .signInWithCredential, .checkIfFirstTimeLogin "u",
        .createUser "u" "" "e"] ∧
    ((onPressed .idle false newUser).exec onLogin).2.nav.top = some ⟨2, .cover none⟩ := by
  have hgives : newUser.Gives false ⟨"u", none, some "e"⟩ := ⟨rfl, rfl, rfl⟩
  obtain ⟨hcalls, hnav⟩ := (@onPressed_opens .idle newUser false onLogin rfl).1 _ hgives
  refine ⟨hcalls, ?_⟩
  rw [hnav]
  rfl

/-- **A message is shown exactly if Firebase refuses the credential with an exception that has
one**, on no web, and the button is still there.  An account chooser that is closed, an
exception of Google, a popup that fails and any other code are passed over in silence. -/
theorem onPressed_reports_iff (hm : s.mounted) :
    ((onPressed w kIsWeb a).exec s).2.snackBars ≠ s.snackBars ↔
      kIsWeb = false ∧ (∃ content, a.Refuses content) ∧
        (w.run [.googleSignIn, .authentication, .signInWithCredential] (s.nav, true)).2 := by
  obtain ⟨-, -, hbars⟩ := @exec_onPressed_kept w a kIsWeb s hm
  have hgoogle := calls_calledAll (w := w) (a.googleCalls kIsWeb) { s with isSigningIn := true }
  rw [hbars]
  unfold pressed
  by_cases hfailed : ∃ content, a.ending kIsWeb = .failed content
  · obtain ⟨content, he⟩ := hfailed
    obtain ⟨rfl, hrefuses⟩ := ending_eq_failed.mp he
    have hcalls : a.googleCalls false =
        [.googleSignIn, .authentication, .signInWithCredential] := by
      unfold Answers.googleCalls
      rw [if_neg Bool.false_ne_true, hrefuses.1, hrefuses.2.1]
    rw [he, ← hcalls, ← run_pressed hm]
    dsimp only [Ending.leaves]
    by_cases ht : (ButtonState.calledAll w { s with isSigningIn := true }
        (a.googleCalls false)).mounted
    · rw [if_pos ht, hgoogle.2.1]
      exact iff_of_true (by simp) ⟨rfl, ⟨content, hrefuses⟩, ht⟩
    · rw [if_neg ht, hgoogle.2.1]
      exact iff_of_false (fun h => h rfl) (fun h => ht h.2.2)
  · rw [leaves_snackBars (fun content he => hfailed ⟨content, he⟩), hgoogle.2.1]
    refine iff_of_false (fun h => h rfl) ?_
    rintro ⟨hweb, ⟨content, hrefuses⟩, -⟩
    exact hfailed ⟨content, ending_eq_failed.mpr ⟨hweb, hrefuses⟩⟩

theorem onPressed_reports_refused :
    ((onPressed .idle false refused).exec onLogin).2.snackBars ≠ [] :=
  (onPressed_reports_iff (s := onLogin) rfl).mpr
    ⟨rfl, ⟨_, rfl, rfl, _, rfl, rfl⟩, rfl⟩

end

end GoodOmens.Forms.Google
