import GoodOmens.App.Basic

/-!
# The steps of the app

One definition for each handler, and `step`, which dispatches to them.  A
handler gives `none` when its step cannot be taken: the button is not on the
page in front, or the call is not in flight.

What a handler does after its `await` is a definition of its own (`…Rest`), with
`mounted` for whether the `State` of its page is still there.
-/

namespace GoodOmens.App

namespace AppState

variable (s : AppState)

/-! ### The verse flow -/

/-- A tap on the Bible: `fetchVerse` up to its request.  The Bible is shown
only while `isLoading` is false. -/
def tapBible : Option (AppState × List Effect) :=
  match s.front with
  | some ⟨i, .cover (some c)⟩ =>
    if c.isLoading then none
    else some ((s.setPage i (.cover (some { c with isLoading := true }))).await (.fetchVerse i),
      [.fetchVerse c.userId])
  | _ => none

/-- The rest of `fetchVerse` and the push of `handleGesture`, which goes on after an error
status too, for the page `i` in the state `c`. -/
def fetchVerseRest (i : Nat) (c : Cover) : Answer → AppState
  | .ok =>
    let s := s.await (.generateOutput i s.nextRequest)
    { s.push (.flow .verse (some s.nextRequest)) with nextRequest := s.nextRequest + 1 }
  | .error => s.push c.routeOnError
  | .threw => s

def fetchVerseAnswer (i : Nat) (answer : Answer) : Option (AppState × List Effect) := do
  let s ← s.finish (.fetchVerse i)
  match s.coverState i with
  | some c => some ((s.setPage i (.cover (some (c.fetched answer)))).fetchVerseRest i c answer, [])
  | none => some (s, [])

/-- The rest of `generateOutput`.  On an error status it pops the page on top,
whichever it is. -/
def generateOutputRest (request : Nat) (mounted : Bool) (answer : Answer) : AppState :=
  match mounted, answer with
  | true, .ok => { s with explained := request :: s.explained }
  | true, .error => s.pop
  | _, _ => s

def generateOutputAnswer (i request : Nat) (answer : Answer) : Option (AppState × List Effect) := do
  let s ← s.finish (.generateOutput i request)
  some (s.generateOutputRest request (s.coverState i).isSome answer, [])

/-- `handleGesture` of the pages above the cover, and Submit.  `ExplainationPage`
shows its See More once the explanation is there. -/
def seeMore : Option (AppState × List Effect) :=
  match s.front with
  | some ⟨_, .flow p request⟩ =>
    match p.next with
    | some q =>
      if p = .explaination ∧ ∃ k ∈ request, k ∉ s.explained then none
      else some (s.push (.flow q request), [])
    | none => none
  | _ => none

/-- The menu button of a page of the flow. -/
def openMenu : Option (AppState × List Effect) :=
  match s.front with
  | some r => if r.page.hasMenuButton then some (s.push s.profileNav, []) else none
  | none => none

/-! ### Back, and the plain links -/

/-- The system back button.  A page without a callback is popped unless it is
the only one. -/
def systemBack : Option (AppState × List Effect) :=
  match s.front with
  | some r =>
    match r.page.onWillPop with
    | .stays => some (s, [])
    | .pops => some (s.pop, [])
    | .bubbles => if s.nav.history.length ≤ 1 then some (s, []) else some (s.pop, [])
  | none => none

/-- A chevron, and Cancel and Confirm of the theme modal. -/
def backButton : Option (AppState × List Effect) :=
  match s.front with
  | some r => if r.page.hasBackButton then some (s.pop, []) else none
  | none => none

/-- A button that pushes `p`. -/
def openPage (p : Page) : Option (AppState × List Effect) :=
  match s.front with
  | some r => if p ∈ r.page.opens then some (s.push p, []) else none
  | none => none

/-- A link that puts `p` in the place of its page. -/
def replacePage (p : Page) : Option (AppState × List Effect) :=
  match s.front with
  | some r => if p ∈ r.page.replaces then some (s.pushReplacement p, []) else none
  | none => none

/-! ### Log Out -/

/-- The sign-outs that one press of Log Out starts: `Authentication.signOut`,
which waits for Google first except on the web, and `FirebaseAuth.signOut`. -/
def signOut : AppState :=
  { s with auth := { s.auth with
      signOuts := ⟨s.auth.nextSid, !s.kIsWeb⟩ :: ⟨s.auth.nextSid, false⟩ :: s.auth.signOuts
      loggedOut := (s.auth.currentUser.map Session.sid).toList ++ s.auth.loggedOut } }

/-- Log Out of `ProfileHomePage`: neither sign-out is awaited, one page is
popped and the next one replaced. -/
def logOut : Option (AppState × List Effect) :=
  match s.front with
  | some ⟨_, .profileNav _ .profileHome⟩ => some ((s.signOut.pop).pushReplacement .auth, [])
  | _ => none

/-- `GoogleSignIn.signOut` comes back; when it throws, `Authentication.signOut`
ends in its `catch`. -/
def googleSignedOut (before : Nat) (completed : Bool) : Option (AppState × List Effect) :=
  if ⟨before, true⟩ ∈ s.auth.signOuts then
    let rest := s.auth.signOuts.erase ⟨before, true⟩
    let signOuts := if completed then ⟨before, false⟩ :: rest else rest
    some ({ s with auth := { s.auth with signOuts := signOuts } }, [])
  else none

/-- `FirebaseAuth.signOut` comes back and clears whatever session is current. -/
def firebaseSignedOut (before : Nat) : Option (AppState × List Effect) :=
  if ⟨before, false⟩ ∈ s.auth.signOuts then
    some ({ s with auth := { s.auth with
        currentUser := none
        signOuts := s.auth.signOuts.erase ⟨before, false⟩ } },
      (s.auth.currentUser.map (fun session => .signedOut session ⟨before, false⟩)).toList)
  else none

/-! ### Frames -/

/-- The page after the frame: a `CoverPage` that waited for it has a state now,
with the user id captured and `outputDataFuture` unset. -/
def built (p : Page) : Page :=
  if p.awaitsFrame then .cover (some ⟨s.auth.currentUser.map Session.uid, false, false⟩) else p

/-- The post-frame callbacks of `initState`. -/
def postFrame : AppState :=
  match s.auth.currentUser with
  | none => s.pushReplacement s.profileNav
  | some session => if session.emailVerified then s else s.pushReplacement .auth

/-- The first frame of the `CoverPage`s that wait for it. -/
def frame : Option (AppState × List Effect) :=
  if s.nav.history.any (fun r => r.page.awaitsFrame) then
    some ({ s with nav := s.nav.mapPages (fun _ => s.built) }.postFrame, [])
  else none

/-- A `ProfileNav` is built again. -/
def rebuild (i : Nat) : Option (AppState × List Effect) :=
  match s.nav.find i with
  | some (.profileNav isEmailVerified _) =>
    some (s.setPage i
      (.profileNav isEmailVerified (getBodyWidget s.auth.currentUser isEmailVerified)), [])
  | _ => none

/-- What follows on `Authentication.initializeFirebase`. -/
def initializeFirebaseRest : AppState × List Effect :=
  match s.verifiedUser with
  | some session => s.openCover .redirect session
  | none => (s, [])

/-- `Authentication.initializeFirebase` of a `LoginWidget` or `SignUpWidget`. -/
def initializeFirebase (i : Nat) : Option (AppState × List Effect) :=
  if s.shows i Page.hasGoogleButton then some s.initializeFirebaseRest else none

/-! ### The forms -/

/-- The handler of a form up to its first `await`: the loading dialog, and a call. -/
def press (page : Page) (task : Nat → Task) : Option (AppState × List Effect) :=
  match s.front with
  | some ⟨i, p⟩ => if p = page then some ((s.push .loadingDialog).await (task i), []) else none
  | none => none

def signIn : Option (AppState × List Effect) := s.press .login .signIn

/-- The form is valid. -/
def signUp : Option (AppState × List Effect) := s.press .signUp .signUp

def resetPassword : Option (AppState × List Effect) := s.press .forgotPassword .resetPassword

/-- The rest of `signIn`.  `navigatorKey` is attached to nothing, so its
`popUntil` does nothing. -/
def signInRest (mounted : Bool) : SignInAnswer → AppState × List Effect
  | .success uid emailVerified =>
    let session := s.nextSession uid emailVerified
    let s := s.establish uid emailVerified
    if mounted then s.pop.openCover .logIn session else (s, [])
  | .authException => if mounted then (s.pop, []) else (s, [])
  | .exception => (s, [])

def signInAnswer (i : Nat) (answer : SignInAnswer) : Option (AppState × List Effect) := do
  let s ← s.finish (.signIn i)
  some (s.signInRest (s.nav.find i).isSome answer)

/-- `signUp` after `createUserWithEmailAndPassword`. -/
def signUpRest (i : Nat) (mounted : Bool) : SignUpAnswer → AppState
  | .success uid =>
    let s := s.establish uid false
    if mounted then s.pop.push .verifyEmail else s
  | .emailAlreadyInUse => if mounted then s.pop.await (.fetchSignInMethods i) else s
  | .failure => if mounted then s.pop else s

def signUpAnswer (i : Nat) (answer : SignUpAnswer) : Option (AppState × List Effect) := do
  let s ← s.finish (.signUp i)
  some (s.signUpRest i (s.nav.find i).isSome answer, [])

/-- `signUp` after `fetchSignInMethodsForEmail`. -/
def signInMethodsRest (mounted isEmpty : Bool) : AppState :=
  if isEmpty && mounted then s.push .verifyEmail else s

def signInMethodsAnswer (i : Nat) (isEmpty : Bool) : Option (AppState × List Effect) := do
  let s ← s.finish (.fetchSignInMethods i)
  some (s.signInMethodsRest (s.nav.find i).isSome isEmpty, [])

/-- The rest of `resetPassword`. -/
def resetRest (mounted : Bool) (answer : ResetAnswer) : AppState :=
  match mounted, answer with
  | true, .success => s.pushReplacement .emailSent
  | true, .authException => s.pop
  | _, _ => s

def resetAnswer (i : Nat) (answer : ResetAnswer) : Option (AppState × List Effect) := do
  let s ← s.finish (.resetPassword i)
  some (s.resetRest (s.nav.find i).isSome answer, [])

/-! ### Signing in with Google -/

/-- `onPressed` of the Google button up to its first `await`. -/
def signInWithGoogle : Option (AppState × List Effect) :=
  match s.front with
  | some ⟨i, p⟩ => if p.hasGoogleButton then some (s.await (.signInWithGoogle i), []) else none
  | none => none

/-- `Authentication.signInWithGoogle` comes back, with a user or with `null`. -/
def googleAnswer (i : Nat) (user : Option (Uid × Bool)) : Option (AppState × List Effect) := do
  let s ← s.finish (.signInWithGoogle i)
  match user with
  | some (uid, emailVerified) =>
    let session := s.nextSession uid emailVerified
    some ((s.establish uid emailVerified).await (.checkIfFirstTimeLogin i session),
      [.getUser uid])
  | none => some (s, [])

/-- The push of the Google button. -/
def googleOpensCover (session : Session) (mounted : Bool) : AppState × List Effect :=
  if mounted then s.openCover .google session else (s, [])

/-- `onPressed` after `checkIfFirstTimeLogin`.  The backend answers `200` when it has
the record, `404` when it has not. -/
def checkRest (i : Nat) (session : Session) (o : Outcome) (mounted : Bool) :
    Option (AppState × List Effect) :=
  if (o.Answered 200 ∧ session.uid ∉ s.records) ∨ (o.Answered 404 ∧ session.uid ∈ s.records) then
    none
  else if UserService.checkIfFirstTimeLogin o then
    some (s.await (.createUser i session), [.createUser session.uid])
  else
    some (s.googleOpensCover session mounted)

/-- `checkIfFirstTimeLogin` comes back.  The button's element may be gone although its
page is not: the `FutureBuilder` drops it when the page is built again. -/
def checkAnswer (i : Nat) (session : Session) (o : Outcome) (mounted : Bool) :
    Option (AppState × List Effect) := do
  let s ← s.finish (.checkIfFirstTimeLogin i session)
  s.checkRest i session o (mounted && (s.nav.find i).isSome)

/-- `createUser` of the Google button comes back; its result is dropped. -/
def createAnswer (i : Nat) (session : Session) (o : Outcome) (mounted : Bool) :
    Option (AppState × List Effect) := do
  let s ← s.finish (.createUser i session)
  some ((s.store session.uid o).googleOpensCover session (mounted && (s.nav.find i).isSome))

/-! ### Verifying the email -/

/-- `checkEmailVerified` after its `reload`, which tells what Firebase knows of the
email. -/
def reloadRest (i : Nat) (emailVerified : Bool) : Option (AppState × List Effect) :=
  match s.auth.currentUser with
  | some session =>
    let session := { session with emailVerified := session.emailVerified || emailVerified }
    let s := { s with auth := { s.auth with currentUser := some session } }
    if session.emailVerified then
      some (s.await (.createVerifiedUser i session), [.createUser session.uid])
    else some (s, [])
  | none => none

def reload (i : Nat) (emailVerified : Bool) : Option (AppState × List Effect) :=
  if s.shows i Page.showsVerifyEmail then s.reloadRest i emailVerified else none

/-- `checkEmailVerified` after `createUser`, whose result is dropped. -/
def createVerifiedRest (session : Session) (o : Outcome) (mounted : Bool) :
    AppState × List Effect :=
  let s := s.store session.uid o
  if mounted then s.openCover .verifyEmail session else (s, [])

def createVerifiedAnswer (i : Nat) (session : Session) (o : Outcome) :
    Option (AppState × List Effect) := do
  let s ← s.finish (.createVerifiedUser i session)
  some (s.createVerifiedRest session o (s.shows i Page.showsVerifyEmail))

end AppState

/-- One step. -/
def step (s : AppState) : Act → Option (AppState × List Effect)
  | .tapBible => s.tapBible
  | .seeMore => s.seeMore
  | .openMenu => s.openMenu
  | .systemBack => s.systemBack
  | .backButton => s.backButton
  | .open page => s.openPage page
  | .replace page => s.replacePage page
  | .logOut => s.logOut
  | .signIn => s.signIn
  | .signUp => s.signUp
  | .signInWithGoogle => s.signInWithGoogle
  | .resetPassword => s.resetPassword
  | .frame => s.frame
  | .rebuild route => s.rebuild route
  | .initializeFirebase owner => s.initializeFirebase owner
  | .reload owner emailVerified => s.reload owner emailVerified
  | .fetchVerseAnswer cover answer => s.fetchVerseAnswer cover answer
  | .generateOutputAnswer cover request answer => s.generateOutputAnswer cover request answer
  | .signInAnswer owner answer => s.signInAnswer owner answer
  | .signUpAnswer owner answer => s.signUpAnswer owner answer
  | .signInMethodsAnswer owner isEmpty => s.signInMethodsAnswer owner isEmpty
  | .resetAnswer owner answer => s.resetAnswer owner answer
  | .googleAnswer owner user => s.googleAnswer owner user
  | .checkAnswer owner session outcome mounted => s.checkAnswer owner session outcome mounted
  | .createAnswer owner session outcome mounted => s.createAnswer owner session outcome mounted
  | .createVerifiedAnswer owner session outcome => s.createVerifiedAnswer owner session outcome
  | .googleSignedOut before completed => s.googleSignedOut before completed
  | .firebaseSignedOut before => s.firebaseSignedOut before

/-- `runApp`: a `CoverPage` as home, and whatever session and records there
are from earlier. -/
def Starts (s : AppState) : Prop :=
  s.nav = .home (.cover none) ∧ s.tasks = [] ∧ s.explained = [] ∧ s.nextRequest = 0 ∧
    s.auth.signOuts = [] ∧ s.auth.loggedOut = [] ∧
    ∀ session ∈ s.auth.currentUser, session.sid < s.auth.nextSid

/-- The app. -/
def app : Machine AppState Act Effect where
  start := Starts
  step := step

/-! ### Two starts -/

/-- The app started by a user who is signed in with a verified email. -/
def startedBy (uid : Uid) (records : List Uid) : AppState where
  kIsWeb := false
  nav := .home (.cover none)
  auth := { currentUser := some ⟨0, uid, true⟩, nextSid := 1, signOuts := [], loggedOut := [] }
  records := records
  tasks := []
  explained := []
  nextRequest := 0

theorem starts_startedBy (uid : Uid) (records : List Uid) : Starts (startedBy uid records) := by
  refine ⟨rfl, rfl, rfl, rfl, rfl, rfl, ?_⟩
  intro session h
  obtain rfl := Option.some.inj h
  exact Nat.one_pos

/-- The app started by nobody, with nobody known to the backend. -/
def startedByNobody : AppState where
  kIsWeb := false
  nav := .home (.cover none)
  auth := { currentUser := none, nextSid := 0, signOuts := [], loggedOut := [] }
  records := []
  tasks := []
  explained := []
  nextRequest := 0

theorem starts_startedByNobody : Starts startedByNobody := by
  refine ⟨rfl, rfl, rfl, rfl, rfl, rfl, ?_⟩
  intro session h
  cases h

end GoodOmens.App
