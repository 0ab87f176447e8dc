import GoodOmens.Library.Machine
import GoodOmens.App.Page

/-!
# The app as a machine

The state is the navigator, Firebase's session, the user records of the backend
and the asynchronous calls that have not come back (`Task`).  A step is a user
input, which goes to the page on top once its first frame is built (`front`), or
an answer to one of the calls in flight, in any order, or a frame.

Each handler of the source is one definition.  A handler that awaits is cut at
its `await`: the part before puts a `Task` in flight, the part after is the step
that takes the answer.  A handler that navigates after an `await` uses the
context of the page it belongs to; `Navigator.of(context)` of a page that is gone
throws, and the handler ends there.  Here a page is gone with its route.  In
truth it is there until its exit transition has ended, some 300 ms later: this
is abstracted away, and `App/Leaving.lean` puts it back.

* `signOut` puts two tasks in flight, the one of `Authentication.signOut` (which
  waits for Google first, except on the web) and the second, direct
  `FirebaseAuth.signOut`.  Both take effect when they come back.
* `frame` builds the `CoverPage`s that wait for their first frame: each captures
  the user, and the post-frame callbacks of `initState` replace the page on top.
* `initializeFirebase` is the future of the `FutureBuilder` in `LoginWidget` and
  `SignUpWidget`.  Every build of these pages, on top or not, starts a new one.
-/

namespace GoodOmens.App

/-- A sign-out in flight: the sessions below `before` are those established by
the time Log Out was pressed. -/
structure SignOut where
  before : Nat
  google : Bool
deriving DecidableEq, Repr

/-- The calls in flight, each with the identity of the route whose handler waits
for it. -/
inductive Task
  | fetchVerse (cover : Nat)
  | generateOutput (cover request : Nat)
  | signIn (owner : Nat)
  | signUp (owner : Nat)
  | fetchSignInMethods (owner : Nat)
  | resetPassword (owner : Nat)
  | signInWithGoogle (owner : Nat)
  | checkIfFirstTimeLogin (owner : Nat) (session : Session)
  | createUser (owner : Nat) (session : Session)
  | createVerifiedUser (owner : Nat) (session : Session)
deriving DecidableEq, Repr

/-- Firebase's side: the current session, and the sign-outs in flight.
`nextSid` and `loggedOut`, the sessions in which Log Out was pressed, are
bookkeeping. -/
structure Auth where
  currentUser : Option Session
  nextSid : Nat
  signOuts : List SignOut
  loggedOut : List Nat
deriving DecidableEq, Repr

/-- The whole state. -/
structure AppState where
  kIsWeb : Bool
  nav : Navigator Page
  auth : Auth
  records : List Uid
  tasks : List Task
  explained : List Nat
  nextRequest : Nat

/-- Which of the paths to the cover page. -/
inductive SignInPath
  | verifyEmail | google | logIn | redirect
deriving DecidableEq, Repr

/-- What a step does to the world outside the state. -/
inductive Effect
  | fetchVerse (firebaseId : Option Uid)
  | getUser (id : Uid)
  | createUser (id : Uid)
  | openCover (path : SignInPath) (session : Session)
  | signedOut (session : Session) (press : SignOut)
deriving DecidableEq, Repr

/-- How `signInWithEmailAndPassword` ends. -/
inductive SignInAnswer
  | success (uid : Uid) (emailVerified : Bool) | authException | exception
deriving DecidableEq, Repr

/-- How `createUserWithEmailAndPassword` ends. -/
inductive SignUpAnswer
  | success (uid : Uid) | emailAlreadyInUse | failure
deriving DecidableEq, Repr

/-- How `sendPasswordResetEmail` ends. -/
inductive ResetAnswer
  | success | authException | exception
deriving DecidableEq, Repr

/-- The steps.  User inputs first, then what comes back. -/
inductive Act
  | tapBible | seeMore | openMenu | systemBack | backButton
  | open (page : Page) | replace (page : Page)
  | logOut | signIn | signUp | signInWithGoogle | resetPassword
  | frame
  | rebuild (route : Nat)
  | initializeFirebase (owner : Nat)
  | reload (owner : Nat) (emailVerified : Bool)
  | fetchVerseAnswer (cover : Nat) (answer : Answer)
  | generateOutputAnswer (cover request : Nat) (answer : Answer)
  | signInAnswer (owner : Nat) (answer : SignInAnswer)
  | signUpAnswer (owner : Nat) (answer : SignUpAnswer)
  | signInMethodsAnswer (owner : Nat) (isEmpty : Bool)
  | resetAnswer (owner : Nat) (answer : ResetAnswer)
  | googleAnswer (owner : Nat) (user : Option (Uid × Bool))
  | checkAnswer (owner : Nat) (session : Session) (outcome : Outcome) (mounted : Bool)
  | createAnswer (owner : Nat) (session : Session) (outcome : Outcome) (mounted : Bool)
  | createVerifiedAnswer (owner : Nat) (session : Session) (outcome : Outcome)
  | googleSignedOut (before : Nat) (completed : Bool)
  | firebaseSignedOut (before : Nat)
deriving DecidableEq, Repr

namespace AppState

variable (s : AppState)

/-! ### Reading the state -/

/-- The route that takes the user's input: the one on top, once it is built. -/
def front : Option (Route Page) :=
  s.nav.top.filter (fun r => !r.page.awaitsFrame)

/-- The state of the `CoverPage` `i`, if it is on the stack. -/
def coverState (i : Nat) : Option Cover :=
  match s.nav.find i with
  | some (.cover (some c)) => some c
  | _ => none

/-- The route `i` is on the stack and its page satisfies `p`. -/
def shows (i : Nat) (p : Page → Bool) : Bool := (s.nav.find i).any p

/-- No sign-out is in flight. -/
def settled : Prop := s.auth.signOuts = []

/-- The user who is signed in with a verified email. -/
def verifiedUser : Option Session := s.auth.currentUser.filter Session.emailVerified

/-! ### Changing it -/

def done (t : Task) : AppState := { s with tasks := s.tasks.erase t }

/-- The answer to `t` has come: `none` when it was not in flight. -/
def finish (t : Task) : Option AppState := if t ∈ s.tasks then some (s.done t) else none

def await (t : Task) : AppState := { s with tasks := t :: s.tasks }

def push (p : Page) : AppState := { s with nav := s.nav.push p }

def pop : AppState := { s with nav := s.nav.pop }

def pushReplacement (p : Page) : AppState := { s with nav := s.nav.pushReplacement p }

def setPage (i : Nat) (p : Page) : AppState := { s with nav := s.nav.setPage i p }

/-- Firebase signs a user in: a new session takes the place of the current one. -/
def establish (uid : Uid) (emailVerified : Bool) : AppState :=
  { s with auth := { s.auth with
      currentUser := some ⟨s.auth.nextSid, uid, emailVerified⟩
      nextSid := s.auth.nextSid + 1 } }

/-- The session that the next sign-in establishes. -/
def nextSession (uid : Uid) (emailVerified : Bool) : Session :=
  ⟨s.auth.nextSid, uid, emailVerified⟩

/-- `createUser` with this outcome, as the backend sees it. -/
def store (uid : Uid) (o : Outcome) : AppState :=
  if o.Answered 200 then { s with records := uid :: s.records } else s

/-- `pushReplacement` of a `CoverPage`. -/
def openCover (path : SignInPath) (session : Session) : AppState × List Effect :=
  (s.pushReplacement (.cover none), [.openCover path session])

/-- `ProfileNav()`: its `initState` and its first build. -/
def profileNav : Page :=
  let isEmailVerified := s.auth.currentUser.any Session.emailVerified
  .profileNav isEmailVerified (getBodyWidget s.auth.currentUser isEmailVerified)

end AppState

end GoodOmens.App
