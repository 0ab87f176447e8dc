import GoodOmens.Library.Navigator
import GoodOmens.Services.User

/-!
# The pages of the root navigator

Every page the app puts on its one navigator, with what the navigation code of
the page reads: a `CoverPage` the user id it captured and whether it is loading,
a page of the verse flow the explanation request its `VersePage` was opened for,
a `ProfileNav` the flag its state took and the body it shows.

`onWillPop` is what the system back button meets, `opens` and `replaces` are the
links that push a page or put one in the place of their own, `hasBackButton`
says which pages have a button that is a bare `Navigator.pop`.

The texts, the gradients and the animations are left out, and so is the theme,
which is the subject of `Theme/`.
-/

namespace GoodOmens.App

abbrev Uid := String

/-- A Firebase session: which sign-in established it, for whom, and whether the
email is verified. -/
structure Session where
  sid : Nat
  uid : Uid
  emailVerified : Bool
deriving DecidableEq, Repr

/-- How a verse or an explanation request ends for its handler: a `200` whose
body decodes, another status, or an exception (a body that does not decode
included). -/
inductive Answer
  | ok | error | threw
deriving DecidableEq, Repr

/-- What the navigation reads of the state of a `CoverPage`; of `outputDataFuture`, which is
`late`, whether it has been set. -/
structure Cover where
  userId : Option Uid
  isLoading : Bool
  outputDataFuture : Bool
deriving DecidableEq, Repr

/-- The pages above the cover, in the order in which they are walked. -/
inductive FlowPage
  | verse | explaination | guidance | query | chat
deriving DecidableEq, Repr

/-- The page that a page of the flow pushes: `handleGesture` of the first three,
`generateOutput` of `QueryPage`. -/
def FlowPage.next : FlowPage → Option FlowPage
  | verse => some explaination
  | explaination => some guidance
  | guidance => some query
  | query => some chat
  | chat => none

/-- What `ProfileNav` shows. -/
inductive Body
  | verifyEmail | auth | profileHome
deriving DecidableEq, Repr

/-- `_ProfileState._getBodyWidget`. -/
def getBodyWidget (currentUser : Option Session) (isEmailVerified : Bool) : Body :=
  if currentUser.isSome && !isEmailVerified then .verifyEmail
  else if currentUser.isNone then .auth
  else .profileHome

/-- A page.  A `CoverPage` without a state has not had its first frame yet.  The error route
is what `handleGesture` pushes while `outputDataFuture` is unset: its `pageBuilder` throws, so
it has no `VersePage`, no `WillPopScope` and no button. -/
inductive Page
  | cover (state : Option Cover)
  | flow (page : FlowPage) (request : Option Nat)
  | errorRoute
  | profileNav (isEmailVerified : Bool) (body : Body)
  | preferenceSetting
  | themeBottomModal
  | forgotPassword
  | emailSent
  | aboutUsNav
  | aboutUsText
  | auth
  | login
  | signUp
  | verifyEmail
  | loadingDialog
deriving DecidableEq, Repr

/-- What `handleGesture` pushes after an error status: a `VersePage` that no explanation
request was started for, or the error route if none ever was. -/
def Cover.routeOnError (c : Cover) : Page :=
  if c.outputDataFuture then .flow .verse none else .errorRoute

/-- What a `CoverPage` holds after the answer to a tap. -/
def Cover.fetched (c : Cover) : Answer → Cover
  | .ok => { c with isLoading := false, outputDataFuture := true }
  | .error => { c with isLoading := false }
  | .threw => c

theorem userId_fetched (c : Cover) (answer : Answer) : (c.fetched answer).userId = c.userId := by
  cases answer <;> rfl

namespace Page

def isCover : Page → Bool
  | cover _ => true
  | _ => false

/-- A page of the verse flow, the cover and the route that stands for a verse included. -/
def isVerseFlow : Page → Bool
  | cover _ | flow _ _ | errorRoute => true
  | _ => false

/-- The page has the menu button. -/
def hasMenuButton : Page → Bool
  | cover _ | flow _ _ => true
  | _ => false

/-- A `CoverPage` whose state does not exist yet. -/
def awaitsFrame : Page → Bool
  | cover none => true
  | _ => false

/-- The explanation request the page belongs to. -/
def request : Page → Option Nat
  | flow _ request => request
  | _ => none

/-- The page shows `VerifyEmailPage`, by itself or inside `ProfileNav`. -/
def showsVerifyEmail : Page → Bool
  | verifyEmail | profileNav _ .verifyEmail => true
  | _ => false

/-- The page shows `ProfileHomePage`, inside `ProfileNav`. -/
def showsProfileHome : Page → Bool
  | profileNav _ .profileHome => true
  | _ => false

/-- The page takes `currentUser!` when it is created. -/
def needsUser (p : Page) : Bool :=
  p.showsVerifyEmail || p.showsProfileHome || p = preferenceSetting

/-- The page has the Google button and the `FutureBuilder` on
`Authentication.initializeFirebase`. -/
def hasGoogleButton : Page → Bool
  | login | signUp => true
  | _ => false

/-- What the system back button meets: a callback that answers `false`, a
callback that pops by itself, or no callback. -/
inductive WillPop
  | stays | pops | bubbles
deriving DecidableEq, Repr

/-- The `onWillPop` of the page. -/
def onWillPop : Page → WillPop
  | cover _ => .stays
  | flow _ _ => .pops
  | profileNav _ .verifyEmail | verifyEmail => .stays
  | profileNav _ .profileHome => .pops
  | preferenceSetting => .pops
  | _ => .bubbles

/-- The page has a button whose handler is a bare `Navigator.of(context).pop`. -/
def hasBackButton : Page → Bool
  | profileNav _ .profileHome | preferenceSetting | themeBottomModal | forgotPassword
  | emailSent | aboutUsNav | aboutUsText | login | signUp => true
  | _ => false

/-- The pages that a button of the page pushes, the flow, the menu and the
loading dialogs apart. -/
def opens : Page → List Page
  | profileNav _ .profileHome => [preferenceSetting, forgotPassword, aboutUsNav]
  | preferenceSetting => [themeBottomModal]
  | aboutUsNav => [aboutUsText]
  | auth | profileNav _ .auth => [login, signUp]
  | login => [forgotPassword]
  | _ => []

/-- The page that a link of the page puts in its place. -/
def replaces : Page → List Page
  | login => [signUp]
  | signUp => [login]
  | _ => []

/-- What an answered tap puts over the cover page. -/
def isVerse : Page → Bool
  | flow .verse _ | errorRoute => true
  | _ => false

theorem isVerse_routeOnError (c : Cover) : c.routeOnError.isVerse := by
  unfold Cover.routeOnError
  split <;> rfl

theorem isCover_of_isVerse {p : Page} (h : p.isVerse) : p.isCover = false := by
  unfold isVerse at h
  split at h
  · rfl
  · rfl
  · cases h

theorem awaitsFrame_of_isVerse {p : Page} (h : p.isVerse) : p.awaitsFrame = false := by
  unfold isVerse at h
  split at h
  · rfl
  · rfl
  · cases h

theorem needsUser_of_isVerse {p : Page} (h : p.isVerse) : p.needsUser = false := by
  unfold isVerse at h
  split at h
  · rfl
  · rfl
  · cases h

theorem isCover_of_not_isVerseFlow {p : Page} (h : p.isVerseFlow = false) :
    p.isCover = false := by
  cases p with
  | cover _ => cases h
  | _ => rfl

theorem isVerseFlow_of_mem_opens {p q : Page} (h : q ∈ p.opens) : q.isVerseFlow = false := by
  unfold opens at h
  split at h
  all_goals
    simp only [List.mem_cons, List.not_mem_nil, or_false] at h
  · rcases h with rfl | rfl | rfl <;> rfl
  · subst h; rfl
  · subst h; rfl
  · rcases h with rfl | rfl <;> rfl
  · rcases h with rfl | rfl <;> rfl
  · subst h; rfl

/-- Sign-up and log-in lead to each other. -/
theorem eq_or_eq_of_mem_replaces {p q : Page} (h : q ∈ p.replaces) : q = signUp ∨ q = login := by
  unfold replaces at h
  split at h
  · exact .inl (List.mem_singleton.mp h)
  · exact .inr (List.mem_singleton.mp h)
  · cases h

theorem isVerseFlow_of_mem_replaces {p q : Page} (h : q ∈ p.replaces) :
    q.isVerseFlow = false := by
  rcases eq_or_eq_of_mem_replaces h with rfl | rfl <;> rfl

/-- Of the pages that a button pushes, the preferences alone need a user, and their button
is on `ProfileHomePage`. -/
theorem showsProfileHome_of_mem_opens {p q : Page} (h : q ∈ p.opens) (hq : q.needsUser) :
    p.showsProfileHome := by
  unfold opens at h
  split at h
  all_goals
    simp only [List.mem_cons, List.not_mem_nil, or_false] at h
  · rfl
  · subst h; cases hq
  · subst h; cases hq
  · rcases h with rfl | rfl <;> cases hq
  · rcases h with rfl | rfl <;> cases hq
  · subst h; cases hq

theorem needsUser_of_mem_replaces {p q : Page} (h : q ∈ p.replaces) : q.needsUser = false := by
  rcases eq_or_eq_of_mem_replaces h with rfl | rfl <;> rfl

theorem needsUser_of_showsProfileHome {p : Page} (h : p.showsProfileHome) : p.needsUser := by
  simp [needsUser, h]

/-- `ProfileNav` shows a page that needs a user only if there is one. -/
theorem isSome_of_getBodyWidget {currentUser : Option Session} {b isEmailVerified : Bool}
    (h : (profileNav b (getBodyWidget currentUser isEmailVerified)).needsUser) :
    currentUser.isSome := by
  cases currentUser with
  | some session => rfl
  | none => cases isEmailVerified <;> cases h

theorem isVerseFlow_of_awaitsFrame {p : Page} (h : p.awaitsFrame) : p.isVerseFlow := by
  unfold awaitsFrame at h
  split at h
  · rfl
  · cases h

end Page

end GoodOmens.App
