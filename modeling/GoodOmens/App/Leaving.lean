import GoodOmens.App.Routes
import GoodOmens.App.Tasks

/-!
# Pages that are moving out

A route that is popped or replaced is off the stack at once, but its page moves out
first, and until the transition has ended the `State` is there: `mounted` is true, and
`Navigator.of(context)` is the navigator.  An answer that comes in between runs its
handler to the end, on a stack the page is no longer part of.

`Screen` is the app together with the routes that are moving out, and `late` the rest of
each handler for a page among them.  The app itself is the part of it in which a page is
gone when its route is: as long as nothing is moving out the steps are those of the app,
and every run of the app is one of the screen on which each page has moved out before
anything else happens (`exec_screen`).

Confirm of the theme modal waits for the backend as well, and pops whatever is on top when
the answer comes; `confirming` are the modals that wait.
-/

namespace GoodOmens.App

open Navigator

/-- The route whose handler the step is part of, where the handler asks whether its page
is still there. -/
def Act.owner : Act → Option Nat
  | rebuild i | initializeFirebase i | reload i _ | fetchVerseAnswer i _
  | generateOutputAnswer i _ _ | signInAnswer i _ | signUpAnswer i _ | signInMethodsAnswer i _
  | resetAnswer i _ | checkAnswer i _ _ _ | createAnswer i _ _ _
  | createVerifiedAnswer i _ _ => some i
  | _ => none

/-- A `CoverPage` with a state. -/
def Page.isBuiltCover : Page → Bool
  | cover (some _) => true
  | _ => false

namespace AppState

variable (s : AppState)

/-- `Navigator.pop` and `pushReplacement` throw when there is no route. -/
def hasRoute : Bool := !s.nav.history.isEmpty

/-- What follows on `Authentication.initializeFirebase`. -/
def initializeFirebaseLate : AppState × List Effect :=
  if s.hasRoute then s.initializeFirebaseRest else (s, [])

/-- The rest of `signIn`.  Its pop may leave nothing to replace. -/
def signInLate (answer : SignInAnswer) : AppState × List Effect :=
  let x := s.signInRest s.hasRoute answer
  (x.1, if x.1.hasRoute then x.2 else [])

/-- The rests of the handlers, for a page `p` that is off the stack and still there.  A
handler whose first call of the navigator throws ends as if its page was gone. -/
def late (p : Page) : Act → Option (AppState × List Effect)
  | .rebuild _ => match p with
    | .profileNav _ _ => some (s, [])
    | _ => none
  | .initializeFirebase _ =>
    if p.hasGoogleButton then some s.initializeFirebaseLate else none
  | .reload i emailVerified =>
    if p.showsVerifyEmail then s.reloadRest i emailVerified else none
  | .fetchVerseAnswer i answer => do
    let s ← s.finish (.fetchVerse i)
    match p with
    | .cover (some c) => some (s.fetchVerseRest i c answer, [])
    | _ => some (s, [])
  | .generateOutputAnswer i request answer => do
    let s ← s.finish (.generateOutput i request)
    some (s.generateOutputRest request p.isBuiltCover answer, [])
  | .signInAnswer i answer => do
    let s ← s.finish (.signIn i)
    some (s.signInLate answer)
  | .signUpAnswer i answer => do
    let s ← s.finish (.signUp i)
    some (s.signUpRest i s.hasRoute answer, [])
  | .signInMethodsAnswer i isEmpty => do
    let s ← s.finish (.fetchSignInMethods i)
    some (s.signInMethodsRest true isEmpty, [])
  | .resetAnswer i answer => do
    let s ← s.finish (.resetPassword i)
    some (s.resetRest s.hasRoute answer, [])
  | .checkAnswer i session o mounted => do
    let s ← s.finish (.checkIfFirstTimeLogin i session)
    s.checkRest i session o (mounted && s.hasRoute)
  | .createAnswer i session o mounted => do
    let s ← s.finish (.createUser i session)
    some ((s.store session.uid o).googleOpensCover session (mounted && s.hasRoute))
  | .createVerifiedAnswer i session o => do
    let s ← s.finish (.createVerifiedUser i session)
    some (s.createVerifiedRest session o (p.showsVerifyEmail && s.hasRoute))
  | _ => none

/-- What the step leaves in the state of the page. -/
def written (p : Page) : Act → Page
  | .rebuild _ => match p with
    | .profileNav isEmailVerified _ =>
      .profileNav isEmailVerified (getBodyWidget s.auth.currentUser isEmailVerified)
    | p => p
  | .fetchVerseAnswer _ answer => match p with
    | .cover (some c) => .cover (some (c.fetched answer))
    | p => p
  | _ => p

/-- The routes that are off the stack after a step to `t`, with their pages. -/
def gone (t : AppState) (f : Page → Page) : List (Route Page) :=
  (s.nav.history.filter (fun r => r.id ∉ t.nav.ids)).map (fun r => ⟨r.id, f r.page⟩)

end AppState

/-- The app, the routes that are off the stack and still moving out, and the modals whose
`confirm` waits for `updateUserTheme`, each as often as it was pressed. -/
structure Screen where
  app : AppState
  leaving : List (Route Page)
  confirming : List Nat

/-- A step of the app; a press of Confirm and its answer; the first frame of a `CoverPage`
that is moving out already; a page has moved out. -/
inductive Screen.Act
  | app (a : App.Act)
  | confirm
  | confirmAnswer (modal : Nat) (outcome : Outcome)
  | firstFrame (route : Nat)
  | movedOut (route : Nat)
deriving DecidableEq, Repr

namespace Screen

variable (s : Screen)

/-- The page of the route `i`, if it is moving out. -/
def find (i : Nat) : Option Page := (s.leaving.find? (fun r => r.id = i)).map Route.page

/-- The context of the page is in the tree. -/
def mounted (i : Nat) : Bool := (s.app.nav.find i).isSome || (s.find i).isSome

/-- The page is in the tree and satisfies `p`. -/
def shows (i : Nat) (p : Page → Bool) : Bool := s.app.shows i p || (s.find i).any p

/-- The route whose handler the step is part of, if it is moving out. -/
def late (a : App.Act) : Option (Route Page) :=
  a.owner.bind (fun i => (s.find i).map (fun p => ⟨i, p⟩))

/-- The routes that are moving out, after the page of one of them has changed. -/
def setPage (i : Nat) (p : Page) : List (Route Page) :=
  s.leaving.map (fun r => if r.id = i then ⟨i, p⟩ else r)

/-- A step of the app.  What it takes off the stack starts to move out; a `CoverPage` that
its first frame takes off has a state by then. -/
def appStep (a : App.Act) : Option (Screen × List Effect) :=
  match s.late a with
  | some r =>
    (s.app.late r.page a).map (fun x =>
      ({ s with
        app := x.1
        leaving := s.app.gone x.1 id ++ s.setPage r.id (s.app.written r.page a) }, x.2))
  | none =>
    let f := if a = .frame then s.app.built else id
    (App.step s.app a).map (fun x =>
      ({ s with app := x.1, leaving := s.app.gone x.1 f ++ s.leaving }, x.2))

/-- `confirm` up to its `await`. -/
def confirm : Option (Screen × List Effect) :=
  match s.app.front with
  | some ⟨i, .themeBottomModal⟩ => some ({ s with confirming := i :: s.confirming }, [])
  | _ => none

/-- The rest of `confirm`: everything but `"error"` pops. -/
def confirmAnswer (i : Nat) (o : Outcome) : Option (Screen × List Effect) :=
  if i ∈ s.confirming then
    let s := { s with confirming := s.confirming.erase i }
    if UserService.updateUserTheme o ≠ some "error" ∧ s.mounted i then
      some ({ s with app := s.app.pop, leaving := s.app.gone s.app.pop id ++ s.leaving }, [])
    else some (s, [])
  else none

def firstFrame (i : Nat) : Option (Screen × List Effect) :=
  match s.find i with
  | some p =>
    if p.awaitsFrame then
      some ({ s with
        app := s.app.postFrame
        leaving := s.app.gone s.app.postFrame id ++ s.setPage i (s.app.built p) }, [])
    else none
  | none => none

def movedOut (i : Nat) : Option (Screen × List Effect) :=
  if (s.find i).isSome then
    some ({ s with leaving := s.leaving.filter (fun r => r.id ≠ i) }, [])
  else none

def step : Act → Option (Screen × List Effect)
  | .app a => s.appStep a
  | .confirm => s.confirm
  | .confirmAnswer modal outcome => s.confirmAnswer modal outcome
  | .firstFrame route => s.firstFrame route
  | .movedOut route => s.movedOut route

end Screen

/-- The app on its screen. -/
def screen : Machine Screen Screen.Act Effect where
  start s := Starts s.app ∧ s.leaving = [] ∧ s.confirming = []
  step := Screen.step

/-- The app with nothing moving out. -/
def Screen.of (s : AppState) : Screen := ⟨s, [], []⟩

theorem start_of {s : AppState} (h : Starts s) : screen.start (.of s) := ⟨h, rfl, rfl⟩

variable {s s' : AppState} {t t' : Screen} {a : Act} {es : List Effect} {i : Nat} {p : Page}

/-! ### What each step can do -/

/-- Whose handler is late. -/
theorem late_eq_some {r : Route Page} :
    t.late a = some r ↔ a.owner = some r.id ∧ t.find r.id = some r.page := by
  unfold Screen.late
  constructor
  · intro h
    obtain ⟨i, hi, hr⟩ := Option.bind_eq_some_iff.mp h
    obtain ⟨p, hp, rfl⟩ := Option.map_eq_some_iff.mp hr
    exact ⟨hi, hp⟩
  · rintro ⟨ha, hp⟩
    rw [ha, Option.bind_some, hp]
    rfl

theorem find_of_not_late (h : t.late a = none) (ha : a.owner = some i) : t.find i = none := by
  cases hf : t.find i with
  | none => rfl
  | some p =>
    have hlate : t.late a = some ⟨i, p⟩ := late_eq_some.mpr ⟨ha, hf⟩
    rw [h] at hlate
    cases hlate

/-- The step of a page on the stack is one of the app, that of a page that is moving out is
late. -/
theorem appStep_cases (h : t.appStep a = some (t', es)) :
    t'.confirming = t.confirming ∧
      (t.late a = none ∧ step t.app a = some (t'.app, es) ∧
          (∃ f, t'.leaving = t.app.gone t'.app f ++ t.leaving) ∨
        ∃ r, t.late a = some r ∧ t.app.late r.page a = some (t'.app, es) ∧
          t'.leaving = t.app.gone t'.app id ++ t.setPage r.id (t.app.written r.page a)) := by
  unfold Screen.appStep at h
  split at h
  · rename_i r hr
    obtain ⟨⟨u, fs⟩, hu, he⟩ := Option.map_eq_some_iff.mp h
    cases he
    exact ⟨rfl, .inr ⟨r, hr, hu, rfl⟩⟩
  · rename_i hr
    obtain ⟨⟨u, fs⟩, hu, he⟩ := Option.map_eq_some_iff.mp h
    cases he
    exact ⟨rfl, .inl ⟨hr, hu, _, rfl⟩⟩

theorem confirm_inv (h : t.confirm = some (t', es)) :
    (∃ i, t.app.front = some ⟨i, .themeBottomModal⟩ ∧ t'.confirming = i :: t.confirming) ∧
      t'.app = t.app ∧ es = [] := by
  unfold Screen.confirm at h
  split at h
  · rename_i i hf
    cases h
    exact ⟨⟨i, hf, rfl⟩, rfl, rfl⟩
  · cases h

theorem confirmAnswer_inv {o : Outcome} (h : t.confirmAnswer i o = some (t', es)) :
    (i ∈ t.confirming ∧ t'.confirming = t.confirming.erase i) ∧ es = [] ∧
      (t'.app = t.app ∧ ¬ (UserService.updateUserTheme o ≠ some "error" ∧ t.mounted i) ∨
        t'.app = t.app.pop ∧ UserService.updateUserTheme o ≠ some "error" ∧ t.mounted i) := by
  unfold Screen.confirmAnswer at h
  split at h
  · rename_i hi
    dsimp only at h
    split at h
    · rename_i hc
      cases h
      exact ⟨⟨hi, rfl⟩, rfl, .inr ⟨rfl, hc⟩⟩
    · rename_i hc
      cases h
      exact ⟨⟨hi, rfl⟩, rfl, .inl ⟨rfl, hc⟩⟩
  · cases h

theorem firstFrame_inv (h : t.firstFrame i = some (t', es)) :
    t'.confirming = t.confirming ∧ ∃ p, t.find i = some p ∧ t'.app = t.app.postFrame ∧ es = [] ∧
      t'.leaving = t.app.gone t'.app id ++ t.setPage i (t.app.built p) := by
  unfold Screen.firstFrame at h
  split at h
  · rename_i p hp
    split at h
    · cases h
      exact ⟨rfl, p, hp, rfl, rfl, rfl⟩
    · cases h
  · cases h

theorem movedOut_inv (h : t.movedOut i = some (t', es)) :
    t' = { t with leaving := t.leaving.filter (fun r => r.id ≠ i) } ∧ es = [] := by
  unfold Screen.movedOut at h
  split at h
  · cases h
    exact ⟨rfl, rfl⟩
  · cases h

/-! ### Who is there -/

theorem mounted_iff : t.mounted i ↔ i ∈ t.app.nav.ids ∨ i ∈ t.leaving.map Route.id := by
  rw [Screen.mounted, Bool.or_eq_true_iff]
  refine or_congr ?_ ?_
  · constructor
    · intro h
      obtain ⟨p, hp⟩ := Option.isSome_iff_exists.mp h
      exact id_mem_ids (mem_of_find hp)
    · intro h
      obtain ⟨r, hr, rfl⟩ := List.mem_map.mp h
      exact isSome_find hr
  · rw [Screen.find, Option.isSome_map, List.find?_isSome, List.mem_map]
    simp only [decide_eq_true_iff]

theorem ids_gone {f : Page → Page} :
    (s.gone s' f).map Route.id = s.nav.ids.filter (fun j => j ∉ s'.nav.ids) := by
  unfold AppState.gone Navigator.ids
  rw [List.map_map, List.filter_map]
  rfl

theorem ids_setPage : (t.setPage i p).map Route.id = t.leaving.map Route.id := by
  rw [Screen.setPage, List.map_map]
  refine List.map_congr_left (fun r _ => ?_)
  show (if r.id = i then (⟨i, p⟩ : Route Page) else r).id = r.id
  split
  · rename_i h
    exact h.symm
  · rfl

/-- After a step of the app there is what was there, or what has come on the stack. -/
theorem ids_leaving (h : t.appStep a = some (t', es)) : t'.leaving.map Route.id =
    t.app.nav.ids.filter (fun j => j ∉ t'.app.nav.ids) ++ t.leaving.map Route.id := by
  obtain ⟨-, ⟨-, -, f, hl⟩ | ⟨_, -, -, hl⟩⟩ := appStep_cases h
  · rw [hl, List.map_append, ids_gone]
  · rw [hl, List.map_append, ids_gone, ids_setPage]

/-- A page that is there stays until it has moved out. -/
theorem mounted_appStep (h : t.appStep a = some (t', es)) (hm : t.mounted i) : t'.mounted i := by
  rw [mounted_iff] at hm ⊢
  rw [ids_leaving h, List.mem_append, List.mem_filter, decide_eq_true_iff]
  rcases hm with hm | hm
  · by_cases hn : i ∈ t'.app.nav.ids
    · exact .inl hn
    · exact .inr (.inl ⟨hm, hn⟩)
  · exact .inr (.inr hm)

/-- The way back from a page brings no other. -/
theorem mounted_of_popsTheme {r : Route Page} (h : t.appStep a = some (t', es))
    (hp : t.app.popsTheme a = some r) (hm : t'.mounted i) : t.mounted i := by
  have hids : t'.app.nav.ids = t.app.nav.ids ∨ t'.app.nav.ids = t.app.nav.ids.drop 1 := by
    obtain ⟨-, ⟨-, hst, -⟩ | ⟨_, -, hst, -⟩⟩ := appStep_cases h
    · cases a with
      | systemBack =>
        obtain ⟨he | he, -⟩ := AppState.systemBack_inv hst
        · exact .inl (by rw [he])
        · exact .inr (by rw [he]; exact ids_pop)
      | backButton =>
        obtain ⟨he, -⟩ := AppState.backButton_inv hst
        exact .inr (by rw [he]; exact ids_pop)
      | _ => cases hp
    · cases a with
      | systemBack | backButton => cases hst
      | _ => cases hp
  rw [mounted_iff] at hm ⊢
  rw [ids_leaving h, List.mem_append, List.mem_filter] at hm
  rcases hm with hm | ⟨hm, -⟩ | hm
  · rcases hids with he | he
    · exact .inl (he ▸ hm)
    · exact .inl (List.mem_of_mem_drop (he ▸ hm))
  · exact .inl hm
  · exact .inr hm

/-! ### Runs of the app -/

/-- What is moving out can move out before anything else happens. -/
theorem exec_movedOut (s : AppState) (l : List (Route Page)) :
    ∃ as, screen.exec ⟨s, l, []⟩ as = some (⟨s, [], []⟩, []) := by
  cases l with
  | nil => exact ⟨[], rfl⟩
  | cons r rest =>
    have hfind : ((⟨s, r :: rest, []⟩ : Screen).find r.id).isSome := by
      simp [Screen.find]
    have hstep : screen.step ⟨s, r :: rest, []⟩ (.movedOut r.id) =
        some (⟨s, rest.filter (fun t => t.id ≠ r.id), []⟩, []) := by
      show (if _ then _ else _) = _
      rw [if_pos hfind]
      simp
    obtain ⟨as, has⟩ := exec_movedOut s (rest.filter (fun t => t.id ≠ r.id))
    exact ⟨.movedOut r.id :: as, Machine.exec_cons hstep has⟩
termination_by l.length
decreasing_by exact Nat.lt_succ_of_le (List.length_filter_le _ rest)

/-- **A run of the app is one of the screen**, on which nothing is moving out in the end. -/
theorem exec_screen {as : List Act} (h : app.exec s as = some (s', es)) :
    ∃ bs, screen.exec (.of s) bs = some (.of s', es) := by
  induction as generalizing s es with
  | nil =>
    cases h
    exact ⟨[], rfl⟩
  | cons a as ih =>
    obtain ⟨u, fs, gs, hst, hex, rfl⟩ := Machine.exec_cons_inv h
    have hlate : (⟨s, [], []⟩ : Screen).late a = none :=
      Option.bind_eq_none_iff.mpr (fun _ _ => rfl)
    have hstep : screen.step ⟨s, [], []⟩ (.app a) = Screen.appStep ⟨s, [], []⟩ a := rfl
    rw [Screen.appStep, hlate, show step s a = some (u, fs) from hst] at hstep
    obtain ⟨cs, hcs⟩ := exec_movedOut u _
    obtain ⟨bs, hbs⟩ := ih hex
    exact ⟨_, Machine.exec_cons hstep (Machine.exec_append hcs hbs)⟩

/-! ### What a late step ends and starts -/

/-- The form whose call comes back. -/
def Act.form : Act → Option Nat
  | signInAnswer i _ | signUpAnswer i _ | signInMethodsAnswer i _ | resetAnswer i _ => some i
  | _ => none

/-- How many routes the answer to a form takes off while the form is there. -/
def Act.takesOff : Act → Nat
  | signInAnswer _ answer => answer.drops
  | signUpAnswer _ _ => 1
  | resetAnswer _ answer => if answer ≠ .exception then 1 else 0
  | _ => 0

/-- How many routes a late step ends, of a page `p`: all of them with `null`. -/
def AppState.dropsLate (s : AppState) (p : Page) : Act → Nat
  | .initializeFirebase _ => if s.verifiedUser.isSome then 1 else 0
  | .generateOutputAnswer _ _ answer => if answer = .error ∧ p.isBuiltCover then 1 else 0
  | .checkAnswer _ _ o mounted => if ¬ o.Answered 404 ∧ mounted then 1 else 0
  | .createAnswer _ _ _ mounted => if mounted then 1 else 0
  | .createVerifiedAnswer _ _ _ => if p.showsVerifyEmail then 1 else 0
  | a => a.takesOff

/-- How many routes a step on the screen ends with `null`. -/
def Screen.drops (t : Screen) : Screen.Act → Nat
  | .app a =>
    match t.late a with
    | some r => t.app.dropsLate r.page a
    | none => t.app.drops a
  | .confirmAnswer i o =>
    if UserService.updateUserTheme o ≠ some "error" ∧ t.mounted i then 1 else 0
  | .firstFrame _ => if t.app.verifiedUser.isSome then 0 else 1
  | _ => 0

/-- The route that a step on the screen pops with its page's theme. -/
def Screen.popsTheme (t : Screen) : Screen.Act → Option (Route Page)
  | .app a => t.app.popsTheme a
  | _ => none

theorem dropsLate_of_form (h : a.form.isSome) : s.dropsLate p a = a.takesOff := by
  cases a with
  | signInAnswer | signUpAnswer | signInMethodsAnswer | resetAnswer => rfl
  | _ => cases h

theorem nil_of_not_hasRoute (h : s.hasRoute = false) : s.nav.history = [] := by
  rw [AppState.hasRoute, Bool.not_eq_false'] at h
  exact List.isEmpty_iff.mp h

/-- Where there is no route any number of them is taken off. -/
theorem drops_hasRoute {n : Navigator Page} {k : Nat}
    (h : Drops s.nav n (if s.hasRoute then k else 0)) : Drops s.nav n k := by
  cases hr : s.hasRoute with
  | true =>
    rw [hr] at h
    exact h
  | false => exact drops_of_nil (nil_of_not_hasRoute hr) h

theorem drops_resetLate (answer : ResetAnswer) : Drops s.nav (s.resetRest s.hasRoute answer).nav
    (Act.resetAnswer i answer).takesOff := by
  refine drops_hasRoute ?_
  have hd := drops_resetRest (s := s) s.hasRoute answer
  cases hr : s.hasRoute with
  | true =>
    rw [hr] at hd
    simpa [Act.takesOff] using hd
  | false =>
    rw [hr] at hd
    simpa using hd

theorem initializeFirebaseLate_cases (s : AppState) :
    s.initializeFirebaseLate = (s, []) ∨
      s.initializeFirebaseLate = s.initializeFirebaseRest := by
  unfold AppState.initializeFirebaseLate
  split
  · exact .inr rfl
  · exact .inl rfl

theorem drops_postFrame (s : AppState) :
    Drops s.nav s.postFrame.nav (if s.verifiedUser.isSome then 0 else 1) := by
  obtain ⟨-, ⟨hs, hv⟩ | ⟨_, -, hs, hv⟩⟩ := AppState.postFrame_inv s
  · rw [hs, if_pos hv]
    exact drops_self
  · rw [hs, hv]
    exact drops_pushReplacement

theorem drops_initializeFirebaseLate (s : AppState) :
    Drops s.nav s.initializeFirebaseLate.1.nav (if s.verifiedUser.isSome then 1 else 0) := by
  unfold AppState.initializeFirebaseLate
  cases hr : s.hasRoute with
  | false => exact drops_of_nil (nil_of_not_hasRoute hr) (drops_self (n := s.nav))
  | true =>
    rw [if_pos rfl]
    rcases AppState.initializeFirebaseRest_inv s with ⟨he, hv⟩ | ⟨_, hv, he⟩
    · rw [he, hv]
      exact drops_self
    · rw [he, hv]
      exact drops_pushReplacement

/-- A push of the Google button or of `VerifyEmailPage`, from a page that is there. -/
theorem drops_opensCover {m : Bool} {n' : Navigator Page} {q : Page} {x y : Prop}
    (h : (m && s.hasRoute) ∧ n' = s.nav.pushReplacement q ∧ x ∨
      ¬ (m && s.hasRoute) ∧ n' = s.nav ∧ y) :
    Drops s.nav n' (if m then 1 else 0) := by
  cases hr : s.hasRoute with
  | false =>
    rw [hr, Bool.and_false] at h
    rcases h with ⟨hno, -⟩ | ⟨-, hn, -⟩
    · cases hno
    · rw [hn]
      exact drops_of_nil (nil_of_not_hasRoute hr) drops_self
  | true =>
    rw [hr, Bool.and_true] at h
    rcases h with ⟨hm, hn, -⟩ | ⟨hm, hn, -⟩
    · rw [hn, if_pos hm]
      exact drops_pushReplacement
    · rw [hn, if_neg hm]
      exact drops_self

theorem late_rebuild (h : s.late p (.rebuild i) = some (s', es)) : s' = s := by
  cases p with
  | profileNav b body =>
    cases h
    rfl
  | _ => cases h

/-- **What a late step ends.** -/
theorem drops_late (h : s.late p a = some (s', es)) :
    Drops s.nav s'.nav (s.dropsLate p a) := by
  cases a with
  | rebuild i =>
    obtain rfl := late_rebuild h
    exact drops_self
  | initializeFirebase i =>
    obtain ⟨-, h⟩ := Option.ite_none_right_eq_some.mp h
    have hs := congrArg Prod.fst (Option.some.inj h)
    rw [← show _ = s' from hs]
    exact drops_initializeFirebaseLate s
  | reload i v =>
    obtain ⟨-, h⟩ := Option.ite_none_right_eq_some.mp h
    obtain ⟨_, -, hn, -⟩ := AppState.reloadRest_inv h
    exact hn ▸ drops_self
  | fetchVerseAnswer i answer =>
    replace h := (AppState.finish_bind h).2
    split at h
    · cases h
      cases answer with
      | ok | error => exact drops_push
      | threw => exact drops_self
    · cases h
      exact drops_self
  | generateOutputAnswer i request answer =>
    obtain ⟨rfl, -⟩ := Prod.mk.inj (Option.some.inj (AppState.finish_bind h).2)
    exact drops_generateOutputRest (s := s.done _) request _ answer
  | signInAnswer i answer =>
    have hs := congrArg Prod.fst (Option.some.inj (AppState.finish_bind h).2)
    rw [← show _ = s' from hs]
    exact drops_hasRoute (s := s.done _) (drops_signInRest (s := s.done _) _ answer)
  | signUpAnswer i answer =>
    obtain ⟨rfl, -⟩ := Prod.mk.inj (Option.some.inj (AppState.finish_bind h).2)
    exact drops_hasRoute (s := s.done _) (drops_signUpRest (s := s.done _) _ answer)
  | signInMethodsAnswer i isEmpty =>
    obtain ⟨rfl, -⟩ := Prod.mk.inj (Option.some.inj (AppState.finish_bind h).2)
    cases isEmpty with
    | true => exact drops_push
    | false => exact drops_self
  | resetAnswer i answer =>
    obtain ⟨rfl, -⟩ := Prod.mk.inj (Option.some.inj (AppState.finish_bind h).2)
    exact drops_resetLate (s := s.done _) (i := i) answer
  | checkAnswer i σ o m =>
    obtain ⟨-, -, -, ⟨hn, ho, -⟩ | ⟨ho, hm⟩⟩ := AppState.checkRest_inv (AppState.finish_bind h).2
    · rw [AppState.dropsLate, if_neg (fun hc => hc.1 ho)]
      exact hn ▸ drops_self
    · have hk : s.dropsLate p (.checkAnswer i σ o m) = if m then 1 else 0 := by
        simp [AppState.dropsLate, ho]
      rw [hk]
      exact drops_opensCover hm
  | createAnswer i σ o m =>
    exact drops_opensCover
      (AppState.createRest_inv (Option.some.inj (AppState.finish_bind h).2)).2.2
  | createVerifiedAnswer i σ o =>
    exact drops_opensCover
      (AppState.createVerifiedRest_inv (Option.some.inj (AppState.finish_bind h).2)).2.2
  | _ => cases h

/-- **What a step on the screen ends.** -/
theorem drops_screen {b : Screen.Act} (h : t.step b = some (t', es)) :
    Drops t.app.nav t'.app.nav (t.drops b + (t.popsTheme b).toList.length) := by
  cases b with
  | app a =>
    obtain ⟨-, ⟨hl, hst, -⟩ | ⟨r, hl, hst, -⟩⟩ := appStep_cases h
    · rw [Screen.drops, hl]
      exact drops_step hst
    · have hno : t.popsTheme (.app a) = none := by
        cases a with
        | systemBack | backButton => cases hst
        | _ => rfl
      rw [hno, Screen.drops, hl]
      exact drops_late hst
  | confirm =>
    obtain ⟨-, ht, -⟩ := confirm_inv h
    exact ht ▸ drops_self
  | confirmAnswer i o =>
    obtain ⟨-, -, ⟨ht, hc⟩ | ⟨ht, hc⟩⟩ := confirmAnswer_inv h
    · rw [ht]
      exact drops_ite (fun hyes => absurd hyes hc) (fun _ => drops_self)
    · rw [ht]
      exact drops_ite (fun _ => drops_pop) (fun hno => absurd hc hno)
  | firstFrame i =>
    obtain ⟨-, _, -, ht, -⟩ := firstFrame_inv h
    exact ht ▸ drops_postFrame t.app
  | movedOut i =>
    obtain ⟨rfl, -⟩ := movedOut_inv h
    exact drops_self

/-- A late step starts and ends the calls that the same step of the app does. -/
theorem tasks_late (h : s.late p a = some (s', es)) : CallsAfter s a s' := by
  cases a with
  | rebuild i =>
    obtain rfl := late_rebuild h
    exact .inl rfl
  | initializeFirebase i =>
    obtain ⟨-, h⟩ := Option.ite_none_right_eq_some.mp h
    have hs := congrArg Prod.fst (Option.some.inj h)
    rw [← show _ = s' from hs]
    left
    rcases initializeFirebaseLate_cases s with he | he
    · rw [he]
      rfl
    · rw [he]
      exact tasks_initializeFirebaseRest s
  | reload i v =>
    obtain ⟨-, h⟩ := Option.ite_none_right_eq_some.mp h
    exact calls_reloadRest h
  | fetchVerseAnswer i answer =>
    replace h := (AppState.finish_bind h).2
    split at h
    · cases h
      exact calls_fetchVerseRest rfl rfl
    · cases h
      exact .inl rfl
  | generateOutputAnswer i request answer =>
    obtain ⟨rfl, -⟩ := Prod.mk.inj (Option.some.inj (AppState.finish_bind h).2)
    exact .inl (tasks_generateOutputRest _ request _ answer)
  | signInAnswer i answer =>
    have hs := congrArg Prod.fst (Option.some.inj (AppState.finish_bind h).2)
    rw [← show _ = s' from hs]
    exact .inl (tasks_signInRest _ _ answer)
  | signUpAnswer i answer =>
    obtain ⟨rfl, -⟩ := Prod.mk.inj (Option.some.inj (AppState.finish_bind h).2)
    exact calls_signUpRest _ answer
  | signInMethodsAnswer i isEmpty =>
    obtain ⟨rfl, -⟩ := Prod.mk.inj (Option.some.inj (AppState.finish_bind h).2)
    exact .inl (tasks_signInMethodsRest _ true isEmpty)
  | resetAnswer i answer =>
    obtain ⟨rfl, -⟩ := Prod.mk.inj (Option.some.inj (AppState.finish_bind h).2)
    exact .inl (tasks_resetRest _ _ answer)
  | checkAnswer i σ o m => exact calls_checkRest (AppState.finish_bind h).2
  | createAnswer i σ o m => exact calls_createRest (Option.some.inj (AppState.finish_bind h).2)
  | createVerifiedAnswer i σ o =>
    have hs := congrArg Prod.fst (Option.some.inj (AppState.finish_bind h).2)
    rw [← show _ = s' from hs]
    exact .inl (tasks_createVerifiedRest _ σ o _)
  | _ => cases h

end GoodOmens.App
