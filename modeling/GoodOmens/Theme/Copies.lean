import GoodOmens.App.Page
import GoodOmens.Library.Machine
import GoodOmens.Theme.Background

/-!
# Every copy of the theme can be drawn

A theme comes into the app from the backend, from the carousel, or as one of the two
constants that pages start with: `999` of `CoverPage` and `0` of `ProfileHomePage`.
From there it is copied: to a page that is pushed, to the page below when one is
popped, to the theme modal, to the variable of the carousel, to the backend and back.

`copies` has all the pages on one navigator, each route with the route whose handler
awaits it, and lets everything happen that can move a theme, in any order.  A theme
with an image can be drawn (`typeOf_of_listed`), and so can `999`; `Kept` says that
there is nothing else, and that `999` is with the cover and the pages of the flow
alone.  What makes it so is who awaits whom: a page of the flow is awaited by one of
these too.
-/

namespace GoodOmens.Theme

open App

/-- A page with its copies of the theme.  `home` is the user and the `currTheme` of
the `ProfileHomePage` that a `ProfileNav` shows, if it shows one. -/
inductive Screen
  | cover (userId : Option Uid) (theme : Int)
  | flow (page : FlowPage) (theme : Int)
  | profileNav (home : Option (Uid × Int))
  | preferenceSetting (id : Uid) (theme currTheme : Int)
  | themeModal (id : Uid) (initialPage : Int)
  | other
deriving DecidableEq, Repr

namespace Screen

/-- The copies. -/
def themes : Screen → List Int
  | cover _ theme | flow _ theme => [theme]
  | profileNav home => (home.map Prod.snd).toList
  | preferenceSetting _ theme currTheme => [theme, currTheme]
  | themeModal _ initialPage => [initialPage]
  | other => []

/-- The cover, or a page of the flow. -/
def isVerseFlow : Screen → Bool
  | cover _ _ | flow _ _ => true
  | _ => false

/-- The copy that the page draws or pops. -/
def shown : Screen → Option Int
  | cover _ theme | flow _ theme | preferenceSetting _ _ theme => some theme
  | profileNav home => home.map Prod.snd
  | themeModal _ _ | other => none

/-- The page's `setState` with a theme that came from outside. -/
def setTheme (t : Int) : Screen → Screen
  | cover userId _ => cover userId t
  | flow page _ => flow page t
  | profileNav home => profileNav (home.map (fun h => (h.1, t)))
  | preferenceSetting id theme _ => preferenceSetting id theme t
  | themeModal id initialPage => themeModal id initialPage
  | other => other

/-- The user of the page that loads his data: in `initState` of `CoverPage` and of
`ProfileHomePage`. -/
def loads : Screen → Option Uid
  | cover userId _ => userId
  | profileNav home => home.map Prod.fst
  | _ => none

end Screen

/-- A screen, and the route whose handler awaits the result. -/
structure Frame where
  screen : Screen
  awaitedBy : Option Nat
deriving DecidableEq, Repr

/-- The pages, the variable `_currentIndex` of the theme modal, the user loads and
the updates in flight, and for every user the themes that the backend has had. -/
structure Copies where
  nav : Navigator Frame
  modalIndex : Int
  loads : List (Nat × Uid)
  updates : List (Uid × Int)
  stored : Uid → List Int

/-- What moves a theme, and what moves pages.  `kept` says whether the backend kept
the theme of an update that it did not acknowledge, `mounted` whether the modal's
context is still in the tree. -/
inductive Copies.Act
  | newAccount (uid : Uid) (theme : Int)
  | loaded (owner : Nat) (uid : Uid) (theme : Int)
  | loadFailed (owner : Nat) (uid : Uid)
  | verse (cover : Nat)
  | forward (owner : Nat)
  | openMenu (owner : Nat) (user : Option Uid)
  | openPreference (owner : Nat)
  | openModal (owner : Nat)
  | pageChanged (index : Nat)
  | confirm (modal : Nat)
  | updated (uid : Uid) (theme : Int) (outcome : Outcome) (kept mounted : Bool)
  | back
  | popNull
  | push
  | replace (cover : Option (Option Uid))
  | rebuild (profileNav : Nat) (user : Option Uid)
deriving DecidableEq, Repr

namespace Copies

/-- The rest of the handler that awaited a route, in the page `i`: a cover and a page
of the flow take an `int`, `ProfileHomePage` and `PreferenceSettingPage` whatever is
not `null`. -/
def resume (i : Nat) (t : Int) (n : Navigator Frame) : Navigator Frame :=
  n.mapPages (fun j f => if j = i then { f with screen := f.screen.setTheme t } else f)

/-- The top route is popped with a result. -/
def popWith (result : Option Int) (n : Navigator Frame) : Navigator Frame :=
  match n.top.bind (fun r => r.page.awaitedBy), result with
  | some i, some t => resume i t n.pop
  | _, _ => n.pop

variable (s : Copies)

/-- The screen of a route. -/
def screen (i : Nat) : Option Screen := (s.nav.find i).map Frame.screen

/-- A push, and the load of the page that is pushed. -/
def pushScreen (screen : Screen) (awaitedBy : Option Nat) : Copies :=
  { s with
    nav := s.nav.push ⟨screen, awaitedBy⟩
    loads := (screen.loads.map (fun uid => (s.nav.next, uid))).toList ++ s.loads }

/-- An account that the backend did not know gets a theme with an image. -/
def newAccount (uid : Uid) (theme : Int) : Option Copies :=
  if s.stored uid = [] ∧ Listed theme then
    some { s with stored := fun u => if u = uid then [theme] else s.stored u }
  else none

/-- The rest of `initializeUserData`. -/
def loaded (i : Nat) (uid : Uid) (theme : Int) : Option Copies :=
  if (i, uid) ∈ s.loads ∧ theme ∈ s.stored uid then
    some { s with loads := s.loads.erase (i, uid), nav := resume i theme s.nav }
  else none

def loadFailed (i : Nat) (uid : Uid) : Option Copies :=
  if (i, uid) ∈ s.loads then some { s with loads := s.loads.erase (i, uid) } else none

/-- `handleGesture` of `CoverPage`, which pushes when the verse is there. -/
def verse (i : Nat) : Option Copies :=
  match s.screen i with
  | some (.cover _ theme) => some (s.pushScreen (.flow .verse theme) (some i))
  | _ => none

/-- The push of the next page of the flow. -/
def forward (i : Nat) : Option Copies :=
  match s.screen i with
  | some (.flow page theme) => page.next.map (fun q => s.pushScreen (.flow q theme) (some i))
  | _ => none

/-- The menu button.  `ProfileNav` shows a `ProfileHomePage` for a verified user. -/
def openMenu (i : Nat) (user : Option Uid) : Option Copies :=
  match s.screen i with
  | some screen =>
    if screen.isVerseFlow then
      some (s.pushScreen (.profileNav (user.map (fun uid => (uid, 0)))) (some i))
    else none
  | none => none

/-- The preference button of `ProfileHomePage`. -/
def openPreference (i : Nat) : Option Copies :=
  match s.screen i with
  | some (.profileNav (some (uid, currTheme))) =>
    some (s.pushScreen (.preferenceSetting uid currTheme currTheme) (some i))
  | _ => none

/-- `showThemeBottomModal`. -/
def openModal (i : Nat) : Option Copies :=
  match s.screen i with
  | some (.preferenceSetting id _ currTheme) =>
    some (s.pushScreen (.themeModal id currTheme) (some i))
  | _ => none

/-- `onIndexChanged`, from a modal that is open or still moving out. -/
def pageChanged (index : Nat) : Option Copies :=
  if index < images.length then some { s with modalIndex := index } else none

/-- `confirm` up to its `await`. -/
def confirm (i : Nat) : Option Copies :=
  match s.screen i with
  | some (.themeModal id _) => some { s with updates := (id, s.modalIndex) :: s.updates }
  | _ => none

/-- The rest of `confirm`. -/
def updated (uid : Uid) (theme : Int) (o : Outcome) (kept mounted : Bool) : Option Copies :=
  if (uid, theme) ∈ s.updates then
    let s := { s with updates := s.updates.erase (uid, theme) }
    let s :=
      if o.Answered 200 ∨ kept then
        { s with stored := fun u => if u = uid then theme :: s.stored u else s.stored u }
      else s
    if mounted ∧ UserService.updateUserTheme o ≠ some "error" then
      some { s with nav := popWith (some s.modalIndex) s.nav }
    else some s
  else none

/-- The back buttons that pop the page's theme. -/
def back : Option Copies :=
  match s.nav.top with
  | some r =>
    match r.page.screen with
    | .flow _ _ | .profileNav (some _) | .preferenceSetting _ _ _ =>
      some { s with nav := popWith r.page.screen.shown s.nav }
    | _ => none
  | none => none

/-- A pop without a result: Cancel, Log Out, an error handler. -/
def popNull : Option Copies := some { s with nav := popWith none s.nav }

/-- The push of a page without a theme. -/
def push : Option Copies := some (s.pushScreen .other none)

/-- `pushReplacement` of a `CoverPage` with the user it captures, or of a page without
a theme. -/
def replace (cover : Option (Option Uid)) : Option Copies :=
  let screen := match cover with
    | some userId => .cover userId 999
    | none => .other
  if s.nav.top.isSome then
    some { s with
      nav := s.nav.pushReplacement ⟨screen, none⟩
      loads := (screen.loads.map (fun uid => (s.nav.next, uid))).toList ++ s.loads }
  else none

/-- The `ProfileNav` `i` shows a new `ProfileHomePage` or none.  The handlers of the old
one will throw. -/
def rebuilt (i : Nat) (user : Option Uid) (j : Nat) (f : Frame) : Frame :=
  if j = i then { f with screen := .profileNav (user.map (fun uid => (uid, 0))) }
  else if f.awaitedBy = some i then { f with awaitedBy := none }
  else f

/-- A `ProfileNav` is built again. -/
def rebuild (i : Nat) (user : Option Uid) : Option Copies :=
  match s.screen i with
  | some (.profileNav _) =>
    some { s with
      nav := s.nav.mapPages (rebuilt i user)
      loads := (user.map (fun uid => (i, uid))).toList ++ s.loads.filter (fun l => l.1 ≠ i) }
  | _ => none

def step : Act → Option Copies
  | .newAccount uid theme => s.newAccount uid theme
  | .loaded owner uid theme => s.loaded owner uid theme
  | .loadFailed owner uid => s.loadFailed owner uid
  | .verse cover => s.verse cover
  | .forward owner => s.forward owner
  | .openMenu owner user => s.openMenu owner user
  | .openPreference owner => s.openPreference owner
  | .openModal owner => s.openModal owner
  | .pageChanged index => s.pageChanged index
  | .confirm modal => s.confirm modal
  | .updated uid theme o kept mounted => s.updated uid theme o kept mounted
  | .back => s.back
  | .popNull => s.popNull
  | .push => s.push
  | .replace cover => s.replace cover
  | .rebuild profileNav user => s.rebuild profileNav user

/-- The app has started; the accounts that there are have themes with images. -/
def Starts (s : Copies) : Prop :=
  (∃ userId, s.nav = .home ⟨.cover userId 999, none⟩ ∧
    s.loads = (userId.map (fun uid => (0, uid))).toList) ∧
  s.modalIndex = 0 ∧ s.updates = [] ∧ ∀ uid, ∀ theme ∈ s.stored uid, Listed theme

end Copies

/-- The app, as far as it moves themes. -/
def copies : Machine Copies Copies.Act Empty where
  start := Copies.Starts
  step s a := (s.step a).map (fun s => (s, []))

/-- There is a background for the theme, so drawing it does not call `null`. -/
def Drawable (theme : Int) : Prop :=
  (typeOf ("Background" ++ toString theme)).isSome = true ∧
    ∃ background, getBackground theme = .ok background

/-- Every copy can be drawn, and `999` does not get where a theme is chosen. -/
structure AllDrawable (s : Copies) : Prop where
  pages : ∀ r ∈ s.nav.history, ∀ theme ∈ r.page.screen.themes, Drawable theme
  modalIndex : Drawable s.modalIndex
  preference : ∀ r ∈ s.nav.history, ∀ id theme currTheme,
    r.page.screen = .preferenceSetting id theme currTheme → theme ≠ 999 ∧ currTheme ≠ 999
  modal : ∀ r ∈ s.nav.history, ∀ id initialPage,
    r.page.screen = .themeModal id initialPage → initialPage ≠ 999
  updates : ∀ u ∈ s.updates, u.2 ≠ 999
  stored : ∀ uid, 999 ∉ s.stored uid

/-! ### What is kept -/

/-- The theme has an image, or it is `999` and the page is one that may have it. -/
def Fits (screen : Screen) (theme : Int) : Prop :=
  Listed theme ∨ screen.isVerseFlow = true ∧ theme = 999

/-- The copies fit their pages, and a page that may have `999` is awaited by such a
page. -/
structure KeptNav (n : Navigator Frame) : Prop where
  pages : ∀ r ∈ n.history, ∀ theme ∈ r.page.screen.themes, Fits r.page.screen theme
  awaited : ∀ r ∈ n.history, ∀ i, r.page.awaitedBy = some i →
    i < n.next ∧ (r.page.screen.isVerseFlow = true →
      ∀ q ∈ n.history, q.id = i → q.page.screen.isVerseFlow = true)

/-- Everywhere else there are themes with images only. -/
structure Kept (s : Copies) : Prop where
  nav : KeptNav s.nav
  modalIndex : Listed s.modalIndex
  updates : ∀ u ∈ s.updates, Listed u.2
  stored : ∀ uid, ∀ theme ∈ s.stored uid, Listed theme

theorem drawable_of_listed {theme : Int} (h : Listed theme) : Drawable theme :=
  ⟨typeOf_of_listed h, getBackground_of_isSome (typeOf_of_listed h)⟩

theorem drawable_of_fits {screen : Screen} {theme : Int} (h : Fits screen theme) :
    Drawable theme := by
  rcases h with h | ⟨-, rfl⟩
  · exact drawable_of_listed h
  · have h999 : (typeOf ("Background" ++ toString (999 : Int))).isSome = true := by decide +kernel
    exact ⟨h999, getBackground_of_isSome h999⟩

theorem ne_of_listed {theme : Int} (h : Listed theme) : theme ≠ 999 := by
  have hlt : theme < 21 := h.2
  omega

theorem listed_of_fits {screen : Screen} {theme : Int} (hs : screen.isVerseFlow = false)
    (h : Fits screen theme) : Listed theme := by
  rcases h with h | ⟨hv, -⟩
  · exact h
  · rw [hs] at hv
    cases hv

/-- **What is kept can be drawn.** -/
theorem Kept.allDrawable {s : Copies} (h : Kept s) : AllDrawable s := by
  have hlisted : ∀ r ∈ s.nav.history, r.page.screen.isVerseFlow = false →
      ∀ theme ∈ r.page.screen.themes, Listed theme :=
    fun r hr hv theme ht => listed_of_fits hv (h.nav.pages r hr theme ht)
  refine ⟨?_, drawable_of_listed h.modalIndex, ?_, ?_, ?_, ?_⟩
  · intro r hr theme ht
    exact drawable_of_fits (h.nav.pages r hr theme ht)
  · intro r hr id theme currTheme hscreen
    have hall := hlisted r hr (by rw [hscreen]; rfl)
    rw [hscreen] at hall
    exact ⟨ne_of_listed (hall theme (by simp [Screen.themes])),
      ne_of_listed (hall currTheme (by simp [Screen.themes]))⟩
  · intro r hr id initialPage hscreen
    have hall := hlisted r hr (by rw [hscreen]; rfl)
    rw [hscreen] at hall
    exact ne_of_listed (hall initialPage (by simp [Screen.themes]))
  · intro u hu
    exact ne_of_listed (h.updates u hu)
  · intro uid hmem
    exact ne_of_listed (h.stored uid 999 hmem) rfl

/-! ### The operations of the navigator -/

section

variable {n : Navigator Frame} {i : Nat} {t : Int} {screen : Screen}

@[simp] theorem isVerseFlow_setTheme : (screen.setTheme t).isVerseFlow = screen.isVerseFlow := by
  cases screen <;> rfl

theorem fits_setTheme (hs : ∀ theme ∈ screen.themes, Fits screen theme) (ht : Fits screen t) :
    ∀ theme ∈ (screen.setTheme t).themes, Fits (screen.setTheme t) theme := by
  cases screen with
  | cover userId theme =>
    intro u hu
    cases List.mem_singleton.mp hu
    exact ht
  | flow page theme =>
    intro u hu
    cases List.mem_singleton.mp hu
    exact ht
  | profileNav home =>
    cases home with
    | none => intro u hu; cases hu
    | some home =>
      intro u hu
      cases List.mem_singleton.mp hu
      exact ht
  | preferenceSetting id theme currTheme =>
    intro u hu
    rcases List.mem_cons.mp hu with rfl | hu
    · exact hs u List.mem_cons_self
    · cases List.mem_singleton.mp hu
      exact ht
  | themeModal id initialPage => exact hs
  | other => exact hs

/-- A theme that fits may be handed to a page. -/
theorem keptNav_resume (h : KeptNav n)
    (ht : ∀ q ∈ n.history, q.id = i → Fits q.page.screen t) :
    KeptNav (Copies.resume i t n) := by
  have hsame : ∀ q ∈ (Copies.resume i t n).history, ∃ r ∈ n.history, q.id = r.id ∧
      q.page.awaitedBy = r.page.awaitedBy ∧
      q.page.screen.isVerseFlow = r.page.screen.isVerseFlow ∧
      ∀ theme ∈ q.page.screen.themes, Fits q.page.screen theme := by
    intro q hq
    obtain ⟨r, hr, rfl⟩ := Navigator.mem_mapPages.mp hq
    by_cases hi : r.id = i
    · refine ⟨r, hr, rfl, ?_, ?_, ?_⟩
      · simp [hi]
      · simp [hi]
      · simpa [hi] using fits_setTheme (h.pages r hr) (ht r hr hi)
    · refine ⟨r, hr, rfl, ?_, ?_, ?_⟩
      · simp [hi]
      · simp [hi]
      · simpa [hi] using h.pages r hr
  refine ⟨?_, ?_⟩
  · intro q hq
    obtain ⟨r, -, -, -, -, hfits⟩ := hsame q hq
    exact hfits
  · intro q hq j hj
    obtain ⟨r, hr, -, haw, hv, -⟩ := hsame q hq
    obtain ⟨hlt, hown⟩ := h.awaited r hr j (haw ▸ hj)
    refine ⟨hlt, ?_⟩
    intro hqv q' hq' hid
    obtain ⟨r', hr', hid', -, hv', -⟩ := hsame q' hq'
    rw [hv']
    exact hown (hv ▸ hqv) r' hr' (hid' ▸ hid)

theorem keptNav_pop (h : KeptNav n) : KeptNav n.pop := by
  refine ⟨?_, ?_⟩
  · intro r hr
    exact h.pages r (Navigator.mem_of_mem_pop hr)
  · intro r hr j hj
    obtain ⟨hlt, hown⟩ := h.awaited r (Navigator.mem_of_mem_pop hr) j hj
    exact ⟨hlt, fun hv q hq hid => hown hv q (Navigator.mem_of_mem_pop hq) hid⟩

/-- A page may be popped with a theme that fits it, since who awaits it may have what
it may have. -/
theorem keptNav_popWith {result : Option Int} (h : KeptNav n)
    (ht : ∀ r t, n.top = some r → result = some t → Fits r.page.screen t) :
    KeptNav (Copies.popWith result n) := by
  unfold Copies.popWith
  split
  · rename_i j t hj
    obtain ⟨r, hr, haw⟩ := Option.bind_eq_some_iff.mp hj
    have hmem := Navigator.mem_of_top hr
    refine keptNav_resume (keptNav_pop h) ?_
    intro q hq hid
    rcases ht r t hr rfl with hl | ⟨hv, h999⟩
    · exact .inl hl
    · exact .inr ⟨(h.awaited r hmem j haw).2 hv q (Navigator.mem_of_mem_pop hq) hid, h999⟩
  · exact keptNav_pop h

/-- A page may be pushed if its themes fit, and if it is awaited by a page that may
have what it may have. -/
theorem keptNav_push {awaitedBy : Option Nat} (h : KeptNav n)
    (hs : ∀ theme ∈ screen.themes, Fits screen theme)
    (hown : ∀ j, awaitedBy = some j → j < n.next ∧ (screen.isVerseFlow = true →
      ∀ q ∈ n.history, q.id = j → q.page.screen.isVerseFlow = true)) :
    KeptNav (n.push ⟨screen, awaitedBy⟩) := by
  have hold : ∀ j, j < n.next → ∀ q ∈ (n.push ⟨screen, awaitedBy⟩).history, q.id = j →
      q ∈ n.history := by
    intro j hlt q hq hid
    rcases Navigator.mem_push.mp hq with rfl | hq
    · exact absurd hid (Nat.ne_of_gt hlt)
    · exact hq
  refine ⟨?_, ?_⟩
  · intro r hr
    rcases Navigator.mem_push.mp hr with rfl | hr
    · exact hs
    · exact h.pages r hr
  · intro r hr j hj
    have howner : j < n.next ∧ (r.page.screen.isVerseFlow = true →
        ∀ q ∈ n.history, q.id = j → q.page.screen.isVerseFlow = true) := by
      rcases Navigator.mem_push.mp hr with rfl | hr
      · exact hown j hj
      · exact h.awaited r hr j hj
    exact ⟨Nat.lt_succ_of_lt howner.1,
      fun hv q hq hid => howner.2 hv q (hold j howner.1 q hq hid) hid⟩

theorem keptNav_pushReplacement (h : KeptNav n)
    (hs : ∀ theme ∈ screen.themes, Fits screen theme) :
    KeptNav (n.pushReplacement ⟨screen, none⟩) := by
  unfold Navigator.pushReplacement
  split
  · exact h
  · exact keptNav_push (keptNav_pop h) hs (fun j hj => by cases hj)

/-- Every other route keeps its screen, and its owner unless that is the page that was
built again. -/
theorem rebuilt_of_ne {user : Option Uid} {j : Nat} (hj : j ≠ i) (f : Frame) :
    (Copies.rebuilt i user j f).screen = f.screen ∧
      ∀ k, (Copies.rebuilt i user j f).awaitedBy = some k → f.awaitedBy = some k ∧ k ≠ i := by
  unfold Copies.rebuilt
  rw [if_neg hj]
  split
  · exact ⟨rfl, fun k hk => by cases hk⟩
  · rename_i hne
    exact ⟨rfl, fun k hk => ⟨hk, fun hki => hne (hki ▸ hk)⟩⟩

theorem rebuilt_self {user : Option Uid} (f : Frame) :
    (Copies.rebuilt i user i f).screen = .profileNav (user.map (fun uid => (uid, 0))) ∧
      (Copies.rebuilt i user i f).awaitedBy = f.awaitedBy := by
  unfold Copies.rebuilt
  rw [if_pos rfl]
  exact ⟨rfl, rfl⟩

theorem fits_home (user : Option Uid) :
    ∀ theme ∈ (Screen.profileNav (user.map (fun uid => (uid, 0)))).themes,
      Fits (.profileNav (user.map (fun uid => (uid, 0)))) theme := by
  have h0 : Listed 0 := by decide
  cases user with
  | none => intro theme ht; cases ht
  | some uid =>
    intro theme ht
    cases List.mem_singleton.mp ht
    exact .inl h0

/-- A `ProfileNav` may show a new `ProfileHomePage`. -/
theorem keptNav_rebuild {user : Option Uid} (h : KeptNav n) :
    KeptNav (n.mapPages (Copies.rebuilt i user)) := by
  refine ⟨?_, ?_⟩
  · intro q hq
    obtain ⟨r, hr, rfl⟩ := Navigator.mem_mapPages.mp hq
    show ∀ theme ∈ (Copies.rebuilt i user r.id r.page).screen.themes,
      Fits (Copies.rebuilt i user r.id r.page).screen theme
    by_cases hid : r.id = i
    · rw [hid, (rebuilt_self r.page).1]
      exact fits_home user
    · rw [(rebuilt_of_ne hid r.page).1]
      exact h.pages r hr
  · intro q hq j hj
    obtain ⟨r, hr, rfl⟩ := Navigator.mem_mapPages.mp hq
    replace hj : (Copies.rebuilt i user r.id r.page).awaitedBy = some j := hj
    by_cases hid : r.id = i
    · rw [hid, (rebuilt_self r.page).2] at hj
      refine ⟨(h.awaited r hr j hj).1, ?_⟩
      intro hv
      replace hv : (Copies.rebuilt i user r.id r.page).screen.isVerseFlow = true := hv
      rw [hid, (rebuilt_self r.page).1] at hv
      cases hv
    · obtain ⟨hj', hji⟩ := (rebuilt_of_ne hid r.page).2 j hj
      obtain ⟨hlt, hown⟩ := h.awaited r hr j hj'
      refine ⟨hlt, ?_⟩
      intro hv q' hq' hid'
      replace hv : (Copies.rebuilt i user r.id r.page).screen.isVerseFlow = true := hv
      rw [(rebuilt_of_ne hid r.page).1] at hv
      obtain ⟨r', hr', rfl⟩ := Navigator.mem_mapPages.mp hq'
      show (Copies.rebuilt i user r'.id r'.page).screen.isVerseFlow = true
      rw [(rebuilt_of_ne (fun he => hji (hid'.symm.trans he)) r'.page).1]
      exact hown hv r' hr' hid'

end

/-! ### One step -/

section

variable {s s' : Copies} {i : Nat} {screen : Screen}

/-- A route is found with one screen only. -/
theorem owner_of_screen (h : s.screen i = some screen) :
    i < s.nav.next ∧ ∀ q ∈ s.nav.history, q.id = i → q.page.screen = screen := by
  obtain ⟨f, hf, rfl⟩ := Option.map_eq_some_iff.mp h
  have hmem := Navigator.mem_of_find hf
  refine ⟨s.nav.lt_next _ hmem, ?_⟩
  intro q hq hid
  rw [Navigator.eq_of_id hq hmem hid]

theorem fits_of_screen (hi : Kept s) (h : s.screen i = some screen) :
    ∀ theme ∈ screen.themes, Fits screen theme := by
  obtain ⟨f, hf, rfl⟩ := Option.map_eq_some_iff.mp h
  exact hi.nav.pages _ (Navigator.mem_of_find hf)

/-- A page may push a page whose themes fit, and one that may have `999` if it may
have it itself. -/
theorem kept_pushScreen {owner : Screen} (hi : Kept s) (h : s.screen i = some owner)
    (hs : ∀ theme ∈ screen.themes, Fits screen theme)
    (hv : screen.isVerseFlow = true → owner.isVerseFlow = true) :
    Kept (s.pushScreen screen (some i)) := by
  obtain ⟨hlt, hown⟩ := owner_of_screen h
  refine ⟨keptNav_push hi.nav hs ?_, hi.modalIndex, hi.updates, hi.stored⟩
  rintro j ⟨⟩
  refine ⟨hlt, ?_⟩
  intro hsv q hq hid
  rw [hown q hq hid]
  exact hv hsv

theorem kept_newAccount {uid : Uid} {theme : Int} (hi : Kept s)
    (h : s.newAccount uid theme = some s') : Kept s' := by
  unfold Copies.newAccount at h
  split at h
  · rename_i hc
    cases h
    refine ⟨hi.nav, hi.modalIndex, hi.updates, ?_⟩
    intro u t ht
    by_cases hu : u = uid
    · have heq : t = theme := by simpa [hu] using ht
      exact heq ▸ hc.2
    · exact hi.stored u t (by simpa [hu] using ht)
  · cases h

theorem kept_loaded {uid : Uid} {theme : Int} (hi : Kept s)
    (h : s.loaded i uid theme = some s') : Kept s' := by
  unfold Copies.loaded at h
  split at h
  · rename_i hc
    cases h
    have hl : Listed theme := hi.stored uid theme hc.2
    exact ⟨keptNav_resume hi.nav (fun _ _ _ => .inl hl), hi.modalIndex, hi.updates, hi.stored⟩
  · cases h

theorem kept_verse (hi : Kept s) (h : s.verse i = some s') : Kept s' := by
  unfold Copies.verse at h
  split at h
  · rename_i userId theme hs
    cases h
    exact kept_pushScreen hi hs (fun theme ht => fits_of_screen hi hs theme ht) (fun _ => rfl)
  · cases h

theorem kept_forward (hi : Kept s) (h : s.forward i = some s') : Kept s' := by
  unfold Copies.forward at h
  split at h
  · rename_i page theme hs
    obtain ⟨q, -, rfl⟩ := Option.map_eq_some_iff.mp h
    exact kept_pushScreen hi hs (fun theme ht => fits_of_screen hi hs theme ht) (fun _ => rfl)
  · cases h

theorem kept_openMenu {user : Option Uid} (hi : Kept s) (h : s.openMenu i user = some s') :
    Kept s' := by
  unfold Copies.openMenu at h
  split at h
  · rename_i screen hs
    split at h
    · cases h
      exact kept_pushScreen hi hs (fits_home user) (fun hv => by cases hv)
    · cases h
  · cases h

theorem kept_openPreference (hi : Kept s) (h : s.openPreference i = some s') : Kept s' := by
  unfold Copies.openPreference at h
  split at h
  · rename_i uid currTheme hs
    cases h
    have hl : Listed currTheme :=
      listed_of_fits rfl (fits_of_screen hi hs currTheme List.mem_cons_self)
    refine kept_pushScreen hi hs ?_ (fun hv => by cases hv)
    intro theme ht
    have heq : theme = currTheme := by simpa [Screen.themes] using ht
    exact .inl (heq ▸ hl)
  · cases h

theorem kept_openModal (hi : Kept s) (h : s.openModal i = some s') : Kept s' := by
  unfold Copies.openModal at h
  split at h
  · rename_i id theme currTheme hs
    cases h
    have hl : Listed currTheme := listed_of_fits rfl
      (fits_of_screen hi hs currTheme (List.mem_cons_of_mem _ List.mem_cons_self))
    refine kept_pushScreen hi hs ?_ (fun hv => by cases hv)
    intro t ht
    cases List.mem_singleton.mp ht
    exact .inl hl
  · cases h

theorem kept_pageChanged {index : Nat} (hi : Kept s) (h : s.pageChanged index = some s') :
    Kept s' := by
  unfold Copies.pageChanged at h
  split at h
  · rename_i hlt
    cases h
    refine ⟨hi.nav, ?_, hi.updates, hi.stored⟩
    exact ⟨Int.natCast_nonneg index, Int.ofNat_lt.mpr hlt⟩
  · cases h

theorem kept_confirm (hi : Kept s) (h : s.confirm i = some s') : Kept s' := by
  unfold Copies.confirm at h
  split at h
  · rename_i id initialPage hs
    cases h
    refine ⟨hi.nav, hi.modalIndex, ?_, hi.stored⟩
    intro u hu
    rcases List.mem_cons.mp hu with rfl | hu
    · exact hi.modalIndex
    · exact hi.updates u hu
  · cases h

theorem kept_popWith {result : Option Int} (hi : Kept s)
    (ht : ∀ r t, s.nav.top = some r → result = some t → Fits r.page.screen t) :
    Kept { s with nav := Copies.popWith result s.nav } :=
  ⟨keptNav_popWith hi.nav ht, hi.modalIndex, hi.updates, hi.stored⟩

/-- The page below the modal gets what the variable of the carousel has by then. -/
theorem kept_popModal (hi : Kept s) :
    Kept { s with nav := Copies.popWith (some s.modalIndex) s.nav } := by
  refine kept_popWith hi ?_
  intro r t _ ht
  cases ht
  exact .inl hi.modalIndex

theorem kept_answered (u : Uid × Int) (hi : Kept s) :
    Kept { s with updates := s.updates.erase u } :=
  ⟨hi.nav, hi.modalIndex, fun v hv => hi.updates v (List.mem_of_mem_erase hv), hi.stored⟩

/-- The backend may keep a theme with an image. -/
theorem kept_stored (uid : Uid) {theme : Int} (hi : Kept s) (hl : Listed theme) :
    Kept { s with stored := fun u => if u = uid then theme :: s.stored u else s.stored u } := by
  refine ⟨hi.nav, hi.modalIndex, hi.updates, ?_⟩
  intro u t ht
  replace ht : t ∈ (if u = uid then theme :: s.stored u else s.stored u) := ht
  split at ht
  · rcases List.mem_cons.mp ht with rfl | ht
    · exact hl
    · exact hi.stored u t ht
  · exact hi.stored u t ht

theorem kept_updated {uid : Uid} {theme : Int} {o : Outcome} {kept mounted : Bool}
    (hi : Kept s) (h : s.updated uid theme o kept mounted = some s') : Kept s' := by
  unfold Copies.updated at h
  split at h
  · rename_i hu
    have hl : Listed theme := hi.updates _ hu
    have hanswered := kept_answered (uid, theme) hi
    dsimp only at h
    by_cases hk : o.Answered 200 ∨ kept = true
    · rw [if_pos hk] at h
      have hstored := kept_stored uid hanswered hl
      split at h
      · cases h
        exact kept_popModal hstored
      · cases h
        exact hstored
    · rw [if_neg hk] at h
      split at h
      · cases h
        exact kept_popModal hanswered
      · cases h
        exact hanswered
  · cases h

/-- A page pops the theme that it shows, which fits it. -/
theorem kept_back (hi : Kept s) (h : s.back = some s') : Kept s' := by
  have hfits : ∀ (r : Route Frame) (t : Int), s.nav.top = some r →
      r.page.screen.shown = some t → Fits r.page.screen t := by
    intro r t hr ht
    refine hi.nav.pages r (Navigator.mem_of_top hr) t ?_
    cases hs : r.page.screen with
    | cover userId theme => rw [hs] at ht; cases ht; exact List.mem_singleton_self _
    | flow page theme => rw [hs] at ht; cases ht; exact List.mem_singleton_self _
    | profileNav home =>
      rw [hs] at ht
      rw [Screen.themes, show home.map Prod.snd = some t from ht]
      exact List.mem_singleton_self _
    | preferenceSetting id theme currTheme =>
      rw [hs] at ht
      cases ht
      exact List.mem_cons_of_mem _ List.mem_cons_self
    | themeModal id initialPage => rw [hs] at ht; cases ht
    | other => rw [hs] at ht; cases ht
  unfold Copies.back at h
  split at h
  · rename_i r hr
    have hpop : Kept { s with nav := Copies.popWith r.page.screen.shown s.nav } := by
      refine kept_popWith hi ?_
      intro r' t hr' ht
      cases hr.symm.trans hr'
      exact hfits r t hr ht
    split at h
    · cases h
      exact hpop
    · cases h
      exact hpop
    · cases h
      exact hpop
    · cases h
  · cases h

theorem kept_replace {cover : Option (Option Uid)} (hi : Kept s)
    (h : s.replace cover = some s') : Kept s' := by
  unfold Copies.replace at h
  dsimp only at h
  split at h
  · cases h
    refine ⟨keptNav_pushReplacement hi.nav ?_, hi.modalIndex, hi.updates, hi.stored⟩
    cases cover with
    | none => intro theme ht; cases ht
    | some userId =>
      intro theme ht
      cases List.mem_singleton.mp ht
      exact .inr ⟨rfl, rfl⟩
  · cases h

/-- **One step keeps the themes where they may be.** -/
theorem kept_step {a : Copies.Act} (hi : Kept s) (h : s.step a = some s') : Kept s' := by
  cases a with
  | newAccount uid theme => exact kept_newAccount hi h
  | loaded owner uid theme => exact kept_loaded hi h
  | loadFailed owner uid =>
    replace h : s.loadFailed owner uid = some s' := h
    unfold Copies.loadFailed at h
    split at h
    · cases h
      exact ⟨hi.nav, hi.modalIndex, hi.updates, hi.stored⟩
    · cases h
  | verse cover => exact kept_verse hi h
  | forward owner => exact kept_forward hi h
  | openMenu owner user => exact kept_openMenu hi h
  | openPreference owner => exact kept_openPreference hi h
  | openModal owner => exact kept_openModal hi h
  | pageChanged index => exact kept_pageChanged hi h
  | confirm modal => exact kept_confirm hi h
  | updated uid theme o kept mounted => exact kept_updated hi h
  | back => exact kept_back hi h
  | popNull =>
    cases h
    exact kept_popWith hi (fun _ _ _ ht => by cases ht)
  | push =>
    cases h
    exact ⟨keptNav_push hi.nav (fun _ ht => by cases ht) (fun _ hj => by cases hj),
      hi.modalIndex, hi.updates, hi.stored⟩
  | replace cover => exact kept_replace hi h
  | rebuild profileNav user =>
    replace h : s.rebuild profileNav user = some s' := h
    unfold Copies.rebuild at h
    split at h
    · cases h
      exact ⟨keptNav_rebuild hi.nav, hi.modalIndex, hi.updates, hi.stored⟩
    · cases h

theorem kept_start (h : copies.start s) : Kept s := by
  obtain ⟨⟨userId, hnav, -⟩, hindex, hupdates, hstored⟩ := h
  refine ⟨⟨?_, ?_⟩, ?_, ?_, hstored⟩
  · intro r hr theme ht
    rw [hnav] at hr
    cases List.mem_singleton.mp hr
    cases List.mem_singleton.mp ht
    exact .inr ⟨rfl, rfl⟩
  · intro r hr i hi
    rw [hnav] at hr
    cases List.mem_singleton.mp hr
    cases hi
  · rw [hindex]
    decide
  · intro u hu
    rw [hupdates] at hu
    cases hu

end

/-- **Every theme value is drawable**, in every state of every run, and `999` stays with
the cover and the pages of the flow. -/
theorem along_allDrawable {s : Copies} (h : copies.start s) (as : List Copies.Act) :
    AllDrawable s ∧ copies.Along (fun _ _ s' _ => AllDrawable s') s as := by
  have hk := kept_start h
  refine ⟨hk.allDrawable, ?_⟩
  refine Machine.along_of_keeps Kept ?_ as s hk
  intro s a s' es hi hst
  obtain ⟨t, ht, he⟩ := Option.map_eq_some_iff.mp hst
  cases he
  have hi' := kept_step hi ht
  exact ⟨hi'.allDrawable, hi'⟩

/-- A menu visit before the user's data is there, with a theme chosen in it. -/
theorem along_allDrawable_chosen :
    let s : Copies :=
      { nav := .home ⟨.cover (some "u") 999, none⟩
        modalIndex := 0
        loads := [(0, "u")]
        updates := []
        stored := fun _ => [7] }
    AllDrawable s ∧ copies.Along (fun _ _ s' _ => AllDrawable s') s
      [.openMenu 0 (some "u"), .openPreference 1, .openModal 2, .pageChanged 20, .confirm 3,
        .updated "u" 20 .exception false true, .back, .back, .verse 0, .loaded 0 "u" 7] :=
  along_allDrawable ⟨⟨some "u", rfl, rfl⟩, rfl, rfl, (fun _ theme ht => by
    cases List.mem_singleton.mp ht
    decide)⟩ _

end GoodOmens.Theme
