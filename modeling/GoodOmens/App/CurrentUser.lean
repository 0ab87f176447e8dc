import GoodOmens.App.Inversion

/-!
# Pages that take the user for granted

`VerifyEmailPage`, `ProfileHomePage` and `PreferenceSettingPage` take `currentUser!` when
they are created, so whoever opens one must know that somebody is signed in
(`OpensWithUser`).  `ProfileNav` asks before it shows the first two, and `signUp` has just
signed the user in.  Two ways are left:

* `signUp` takes an email that is in use, with no sign-in method, for one whose user has
  yet to verify it, and opens `VerifyEmailPage` although nobody is signed in;
* Preferences is opened from `ProfileHomePage`, which was built for a user.  Log Out takes
  away the `ProfileNav` it was pressed on; another one that is left below, with a verse
  page over it, still shows the page of the user who is gone.

`KeepsUser` excludes the two where they arise.  Then every `ProfileHomePage` on the stack
has its user (`HomeHasUser`), and `along_opensWithUser` follows by the step.
-/

namespace GoodOmens.App

open Navigator

/-- Every page that the step creates has the user that it needs. -/
def OpensWithUser (s : AppState) (_ : Act) (s' : AppState) (_ : List Effect) : Prop :=
  Adds s.nav s'.nav (fun p => p.needsUser → s'.auth.currentUser.isSome)

/-- An email in use has no sign-in method only while somebody is signed in, or when the
sign-up page is gone; and a sign-out leaves no `ProfileHomePage` behind. -/
def KeepsUser (s : AppState) : Act → Prop
  | .signInMethodsAnswer i isEmpty => isEmpty = true → s.mounted i → s.auth.currentUser.isSome
  | .firebaseSignedOut _ => ∀ r ∈ s.nav.history, r.page.showsProfileHome = false
  | _ => True

/-- A `ProfileHomePage` on the stack has its user. -/
def HomeHasUser (s : AppState) : Prop :=
  ∀ r ∈ s.nav.history, r.page.showsProfileHome → s.auth.currentUser.isSome

variable {s s' : AppState} {a : Act} {es : List Effect} {p : Page}

/-! ### The user -/

/-- Only a sign-out that comes back takes the user away. -/
theorem isSome_step (h : step s a = some (s', es)) (ha : ∀ b, a ≠ .firebaseSignedOut b)
    (hu : s.auth.currentUser.isSome) : s'.auth.currentUser.isSome := by
  rcases auth_cases h with ⟨he, -⟩ | ⟨uid, v, -, he⟩ | ⟨σ, v, -, -, he⟩ | ⟨-, he⟩ |
    ⟨_, _, -, -, -, he⟩ | ⟨b, rfl, -⟩
  · rw [he]
    exact hu
  · rw [he]
    rfl
  · rw [he]
    rfl
  · rw [he]
    exact hu
  · rw [he]
    exact hu
  · exact absurd rfl (ha b)

/-- A page that needs no user is opened with or without one. -/
theorem needs_none (h : p.needsUser = false) : p.needsUser → s'.auth.currentUser.isSome := by
  intro hp
  rw [h] at hp
  cases hp

/-! ### What a step opens -/

/-- What is new when a frame has built the pages is the state of a cover page. -/
theorem adds_built {Q : Page → Prop} (hq : ∀ c, Q (.cover c)) :
    Adds s.nav (s.nav.mapPages (fun _ => s.built)) Q := by
  refine adds_mapPages ?_
  intro _ q
  unfold AppState.built
  split
  · exact .inr (hq _)
  · exact .inl rfl

/-- **One step opens with a user.** -/
theorem opensWithUser_step (hi : HomeHasUser s) (hg : KeepsUser s a)
    (h : step s a = some (s', es)) : OpensWithUser s a s' es := by
  unfold OpensWithUser
  cases a with
  | tapBible =>
    obtain ⟨i, c, -, -, rfl, -⟩ := AppState.tapBible_inv h
    exact adds_setPage (needs_none rfl)
  | seeMore =>
    obtain ⟨_, _, _, _, -, rfl, -⟩ := AppState.seeMore_inv h
    exact adds_push (needs_none rfl)
  | openMenu =>
    obtain ⟨-, rfl, -⟩ := AppState.openMenu_inv h
    exact adds_push Page.isSome_of_getBodyWidget
  | systemBack =>
    obtain ⟨rfl | rfl, -⟩ := AppState.systemBack_inv h
    · exact adds_self
    · exact adds_pop
  | backButton =>
    obtain ⟨rfl, -⟩ := AppState.backButton_inv h
    exact adds_pop
  | «open» q =>
    obtain ⟨⟨r, hf, hq⟩, -, rfl, -⟩ := AppState.openPage_inv h
    refine adds_push ?_
    intro hu
    exact hi r (AppState.mem_of_front hf) (Page.showsProfileHome_of_mem_opens hq hu)
  | replace q =>
    obtain ⟨⟨-, hq⟩, rfl, -⟩ := AppState.replacePage_inv h
    exact adds_pushReplacement (needs_none hq)
  | logOut =>
    obtain ⟨rfl, -⟩ := AppState.logOut_inv h
    exact adds_trans adds_pop (adds_pushReplacement (needs_none rfl))
  | signIn | signUp | resetPassword =>
    obtain ⟨_, -, rfl, -⟩ := AppState.press_inv h
    exact adds_push (needs_none rfl)
  | signInWithGoogle =>
    obtain ⟨hn, -, -⟩ := AppState.signInWithGoogle_inv h
    rw [hn]
    exact adds_self
  | frame =>
    obtain ⟨-, -, -, ⟨hn, -⟩ | ⟨q, ⟨-, hq⟩, hn, -⟩⟩ := AppState.frame_inv h
    · rw [hn]
      exact adds_built (fun _ => needs_none rfl)
    · rw [hn]
      exact adds_trans (adds_built (fun _ => needs_none rfl)) (adds_pushReplacement (needs_none hq))
  | rebuild i =>
    obtain ⟨q, ⟨-, hq⟩, rfl, -⟩ := AppState.rebuild_inv h
    exact adds_setPage hq
  | initializeFirebase i =>
    obtain ⟨rfl, -, -⟩ | ⟨σ, -, rfl, -⟩ := AppState.initializeFirebase_inv h
    · exact adds_self
    · exact adds_pushReplacement (needs_none rfl)
  | reload i v =>
    obtain ⟨σ, -, hn, -, -⟩ := AppState.reload_inv h
    rw [hn]
    exact adds_self
  | fetchVerseAnswer i answer =>
    obtain ⟨-, ⟨rfl, -⟩ | ⟨c, q, -, hq, hn, -⟩⟩ := AppState.fetchVerseAnswer_inv h
    · exact adds_self
    · rw [hn]
      exact adds_trans (adds_setPage (needs_none rfl))
        (adds_push (needs_none (Page.needsUser_of_isVerse hq)))
  | generateOutputAnswer i k answer =>
    obtain ⟨-, -, ⟨hn, -⟩ | ⟨-, -, hn⟩⟩ := AppState.generateOutputAnswer_inv h
    · rw [hn]
      exact adds_self
    · rw [hn]
      exact adds_pop
  | signInAnswer i answer =>
    obtain ⟨uid, v, rfl, -, -, ⟨hn, -, -⟩ | ⟨hn, -, -⟩⟩ | ⟨-, -, hn | ⟨-, hn⟩, -⟩ :=
      AppState.signInAnswer_inv h
    · rw [hn]
      exact adds_trans adds_pop (adds_pushReplacement (needs_none rfl))
    · rw [hn]
      exact adds_self
    · rw [hn]
      exact adds_self
    · rw [hn]
      exact adds_pop
  | signUpAnswer i answer =>
    obtain ⟨-, ⟨uid, rfl, ha, ⟨-, hn⟩ | ⟨-, hn⟩⟩ | ⟨-, -, ⟨-, hn⟩ | ⟨-, hn⟩⟩⟩ :=
      AppState.signUpAnswer_inv h
    · -- the user has just been created, and is signed in
      rw [hn]
      refine adds_trans adds_pop (adds_push ?_)
      intro _
      rw [ha]
      rfl
    · rw [hn]
      exact adds_self
    · rw [hn]
      exact adds_self
    · rw [hn]
      exact adds_pop
  | signInMethodsAnswer i isEmpty =>
    obtain ⟨-, ha, hn | ⟨⟨he, hm⟩, hn⟩⟩ := AppState.signInMethodsAnswer_inv h
    · rw [hn]
      exact adds_self
    · rw [hn]
      refine adds_push ?_
      intro _
      rw [ha]
      exact hg he hm
  | resetAnswer i answer =>
    obtain ⟨-, -, ⟨hn, -⟩ | ⟨-, hn⟩ | ⟨-, hn⟩⟩ := AppState.resetAnswer_inv h
    · rw [hn]
      exact adds_self
    · rw [hn]
      exact adds_pop
    · rw [hn]
      exact adds_pushReplacement (needs_none rfl)
  | googleAnswer i user =>
    obtain ⟨hn, -⟩ := AppState.googleAnswer_inv h
    rw [hn]
    exact adds_self
  | checkAnswer i σ o m =>
    obtain ⟨-, -, -, ⟨hn, -, -⟩ | ⟨-, ⟨-, hn, -⟩ | ⟨-, hn, -⟩⟩⟩ := AppState.checkAnswer_inv h
    · rw [hn]
      exact adds_self
    · rw [hn]
      exact adds_pushReplacement (needs_none rfl)
    · rw [hn]
      exact adds_self
  | createAnswer i σ o m =>
    obtain ⟨-, -, ⟨-, hn, -⟩ | ⟨-, hn, -⟩⟩ := AppState.createAnswer_inv h
    · rw [hn]
      exact adds_pushReplacement (needs_none rfl)
    · rw [hn]
      exact adds_self
  | createVerifiedAnswer i σ o =>
    obtain ⟨-, -, ⟨-, hn, -⟩ | ⟨-, hn, -⟩⟩ := AppState.createVerifiedAnswer_inv h
    · rw [hn]
      exact adds_pushReplacement (needs_none rfl)
    · rw [hn]
      exact adds_self
  | googleSignedOut b c =>
    obtain ⟨_, -, -, rfl, -⟩ := AppState.googleSignedOut_inv h
    exact adds_self
  | firebaseSignedOut b =>
    obtain ⟨-, rfl, -⟩ := AppState.firebaseSignedOut_inv h
    exact adds_self

/-- **One step keeps the user of every `ProfileHomePage`.** -/
theorem homeHasUser_step (hi : HomeHasUser s) (hg : KeepsUser s a)
    (h : step s a = some (s', es)) : HomeHasUser s' := by
  intro r hr hhome
  rcases opensWithUser_step hi hg h r hr with hold | hnew
  · by_cases ha : ∃ b, a = .firebaseSignedOut b
    · obtain ⟨b, rfl⟩ := ha
      rw [hg r hold] at hhome
      cases hhome
    · exact isSome_step h (fun b hb => ha ⟨b, hb⟩) (hi r hold hhome)
  · exact hnew (Page.needsUser_of_showsProfileHome hhome)

theorem homeHasUser_start (h : Starts s) : HomeHasUser s := by
  intro r hr hhome
  rw [h.1] at hr
  obtain rfl := List.mem_singleton.mp hr
  cases hhome

/-- **In a run that keeps to `KeepsUser`, a page that needs a user is never created
without one.** -/
theorem along_opensWithUser (h : Starts s) (as : List Act)
    (hg : app.Along (Machine.before KeepsUser) s as) : app.Along OpensWithUser s as := by
  refine Machine.along_of_inv HomeHasUser ?_ as s (homeHasUser_start h) hg
  intro s a s' es hi hg hst
  exact ⟨opensWithUser_step hi hg hst, homeHasUser_step hi hg hst⟩

/-- Preferences and back, Log Out, and Firebase signs the user out. -/
theorem along_opensWithUser_logOut :
    app.Along OpensWithUser (startedBy "a" [])
      [.frame, .openMenu, .open .preferenceSetting, .backButton, .logOut,
        .firebaseSignedOut 1] := by
  refine along_opensWithUser (starts_startedBy "a" []) _ ?_
  refine (Machine.along_cons rfl _).mpr ⟨trivial, ?_⟩
  refine (Machine.along_cons rfl _).mpr ⟨trivial, ?_⟩
  refine (Machine.along_cons rfl _).mpr ⟨trivial, ?_⟩
  refine (Machine.along_cons rfl _).mpr ⟨trivial, ?_⟩
  refine (Machine.along_cons rfl _).mpr ⟨trivial, ?_⟩
  refine (Machine.along_cons rfl _).mpr ⟨?_, trivial⟩
  show ∀ r ∈ [Route.mk 3 Page.auth], r.page.showsProfileHome = false
  decide

/-- Nobody is signed in, an email is in use without a sign-in method, and
`VerifyEmailPage` opens.  After Log Out, back from the login pages, the `ProfileNav` over
which a verse had come still shows `ProfileHomePage`, and Preferences opens. -/
theorem not_along_opensWithUser :
    (Starts startedByNobody ∧ ¬ app.Along OpensWithUser startedByNobody
      ([.frame, .open .signUp, .signUp, .signUpAnswer 2 .emailAlreadyInUse] ++
        [.signInMethodsAnswer 2 true])) ∧
    (Starts (startedBy "a" []) ∧ ¬ app.Along OpensWithUser (startedBy "a" [])
      ([.frame, .tapBible, .openMenu, .fetchVerseAnswer 0 .ok, .openMenu, .logOut,
        .firebaseSignedOut 1, .googleSignedOut 1 true, .firebaseSignedOut 1, .systemBack] ++
        [.open .preferenceSetting])) := by
  refine ⟨⟨starts_startedByNobody, ?_⟩, ⟨starts_startedBy "a" [], ?_⟩⟩
  · intro hrun
    have hlast := Machine.Along.last hrun rfl rfl
    rcases hlast ⟨4, .verifyEmail⟩ (by decide) with hold | hnew
    · exact absurd hold (by decide)
    · exact absurd (hnew rfl) (by decide)
  · intro hrun
    have hlast := Machine.Along.last hrun rfl rfl
    rcases hlast ⟨5, .preferenceSetting⟩ (by decide) with hold | hnew
    · exact absurd hold (by decide)
    · exact absurd (hnew rfl) (by decide)

end GoodOmens.App
