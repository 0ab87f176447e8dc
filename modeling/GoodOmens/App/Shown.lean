import GoodOmens.App.Lowest

/-!
# When the screen goes blank

A navigator without a route shows nothing.  Almost every pop of the app is safe: the pages
that are popped by their own buttons are never the lowest one, and what Log Out takes off
stands over another page, as a form does whose handler waits for an answer.

The exceptions do not look where they are (`popsBlindly`): the pop of `generateOutput`, the
pops of a form and of a theme modal that are moving out, and the chevron of the page that a
form moving out has put in the place of the only one.  The screen stays shown in a run exactly
if each of them finds a second route (`along_shown_iff`).
-/

namespace GoodOmens.App

open Navigator

/-! ### The pages that can be lowest -/

theorem Page.not_pops_of_isRoot {p : Page} (h : p.isRoot) : p.onWillPop ≠ .pops := by
  cases p with
  | flow _ _ | preferenceSetting => cases h
  | profileNav b body =>
    cases b with
    | true => cases body <;> cases h
    | false =>
      cases body with
      | profileHome => cases h
      | auth | verifyEmail => simp [onWillPop]
  | _ => simp [onWillPop]

/-- Of these, `EmailSentPage` alone has a chevron. -/
theorem Page.eq_emailSent_of_isRoot {p : Page} (h : p.isRoot) (hb : p.hasBackButton) :
    p = emailSent := by
  unfold isRoot at h
  split at h
  · cases hb
  · cases hb
  · cases hb
  · cases hb
  · cases hb
  · rfl
  · cases h

/-! ### Pops that do not look -/

/-- The steps of the app that may pop the only route. -/
def AppState.popsBlindly (s : AppState) : Act → Bool
  | .generateOutputAnswer i _ .error => (s.coverState i).isSome
  | .backButton => s.front.any (fun r => r.page = .emailSent)
  | _ => false

/-- The late steps that pop and push nothing, of a page `p`. -/
def Act.popsBlindly (p : Page) : Act → Bool
  | generateOutputAnswer _ _ .error => p.isBuiltCover
  | signInAnswer _ answer => answer ≠ .exception
  | signUpAnswer _ .emailAlreadyInUse | signUpAnswer _ .failure => true
  | resetAnswer _ .authException => true
  | _ => false

namespace Screen

/-- The step pops whatever is on top, and nothing says that it is not the only route. -/
def popsBlindly (s : Screen) : Act → Bool
  | .app a =>
    match s.late a with
    | some r => a.popsBlindly r.page
    | none => s.app.popsBlindly a
  | .confirmAnswer i o => UserService.updateUserTheme o ≠ some "error" && (s.find i).isSome
  | _ => false

end Screen

/-- There is a page on the screen after the step. -/
def Shown (_ : Screen) (_ : Screen.Act) (t' : Screen) (_ : List Effect) : Prop :=
  t'.app.nav.history ≠ []

/-- A pop that does not look where it is finds a second route. -/
def Survives (t : Screen) (b : Screen.Act) : Prop :=
  t.popsBlindly b → 2 ≤ t.app.nav.history.length

variable {s s' : AppState} {t t' : Screen} {a : Act} {b : Screen.Act} {es : List Effect} {i : Nat}
  {p : Page}

theorem popsBlindly_of_not_late (h : t.late a = none) :
    t.popsBlindly (.app a) = t.app.popsBlindly a := by
  simp only [Screen.popsBlindly, h]

theorem popsBlindly_of_late {r : Route Page} (h : t.late a = some r) :
    t.popsBlindly (.app a) = a.popsBlindly r.page := by
  simp only [Screen.popsBlindly, h]

/-! ### What is left on the stack -/

/-- A step that is sure of itself. -/
theorem shown_iff_of_safe {n m : Navigator Page} {x : Bool} (hx : x = false)
    (hs : m.history ≠ []) : m.history ≠ [] ↔ (x → 2 ≤ n.history.length) := by
  rw [hx]
  exact iff_of_true hs (fun h => absurd h Bool.false_ne_true)

/-- A pop that is not. -/
theorem shown_iff_of_pop {n m : Navigator Page} {x : Bool} (hx : x = true) (hm : m = n.pop) :
    m.history ≠ [] ↔ (x → 2 ≤ n.history.length) := by
  rw [hx, hm, pop_ne_nil]
  exact ⟨fun h _ => h, fun h => h rfl⟩

theorem shown_of_nav (hs : s.nav.history ≠ []) (hn : s'.nav = s.nav) : s'.nav.history ≠ [] :=
  hn ▸ hs

theorem shown_opensCover {m x y : Prop} {q : Page} (hs : s.nav.history ≠ [])
    (h : m ∧ s'.nav = s.nav.pushReplacement q ∧ x ∨ ¬ m ∧ s'.nav = s.nav ∧ y) :
    s'.nav.history ≠ [] := by
  rcases h with ⟨-, hn, -⟩ | ⟨-, hn, -⟩
  · rw [hn]
    exact pushReplacement_ne_nil.mpr hs
  · exact shown_of_nav hs hn

theorem shown_postFrame (hs : s.nav.history ≠ []) : s.postFrame.nav.history ≠ [] := by
  obtain ⟨-, ⟨he, -⟩ | ⟨_, -, he, -⟩⟩ := AppState.postFrame_inv s
  · rw [he]
    exact hs
  · rw [he]
    exact pushReplacement_ne_nil.mpr hs

theorem shown_frame (hs : s.nav.history ≠ []) (h : s.frame = some (s', es)) :
    s'.nav.history ≠ [] := by
  obtain ⟨-, -, -, ⟨hn, -⟩ | ⟨_, -, hn, -⟩⟩ := AppState.frame_inv h
  · rw [hn]
    exact mapPages_ne_nil.mpr hs
  · rw [hn]
    exact pushReplacement_ne_nil.mpr (mapPages_ne_nil.mpr hs)

theorem shown_initializeFirebaseRest (hs : s.nav.history ≠ []) :
    s.initializeFirebaseRest.1.nav.history ≠ [] := by
  rcases AppState.initializeFirebaseRest_inv s with ⟨he, -⟩ | ⟨_, -, he⟩
  · rw [he]
    exact hs
  · rw [he]
    exact pushReplacement_ne_nil.mpr hs

theorem shown_systemBack (hi : s.nav.Lowest (fun p => p.isRoot)) (hs : s.nav.history ≠ [])
    (h : s.systemBack = some (s', es)) : s'.nav.history ≠ [] := by
  unfold AppState.systemBack at h
  split at h
  · rename_i r hf
    split at h
    · cases h
      exact hs
    · rename_i hw
      cases h
      exact pop_ne_nil.mpr
        (two_le_of_front hi hf (fun hr => Page.not_pops_of_isRoot hr hw))
    · split at h
      · cases h
        exact hs
      · rename_i hl
        cases h
        exact pop_ne_nil.mpr (Nat.lt_of_not_le hl)
  · cases h

/-- The chevron of a page that cannot be lowest is safe. -/
theorem shown_backButton (hi : s.nav.Lowest (fun p => p.isRoot))
    (h : s.backButton = some (s', es)) :
    s'.nav.history ≠ [] ↔ (s.popsBlindly .backButton → 2 ≤ s.nav.history.length) := by
  unfold AppState.backButton at h
  split at h
  · rename_i r hf
    split at h
    · rename_i hb
      cases h
      refine pop_ne_nil.trans ⟨fun hl _ => hl, ?_⟩
      intro hg
      by_cases hr : r.page.isRoot
      · refine hg ?_
        show s.front.any _ = true
        rw [hf]
        exact decide_eq_true (Page.eq_emailSent_of_isRoot hr hb)
      · exact two_le_of_front hi hf hr
    · cases h
  · cases h

/-- Log Out pops `ProfileNav`, which is not lowest while it shows the profile. -/
theorem shown_logOut (hi : s.nav.Lowest (fun p => p.isRoot)) (h : s.logOut = some (s', es)) :
    s'.nav.history ≠ [] := by
  unfold AppState.logOut at h
  split at h
  · rename_i j b hf
    cases h
    refine pushReplacement_ne_nil.mpr (pop_ne_nil.mpr (two_le_of_front hi hf ?_))
    cases b <;> exact Bool.false_ne_true
  · cases h

/-! ### The answers to a form -/

/-- What is left after the rest of `signIn`, if its page is there. -/
theorem shown_signInRest (hs : s.nav.history ≠ []) (answer : SignInAnswer) :
    (s.signInRest true answer).1.nav.history ≠ [] ↔
      (decide (answer ≠ .exception) → 2 ≤ s.nav.history.length) := by
  cases answer with
  | success uid v =>
    refine pushReplacement_ne_nil.trans ?_
    exact shown_iff_of_pop (m := s.pop.nav) rfl rfl
  | authException => exact shown_iff_of_pop (m := s.pop.nav) rfl rfl
  | exception => exact shown_iff_of_safe rfl hs

theorem shown_signUpRest (answer : SignUpAnswer) :
    (s.signUpRest i true answer).nav.history ≠ [] ↔
      ((Act.signUpAnswer i answer).popsBlindly p → 2 ≤ s.nav.history.length) := by
  cases answer with
  | success uid => exact shown_iff_of_safe rfl push_ne_nil
  | emailAlreadyInUse | failure => exact shown_iff_of_pop rfl rfl

theorem shown_resetRest (hs : s.nav.history ≠ []) (answer : ResetAnswer) :
    (s.resetRest true answer).nav.history ≠ [] ↔
      ((Act.resetAnswer i answer).popsBlindly p → 2 ≤ s.nav.history.length) := by
  cases answer with
  | success => exact shown_iff_of_safe rfl (pushReplacement_ne_nil.mpr hs)
  | authException => exact shown_iff_of_pop rfl rfl
  | exception => exact shown_iff_of_safe rfl hs

theorem shown_signInMethodsRest (hs : s.nav.history ≠ []) (m isEmpty : Bool) :
    (s.signInMethodsRest m isEmpty).nav.history ≠ [] := by
  obtain ⟨-, hn | ⟨-, hn⟩⟩ := AppState.signInMethodsRest_inv (s := s) m isEmpty
  · exact shown_of_nav hs hn
  · rw [hn]
    exact push_ne_nil

/-- The answer to a form that is on the stack leaves a page. -/
theorem shown_form {task : Task} {f : Bool → AppState} (hi : FormsStand s)
    (hs : s.nav.history ≠ []) (ht : task ∈ s.tasks) (hf : i ∈ task.form)
    (hgone : (f false).nav = s.nav)
    (hthere : 2 ≤ s.nav.history.length → (f true).nav.history ≠ []) :
    (f (s.nav.find i).isSome).nav.history ≠ [] := by
  cases hm : (s.nav.find i).isSome with
  | false => exact shown_of_nav hs hgone
  | true => exact hthere (two_le_of_form hi ht hf hm)

/-! ### One step -/

/-- **A step of the app leaves a page, exactly if a blind pop finds a second one.** -/
theorem shown_step_iff (hl : s.nav.Lowest (fun p => p.isRoot)) (hf : FormsStand s)
    (hs : s.nav.history ≠ []) (h : step s a = some (s', es)) :
    s'.nav.history ≠ [] ↔ (s.popsBlindly a → 2 ≤ s.nav.history.length) := by
  cases a with
  | tapBible =>
    obtain ⟨_, _, -, -, rfl, -⟩ := AppState.tapBible_inv h
    exact shown_iff_of_safe rfl (mapPages_ne_nil.mpr hs)
  | seeMore =>
    obtain ⟨_, _, _, _, -, rfl, -⟩ := AppState.seeMore_inv h
    exact shown_iff_of_safe rfl push_ne_nil
  | openMenu =>
    obtain ⟨-, rfl, -⟩ := AppState.openMenu_inv h
    exact shown_iff_of_safe rfl push_ne_nil
  | systemBack => exact shown_iff_of_safe rfl (shown_systemBack hl hs h)
  | backButton => exact shown_backButton hl h
  | «open» p =>
    obtain ⟨-, -, rfl, -⟩ := AppState.openPage_inv h
    exact shown_iff_of_safe rfl push_ne_nil
  | replace p =>
    obtain ⟨-, rfl, -⟩ := AppState.replacePage_inv h
    exact shown_iff_of_safe rfl (pushReplacement_ne_nil.mpr hs)
  | logOut => exact shown_iff_of_safe rfl (shown_logOut hl h)
  | signIn | signUp | resetPassword =>
    obtain ⟨_, -, rfl, -⟩ := AppState.press_inv h
    exact shown_iff_of_safe rfl push_ne_nil
  | signInWithGoogle =>
    exact shown_iff_of_safe rfl (shown_of_nav hs (AppState.signInWithGoogle_inv h).1)
  | frame => exact shown_iff_of_safe rfl (shown_frame hs h)
  | rebuild i =>
    obtain ⟨_, -, rfl, -⟩ := AppState.rebuild_inv h
    exact shown_iff_of_safe rfl (mapPages_ne_nil.mpr hs)
  | initializeFirebase i =>
    obtain ⟨-, h⟩ := Option.ite_none_right_eq_some.mp h
    have hrest := shown_initializeFirebaseRest hs
    rw [Option.some.inj h] at hrest
    exact shown_iff_of_safe rfl hrest
  | reload i v =>
    obtain ⟨_, -, hn, -⟩ := AppState.reload_inv h
    exact shown_iff_of_safe rfl (shown_of_nav hs hn)
  | fetchVerseAnswer i answer =>
    obtain ⟨-, ⟨rfl, -⟩ | ⟨_, _, -, -, hn, -⟩⟩ := AppState.fetchVerseAnswer_inv h
    · exact shown_iff_of_safe rfl hs
    · refine shown_iff_of_safe rfl ?_
      rw [hn]
      exact push_ne_nil
  | generateOutputAnswer i request answer =>
    obtain ⟨-, -, ⟨hn, hno⟩ | ⟨rfl, hm, hn⟩⟩ := AppState.generateOutputAnswer_inv h
    · refine shown_iff_of_safe ?_ (shown_of_nav hs hn)
      cases answer with
      | error => exact Bool.eq_false_iff.mpr (fun hm => hno ⟨rfl, hm⟩)
      | ok | threw => rfl
    · exact shown_iff_of_pop hm hn
  | signInAnswer i answer =>
    obtain ⟨ht, h⟩ := AppState.finish_bind h
    have hrest := congrArg Prod.fst (Option.some.inj h)
    rw [← show _ = s' from hrest]
    refine shown_iff_of_safe rfl (shown_form (s := s)
      (f := fun m => ((s.done _).signInRest m answer).1) hf hs ht rfl ?_ ?_)
    · cases answer <;> rfl
    · exact fun htwo => (shown_signInRest (s := s.done _) hs answer).mpr (fun _ => htwo)
  | signUpAnswer i answer =>
    obtain ⟨ht, h⟩ := AppState.finish_bind h
    obtain ⟨rfl, -⟩ := Prod.mk.inj (Option.some.inj h)
    refine shown_iff_of_safe rfl (shown_form (s := s)
      (f := fun m => (s.done _).signUpRest i m answer) hf hs ht rfl ?_ ?_)
    · cases answer <;> rfl
    · exact fun htwo => (shown_signUpRest (s := s.done _) (p := .signUp) answer).mpr (fun _ => htwo)
  | signInMethodsAnswer i isEmpty =>
    obtain ⟨rfl, -⟩ := Prod.mk.inj (Option.some.inj (AppState.finish_bind h).2)
    exact shown_iff_of_safe rfl (shown_signInMethodsRest (s := s.done _) hs _ isEmpty)
  | resetAnswer i answer =>
    obtain ⟨ht, h⟩ := AppState.finish_bind h
    obtain ⟨rfl, -⟩ := Prod.mk.inj (Option.some.inj h)
    refine shown_iff_of_safe rfl (shown_form (s := s)
      (f := fun m => (s.done _).resetRest m answer) hf hs ht rfl rfl ?_)
    exact fun htwo =>
      (shown_resetRest (s := s.done _) (i := i) (p := .forgotPassword) hs answer).mpr
        (fun _ => htwo)
  | googleAnswer i user =>
    exact shown_iff_of_safe rfl (shown_of_nav hs (AppState.googleAnswer_inv h).1)
  | checkAnswer i σ o m =>
    obtain ⟨-, -, -, ⟨hn, -⟩ | ⟨-, hm⟩⟩ := AppState.checkAnswer_inv h
    · exact shown_iff_of_safe rfl (shown_of_nav hs hn)
    · exact shown_iff_of_safe rfl (shown_opensCover hs hm)
  | createAnswer i σ o m =>
    exact shown_iff_of_safe rfl (shown_opensCover hs (AppState.createAnswer_inv h).2.2)
  | createVerifiedAnswer i σ o =>
    exact shown_iff_of_safe rfl (shown_opensCover hs (AppState.createVerifiedAnswer_inv h).2.2)
  | googleSignedOut b c =>
    obtain ⟨_, -, -, rfl, -⟩ := AppState.googleSignedOut_inv h
    exact shown_iff_of_safe rfl hs
  | firebaseSignedOut b =>
    obtain ⟨-, rfl, -⟩ := AppState.firebaseSignedOut_inv h
    exact shown_iff_of_safe rfl hs

/-- **So does a late step**, whatever is lowest. -/
theorem shown_late_iff (hs : s.nav.history ≠ []) (h : s.late p a = some (s', es)) :
    s'.nav.history ≠ [] ↔ (a.popsBlindly p → 2 ≤ s.nav.history.length) := by
  have hroute (u : AppState) (hu : u.nav = s.nav) : u.hasRoute = true := by
    rw [AppState.hasRoute, Bool.not_eq_true', List.isEmpty_eq_false_iff, hu]
    exact hs
  cases a with
  | rebuild i =>
    obtain rfl := late_rebuild h
    exact shown_iff_of_safe rfl hs
  | initializeFirebase i =>
    obtain ⟨-, h⟩ := Option.ite_none_right_eq_some.mp h
    have hs' := congrArg Prod.fst (Option.some.inj h)
    rw [← show _ = s' from hs', AppState.initializeFirebaseLate, if_pos (hroute s rfl)]
    exact shown_iff_of_safe rfl (shown_initializeFirebaseRest hs)
  | reload i v =>
    obtain ⟨-, h⟩ := Option.ite_none_right_eq_some.mp h
    obtain ⟨_, -, hn, -⟩ := AppState.reloadRest_inv h
    exact shown_iff_of_safe rfl (shown_of_nav hs hn)
  | fetchVerseAnswer i answer =>
    replace h := (AppState.finish_bind h).2
    refine shown_iff_of_safe rfl ?_
    split at h
    · cases h
      cases answer with
      | ok | error => exact push_ne_nil
      | threw => exact hs
    · cases h
      exact hs
  | generateOutputAnswer i request answer =>
    obtain ⟨rfl, -⟩ := Prod.mk.inj (Option.some.inj (AppState.finish_bind h).2)
    obtain ⟨-, ⟨hn, hno⟩ | ⟨rfl, hm, hn⟩⟩ :=
      AppState.generateOutputRest_inv (s := s.done (.generateOutput i request)) request
        p.isBuiltCover answer
    · refine shown_iff_of_safe ?_ (shown_of_nav hs hn)
      cases answer with
      | error => exact Bool.eq_false_iff.mpr (fun hm => hno ⟨rfl, hm⟩)
      | ok | threw => rfl
    · exact shown_iff_of_pop hm hn
  | signInAnswer i answer =>
    have hs' := congrArg Prod.fst (Option.some.inj (AppState.finish_bind h).2)
    rw [← show _ = s' from hs']
    show ((s.done _).signInRest (s.done _).hasRoute answer).1.nav.history ≠ [] ↔ _
    rw [hroute (s.done _) rfl]
    exact shown_signInRest (s := s.done _) hs answer
  | signUpAnswer i answer =>
    obtain ⟨rfl, -⟩ := Prod.mk.inj (Option.some.inj (AppState.finish_bind h).2)
    rw [hroute (s.done _) rfl]
    exact shown_signUpRest (s := s.done _) answer
  | signInMethodsAnswer i isEmpty =>
    obtain ⟨rfl, -⟩ := Prod.mk.inj (Option.some.inj (AppState.finish_bind h).2)
    exact shown_iff_of_safe rfl (shown_signInMethodsRest (s := s.done _) hs true isEmpty)
  | resetAnswer i answer =>
    obtain ⟨rfl, -⟩ := Prod.mk.inj (Option.some.inj (AppState.finish_bind h).2)
    rw [hroute (s.done _) rfl]
    exact shown_resetRest (s := s.done _) hs answer
  | checkAnswer i σ o m =>
    obtain ⟨-, -, -, ⟨hn, -⟩ | ⟨-, hm⟩⟩ := AppState.checkRest_inv (AppState.finish_bind h).2
    · exact shown_iff_of_safe rfl (shown_of_nav hs hn)
    · exact shown_iff_of_safe rfl (shown_opensCover hs hm)
  | createAnswer i σ o m =>
    have hm := (AppState.createRest_inv (Option.some.inj (AppState.finish_bind h).2)).2.2
    exact shown_iff_of_safe rfl (shown_opensCover hs hm)
  | createVerifiedAnswer i σ o =>
    have hm := (AppState.createVerifiedRest_inv (Option.some.inj (AppState.finish_bind h).2)).2.2
    exact shown_iff_of_safe rfl (shown_opensCover hs hm)
  | _ => cases h

/-! ### The main results -/

/-- The lowest page is a root, and there is one. -/
structure Rooted (t : Screen) : Prop where
  stands : Stands (fun p => p.isRoot) t
  shown : t.app.nav.history ≠ []

/-- A modal on the stack is not lowest. -/
theorem shown_confirmAnswer {o : Outcome} (hi : Rooted t)
    (h : t.confirmAnswer i o = some (t', es)) :
    Shown t (.confirmAnswer i o) t' es ↔ Survives t (.confirmAnswer i o) := by
  obtain ⟨⟨hc, -⟩, -, ⟨ht, hno⟩ | ⟨ht, ho, hm⟩⟩ := confirmAnswer_inv h
  · refine shown_iff_of_safe (n := t.app.nav) (Bool.eq_false_iff.mpr ?_) (ht ▸ hi.shown)
    intro hp
    obtain ⟨ho, hfind⟩ := Bool.and_eq_true_iff.mp hp
    exact hno ⟨of_decide_eq_true ho, Bool.or_eq_true_iff.mpr (.inr hfind)⟩
  · cases hfind : (t.find i).isSome with
    | true =>
      refine shown_iff_of_pop (n := t.app.nav) ?_ (congrArg AppState.nav ht)
      exact Bool.and_eq_true_iff.mpr ⟨decide_eq_true ho, hfind⟩
    | false =>
      have hstack : (t.app.nav.find i).isSome := by
        rw [Screen.mounted, hfind, Bool.or_false] at hm
        exact hm
      have htwo := two_le_of_above (hi.stands.modals i hc) hstack
      refine iff_of_true ?_ (fun _ => htwo)
      rw [Shown, ht]
      exact pop_ne_nil.mpr htwo

/-- One step on the screen. -/
theorem shown_iff (hi : Rooted t) (h : t.step b = some (t', es)) :
    Shown t b t' es ↔ Survives t b := by
  cases b with
  | app a =>
    obtain ⟨-, ⟨hl, hst, -⟩ | ⟨r, hl, hst, -⟩⟩ := appStep_cases h
    · rw [Shown, Survives, popsBlindly_of_not_late hl]
      exact shown_step_iff hi.stands.lowest hi.stands.forms hi.shown hst
    · rw [Shown, Survives, popsBlindly_of_late hl]
      exact shown_late_iff hi.shown hst
  | confirm =>
    obtain ⟨-, ht, -⟩ := confirm_inv h
    exact shown_iff_of_safe (n := t.app.nav) rfl (ht ▸ hi.shown)
  | confirmAnswer i o => exact shown_confirmAnswer hi h
  | firstFrame i =>
    obtain ⟨-, _, -, ht, -⟩ := firstFrame_inv h
    exact shown_iff_of_safe (n := t.app.nav) rfl (ht ▸ shown_postFrame hi.shown)
  | movedOut i =>
    obtain ⟨rfl, -⟩ := movedOut_inv h
    exact shown_iff_of_safe (n := t.app.nav) rfl hi.shown

/-- **The screen never goes blank, exactly in the runs in which every blind pop finds a second
route.** -/
theorem along_shown_iff (h : screen.start t) (bs : List Screen.Act) :
    screen.Along Shown t bs ↔ screen.Along (Machine.before Survives) t bs := by
  refine Machine.along_iff Rooted ?_ ?_ bs t ⟨stands_start base_root h, ?_⟩
  · intro t b t' es hi hst
    exact shown_iff hi hst
  · intro t b t' es hi hg hst
    exact ⟨stands_step base_root hi.stands (fun he => absurd he hi.shown) hst,
      (shown_iff hi hst).mpr hg⟩
  · rw [h.1.1]
    exact List.cons_ne_nil _ _

/-- The verse is left before its explanation fails, and the cover page goes with it. -/
theorem not_along_shown_wentBack :
    ¬ screen.Along Shown (.of (startedBy "a" ["a"]))
      ([.app .frame, .app .tapBible, .app (.fetchVerseAnswer 0 .ok), .app .systemBack] ++
        [.app (.generateOutputAnswer 0 0 .error)]) := by
  intro h
  have hlast := Machine.Along.last h rfl rfl
  exact hlast rfl

/-- The log-in page is left before the sign-in fails, and the page below goes while it is
moving out. -/
theorem not_along_shown_movingOut :
    ¬ screen.Along Shown (.of startedByNobody)
      ([.app .frame, .app (.open .login), .app .signIn, .app .systemBack, .app .backButton] ++
        [.app (.signInAnswer 2 .authException)]) := by
  rw [along_shown_iff (start_of starts_startedByNobody)]
  intro h
  have hlast := Machine.Along.last h rfl rfl
  exact absurd (hlast rfl) (by decide)

end GoodOmens.App
