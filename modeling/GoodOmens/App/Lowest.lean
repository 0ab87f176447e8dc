import GoodOmens.App.Leaving

/-!
# Which pages can be lowest

A pop takes the lowest page only when it is the only one, and a page becomes lowest only on
an empty stack or in the place of the only page.  So what can be lowest is a matter of few
steps: `Base` lists what a property of pages must say of them, and then the lowest page has
it in every run, whatever is moving out (`lowest_step`, `lowest_late`).

The log-in forms are never lowest, since the links that lead to one are on another page or
replace a form.  A form whose handler waits for an answer stays where it is, and so there is
another page below it as long as it is on the stack (`FormsStand`).
-/

namespace GoodOmens.App

open Navigator

namespace Page

/-- The forms and the theme modal: their handlers await a call, and pop when it comes back. -/
def isForm : Page → Bool
  | login | signUp | forgotPassword | themeBottomModal => true
  | _ => false

/-- The pages that are put in the place of others, or stay when these are gone. -/
def isRoot : Page → Bool
  | cover _ | auth | profileNav false .auth | profileNav false .verifyEmail | verifyEmail
  | emailSent => true
  | _ => false

theorem isForm_of_mem_replaces {p q : Page} (h : q ∈ p.replaces) : p.isForm := by
  unfold replaces at h
  split at h
  · rfl
  · rfl
  · cases h

theorem isForm_of_isRoot {p : Page} (h : p.isRoot) : p.isForm = false := by
  cases p with
  | login | signUp | forgotPassword | themeBottomModal => cases h
  | _ => rfl

theorem isForm_of_isVerse {p : Page} (h : p.isVerse) : p.isForm = false := by
  cases p with
  | login | signUp | forgotPassword | themeBottomModal => cases h
  | _ => rfl

end Page

/-- What a property must say for the lowest page to have it: it holds of the roots and not
of the forms, and does not depend on what a `ProfileNav` shows. -/
structure Base (Q : Page → Prop) : Prop where
  root : ∀ p, p.isRoot → Q p
  form : ∀ p, p.isForm → ¬ Q p
  shows : ∀ b body currentUser, Q (.profileNav b body) →
    Q (.profileNav b (getBodyWidget currentUser b))

/-- The pages that are no forms. -/
theorem base_noForm : Base (fun p => p.isForm = false) where
  root _ h := Page.isForm_of_isRoot h
  form _ h hno := Bool.false_ne_true (hno.symm.trans h)
  shows _ _ _ _ := rfl

/-- The roots themselves: a `ProfileNav` that is one has taken its state without a verified
user, and shows the log-in choice or `VerifyEmailPage`. -/
theorem base_root : Base (fun p => p.isRoot) where
  root _ h := h
  form p h hr := by
    rw [Page.isForm_of_isRoot hr] at h
    cases h
  shows b body currentUser h := by
    cases b with
    | true => cases body <;> cases h
    | false => cases currentUser <;> rfl

/-- The form whose handler waits for the call, and pops when it comes back. -/
def Task.form : Task → Option Nat
  | signIn i | signUp i | resetPassword i => some i
  | _ => none

/-- A form whose handler waits is not the lowest page. -/
def FormsStand (s : AppState) : Prop :=
  ∀ t ∈ s.tasks, ∀ i ∈ t.form, s.nav.Above i

variable {s s' : AppState} {a : Act} {es : List Effect} {i : Nat} {p : Page} {r : Route Page}
  {Q : Page → Prop}

/-! ### The lowest page -/

theorem not_nil_of_front (h : s.front = some r) : s.nav.history ≠ [] :=
  List.ne_nil_of_mem (AppState.mem_of_front h)

theorem lowest_of_nav (hi : s.nav.Lowest Q) (hn : s'.nav = s.nav) : s'.nav.Lowest Q := hn ▸ hi

/-- Under a page in front that cannot be lowest there is another one. -/
theorem two_le_of_front (hi : s.nav.Lowest Q) (hf : s.front = some r) (hr : ¬ Q r.page) :
    2 ≤ s.nav.history.length :=
  two_le_of_above (above_of_page hi (AppState.mem_of_front hf) hr)
    (isSome_find (AppState.mem_of_front hf))

theorem lowest_push_of_front (hi : s.nav.Lowest Q) (h : s.front = some r) :
    (s.nav.push p).Lowest Q := lowest_push hi (fun he => absurd he (not_nil_of_front h))

theorem lowest_root (hQ : Base Q) (hi : s.nav.Lowest Q) (hp : p.isRoot) :
    (s.nav.pushReplacement p).Lowest Q := lowest_pushReplacement hi (fun _ => hQ.root p hp)

/-- A step that opens a cover page, or does nothing to the stack. -/
theorem lowest_opensCover {m x y : Prop} (hQ : Base Q) (hi : s.nav.Lowest Q)
    (h : m ∧ s'.nav = s.nav.pushReplacement (.cover none) ∧ x ∨ ¬ m ∧ s'.nav = s.nav ∧ y) :
    s'.nav.Lowest Q := by
  rcases h with ⟨-, hn, -⟩ | ⟨-, hn, -⟩
  · rw [hn]
    exact lowest_root hQ hi rfl
  · exact lowest_of_nav hi hn

theorem lowest_built (hQ : Base Q) (hi : s.nav.Lowest Q) :
    (s.nav.mapPages (fun _ => s.built)).Lowest Q := by
  refine lowest_mapPages hi ?_
  intro _ q hq
  unfold AppState.built
  split
  · exact hQ.root _ rfl
  · exact hq

theorem lowest_postFrame (hQ : Base Q) (hi : s.nav.Lowest Q) : s.postFrame.nav.Lowest Q := by
  unfold AppState.postFrame
  split
  · rename_i hu
    refine lowest_root hQ hi ?_
    rw [AppState.profileNav, hu]
    rfl
  · split
    · exact hi
    · exact lowest_root hQ hi rfl

theorem lowest_replacePage {p : Page} (hQ : Base Q) (hi : s.nav.Lowest Q)
    (h : s.replacePage p = some (s', es)) : s'.nav.Lowest Q := by
  unfold AppState.replacePage at h
  split at h
  · rename_i r hf
    split at h
    · rename_i hp
      cases h
      refine lowest_pushReplacement hi ?_
      intro hle
      have hl := two_le_of_front hi hf (hQ.form _ (Page.isForm_of_mem_replaces hp))
      exact absurd hl (Nat.not_le_of_lt (Nat.lt_succ_of_le hle))
    · cases h
  · cases h

theorem lowest_rebuild (hQ : Base Q) (hi : s.nav.Lowest Q) (h : s.rebuild i = some (s', es)) :
    s'.nav.Lowest Q := by
  unfold AppState.rebuild at h
  split at h
  · rename_i b body hf
    cases h
    exact lowest_setPage hi hf (hQ.shows b body _)
  · cases h

theorem lowest_signInRest {m : Bool} {answer : SignInAnswer} (hQ : Base Q) (hi : s.nav.Lowest Q) :
    (s.signInRest m answer).1.nav.Lowest Q := by
  cases m with
  | false => cases answer <;> exact hi
  | true =>
    cases answer with
    | success uid v => exact lowest_pushReplacement (lowest_pop hi) (fun _ => hQ.root _ rfl)
    | authException => exact lowest_pop hi
    | exception => exact hi

theorem lowest_signUpRest {m : Bool} {answer : SignUpAnswer} (hQ : Base Q) (hi : s.nav.Lowest Q) :
    (s.signUpRest i m answer).nav.Lowest Q := by
  cases m with
  | false => cases answer <;> exact hi
  | true =>
    cases answer with
    | success uid => exact lowest_push (lowest_pop hi) (fun _ => hQ.root _ rfl)
    | emailAlreadyInUse => exact lowest_pop hi
    | failure => exact lowest_pop hi

theorem lowest_signInMethodsRest {m isEmpty : Bool} (hQ : Base Q) (hi : s.nav.Lowest Q) :
    (s.signInMethodsRest m isEmpty).nav.Lowest Q := by
  obtain ⟨-, hn | ⟨-, hn⟩⟩ := AppState.signInMethodsRest_inv (s := s) m isEmpty
  · rw [hn]
    exact hi
  · rw [hn]
    exact lowest_push hi (fun _ => hQ.root _ rfl)

theorem lowest_resetRest {m : Bool} {answer : ResetAnswer} (hQ : Base Q) (hi : s.nav.Lowest Q) :
    (s.resetRest m answer).nav.Lowest Q := by
  obtain ⟨-, ⟨hn, -⟩ | ⟨-, hn⟩ | ⟨-, hn⟩⟩ := AppState.resetRest_inv (s := s) m answer
  · rw [hn]
    exact hi
  · rw [hn]
    exact lowest_pop hi
  · rw [hn]
    exact lowest_root hQ hi rfl

theorem lowest_generateOutputRest {request : Nat} {m : Bool} {answer : Answer}
    (hi : s.nav.Lowest Q) : (s.generateOutputRest request m answer).nav.Lowest Q := by
  obtain ⟨-, ⟨hn, -⟩ | ⟨-, -, hn⟩⟩ := AppState.generateOutputRest_inv (s := s) request m answer
  · rw [hn]
    exact hi
  · rw [hn]
    exact lowest_pop hi

theorem lowest_initializeFirebaseRest (hQ : Base Q) (hi : s.nav.Lowest Q) :
    s.initializeFirebaseRest.1.nav.Lowest Q := by
  rcases AppState.initializeFirebaseRest_inv s with ⟨he, -⟩ | ⟨_, -, he⟩
  · rw [he]
    exact hi
  · rw [he]
    exact lowest_root hQ hi rfl

/-- **A step of the app keeps what the lowest page is.**  Nothing is pushed on an empty
stack. -/
theorem lowest_step (hQ : Base Q) (hi : s.nav.Lowest Q) (h : step s a = some (s', es)) :
    s'.nav.Lowest Q := by
  cases a with
  | tapBible =>
    obtain ⟨_, c, hf, -, rfl, -⟩ := AppState.tapBible_inv h
    exact lowest_setPage hi (find_eq_some.mpr (AppState.mem_of_front hf))
      (fun _ => hQ.root _ rfl)
  | seeMore =>
    obtain ⟨_, _, _, _, hf, rfl, -⟩ := AppState.seeMore_inv h
    exact lowest_push_of_front hi hf
  | openMenu =>
    obtain ⟨⟨_, hf⟩, rfl, -⟩ := AppState.openMenu_inv h
    exact lowest_push_of_front hi hf
  | systemBack =>
    obtain ⟨rfl | rfl, -⟩ := AppState.systemBack_inv h
    · exact hi
    · exact lowest_pop hi
  | backButton =>
    obtain ⟨rfl, -⟩ := AppState.backButton_inv h
    exact lowest_pop hi
  | «open» p =>
    obtain ⟨⟨_, hf, -⟩, -, rfl, -⟩ := AppState.openPage_inv h
    exact lowest_push_of_front hi hf
  | replace p => exact lowest_replacePage hQ hi h
  | logOut =>
    obtain ⟨rfl, -⟩ := AppState.logOut_inv h
    exact lowest_pushReplacement (lowest_pop hi) (fun _ => hQ.root _ rfl)
  | signIn | signUp | resetPassword =>
    obtain ⟨_, hf, rfl, -⟩ := AppState.press_inv h
    exact lowest_push_of_front hi hf
  | signInWithGoogle => exact lowest_of_nav hi (AppState.signInWithGoogle_inv h).1
  | frame =>
    replace h : s.frame = some (s', es) := h
    unfold AppState.frame at h
    split at h
    · cases h
      exact lowest_postFrame hQ (lowest_built hQ hi)
    · cases h
  | rebuild i => exact lowest_rebuild hQ hi h
  | initializeFirebase i =>
    obtain ⟨-, h⟩ := Option.ite_none_right_eq_some.mp h
    have hlow := lowest_initializeFirebaseRest hQ hi
    rw [Option.some.inj h] at hlow
    exact hlow
  | reload i v =>
    obtain ⟨_, -, hn, -, -⟩ := AppState.reload_inv h
    exact lowest_of_nav hi hn
  | fetchVerseAnswer i answer =>
    obtain ⟨-, ⟨rfl, -⟩ | ⟨c, p, hc, -, hn, -⟩⟩ := AppState.fetchVerseAnswer_inv h
    · exact hi
    · rw [hn]
      have hm := AppState.mem_of_coverState hc
      refine lowest_push (lowest_setPage hi (find_eq_some.mpr hm) (fun _ => hQ.root _ rfl)) ?_
      intro he
      rw [List.map_eq_nil_iff.mp he] at hm
      cases hm
  | generateOutputAnswer i request answer =>
    obtain ⟨rfl, -⟩ := Prod.mk.inj (Option.some.inj (AppState.finish_bind h).2)
    exact lowest_generateOutputRest (s := s.done _) hi
  | signInAnswer i answer =>
    have hs := congrArg Prod.fst (Option.some.inj (AppState.finish_bind h).2)
    rw [← show _ = s' from hs]
    exact lowest_signInRest (s := s.done _) hQ hi
  | signUpAnswer i answer =>
    obtain ⟨rfl, -⟩ := Prod.mk.inj (Option.some.inj (AppState.finish_bind h).2)
    exact lowest_signUpRest (s := s.done _) hQ hi
  | signInMethodsAnswer i isEmpty =>
    obtain ⟨rfl, -⟩ := Prod.mk.inj (Option.some.inj (AppState.finish_bind h).2)
    exact lowest_signInMethodsRest (s := s.done _) hQ hi
  | resetAnswer i answer =>
    obtain ⟨rfl, -⟩ := Prod.mk.inj (Option.some.inj (AppState.finish_bind h).2)
    exact lowest_resetRest (s := s.done _) hQ hi
  | googleAnswer i user => exact lowest_of_nav hi (AppState.googleAnswer_inv h).1
  | checkAnswer i σ o m =>
    obtain ⟨-, -, -, ⟨hn, -⟩ | ⟨-, hm⟩⟩ := AppState.checkAnswer_inv h
    · exact lowest_of_nav hi hn
    · exact lowest_opensCover hQ hi hm
  | createAnswer i σ o m => exact lowest_opensCover hQ hi (AppState.createAnswer_inv h).2.2
  | createVerifiedAnswer i σ o =>
    exact lowest_opensCover hQ hi (AppState.createVerifiedAnswer_inv h).2.2
  | googleSignedOut b c =>
    obtain ⟨_, -, -, rfl, -⟩ := AppState.googleSignedOut_inv h
    exact hi
  | firebaseSignedOut b =>
    obtain ⟨-, rfl, -⟩ := AppState.firebaseSignedOut_inv h
    exact hi

/-- **A late step keeps it too**, but a verse may come on an empty stack. -/
theorem lowest_late (hQ : Base Q) (hi : s.nav.Lowest Q)
    (hv : s.nav.history = [] → ∀ q, q.isVerse → Q q) (h : s.late p a = some (s', es)) :
    s'.nav.Lowest Q := by
  cases a with
  | rebuild i =>
    obtain rfl := late_rebuild h
    exact hi
  | initializeFirebase i =>
    obtain ⟨-, h⟩ := Option.ite_none_right_eq_some.mp h
    have hs := congrArg Prod.fst (Option.some.inj h)
    rw [← show _ = s' from hs]
    rcases initializeFirebaseLate_cases s with he | he
    · rw [he]
      exact hi
    · rw [he]
      exact lowest_initializeFirebaseRest hQ hi
  | reload i v =>
    obtain ⟨-, h⟩ := Option.ite_none_right_eq_some.mp h
    obtain ⟨_, -, hn, -, -⟩ := AppState.reloadRest_inv h
    exact lowest_of_nav hi hn
  | fetchVerseAnswer i answer =>
    replace h := (AppState.finish_bind h).2
    split at h
    · rename_i c
      cases h
      cases answer with
      | ok => exact lowest_push hi (fun he => hv he _ rfl)
      | error => exact lowest_push hi (fun he => hv he _ (Page.isVerse_routeOnError c))
      | threw => exact hi
    · cases h
      exact hi
  | generateOutputAnswer i request answer =>
    obtain ⟨rfl, -⟩ := Prod.mk.inj (Option.some.inj (AppState.finish_bind h).2)
    exact lowest_generateOutputRest (s := s.done _) hi
  | signInAnswer i answer =>
    have hs := congrArg Prod.fst (Option.some.inj (AppState.finish_bind h).2)
    rw [← show _ = s' from hs]
    exact lowest_signInRest (s := s.done _) hQ hi
  | signUpAnswer i answer =>
    obtain ⟨rfl, -⟩ := Prod.mk.inj (Option.some.inj (AppState.finish_bind h).2)
    exact lowest_signUpRest (s := s.done _) hQ hi
  | signInMethodsAnswer i isEmpty =>
    obtain ⟨rfl, -⟩ := Prod.mk.inj (Option.some.inj (AppState.finish_bind h).2)
    exact lowest_signInMethodsRest (s := s.done _) hQ hi
  | resetAnswer i answer =>
    obtain ⟨rfl, -⟩ := Prod.mk.inj (Option.some.inj (AppState.finish_bind h).2)
    exact lowest_resetRest (s := s.done _) hQ hi
  | checkAnswer i σ o m =>
    obtain ⟨-, -, -, ⟨hn, -⟩ | ⟨-, hm⟩⟩ := AppState.checkRest_inv (AppState.finish_bind h).2
    · exact lowest_of_nav hi hn
    · exact lowest_opensCover hQ hi hm
  | createAnswer i σ o m =>
    have hm := (AppState.createRest_inv (Option.some.inj (AppState.finish_bind h).2)).2.2
    exact lowest_opensCover hQ hi hm
  | createVerifiedAnswer i σ o =>
    have hm := (AppState.createVerifiedRest_inv (Option.some.inj (AppState.finish_bind h).2)).2.2
    exact lowest_opensCover hQ hi hm
  | _ => cases h

/-! ### The forms that wait stay above it -/

/-- A call that a form waits for is started by its button, while the form is in front. -/
theorem front_of_form {t : Task} (h : step s a = some (s', es)) (ht : s.starts a = some t)
    (hf : i ∈ t.form) : ∃ p, s.front = some ⟨i, p⟩ ∧ p.isForm := by
  have hfront {task : Nat → Task} {page : Page} (hpress : s.press page task = some (s', es))
      (hpage : page.isForm) (hform : ∀ j, (task j).form = some j)
      (ht : s.front.map (fun r => task r.id) = some t) :
      ∃ p, s.front = some ⟨i, p⟩ ∧ p.isForm := by
    obtain ⟨j, hr, -⟩ := AppState.press_inv hpress
    rw [hr] at ht
    obtain rfl := Option.some.inj ht
    rw [hform] at hf
    obtain rfl := Option.some.inj hf
    exact ⟨page, hr, hpage⟩
  have hother (hno : t.form = none) : ∃ p, s.front = some ⟨i, p⟩ ∧ p.isForm := by
    rw [hno] at hf
    cases hf
  cases a with
  | signIn => exact hfront h rfl (fun _ => rfl) ht
  | signUp => exact hfront h rfl (fun _ => rfl) ht
  | resetPassword => exact hfront h rfl (fun _ => rfl) ht
  | tapBible =>
    obtain ⟨r, -, rfl⟩ := Option.map_eq_some_iff.mp ht
    exact hother rfl
  | signInWithGoogle =>
    obtain ⟨r, -, rfl⟩ := Option.map_eq_some_iff.mp ht
    exact hother rfl
  | fetchVerseAnswer j answer =>
    cases answer <;> cases ht
    exact hother rfl
  | signUpAnswer j answer =>
    cases answer <;> cases ht
    exact hother rfl
  | googleAnswer j user =>
    cases user <;> cases ht
    exact hother rfl
  | checkAnswer j σ o m =>
    obtain ⟨-, he⟩ := Option.ite_none_right_eq_some.mp ht
    cases he
    exact hother rfl
  | reload j v =>
    obtain ⟨σ, -, rfl⟩ := Option.map_eq_some_iff.mp ht
    exact hother rfl
  | _ => cases ht

/-- A step that starts no call leaves the forms where they are. -/
theorem formsStand_of_drops {k : Nat} (hi : FormsStand s) (ht : s'.tasks = s.tasks)
    (hd : Drops s.nav s'.nav k) : FormsStand s' := by
  intro t hm i hf
  rw [ht] at hm
  exact above_of_drops (hi t hm i hf) hd

theorem formsStand_step (hQ : Base Q) (hl : s.nav.Lowest Q) (hi : FormsStand s)
    (h : step s a = some (s', es)) : FormsStand s' := by
  intro t ht i hf
  refine above_of_drops ?_ (drops_step h)
  rcases mem_tasks_step h ht with ht | ht
  · exact hi t ht i hf
  · obtain ⟨p, hr, hform⟩ := front_of_form h ht hf
    exact above_of_page hl (AppState.mem_of_front hr) (hQ.form _ hform)

/-- A late step starts no call that a form waits for. -/
theorem formsStand_late (hi : FormsStand s) (h : s.late p a = some (s', es)) : FormsStand s' := by
  intro t ht i hf
  refine above_of_drops ?_ (drops_late h)
  rcases mem_tasks_of_calls (tasks_late h) ht with ht | ht
  · exact hi t ht i hf
  · have hno : t.form = none := by
      cases a with
      | fetchVerseAnswer j answer => cases answer <;> cases ht; rfl
      | signUpAnswer j answer => cases answer <;> cases ht; rfl
      | checkAnswer j σ o m =>
        obtain ⟨-, he⟩ := Option.ite_none_right_eq_some.mp ht
        cases he
        rfl
      | reload j v =>
        obtain ⟨σ, -, rfl⟩ := Option.map_eq_some_iff.mp ht
        rfl
      | tapBible | signIn | signUp | resetPassword | signInWithGoogle | googleAnswer => cases h
      | _ => cases ht
    rw [hno] at hf
    cases hf

/-- Under a form that waits, and that is on the stack, there is another page. -/
theorem two_le_of_form {t : Task} (hi : FormsStand s) (ht : t ∈ s.tasks) (hf : i ∈ t.form)
    (hm : s.mounted i) : 2 ≤ s.nav.history.length := two_le_of_above (hi t ht i hf) hm

/-! ### On the screen -/

/-- The lowest page has `Q`, and the forms and the modals that wait are above it. -/
structure Stands (Q : Page → Prop) (t : Screen) : Prop where
  lowest : t.app.nav.Lowest Q
  forms : FormsStand t.app
  modals : ∀ i ∈ t.confirming, t.app.nav.Above i

variable {t t' : Screen} {b : Screen.Act}

theorem stands_start (hQ : Base Q) (h : screen.start t) : Stands Q t := by
  obtain ⟨⟨hn, ht, -⟩, -, hc⟩ := h
  refine ⟨?_, ?_, ?_⟩
  · rw [hn]
    exact lowest_home (hQ.root _ rfl)
  · intro t hm
    rw [ht] at hm
    cases hm
  · intro i hi
    rw [hc] at hi
    cases hi

theorem lowest_screen (hQ : Base Q) (hi : Stands Q t)
    (hv : t.app.nav.history = [] → ∀ q, q.isVerse → Q q) (h : t.step b = some (t', es)) :
    t'.app.nav.Lowest Q := by
  cases b with
  | app a =>
    obtain ⟨-, ⟨-, hst, -⟩ | ⟨_, -, hst, -⟩⟩ := appStep_cases h
    · exact lowest_step hQ hi.lowest hst
    · exact lowest_late hQ hi.lowest hv hst
  | confirm =>
    obtain ⟨-, ht, -⟩ := confirm_inv h
    exact ht ▸ hi.lowest
  | confirmAnswer i o =>
    obtain ⟨-, -, ⟨ht, -⟩ | ⟨ht, -⟩⟩ := confirmAnswer_inv h
    · exact ht ▸ hi.lowest
    · exact ht ▸ lowest_pop hi.lowest
  | firstFrame i =>
    obtain ⟨-, _, -, ht, -⟩ := firstFrame_inv h
    exact ht ▸ lowest_postFrame hQ hi.lowest
  | movedOut i =>
    obtain ⟨rfl, -⟩ := movedOut_inv h
    exact hi.lowest

theorem forms_screen (hQ : Base Q) (hi : Stands Q t) (h : t.step b = some (t', es)) :
    FormsStand t'.app := by
  have hother (ht : t'.app.tasks = t.app.tasks) : FormsStand t'.app := by
    exact formsStand_of_drops hi.forms ht (drops_screen h)
  cases b with
  | app a =>
    obtain ⟨-, ⟨-, hst, -⟩ | ⟨_, -, hst, -⟩⟩ := appStep_cases h
    · exact formsStand_step hQ hi.lowest hi.forms hst
    · exact formsStand_late hi.forms hst
  | confirm =>
    obtain ⟨-, ht, -⟩ := confirm_inv h
    exact hother (congrArg AppState.tasks ht)
  | confirmAnswer i o =>
    obtain ⟨-, -, ⟨ht, -⟩ | ⟨ht, -⟩⟩ := confirmAnswer_inv h
    · exact hother (congrArg AppState.tasks ht)
    · exact hother (ht ▸ rfl)
  | firstFrame i =>
    obtain ⟨-, _, -, ht, -⟩ := firstFrame_inv h
    refine hother ?_
    rw [ht]
    exact tasks_postFrame t.app
  | movedOut i =>
    obtain ⟨rfl, -⟩ := movedOut_inv h
    exact hother rfl

/-- A modal is in front, and so not lowest, when Confirm is pressed. -/
theorem modals_screen (hQ : Base Q) (hi : Stands Q t) (h : t.step b = some (t', es)) :
    ∀ i ∈ t'.confirming, t'.app.nav.Above i := by
  have hd := drops_screen h
  have hother (hc : ∀ i ∈ t'.confirming, i ∈ t.confirming) :
      ∀ i ∈ t'.confirming, t'.app.nav.Above i :=
    fun i hm => above_of_drops (hi.modals i (hc i hm)) hd
  cases b with
  | app a =>
    obtain ⟨hc, -⟩ := appStep_cases h
    exact hother (fun _ hj => hc ▸ hj)
  | confirm =>
    obtain ⟨⟨j, hf, hc⟩, ht, -⟩ := confirm_inv h
    intro i hm
    rw [hc] at hm
    rcases List.mem_cons.mp hm with rfl | hm
    · have hfront := AppState.mem_of_front hf
      exact above_of_drops (above_of_page hi.lowest hfront (hQ.form _ rfl)) hd
    · exact above_of_drops (hi.modals i hm) hd
  | confirmAnswer i o =>
    obtain ⟨⟨-, hc⟩, -⟩ := confirmAnswer_inv h
    exact hother (fun j hj => List.mem_of_mem_erase (hc ▸ hj))
  | firstFrame i =>
    obtain ⟨hc, -⟩ := firstFrame_inv h
    exact hother (fun _ hj => hc ▸ hj)
  | movedOut i =>
    obtain ⟨rfl, -⟩ := movedOut_inv h
    exact hother (fun _ hj => hj)

/-- **One step on the screen.**  If the stack is empty a verse must be allowed to be lowest. -/
theorem stands_step (hQ : Base Q) (hi : Stands Q t)
    (hv : t.app.nav.history = [] → ∀ q, q.isVerse → Q q) (h : t.step b = some (t', es)) :
    Stands Q t' :=
  ⟨lowest_screen hQ hi hv h, forms_screen hQ hi h, modals_screen hQ hi h⟩

end GoodOmens.App
