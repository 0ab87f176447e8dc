import GoodOmens.App.Inversion

/-!
# Which routes a step ends

A route ends when it is taken off the stack.  Its result is what it was popped with:
the theme of its page, where a page's own back path pops it (`popsTheme`), and `null`
everywhere else.  `drops` counts the routes that a step ends with `null`, for every
handler that pops without a value or replaces: they are the ones on top.

`drops_step` says that a step ends these and the route that is popped with its theme,
and no other.
-/

namespace GoodOmens.App

open Navigator

/-- How many routes the rest of `signIn` ends: the loading dialog, and on success the
page below it too. -/
def SignInAnswer.drops : SignInAnswer → Nat
  | success _ _ => 2
  | authException => 1
  | exception => 0

namespace AppState

variable (s : AppState)

/-- The route that the step pops with its page's theme: `onWillPop` and the chevron of
the same page. -/
def popsTheme : Act → Option (Route Page)
  | .systemBack | .backButton => s.front.filter (fun r => r.page.onWillPop = .pops)
  | _ => none

/-- How many routes the step ends with `null`. -/
def drops : Act → Nat
  | .systemBack =>
    match s.front with
    | some r => if r.page.onWillPop = .bubbles ∧ 1 < s.nav.history.length then 1 else 0
    | none => 0
  | .backButton =>
    match s.front with
    | some r => if r.page.onWillPop = .pops then 0 else 1
    | none => 0
  | .replace _ => 1
  | .logOut => 2
  | .frame => if s.verifiedUser.isSome then 0 else 1
  | .initializeFirebase _ => if s.verifiedUser.isSome then 1 else 0
  | .generateOutputAnswer i _ answer =>
    if answer = .error ∧ (s.coverState i).isSome then 1 else 0
  | .signInAnswer i answer => if (s.nav.find i).isSome then answer.drops else 0
  | .signUpAnswer i _ => if (s.nav.find i).isSome then 1 else 0
  | .resetAnswer i answer => if (s.nav.find i).isSome ∧ answer ≠ .exception then 1 else 0
  | .checkAnswer i _ o m =>
    if ¬ o.Answered 404 ∧ m = true ∧ (s.nav.find i).isSome then 1 else 0
  | .createAnswer i _ _ m => if m = true ∧ (s.nav.find i).isSome then 1 else 0
  | .createVerifiedAnswer i _ _ => if s.shows i Page.showsVerifyEmail then 1 else 0
  | _ => 0

end AppState

variable {s s' : AppState} {a : Act} {es : List Effect} {i : Nat}

/-! ### The back buttons -/

theorem drops_systemBack_eq {r : Route Page} (h : s.front = some r) :
    s.drops .systemBack =
      if r.page.onWillPop = .bubbles ∧ 1 < s.nav.history.length then 1 else 0 := by
  show (match s.front with
    | some r =>
      if r.page.onWillPop = Page.WillPop.bubbles ∧ 1 < s.nav.history.length then 1 else 0
    | none => 0) = _
  rw [h]

theorem drops_backButton_eq {r : Route Page} (h : s.front = some r) :
    s.drops .backButton = if r.page.onWillPop = .pops then 0 else 1 := by
  show (match s.front with
    | some r => if r.page.onWillPop = Page.WillPop.pops then 0 else 1
    | none => 0) = _
  rw [h]

theorem popsTheme_systemBack_eq {r : Route Page} (h : s.front = some r) :
    s.popsTheme .systemBack = if r.page.onWillPop = .pops then some r else none := by
  show s.front.filter (fun r => r.page.onWillPop = .pops) = _
  rw [h, Option.filter_some]
  simp

theorem popsTheme_backButton_eq {r : Route Page} (h : s.front = some r) :
    s.popsTheme .backButton = if r.page.onWillPop = .pops then some r else none :=
  popsTheme_systemBack_eq h

/-- Only the back buttons pop a theme, and then they end no route with `null`. -/
theorem drops_eq_zero_of_popsTheme {r : Route Page} (h : s.popsTheme a = some r) :
    s.drops a = 0 := by
  have hback : s.popsTheme .systemBack = some r → s.front = some r ∧ r.page.onWillPop = .pops := by
    intro hp
    obtain ⟨hf, hw⟩ := Option.filter_eq_some_iff.mp
      (show s.front.filter (fun r => r.page.onWillPop = .pops) = some r from hp)
    exact ⟨hf, of_decide_eq_true hw⟩
  cases a with
  | systemBack =>
    obtain ⟨hf, hw⟩ := hback h
    rw [drops_systemBack_eq hf, hw, if_neg (by simp)]
  | backButton =>
    obtain ⟨hf, hw⟩ := hback h
    rw [drops_backButton_eq hf, if_pos hw]
  | _ => cases h

/-! ### The handlers that can end a route -/

theorem drops_systemBack (h : s.systemBack = some (s', es)) :
    Drops s.nav s'.nav (s.drops .systemBack + (s.popsTheme .systemBack).toList.length) := by
  unfold AppState.systemBack at h
  split at h
  · rename_i r hf
    rw [drops_systemBack_eq hf, popsTheme_systemBack_eq hf]
    split at h
    · rename_i hw
      cases h
      simpa [hw] using drops_self
    · rename_i hw
      cases h
      simpa [hw] using drops_pop
    · rename_i hw
      split at h
      · rename_i hl
        cases h
        have hl' : ¬ 1 < s.nav.history.length := Nat.not_lt_of_le hl
        simpa [hw, hl'] using drops_self
      · rename_i hl
        cases h
        have hl' : 1 < s.nav.history.length := Nat.lt_of_not_le hl
        simpa [hw, hl'] using drops_pop
  · cases h

theorem drops_backButton (h : s.backButton = some (s', es)) :
    Drops s.nav s'.nav (s.drops .backButton + (s.popsTheme .backButton).toList.length) := by
  unfold AppState.backButton at h
  split at h
  · rename_i r hf
    rw [drops_backButton_eq hf, popsTheme_backButton_eq hf]
    split at h
    · cases h
      by_cases hw : r.page.onWillPop = .pops
      · simpa [hw] using drops_pop
      · simpa [hw] using drops_pop
    · cases h
  · cases h

theorem drops_logOut (h : s.logOut = some (s', es)) : Drops s.nav s'.nav (s.drops .logOut) := by
  obtain ⟨rfl, -⟩ := AppState.logOut_inv h
  exact drops_of_pop drops_pushReplacement

theorem drops_frame (h : s.frame = some (s', es)) : Drops s.nav s'.nav (s.drops .frame) := by
  obtain ⟨-, -, -, ⟨hnav, hv⟩ | ⟨p, -, hnav, hv⟩⟩ := AppState.frame_inv h
  · rw [hnav]
    exact drops_ite (fun _ => drops_mapPages) (fun hno => absurd hv hno)
  · rw [hnav]
    refine drops_ite ?_ (fun _ => drops_of_mapPages drops_pushReplacement)
    intro hsome
    rw [hv] at hsome
    cases hsome

theorem drops_initializeFirebase (h : s.initializeFirebase i = some (s', es)) :
    Drops s.nav s'.nav (s.drops (.initializeFirebase i)) := by
  obtain ⟨rfl, -, hv⟩ | ⟨σ, hv, rfl, -⟩ := AppState.initializeFirebase_inv h
  · refine drops_ite ?_ (fun _ => drops_self)
    intro hsome
    rw [hv] at hsome
    cases hsome
  · refine drops_ite (fun _ => drops_pushReplacement) ?_
    intro hno
    rw [hv] at hno
    exact absurd rfl hno

theorem drops_generateOutputRest (request : Nat) (m : Bool) (answer : Answer) :
    Drops s.nav (s.generateOutputRest request m answer).nav
      (if answer = .error ∧ m then 1 else 0) := by
  obtain ⟨-, ⟨hnav, hno⟩ | ⟨he, hm, hnav⟩⟩ := AppState.generateOutputRest_inv request m answer
  · rw [hnav, if_neg hno]
    exact drops_self
  · rw [hnav, if_pos ⟨he, hm⟩]
    exact drops_pop

theorem drops_generateOutputAnswer {request : Nat} {answer : Answer}
    (h : s.generateOutputAnswer i request answer = some (s', es)) :
    Drops s.nav s'.nav (s.drops (.generateOutputAnswer i request answer)) := by
  obtain ⟨rfl, -⟩ := Prod.mk.inj (Option.some.inj (AppState.finish_bind h).2)
  exact drops_generateOutputRest (s := s.done _) request _ answer

theorem drops_signInRest (m : Bool) (answer : SignInAnswer) :
    Drops s.nav (s.signInRest m answer).1.nav (if m then answer.drops else 0) := by
  cases m with
  | false => cases answer <;> exact drops_self
  | true =>
    cases answer with
    | success uid v => exact drops_of_pop drops_pushReplacement
    | authException => exact drops_pop
    | exception => exact drops_self

theorem drops_signInAnswer {answer : SignInAnswer}
    (h : s.signInAnswer i answer = some (s', es)) :
    Drops s.nav s'.nav (s.drops (.signInAnswer i answer)) := by
  have hs := congrArg Prod.fst (Option.some.inj (AppState.finish_bind h).2)
  rw [← show _ = s' from hs]
  exact drops_signInRest (s := s.done _) _ answer

theorem drops_signUpRest (m : Bool) (answer : SignUpAnswer) :
    Drops s.nav (s.signUpRest i m answer).nav (if m then 1 else 0) := by
  cases m with
  | false => cases answer <;> exact drops_self
  | true =>
    cases answer with
    | success uid => exact drops_of_pop drops_push
    | emailAlreadyInUse => exact drops_pop
    | failure => exact drops_pop

theorem drops_signUpAnswer {answer : SignUpAnswer}
    (h : s.signUpAnswer i answer = some (s', es)) :
    Drops s.nav s'.nav (s.drops (.signUpAnswer i answer)) := by
  obtain ⟨rfl, -⟩ := Prod.mk.inj (Option.some.inj (AppState.finish_bind h).2)
  exact drops_signUpRest (s := s.done _) _ answer

theorem drops_resetRest (m : Bool) (answer : ResetAnswer) :
    Drops s.nav (s.resetRest m answer).nav (if m ∧ answer ≠ .exception then 1 else 0) := by
  obtain ⟨-, ⟨hnav, hno⟩ | ⟨⟨hm, rfl⟩, hnav⟩ | ⟨⟨hm, rfl⟩, hnav⟩⟩ :=
    AppState.resetRest_inv m answer
  · rw [hnav, if_neg hno]
    exact drops_self
  · rw [hnav, if_pos ⟨hm, (fun h => by cases h)⟩]
    exact drops_pop
  · rw [hnav, if_pos ⟨hm, (fun h => by cases h)⟩]
    exact drops_pushReplacement

theorem drops_resetAnswer {answer : ResetAnswer} (h : s.resetAnswer i answer = some (s', es)) :
    Drops s.nav s'.nav (s.drops (.resetAnswer i answer)) := by
  obtain ⟨rfl, -⟩ := Prod.mk.inj (Option.some.inj (AppState.finish_bind h).2)
  exact drops_resetRest (s := s.done _) _ answer

theorem drops_checkAnswer {σ : Session} {o : Outcome} {m : Bool}
    (h : s.checkAnswer i σ o m = some (s', es)) :
    Drops s.nav s'.nav (s.drops (.checkAnswer i σ o m)) := by
  obtain ⟨-, -, -, ⟨hnav, ho, -⟩ | ⟨ho, ⟨hm, hnav, -⟩ | ⟨hm, hnav, -⟩⟩⟩ :=
    AppState.checkAnswer_inv h
  · rw [hnav]
    exact drops_ite (fun hc => absurd ho hc.1) (fun _ => drops_self)
  · rw [hnav]
    exact drops_ite (fun _ => drops_pushReplacement) (fun hno => absurd ⟨ho, hm⟩ hno)
  · rw [hnav]
    exact drops_ite (fun hc => absurd hc.2 hm) (fun _ => drops_self)

theorem drops_createAnswer {σ : Session} {o : Outcome} {m : Bool}
    (h : s.createAnswer i σ o m = some (s', es)) :
    Drops s.nav s'.nav (s.drops (.createAnswer i σ o m)) := by
  obtain ⟨-, -, ⟨hm, hnav, -⟩ | ⟨hm, hnav, -⟩⟩ := AppState.createAnswer_inv h
  · rw [hnav]
    exact drops_ite (fun _ => drops_pushReplacement) (fun hno => absurd hm hno)
  · rw [hnav]
    exact drops_ite (fun hc => absurd hc hm) (fun _ => drops_self)

theorem drops_createVerifiedAnswer {σ : Session} {o : Outcome}
    (h : s.createVerifiedAnswer i σ o = some (s', es)) :
    Drops s.nav s'.nav (s.drops (.createVerifiedAnswer i σ o)) := by
  obtain ⟨-, -, ⟨hm, hnav, -⟩ | ⟨hm, hnav, -⟩⟩ := AppState.createVerifiedAnswer_inv h
  · rw [hnav]
    exact drops_ite (fun _ => drops_pushReplacement) (fun hno => absurd hm hno)
  · rw [hnav]
    exact drops_ite (fun hc => absurd hc hm) (fun _ => drops_self)

/-- A fetched verse pushes its page. -/
theorem drops_fetchVerseAnswer {answer : Answer}
    (h : s.fetchVerseAnswer i answer = some (s', es)) : Drops s.nav s'.nav 0 := by
  obtain ⟨-, ⟨rfl, -⟩ | ⟨c, p, -, -, hnav, -⟩⟩ := AppState.fetchVerseAnswer_inv h
  · exact drops_self
  · rw [hnav]
    exact drops_of_mapPages drops_push

/-! ### All the steps -/

/-- **What a step ends.**  The routes that it drops, and the one that it pops with its
theme. -/
theorem drops_step (h : step s a = some (s', es)) :
    Drops s.nav s'.nav (s.drops a + (s.popsTheme a).toList.length) := by
  cases a with
  | tapBible =>
    obtain ⟨_, _, -, -, rfl, -⟩ := AppState.tapBible_inv h
    exact drops_setPage
  | seeMore =>
    obtain ⟨_, _, _, _, -, rfl, -⟩ := AppState.seeMore_inv h
    exact drops_push
  | openMenu =>
    obtain ⟨-, rfl, -⟩ := AppState.openMenu_inv h
    exact drops_push
  | systemBack => exact drops_systemBack h
  | backButton => exact drops_backButton h
  | «open» p =>
    obtain ⟨-, -, rfl, -⟩ := AppState.openPage_inv h
    exact drops_push
  | replace p =>
    obtain ⟨-, rfl, -⟩ := AppState.replacePage_inv h
    exact drops_pushReplacement
  | logOut => exact drops_logOut h
  | signIn | signUp | resetPassword =>
    obtain ⟨_, -, rfl, -⟩ := AppState.press_inv h
    exact drops_push
  | signInWithGoogle =>
    obtain ⟨hnav, -⟩ := AppState.signInWithGoogle_inv h
    rw [hnav]
    exact drops_self
  | frame => exact drops_frame h
  | rebuild i =>
    obtain ⟨_, -, rfl, -⟩ := AppState.rebuild_inv h
    exact drops_setPage
  | initializeFirebase i => exact drops_initializeFirebase h
  | reload i v =>
    obtain ⟨_, -, hnav, -⟩ := AppState.reload_inv h
    rw [hnav]
    exact drops_self
  | fetchVerseAnswer i answer => exact drops_fetchVerseAnswer h
  | generateOutputAnswer i request answer => exact drops_generateOutputAnswer h
  | signInAnswer i answer => exact drops_signInAnswer h
  | signUpAnswer i answer => exact drops_signUpAnswer h
  | signInMethodsAnswer i isEmpty =>
    obtain ⟨-, -, hnav | ⟨-, hnav⟩⟩ := AppState.signInMethodsAnswer_inv h
    · rw [hnav]
      exact drops_self
    · rw [hnav]
      exact drops_push
  | resetAnswer i answer => exact drops_resetAnswer h
  | googleAnswer i user =>
    obtain ⟨hnav, -⟩ := AppState.googleAnswer_inv h
    rw [hnav]
    exact drops_self
  | checkAnswer i σ o m => exact drops_checkAnswer h
  | createAnswer i σ o m => exact drops_createAnswer h
  | createVerifiedAnswer i σ o => exact drops_createVerifiedAnswer h
  | googleSignedOut b c =>
    obtain ⟨_, -, -, rfl, -⟩ := AppState.googleSignedOut_inv h
    exact drops_self
  | firebaseSignedOut b =>
    obtain ⟨-, rfl, -⟩ := AppState.firebaseSignedOut_inv h
    exact drops_self

end GoodOmens.App
