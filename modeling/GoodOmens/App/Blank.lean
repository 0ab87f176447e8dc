import GoodOmens.App.Shown

/-!
# A blank screen

Nothing is in front on a navigator without a route, and so nothing takes an input.  A pop and
a replacement throw there, but a push does not: a verse that is fetched, or an empty list of
sign-in methods, still comes to a page that is moving out.  A blank screen stays blank in a
run exactly if none of them does (`along_blank_iff`).
-/

namespace GoodOmens.App

open Navigator

/-- A step that the user takes, at the page in front. -/
def Act.isInput : Act → Bool
  | tapBible | seeMore | openMenu | systemBack | backButton | .open _ | replace _
  | logOut | signIn | signUp | signInWithGoogle | resetPassword => true
  | _ => false

def Screen.Act.isInput : Screen.Act → Bool
  | app a => a.isInput
  | confirm => true
  | _ => false

/-- The late steps, of a page `p`, that push without taking a page off first. -/
def Act.pushes (p : Page) : Act → Bool
  | fetchVerseAnswer _ answer => p.isBuiltCover && answer ≠ .threw
  | signInMethodsAnswer _ isEmpty => isEmpty
  | _ => false

namespace Screen

/-- Nothing is on the screen. -/
def isBlank (t : Screen) : Prop := t.app.nav.history = []

/-- A page that is moving out pushes. -/
def pushes (t : Screen) : Act → Bool
  | .app a => (t.late a).any (fun r => a.pushes r.page)
  | _ => false

end Screen

/-- The screen takes no input, and is blank after the step. -/
def StaysBlank (_ : Screen) (b : Screen.Act) (t' : Screen) (_ : List Effect) : Prop :=
  b.isInput = false ∧ t'.isBlank

variable {s s' : AppState} {t t' : Screen} {a : Act} {b : Screen.Act} {es : List Effect} {i : Nat}
  {p : Page}

/-! ### Nothing in front -/

theorem front_of_blank (hb : s.nav.history = []) : s.front = none := by
  rw [AppState.front, Navigator.top, hb]
  rfl

theorem find_of_blank (hb : s.nav.history = []) : s.nav.find i = none := by
  rw [Navigator.find, hb]
  rfl

theorem coverState_of_blank (hb : s.nav.history = []) : s.coverState i = none := by
  rw [AppState.coverState, find_of_blank hb]

theorem not_mounted_of_blank (hb : s.nav.history = []) : ¬ s.mounted i := by
  rw [AppState.mounted, find_of_blank hb]
  exact Bool.false_ne_true

theorem blank_of_nav (hb : s.nav.history = []) (hn : s'.nav = s.nav) : s'.nav.history = [] :=
  hn ▸ hb

theorem blank_pop (hb : s.nav.history = []) (hn : s'.nav = s.nav.pop) : s'.nav.history = [] := by
  rw [hn, pop_history, hb]
  rfl

theorem blank_pushReplacement {q : Page} (hb : s.nav.history = [])
    (hn : s'.nav = s.nav.pushReplacement q) : s'.nav.history = [] := by
  rw [hn, pushReplacement_of_nil hb]
  exact hb

theorem blank_opensCover {m x y : Prop} {q : Page} (hb : s.nav.history = [])
    (h : m ∧ s'.nav = s.nav.pushReplacement q ∧ x ∨ ¬ m ∧ s'.nav = s.nav ∧ y) :
    s'.nav.history = [] := by
  rcases h with ⟨-, hn, -⟩ | ⟨-, hn, -⟩
  · exact blank_pushReplacement hb hn
  · exact blank_of_nav hb hn

/-! ### One step -/

/-- Every button is on the page in front. -/
theorem step_of_blank (hb : s.nav.history = []) (ha : a.isInput = true) : step s a = none := by
  have hf := front_of_blank hb
  cases a with
  | tapBible => simp [step, AppState.tapBible, hf]
  | seeMore => simp [step, AppState.seeMore, hf]
  | openMenu => simp [step, AppState.openMenu, hf]
  | systemBack => simp [step, AppState.systemBack, hf]
  | backButton => simp [step, AppState.backButton, hf]
  | «open» p => simp [step, AppState.openPage, hf]
  | replace p => simp [step, AppState.replacePage, hf]
  | logOut => simp [step, AppState.logOut, hf]
  | signIn => simp [step, AppState.signIn, AppState.press, hf]
  | signUp => simp [step, AppState.signUp, AppState.press, hf]
  | signInWithGoogle => simp [step, AppState.signInWithGoogle, hf]
  | resetPassword => simp [step, AppState.resetPassword, AppState.press, hf]
  | _ => cases ha

/-- **No step of the app puts a page back.** -/
theorem blank_step (hb : s.nav.history = []) (h : step s a = some (s', es)) :
    a.isInput = false ∧ s'.nav.history = [] := by
  have ha : a.isInput = false := by
    cases hin : a.isInput with
    | false => rfl
    | true =>
      rw [step_of_blank hb hin] at h
      cases h
  refine ⟨ha, ?_⟩
  cases a with
  | frame =>
    obtain ⟨⟨r, hr, -⟩, -⟩ := AppState.frame_inv h
    rw [hb] at hr
    cases hr
  | rebuild i =>
    obtain ⟨p, -, rfl, -⟩ := AppState.rebuild_inv h
    exact List.map_eq_nil_iff.mpr hb
  | initializeFirebase i =>
    obtain ⟨rfl, -⟩ | ⟨_, -, rfl, -⟩ := AppState.initializeFirebase_inv h
    · exact hb
    · exact blank_pushReplacement hb rfl
  | reload i v =>
    obtain ⟨_, -, hn, -⟩ := AppState.reload_inv h
    exact blank_of_nav hb hn
  | fetchVerseAnswer i answer =>
    obtain ⟨-, ⟨rfl, -⟩ | ⟨c, p, hc, -⟩⟩ := AppState.fetchVerseAnswer_inv h
    · exact hb
    · rw [coverState_of_blank hb] at hc
      cases hc
  | generateOutputAnswer i request answer =>
    obtain ⟨-, -, ⟨hn, -⟩ | ⟨-, -, hn⟩⟩ := AppState.generateOutputAnswer_inv h
    · exact blank_of_nav hb hn
    · exact blank_pop hb hn
  | signInAnswer i answer =>
    obtain ⟨_, _, -, -, -, ⟨-, hm, -⟩ | ⟨hn, -⟩⟩ | ⟨-, -, hn | ⟨-, hn⟩, -⟩ :=
      AppState.signInAnswer_inv h
    · exact absurd hm (not_mounted_of_blank hb)
    · exact blank_of_nav hb hn
    · exact blank_of_nav hb hn
    · exact blank_pop hb hn
  | signUpAnswer i answer =>
    obtain ⟨-, ⟨_, -, -, ⟨hm, -⟩ | ⟨-, hn⟩⟩ | ⟨-, -, ⟨-, hn⟩ | ⟨hm, -⟩⟩⟩ :=
      AppState.signUpAnswer_inv h
    · exact absurd hm (not_mounted_of_blank hb)
    · exact blank_of_nav hb hn
    · exact blank_of_nav hb hn
    · exact absurd hm (not_mounted_of_blank hb)
  | signInMethodsAnswer i isEmpty =>
    obtain ⟨-, -, hn | ⟨⟨-, hm⟩, -⟩⟩ := AppState.signInMethodsAnswer_inv h
    · exact blank_of_nav hb hn
    · exact absurd hm (not_mounted_of_blank hb)
  | resetAnswer i answer =>
    obtain ⟨-, -, ⟨hn, -⟩ | ⟨-, hn⟩ | ⟨-, hn⟩⟩ := AppState.resetAnswer_inv h
    · exact blank_of_nav hb hn
    · exact blank_pop hb hn
    · exact blank_pushReplacement hb hn
  | googleAnswer i user => exact blank_of_nav hb (AppState.googleAnswer_inv h).1
  | checkAnswer i σ o m =>
    obtain ⟨-, -, -, ⟨hn, -⟩ | ⟨-, hm⟩⟩ := AppState.checkAnswer_inv h
    · exact blank_of_nav hb hn
    · exact blank_opensCover hb hm
  | createAnswer i σ o m => exact blank_opensCover hb (AppState.createAnswer_inv h).2.2
  | createVerifiedAnswer i σ o =>
    exact blank_opensCover hb (AppState.createVerifiedAnswer_inv h).2.2
  | googleSignedOut b c =>
    obtain ⟨_, -, -, rfl, -⟩ := AppState.googleSignedOut_inv h
    exact hb
  | firebaseSignedOut b =>
    obtain ⟨-, rfl, -⟩ := AppState.firebaseSignedOut_inv h
    exact hb
  | _ => cases ha

/-- A step that leaves the screen blank. -/
theorem blank_iff_of_no {x : Bool} (hx : x = false) (hb : s'.nav.history = []) :
    s'.nav.history = [] ↔ x = false := iff_of_true hb hx

theorem blank_iff_of_push {n : Navigator Page} {x : Bool} {q : Page} (hx : x = true) :
    (n.push q).history = [] ↔ x = false := by
  rw [hx]
  exact iff_of_false push_ne_nil (fun h => Bool.false_ne_true h.symm)

/-- **A late step puts a page back exactly if it pushes one** without a pop before it. -/
theorem blank_late_iff (hb : s.nav.history = []) (h : s.late p a = some (s', es)) :
    s'.nav.history = [] ↔ a.pushes p = false := by
  have hroute (u : AppState) (hu : u.nav = s.nav) : u.hasRoute = false := by
    rw [AppState.hasRoute, hu, hb]
    rfl
  cases a with
  | rebuild i =>
    obtain rfl := late_rebuild h
    exact blank_iff_of_no rfl hb
  | initializeFirebase i =>
    obtain ⟨-, h⟩ := Option.ite_none_right_eq_some.mp h
    have hs := congrArg Prod.fst (Option.some.inj h)
    rw [← show _ = s' from hs, AppState.initializeFirebaseLate, hroute s rfl]
    exact blank_iff_of_no rfl hb
  | reload i v =>
    obtain ⟨-, h⟩ := Option.ite_none_right_eq_some.mp h
    obtain ⟨_, -, hn, -⟩ := AppState.reloadRest_inv h
    exact blank_iff_of_no rfl (blank_of_nav hb hn)
  | fetchVerseAnswer i answer =>
    replace h := (AppState.finish_bind h).2
    split at h
    · cases h
      cases answer with
      | ok | error => exact blank_iff_of_push rfl
      | threw => exact blank_iff_of_no rfl hb
    · rename_i hno
      cases h
      refine blank_iff_of_no ?_ hb
      have hcover : p.isBuiltCover = false := by
        unfold Page.isBuiltCover
        split
        · rename_i c
          exact absurd rfl (hno c)
        · rfl
      rw [Act.pushes, hcover]
      rfl
  | generateOutputAnswer i request answer =>
    obtain ⟨rfl, -⟩ := Prod.mk.inj (Option.some.inj (AppState.finish_bind h).2)
    refine blank_iff_of_no rfl ?_
    obtain ⟨-, ⟨hn, -⟩ | ⟨-, -, hn⟩⟩ :=
      AppState.generateOutputRest_inv (s := s.done (.generateOutput i request)) request
        p.isBuiltCover answer
    · exact blank_of_nav hb hn
    · exact blank_pop hb hn
  | signInAnswer i answer =>
    have hs := congrArg Prod.fst (Option.some.inj (AppState.finish_bind h).2)
    rw [← show _ = s' from hs]
    show ((s.done _).signInRest (s.done _).hasRoute answer).1.nav.history = [] ↔ _
    rw [hroute (s.done _) rfl]
    refine blank_iff_of_no rfl ?_
    cases answer <;> exact hb
  | signUpAnswer i answer =>
    obtain ⟨rfl, -⟩ := Prod.mk.inj (Option.some.inj (AppState.finish_bind h).2)
    rw [hroute (s.done _) rfl]
    refine blank_iff_of_no rfl ?_
    cases answer <;> exact hb
  | signInMethodsAnswer i isEmpty =>
    obtain ⟨rfl, -⟩ := Prod.mk.inj (Option.some.inj (AppState.finish_bind h).2)
    cases isEmpty with
    | true => exact blank_iff_of_push rfl
    | false => exact blank_iff_of_no rfl hb
  | resetAnswer i answer =>
    obtain ⟨rfl, -⟩ := Prod.mk.inj (Option.some.inj (AppState.finish_bind h).2)
    rw [hroute (s.done _) rfl]
    exact blank_iff_of_no rfl hb
  | checkAnswer i σ o m =>
    refine blank_iff_of_no rfl ?_
    obtain ⟨-, -, -, ⟨hn, -⟩ | ⟨-, hm⟩⟩ := AppState.checkRest_inv (AppState.finish_bind h).2
    · exact blank_of_nav hb hn
    · exact blank_opensCover hb hm
  | createAnswer i σ o m =>
    have hm := (AppState.createRest_inv (Option.some.inj (AppState.finish_bind h).2)).2.2
    exact blank_iff_of_no rfl (blank_opensCover hb hm)
  | createVerifiedAnswer i σ o =>
    have hm := (AppState.createVerifiedRest_inv (Option.some.inj (AppState.finish_bind h).2)).2.2
    exact blank_iff_of_no rfl (blank_opensCover hb hm)
  | _ => cases h

/-! ### The main result -/

/-- One step on the screen. -/
theorem staysBlank_iff (hb : t.isBlank) (h : t.step b = some (t', es)) :
    StaysBlank t b t' es ↔ t.pushes b = false := by
  cases b with
  | app a =>
    obtain ⟨-, ⟨hl, hst, -⟩ | ⟨r, hl, hst, -⟩⟩ := appStep_cases h
    · refine iff_of_true (blank_step hb hst) ?_
      rw [Screen.pushes, hl]
      rfl
    · have hno : a.isInput = false := by
        cases a with
        | tapBible | seeMore | openMenu | systemBack | backButton | «open» | replace | logOut
        | signIn | signUp | signInWithGoogle | resetPassword => cases hst
        | _ => rfl
      rw [Screen.pushes, hl, Option.any_some, ← blank_late_iff hb hst]
      exact ⟨And.right, fun h => ⟨hno, h⟩⟩
  | confirm =>
    obtain ⟨⟨_, hf, -⟩, -⟩ := confirm_inv h
    rw [front_of_blank hb] at hf
    cases hf
  | confirmAnswer i o =>
    refine iff_of_true ⟨rfl, ?_⟩ rfl
    obtain ⟨-, -, ⟨ht, -⟩ | ⟨ht, -⟩⟩ := confirmAnswer_inv h
    · exact blank_of_nav hb (congrArg AppState.nav ht)
    · exact blank_pop hb (congrArg AppState.nav ht)
  | firstFrame i =>
    refine iff_of_true ⟨rfl, ?_⟩ rfl
    obtain ⟨-, _, -, ht, -⟩ := firstFrame_inv h
    obtain ⟨-, ⟨he, -⟩ | ⟨_, -, he, -⟩⟩ := AppState.postFrame_inv t.app
    · exact blank_of_nav hb (congrArg AppState.nav (ht.trans he))
    · exact blank_pushReplacement hb (congrArg AppState.nav (ht.trans he))
  | movedOut i =>
    obtain ⟨rfl, -⟩ := movedOut_inv h
    exact iff_of_true ⟨rfl, hb⟩ rfl

/-- **A blank screen takes no input and stays blank, exactly in the runs in which no page that
is moving out pushes.** -/
theorem along_blank_iff (hb : t.isBlank) (bs : List Screen.Act) :
    screen.Along StaysBlank t bs ↔
      screen.Along (Machine.before fun t b => t.pushes b = false) t bs := by
  refine Machine.along_iff Screen.isBlank ?_ ?_ bs t hb
  · intro t b t' es hb hst
    exact staysBlank_iff hb hst
  · intro t b t' es hb hg hst
    exact ((staysBlank_iff hb hst).mpr hg).2

/-- The cover page has gone with its first explanation, while it waits for a second verse. -/
theorem not_along_blank_fetched : ∃ t es,
    screen.exec (.of (startedBy "a" ["a"])) [.app .frame, .app .tapBible,
      .app (.fetchVerseAnswer 0 .ok), .app .systemBack, .app .tapBible,
      .app (.generateOutputAnswer 0 0 .error)] = some (t, es) ∧
    ¬ screen.Along StaysBlank t [.app (.fetchVerseAnswer 0 .ok)] := by
  refine ⟨_, _, rfl, ?_⟩
  intro h
  have hpush := (along_blank_iff (by rfl) _).mp h
  exact Bool.false_ne_true (show true = false from hpush.1).symm

end GoodOmens.App
