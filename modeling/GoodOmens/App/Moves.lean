import GoodOmens.App.Inversion

/-!
# How a step changes the stack

Three handlers write to a cover page: a tap, the verse that comes, and the first frame.  Every
other step takes routes off, puts pages on that are no cover pages or builds a `ProfileNav`
again (`Moves`), and some put a new cover page in the place of the page on top.  `moves_step`
says so once, and what is true of the operations is true of the steps.
-/

namespace GoodOmens.App

open Navigator

/-- Routes go and pages come, no cover page among them. -/
inductive Moves (n : Navigator Page) : Navigator Page → Prop
  | refl : Moves n n
  | pop {m : Navigator Page} (h : Moves n m) : Moves n m.pop
  | push {m : Navigator Page} {p : Page} (hp : p.isCover = false) (h : Moves n m) :
      Moves n (m.push p)
  | setPage {m : Navigator Page} {p : Page} {i : Nat} (hp : p.isCover = false) (h : Moves n m) :
      Moves n (m.setPage i p)

/-- The step writes to a cover page. -/
def Act.writesCover : Act → Bool
  | .tapBible | .fetchVerseAnswer _ _ | .frame => true
  | _ => false

variable {s s' : AppState} {a : Act} {es : List Effect} {n m : Navigator Page} {p : Page}

theorem Moves.pushReplacement (hp : p.isCover = false) (h : Moves n m) :
    Moves n (m.pushReplacement p) := by
  unfold Navigator.pushReplacement
  split
  · exact h
  · exact .push hp (.pop h)

/-- **How a step changes the stack.** -/
theorem moves_step (h : step s a = some (s', es)) (ha : a.writesCover = false) :
    Moves s.nav s'.nav ∨
      s.OpensCover a ∧ ∃ m, Moves s.nav m ∧ s'.nav = m.pushReplacement (.cover none) := by
  have hsame (hn : s'.nav = s.nav) : Moves s.nav s'.nav := hn ▸ .refl
  have hpop (hn : s'.nav = s.nav.pop) : Moves s.nav s'.nav := hn ▸ .pop .refl
  have hpush {q : Page} (hq : q.isCover = false) (hn : s'.nav = s.nav.push q) :
      Moves s.nav s'.nav := hn ▸ .push hq .refl
  have hopen (ho : s.OpensCover a) (hn : s'.nav = s.nav.pushReplacement (.cover none)) :
      s.OpensCover a ∧ ∃ m, Moves s.nav m ∧ s'.nav = m.pushReplacement (.cover none) :=
    ⟨ho, s.nav, .refl, hn⟩
  cases a with
  | tapBible | fetchVerseAnswer | frame => cases ha
  | seeMore =>
    obtain ⟨_, _, _, _, -, rfl, -⟩ := AppState.seeMore_inv h
    exact .inl (hpush rfl rfl)
  | openMenu =>
    obtain ⟨-, rfl, -⟩ := AppState.openMenu_inv h
    exact .inl (hpush rfl rfl)
  | systemBack =>
    obtain ⟨rfl | rfl, -⟩ := AppState.systemBack_inv h
    · exact .inl (hsame rfl)
    · exact .inl (hpop rfl)
  | backButton =>
    obtain ⟨rfl, -⟩ := AppState.backButton_inv h
    exact .inl (hpop rfl)
  | «open» q =>
    obtain ⟨-, hq, rfl, -⟩ := AppState.openPage_inv h
    exact .inl (hpush (Page.isCover_of_not_isVerseFlow hq) rfl)
  | replace q =>
    obtain ⟨⟨hq, -⟩, rfl, -⟩ := AppState.replacePage_inv h
    exact .inl (.pushReplacement (Page.isCover_of_not_isVerseFlow hq) .refl)
  | logOut =>
    obtain ⟨rfl, -⟩ := AppState.logOut_inv h
    exact .inl (.pushReplacement rfl (.pop .refl))
  | signIn | signUp | resetPassword =>
    obtain ⟨_, -, rfl, -⟩ := AppState.press_inv h
    exact .inl (hpush rfl rfl)
  | signInWithGoogle => exact .inl (hsame (AppState.signInWithGoogle_inv h).1)
  | rebuild i =>
    obtain ⟨q, ⟨hq, -⟩, rfl, -⟩ := AppState.rebuild_inv h
    exact .inl (.setPage (Page.isCover_of_not_isVerseFlow hq) .refl)
  | initializeFirebase i =>
    obtain ⟨rfl, -, -⟩ | ⟨_, hu, rfl, -⟩ := AppState.initializeFirebase_inv h
    · exact .inl (hsame rfl)
    · exact .inr (hopen (Option.isSome_of_eq_some hu) rfl)
  | reload i v =>
    obtain ⟨_, -, hn, -, -⟩ := AppState.reload_inv h
    exact .inl (hsame hn)
  | generateOutputAnswer i request answer =>
    obtain ⟨-, -, ⟨hn, -⟩ | ⟨-, -, hn⟩⟩ := AppState.generateOutputAnswer_inv h
    · exact .inl (hsame hn)
    · exact .inl (hpop hn)
  | signInAnswer i answer =>
    obtain ⟨_, _, rfl, -, -, ⟨hn, hm, -⟩ | ⟨hn, -, -⟩⟩ | ⟨-, -, hn | ⟨-, hn⟩, -⟩ :=
      AppState.signInAnswer_inv h
    · exact .inr ⟨hm, s.nav.pop, .pop .refl, hn⟩
    · exact .inl (hsame hn)
    · exact .inl (hsame hn)
    · exact .inl (hpop hn)
  | signUpAnswer i answer =>
    obtain ⟨-, ⟨_, -, -, ⟨-, hn⟩ | ⟨-, hn⟩⟩ | ⟨-, -, ⟨-, hn⟩ | ⟨-, hn⟩⟩⟩ :=
      AppState.signUpAnswer_inv h
    · exact .inl (hn ▸ .push rfl (.pop .refl))
    · exact .inl (hsame hn)
    · exact .inl (hsame hn)
    · exact .inl (hpop hn)
  | signInMethodsAnswer i isEmpty =>
    obtain ⟨-, -, hn | ⟨-, hn⟩⟩ := AppState.signInMethodsAnswer_inv h
    · exact .inl (hsame hn)
    · exact .inl (hpush rfl hn)
  | resetAnswer i answer =>
    obtain ⟨-, -, ⟨hn, -⟩ | ⟨-, hn⟩ | ⟨-, hn⟩⟩ := AppState.resetAnswer_inv h
    · exact .inl (hsame hn)
    · exact .inl (hpop hn)
    · exact .inl (hn ▸ .pushReplacement rfl .refl)
  | googleAnswer i user => exact .inl (hsame (AppState.googleAnswer_inv h).1)
  | checkAnswer i σ o m =>
    obtain ⟨-, -, -, ⟨hn, -, -⟩ | ⟨ho, ⟨hm, hn, -⟩ | ⟨-, hn, -⟩⟩⟩ := AppState.checkAnswer_inv h
    · exact .inl (hsame hn)
    · exact .inr (hopen ⟨ho, hm⟩ hn)
    · exact .inl (hsame hn)
  | createAnswer i σ o m =>
    obtain ⟨-, -, ⟨hm, hn, -⟩ | ⟨-, hn, -⟩⟩ := AppState.createAnswer_inv h
    · exact .inr (hopen hm hn)
    · exact .inl (hsame hn)
  | createVerifiedAnswer i σ o =>
    obtain ⟨-, -, ⟨hm, hn, -⟩ | ⟨-, hn, -⟩⟩ := AppState.createVerifiedAnswer_inv h
    · exact .inr (hopen hm hn)
    · exact .inl (hsame hn)
  | googleSignedOut b c =>
    obtain ⟨_, -, -, rfl, -⟩ := AppState.googleSignedOut_inv h
    exact .inl (hsame rfl)
  | firebaseSignedOut b =>
    obtain ⟨-, rfl, -⟩ := AppState.firebaseSignedOut_inv h
    exact .inl (hsame rfl)

end GoodOmens.App
