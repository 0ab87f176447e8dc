import GoodOmens.App.Step

/-!
# What each step can do

One inversion lemma for each handler: what must hold for the step to be taken,
and the state and the effects after it.  Nothing below this file unfolds a
handler.
-/

namespace GoodOmens.App

namespace AppState

variable {s s' : AppState} {es : List Effect} {i : Nat}

/-! ### The parts of a state that an operation leaves alone -/

@[simp] theorem done_nav (t : Task) : (s.done t).nav = s.nav := rfl
@[simp] theorem done_auth (t : Task) : (s.done t).auth = s.auth := rfl
@[simp] theorem pop_nav : s.pop.nav = s.nav.pop := rfl
@[simp] theorem pushReplacement_nav (p : Page) :
    (s.pushReplacement p).nav = s.nav.pushReplacement p := rfl
@[simp] theorem pushReplacement_auth (p : Page) : (s.pushReplacement p).auth = s.auth := rfl
@[simp] theorem pushReplacement_records (p : Page) :
    (s.pushReplacement p).records = s.records := rfl
@[simp] theorem setPage_nav (p : Page) : (s.setPage i p).nav = s.nav.setPage i p := rfl
@[simp] theorem signOut_nav : s.signOut.nav = s.nav := rfl

@[simp] theorem store_nav (uid : Uid) (o : Outcome) : (s.store uid o).nav = s.nav := by
  unfold store; split <;> rfl

@[simp] theorem store_auth (uid : Uid) (o : Outcome) : (s.store uid o).auth = s.auth := by
  unfold store; split <;> rfl

@[simp] theorem done_store_records (t : Task) (uid : Uid) (o : Outcome) :
    ((s.done t).store uid o).records = (s.store uid o).records := by
  unfold store; split <;> rfl

/-! ### Reading the state -/

theorem front_eq {r : Route Page} (h : s.front = some r) :
    s.nav.top = some r ∧ r.page.awaitsFrame = false := by
  simpa [front, Option.filter_eq_some_iff] using h

theorem mem_of_front {r : Route Page} (h : s.front = some r) : r ∈ s.nav.history :=
  Navigator.mem_of_top (front_eq h).1

theorem mem_of_coverState {c : Cover} (h : s.coverState i = some c) :
    ⟨i, .cover (some c)⟩ ∈ s.nav.history := by
  unfold coverState at h
  split at h
  · rename_i c' hc
    cases h
    exact Navigator.mem_of_find hc
  · cases h

theorem finish_eq {t : Task} (h : s.finish t = some s') : t ∈ s.tasks ∧ s' = s.done t := by
  unfold finish at h
  split at h
  · rename_i ht
    exact ⟨ht, (Option.some.inj h).symm⟩
  · cases h

theorem finish_of_mem {t : Task} (h : t ∈ s.tasks) : s.finish t = some (s.done t) := if_pos h

/-- The bind that every handler of an answer starts with. -/
theorem finish_bind {t : Task} {f : AppState → Option (AppState × List Effect)}
    (h : (s.finish t >>= f) = some (s', es)) : t ∈ s.tasks ∧ f (s.done t) = some (s', es) := by
  obtain ⟨u, hu, hf⟩ := Option.bind_eq_some_iff.mp h
  obtain ⟨ht, rfl⟩ := finish_eq hu
  exact ⟨ht, hf⟩

/-! ### The verse flow -/

theorem tapBible_inv (h : s.tapBible = some (s', es)) : ∃ i c,
    s.front = some ⟨i, .cover (some c)⟩ ∧ c.isLoading = false ∧
    s' = (s.setPage i (.cover (some { c with isLoading := true }))).await (.fetchVerse i) ∧
    es = [.fetchVerse c.userId] := by
  unfold tapBible at h
  split at h
  · rename_i i c hf
    split at h
    · cases h
    · rename_i hl
      cases h
      exact ⟨i, c, hf, by simpa using hl, rfl, rfl⟩
  · cases h

theorem setPage_coverState {c : Cover} (h : s.coverState i = some c) :
    s.setPage i (.cover (some c)) = s := by
  rw [setPage, Navigator.setPage_self (Navigator.find_eq_some.mpr (mem_of_coverState h))]

theorem fetchVerseAnswer_inv {answer : Answer} (h : s.fetchVerseAnswer i answer = some (s', es)) :
    es = [] ∧
      (s' = s.done (.fetchVerse i) ∧ (s.coverState i = none ∨ answer = .threw) ∨
        ∃ c p, s.coverState i = some c ∧ p.isVerse ∧
          s'.nav = (s.nav.setPage i (.cover (some (c.fetched answer)))).push p ∧
          s'.auth = s.auth ∧
          (answer = .ok ∧ p = .flow .verse (some s.nextRequest) ∧
              s'.nextRequest = s.nextRequest + 1 ∨
            answer = .error ∧ p = c.routeOnError ∧ s'.nextRequest = s.nextRequest)) := by
  replace h := (finish_bind h).2
  split at h
  · rename_i c hc
    cases h
    refine ⟨rfl, ?_⟩
    cases answer with
    | ok => exact .inr ⟨c, _, hc, rfl, rfl, rfl, .inl ⟨rfl, rfl, rfl⟩⟩
    | error =>
      exact .inr ⟨c, _, hc, Page.isVerse_routeOnError c, rfl, rfl, .inr ⟨rfl, rfl, rfl⟩⟩
    | threw => exact .inl ⟨setPage_coverState hc, .inr rfl⟩
  · rename_i hno
    cases h
    exact ⟨rfl, .inl ⟨rfl, .inl hno⟩⟩

theorem generateOutputRest_inv (request : Nat) (m : Bool) (answer : Answer) :
    (s.generateOutputRest request m answer).auth = s.auth ∧
      ((s.generateOutputRest request m answer).nav = s.nav ∧ ¬ (answer = .error ∧ m) ∨
        answer = .error ∧ m ∧ (s.generateOutputRest request m answer).nav = s.nav.pop) := by
  cases m with
  | false => exact ⟨rfl, .inl ⟨rfl, fun h => absurd h.2 Bool.false_ne_true⟩⟩
  | true =>
    cases answer with
    | error => exact ⟨rfl, .inr ⟨rfl, rfl, rfl⟩⟩
    | ok => exact ⟨rfl, .inl ⟨rfl, fun h => by cases h.1⟩⟩
    | threw => exact ⟨rfl, .inl ⟨rfl, fun h => by cases h.1⟩⟩

theorem generateOutputAnswer_inv {request : Nat} {answer : Answer}
    (h : s.generateOutputAnswer i request answer = some (s', es)) :
    es = [] ∧ s'.auth = s.auth ∧
      (s'.nav = s.nav ∧ ¬ (answer = .error ∧ (s.coverState i).isSome) ∨
        answer = .error ∧ (s.coverState i).isSome ∧ s'.nav = s.nav.pop) := by
  obtain ⟨rfl, rfl⟩ := Prod.mk.inj (Option.some.inj (finish_bind h).2)
  exact ⟨rfl, generateOutputRest_inv request _ answer⟩

theorem seeMore_inv (h : s.seeMore = some (s', es)) : ∃ i p request q,
    s.front = some ⟨i, .flow p request⟩ ∧ s' = s.push (.flow q request) ∧ es = [] := by
  unfold seeMore at h
  split at h
  · rename_i i p request hf
    split at h
    · rename_i q hq
      split at h
      · cases h
      · cases h
        exact ⟨i, p, request, q, hf, rfl, rfl⟩
    · cases h
  · cases h

theorem openMenu_inv (h : s.openMenu = some (s', es)) :
    (∃ r, s.front = some r) ∧ s' = s.push s.profileNav ∧ es = [] := by
  unfold openMenu at h
  split at h
  · rename_i r hf
    split at h
    · cases h
      exact ⟨⟨r, hf⟩, rfl, rfl⟩
    · cases h
  · cases h

/-! ### Back, and the plain links -/

theorem systemBack_inv (h : s.systemBack = some (s', es)) :
    (s' = s ∨ s' = s.pop) ∧ es = [] := by
  unfold systemBack at h
  split at h
  · split at h
    · cases h
      exact ⟨.inl rfl, rfl⟩
    · cases h
      exact ⟨.inr rfl, rfl⟩
    · split at h
      · cases h
        exact ⟨.inl rfl, rfl⟩
      · cases h
        exact ⟨.inr rfl, rfl⟩
  · cases h

theorem backButton_inv (h : s.backButton = some (s', es)) : s' = s.pop ∧ es = [] := by
  unfold backButton at h
  split at h
  · split at h
    · cases h
      exact ⟨rfl, rfl⟩
    · cases h
  · cases h

theorem openPage_inv {p : Page} (h : s.openPage p = some (s', es)) :
    (∃ r, s.front = some r ∧ p ∈ r.page.opens) ∧ p.isVerseFlow = false ∧ s' = s.push p ∧
      es = [] := by
  unfold openPage at h
  split at h
  · rename_i r hf
    split at h
    · rename_i hp
      cases h
      exact ⟨⟨r, hf, hp⟩, Page.isVerseFlow_of_mem_opens hp, rfl, rfl⟩
    · cases h
  · cases h

theorem replacePage_inv {p : Page} (h : s.replacePage p = some (s', es)) :
    (p.isVerseFlow = false ∧ p.needsUser = false) ∧ s' = s.pushReplacement p ∧ es = [] := by
  unfold replacePage at h
  split at h
  · split at h
    · rename_i hp
      cases h
      exact ⟨⟨Page.isVerseFlow_of_mem_replaces hp, Page.needsUser_of_mem_replaces hp⟩, rfl, rfl⟩
    · cases h
  · cases h

/-! ### Log Out -/

theorem logOut_inv (h : s.logOut = some (s', es)) :
    s' = s.signOut.pop.pushReplacement .auth ∧ es = [] := by
  unfold logOut at h
  split at h
  · cases h
    exact ⟨rfl, rfl⟩
  · cases h

theorem googleSignedOut_inv {before : Nat} {completed : Bool}
    (h : s.googleSignedOut before completed = some (s', es)) : ∃ signOuts,
    ⟨before, true⟩ ∈ s.auth.signOuts ∧
    (signOuts = s.auth.signOuts.erase ⟨before, true⟩ ∨
      signOuts = ⟨before, false⟩ :: s.auth.signOuts.erase ⟨before, true⟩) ∧
    s' = { s with auth := { s.auth with signOuts := signOuts } } ∧ es = [] := by
  unfold googleSignedOut at h
  split at h
  · rename_i hm
    cases h
    refine ⟨_, hm, ?_, rfl, rfl⟩
    cases completed
    · exact .inl rfl
    · exact .inr rfl
  · cases h

theorem firebaseSignedOut_inv {before : Nat}
    (h : s.firebaseSignedOut before = some (s', es)) :
    ⟨before, false⟩ ∈ s.auth.signOuts ∧
    s' = { s with auth := { s.auth with
        currentUser := none
        signOuts := s.auth.signOuts.erase ⟨before, false⟩ } } ∧
    es = (s.auth.currentUser.map (fun σ => Effect.signedOut σ ⟨before, false⟩)).toList := by
  unfold firebaseSignedOut at h
  split at h
  · rename_i hm
    cases h
    exact ⟨hm, rfl, rfl⟩
  · cases h

/-! ### Frames -/

/-- The callbacks leave a user with a verified email alone, and take everybody else to a
page that is not of the flow. -/
theorem postFrame_inv (s : AppState) : s.postFrame.auth = s.auth ∧
    (s.postFrame = s ∧ s.verifiedUser.isSome ∨
      ∃ p, (p.isVerseFlow = false ∧ p.needsUser = false) ∧ s.postFrame = s.pushReplacement p ∧
        s.verifiedUser = none) := by
  unfold postFrame
  split
  · rename_i hu
    have hauth : s.profileNav = .profileNav false .auth := by
      rw [profileNav, hu]
      rfl
    exact ⟨rfl, .inr ⟨s.profileNav, ⟨rfl, by rw [hauth]; rfl⟩, rfl, by simp [verifiedUser, hu]⟩⟩
  · rename_i σ hu
    split
    · rename_i hv
      exact ⟨rfl, .inl ⟨rfl, by simp [verifiedUser, hu, hv]⟩⟩
    · rename_i hv
      exact ⟨rfl, .inr ⟨.auth, ⟨rfl, rfl⟩, rfl, by simp [verifiedUser, hu, hv]⟩⟩

theorem frame_inv (h : s.frame = some (s', es)) :
    (∃ r ∈ s.nav.history, r.page.awaitsFrame) ∧ es = [] ∧ s'.auth = s.auth ∧
    (s'.nav = s.nav.mapPages (fun _ => s.built) ∧ s.verifiedUser.isSome ∨
      ∃ p, (p.isVerseFlow = false ∧ p.needsUser = false) ∧
        s'.nav = (s.nav.mapPages (fun _ => s.built)).pushReplacement p ∧
        s.verifiedUser = none) := by
  unfold frame at h
  split at h
  · rename_i hw
    rw [List.any_eq_true] at hw
    obtain ⟨rfl, rfl⟩ := Prod.mk.inj (Option.some.inj h)
    obtain ⟨ha, ⟨hs, hv⟩ | ⟨p, hp, hs, hv⟩⟩ :=
      postFrame_inv { s with nav := s.nav.mapPages (fun _ => s.built) }
    · exact ⟨hw, rfl, ha, .inl ⟨congrArg nav hs, hv⟩⟩
    · exact ⟨hw, rfl, ha, .inr ⟨p, hp, congrArg nav hs, hv⟩⟩
  · cases h

theorem rebuild_inv (h : s.rebuild i = some (s', es)) :
    ∃ p, (p.isVerseFlow = false ∧ (p.needsUser → s.auth.currentUser.isSome)) ∧
      s' = s.setPage i p ∧ es = [] := by
  unfold rebuild at h
  split at h
  · cases h
    exact ⟨_, ⟨rfl, Page.isSome_of_getBodyWidget⟩, rfl, rfl⟩
  · cases h

theorem initializeFirebaseRest_inv (s : AppState) :
    s.initializeFirebaseRest = (s, []) ∧ s.verifiedUser = none ∨
    ∃ σ, s.verifiedUser = some σ ∧ s.initializeFirebaseRest =
      (s.pushReplacement (.cover none), [.openCover .redirect σ]) := by
  unfold initializeFirebaseRest
  split
  · rename_i σ hσ
    exact .inr ⟨σ, hσ, rfl⟩
  · rename_i hn
    exact .inl ⟨rfl, hn⟩

theorem initializeFirebase_inv (h : s.initializeFirebase i = some (s', es)) :
    s' = s ∧ es = [] ∧ s.verifiedUser = none ∨
    ∃ σ, s.verifiedUser = some σ ∧ s' = s.pushReplacement (.cover none) ∧
      es = [.openCover .redirect σ] := by
  unfold initializeFirebase at h
  split at h
  · rcases initializeFirebaseRest_inv s with ⟨he, hn⟩ | ⟨σ, hσ, he⟩
    · rw [he] at h
      cases h
      exact .inl ⟨rfl, rfl, hn⟩
    · rw [he] at h
      cases h
      exact .inr ⟨σ, hσ, rfl, rfl⟩
  · cases h

/-! ### The forms -/

/-- A press of the button of a form. -/
theorem press_inv {page : Page} {task : Nat → Task} (h : s.press page task = some (s', es)) :
    ∃ i, s.front = some ⟨i, page⟩ ∧ s' = (s.push .loadingDialog).await (task i) ∧ es = [] := by
  unfold press at h
  split at h
  · rename_i i p hf
    split at h
    · rename_i hp
      subst hp
      cases h
      exact ⟨i, hf, rfl, rfl⟩
    · cases h
  · cases h

/-- The route `i` is on the stack. -/
def mounted (s : AppState) (i : Nat) : Prop := (s.nav.find i).isSome

theorem signInRest_inv (m : Bool) (answer : SignInAnswer)
    (h : s.signInRest m answer = (s', es)) :
    (∃ uid v, answer = .success uid v ∧
      s'.auth = (s.establish uid v).auth ∧ s'.records = s.records ∧
      (s'.nav = s.nav.pop.pushReplacement (.cover none) ∧ m ∧
          es = [.openCover .logIn (s.nextSession uid v)] ∨
        s'.nav = s.nav ∧ ¬ m ∧ es = [])) ∨
    s'.auth = s.auth ∧ (∀ uid v, answer ≠ .success uid v) ∧
      (s'.nav = s.nav ∨ (answer = .authException ∧ m) ∧ s'.nav = s.nav.pop) ∧ es = [] := by
  cases answer with
  | success uid v =>
    left
    refine ⟨uid, v, rfl, ?_⟩
    cases m with
    | true =>
      cases h
      exact ⟨rfl, rfl, .inl ⟨rfl, rfl, rfl⟩⟩
    | false =>
      cases h
      exact ⟨rfl, rfl, .inr ⟨rfl, Bool.false_ne_true, rfl⟩⟩
  | authException =>
    right
    cases m with
    | true =>
      cases h
      exact ⟨rfl, by simp, .inr ⟨⟨rfl, rfl⟩, rfl⟩, rfl⟩
    | false =>
      cases h
      exact ⟨rfl, by simp, .inl rfl, rfl⟩
  | exception =>
    cases h
    exact .inr ⟨rfl, by simp, .inl rfl, rfl⟩

theorem signInAnswer_inv {answer : SignInAnswer}
    (h : s.signInAnswer i answer = some (s', es)) :
    (∃ uid v, answer = .success uid v ∧
      s'.auth = (s.establish uid v).auth ∧ s'.records = s.records ∧
      (s'.nav = s.nav.pop.pushReplacement (.cover none) ∧ s.mounted i ∧
          es = [.openCover .logIn (s.nextSession uid v)] ∨
        s'.nav = s.nav ∧ ¬ s.mounted i ∧ es = [])) ∨
    s'.auth = s.auth ∧ (∀ uid v, answer ≠ .success uid v) ∧
      (s'.nav = s.nav ∨ (answer = .authException ∧ s.mounted i) ∧ s'.nav = s.nav.pop) ∧
      es = [] := by
  have hrest := signInRest_inv _ answer (Option.some.inj (finish_bind h).2)
  exact hrest

/-- What is left of the stack when a sign-up is answered: nothing happens to a page that is
gone, and a success puts `VerifyEmailPage` in the place of the page on top. -/
theorem signUpRest_inv (m : Bool) (answer : SignUpAnswer) :
    (∃ uid, answer = .success uid ∧
      (s.signUpRest i m answer).auth = (s.establish uid false).auth ∧
      (m ∧ (s.signUpRest i m answer).nav = s.nav.pop.push .verifyEmail ∨
        ¬ m ∧ (s.signUpRest i m answer).nav = s.nav)) ∨
    (s.signUpRest i m answer).auth = s.auth ∧ (∀ uid, answer ≠ .success uid) ∧
      (¬ m ∧ (s.signUpRest i m answer).nav = s.nav ∨
        m ∧ (s.signUpRest i m answer).nav = s.nav.pop) := by
  cases answer with
  | success uid =>
    left
    refine ⟨uid, rfl, ?_⟩
    cases m with
    | true => exact ⟨rfl, .inl ⟨rfl, rfl⟩⟩
    | false => exact ⟨rfl, .inr ⟨Bool.false_ne_true, rfl⟩⟩
  | emailAlreadyInUse | failure =>
    right
    cases m with
    | true => exact ⟨rfl, by simp, .inr ⟨rfl, rfl⟩⟩
    | false => exact ⟨rfl, by simp, .inl ⟨Bool.false_ne_true, rfl⟩⟩

theorem signUpAnswer_inv {answer : SignUpAnswer}
    (h : s.signUpAnswer i answer = some (s', es)) :
    es = [] ∧
    ((∃ uid, answer = .success uid ∧ s'.auth = (s.establish uid false).auth ∧
      (s.mounted i ∧ s'.nav = s.nav.pop.push .verifyEmail ∨
        ¬ s.mounted i ∧ s'.nav = s.nav)) ∨
    s'.auth = s.auth ∧ (∀ uid, answer ≠ .success uid) ∧
      (¬ s.mounted i ∧ s'.nav = s.nav ∨ s.mounted i ∧ s'.nav = s.nav.pop)) := by
  obtain ⟨rfl, rfl⟩ := Prod.mk.inj (Option.some.inj (finish_bind h).2)
  exact ⟨rfl, signUpRest_inv _ answer⟩

theorem signInMethodsRest_inv (m isEmpty : Bool) :
    (s.signInMethodsRest m isEmpty).auth = s.auth ∧
      ((s.signInMethodsRest m isEmpty).nav = s.nav ∨
        (isEmpty = true ∧ m) ∧ (s.signInMethodsRest m isEmpty).nav = s.nav.push .verifyEmail) := by
  cases isEmpty with
  | false => exact ⟨rfl, .inl rfl⟩
  | true =>
    cases m with
    | false => exact ⟨rfl, .inl rfl⟩
    | true => exact ⟨rfl, .inr ⟨⟨rfl, rfl⟩, rfl⟩⟩

theorem signInMethodsAnswer_inv {isEmpty : Bool}
    (h : s.signInMethodsAnswer i isEmpty = some (s', es)) :
    es = [] ∧ s'.auth = s.auth ∧
      (s'.nav = s.nav ∨
        (isEmpty = true ∧ s.mounted i) ∧ s'.nav = s.nav.push .verifyEmail) := by
  obtain ⟨rfl, rfl⟩ := Prod.mk.inj (Option.some.inj (finish_bind h).2)
  exact ⟨rfl, signInMethodsRest_inv _ isEmpty⟩

theorem resetRest_inv (m : Bool) (answer : ResetAnswer) :
    (s.resetRest m answer).auth = s.auth ∧
      ((s.resetRest m answer).nav = s.nav ∧ ¬ (m ∧ answer ≠ .exception) ∨
        (m ∧ answer = .authException) ∧ (s.resetRest m answer).nav = s.nav.pop ∨
        (m ∧ answer = .success) ∧
          (s.resetRest m answer).nav = s.nav.pushReplacement .emailSent) := by
  cases m with
  | false => exact ⟨rfl, .inl ⟨rfl, fun h => absurd h.1 Bool.false_ne_true⟩⟩
  | true =>
    cases answer with
    | success => exact ⟨rfl, .inr (.inr ⟨⟨rfl, rfl⟩, rfl⟩)⟩
    | authException => exact ⟨rfl, .inr (.inl ⟨⟨rfl, rfl⟩, rfl⟩)⟩
    | exception => exact ⟨rfl, .inl ⟨rfl, fun h => h.2 rfl⟩⟩

theorem resetAnswer_inv {answer : ResetAnswer} (h : s.resetAnswer i answer = some (s', es)) :
    es = [] ∧ s'.auth = s.auth ∧
      (s'.nav = s.nav ∧ ¬ (s.mounted i ∧ answer ≠ .exception) ∨
        (s.mounted i ∧ answer = .authException) ∧ s'.nav = s.nav.pop ∨
        (s.mounted i ∧ answer = .success) ∧ s'.nav = s.nav.pushReplacement .emailSent) := by
  obtain ⟨rfl, rfl⟩ := Prod.mk.inj (Option.some.inj (finish_bind h).2)
  exact ⟨rfl, resetRest_inv _ answer⟩

/-! ### Signing in with Google -/

theorem signInWithGoogle_inv (h : s.signInWithGoogle = some (s', es)) :
    s'.nav = s.nav ∧ s'.auth = s.auth ∧ es = [] := by
  unfold signInWithGoogle at h
  split at h
  · split at h
    · cases h
      exact ⟨rfl, rfl, rfl⟩
    · cases h
  · cases h

theorem googleAnswer_inv {user : Option (Uid × Bool)}
    (h : s.googleAnswer i user = some (s', es)) :
    s'.nav = s.nav ∧
    ((∃ uid v, user = some (uid, v) ∧ s'.auth = (s.establish uid v).auth ∧ es = [.getUser uid]) ∨
      user = none ∧ s'.auth = s.auth ∧ es = []) := by
  replace h := (finish_bind h).2
  split at h
  · cases h
    exact ⟨rfl, .inl ⟨_, _, rfl, rfl, rfl⟩⟩
  · cases h
    exact ⟨rfl, .inr ⟨rfl, rfl, rfl⟩⟩

/-- Whether the Google button still opens the cover page. -/
def googleMounted (s : AppState) (i : Nat) (mounted : Bool) : Prop := mounted = true ∧ s.mounted i

theorem googleMounted_iff {m : Bool} :
    (m && (s.nav.find i).isSome) = true ↔ s.googleMounted i m := Bool.and_eq_true_iff

theorem googleOpensCover_cases (s : AppState) (σ : Session) (m : Bool) :
    m ∧ s.googleOpensCover σ m = (s.pushReplacement (.cover none), [.openCover .google σ]) ∨
    ¬ m ∧ s.googleOpensCover σ m = (s, []) := by
  cases m with
  | true => exact .inl ⟨rfl, rfl⟩
  | false => exact .inr ⟨Bool.false_ne_true, rfl⟩

theorem checkRest_inv {σ : Session} {o : Outcome} {m : Bool}
    (h : s.checkRest i σ o m = some (s', es)) :
    (o.Answered 200 → σ.uid ∈ s.records) ∧ s'.auth = s.auth ∧ s'.records = s.records ∧
    (s'.nav = s.nav ∧ o.Answered 404 ∧ es = [.createUser σ.uid] ∨
      ¬ o.Answered 404 ∧
        (m ∧ s'.nav = s.nav.pushReplacement (.cover none) ∧ es = [.openCover .google σ] ∨
          ¬ m ∧ s'.nav = s.nav ∧ es = [])) := by
  unfold checkRest at h
  split at h
  · cases h
  · rename_i hr
    have h200 : o.Answered 200 → σ.uid ∈ s.records := fun ho =>
      Classical.not_not.mp (fun hu => hr (.inl ⟨ho, hu⟩))
    refine ⟨h200, ?_⟩
    split at h
    · rename_i hf
      cases h
      exact ⟨rfl, rfl, .inl ⟨rfl, UserService.checkIfFirstTimeLogin_eq_true.mp hf, rfl⟩⟩
    · rename_i hf
      rw [UserService.checkIfFirstTimeLogin_eq_true] at hf
      rcases googleOpensCover_cases s σ m with ⟨hm, he⟩ | ⟨hm, he⟩
      · rw [he] at h
        cases h
        exact ⟨rfl, rfl, .inr ⟨hf, .inl ⟨hm, rfl, rfl⟩⟩⟩
      · rw [he] at h
        cases h
        exact ⟨rfl, rfl, .inr ⟨hf, .inr ⟨hm, rfl, rfl⟩⟩⟩

theorem checkAnswer_inv {σ : Session} {o : Outcome} {m : Bool}
    (h : s.checkAnswer i σ o m = some (s', es)) :
    (o.Answered 200 → σ.uid ∈ s.records) ∧ s'.auth = s.auth ∧ s'.records = s.records ∧
    (s'.nav = s.nav ∧ o.Answered 404 ∧ es = [.createUser σ.uid] ∨
      ¬ o.Answered 404 ∧
        (s.googleMounted i m ∧ s'.nav = s.nav.pushReplacement (.cover none) ∧
            es = [.openCover .google σ] ∨
          ¬ s.googleMounted i m ∧ s'.nav = s.nav ∧ es = [])) := by
  have hrest := checkRest_inv (finish_bind h).2
  rw [done_nav, googleMounted_iff] at hrest
  exact hrest

theorem createRest_inv {σ : Session} {o : Outcome} {m : Bool}
    (h : (s.store σ.uid o).googleOpensCover σ m = (s', es)) :
    s'.auth = s.auth ∧ s'.records = (s.store σ.uid o).records ∧
    (m ∧ s'.nav = s.nav.pushReplacement (.cover none) ∧ es = [.openCover .google σ] ∨
      ¬ m ∧ s'.nav = s.nav ∧ es = []) := by
  rcases googleOpensCover_cases (s.store σ.uid o) σ m with ⟨hm, he⟩ | ⟨hm, he⟩
  · rw [he] at h
    cases h
    exact ⟨by simp, by simp, .inl ⟨hm, by simp, rfl⟩⟩
  · rw [he] at h
    cases h
    exact ⟨by simp, by simp, .inr ⟨hm, by simp, rfl⟩⟩

theorem createAnswer_inv {σ : Session} {o : Outcome} {m : Bool}
    (h : s.createAnswer i σ o m = some (s', es)) :
    s'.auth = s.auth ∧ s'.records = (s.store σ.uid o).records ∧
    (s.googleMounted i m ∧ s'.nav = s.nav.pushReplacement (.cover none) ∧
        es = [.openCover .google σ] ∨
      ¬ s.googleMounted i m ∧ s'.nav = s.nav ∧ es = []) := by
  have hrest := createRest_inv (Option.some.inj (finish_bind h).2)
  rw [done_nav, googleMounted_iff, done_store_records] at hrest
  exact hrest

/-! ### Verifying the email -/

theorem reloadRest_inv {v : Bool} (h : s.reloadRest i v = some (s', es)) :
    ∃ σ, s.auth.currentUser = some σ ∧ s'.nav = s.nav ∧
      s'.auth = { s.auth with
        currentUser := some { σ with emailVerified := σ.emailVerified || v } } ∧
      (es = [] ∨ es = [.createUser σ.uid]) := by
  unfold reloadRest at h
  split at h
  · rename_i σ hσ
    dsimp only at h
    split at h
    · cases h
      exact ⟨σ, hσ, rfl, rfl, .inr rfl⟩
    · cases h
      exact ⟨σ, hσ, rfl, rfl, .inl rfl⟩
  · cases h

theorem reload_inv {v : Bool} (h : s.reload i v = some (s', es)) :
    ∃ σ, s.auth.currentUser = some σ ∧ s'.nav = s.nav ∧
      s'.auth = { s.auth with
        currentUser := some { σ with emailVerified := σ.emailVerified || v } } ∧
      (es = [] ∨ es = [.createUser σ.uid]) := by
  unfold reload at h
  split at h
  · exact reloadRest_inv h
  · cases h

theorem createVerifiedRest_inv {σ : Session} {o : Outcome} {m : Bool}
    (h : s.createVerifiedRest σ o m = (s', es)) :
    s'.auth = s.auth ∧ s'.records = (s.store σ.uid o).records ∧
    (m ∧ s'.nav = s.nav.pushReplacement (.cover none) ∧ es = [.openCover .verifyEmail σ] ∨
      ¬ m ∧ s'.nav = s.nav ∧ es = []) := by
  cases m with
  | true =>
    cases h
    exact ⟨by simp, by simp, .inl ⟨rfl, by simp, rfl⟩⟩
  | false =>
    cases h
    exact ⟨by simp, by simp, .inr ⟨Bool.false_ne_true, by simp, rfl⟩⟩

theorem createVerifiedAnswer_inv {σ : Session} {o : Outcome}
    (h : s.createVerifiedAnswer i σ o = some (s', es)) :
    s'.auth = s.auth ∧ s'.records = (s.store σ.uid o).records ∧
    (s.shows i Page.showsVerifyEmail ∧ s'.nav = s.nav.pushReplacement (.cover none) ∧
        es = [.openCover .verifyEmail σ] ∨
      ¬ s.shows i Page.showsVerifyEmail ∧ s'.nav = s.nav ∧ es = []) := by
  have hrest := createVerifiedRest_inv (Option.some.inj (finish_bind h).2)
  rw [done_store_records] at hrest
  exact hrest

end AppState

/-! ### Sessions and cover pages

Which steps establish a session, which open a cover page, and how a step can
change Firebase's side. -/

/-- The user whom the step signs in, and whether with a verified email. -/
def Act.signsIn : Act → Option (Uid × Bool)
  | signInAnswer _ (.success uid emailVerified) => some (uid, emailVerified)
  | signUpAnswer _ (.success uid) => some (uid, false)
  | googleAnswer _ user => user
  | _ => none

/-- The step opens a cover page. -/
def AppState.OpensCover (s : AppState) : Act → Prop
  | .initializeFirebase _ => s.verifiedUser.isSome
  | .signInAnswer i (.success _ _) => s.mounted i
  | .checkAnswer i _ o m => ¬ o.Answered 404 ∧ s.googleMounted i m
  | .createAnswer i _ _ m => s.googleMounted i m
  | .createVerifiedAnswer i _ _ => s.shows i Page.showsVerifyEmail
  | _ => False

variable {s s' : AppState} {a : Act} {es : List Effect}

/-- A step asks for a verse, opens a cover page, ends a session, or does none of
these. -/
theorem effects_cases (h : step s a = some (s', es)) :
    (∃ i c, a = .tapBible ∧ s.front = some ⟨i, .cover (some c)⟩ ∧ es = [.fetchVerse c.userId]) ∨
    (∃ path σ, s.OpensCover a ∧ es = [.openCover path σ]) ∨
    (∃ before, a = .firebaseSignedOut before ∧ es = (s.auth.currentUser.map
      (fun σ => Effect.signedOut σ ⟨before, false⟩)).toList) ∨
    ∀ e ∈ es, (∃ uid, e = .getUser uid) ∨ ∃ uid, e = .createUser uid := by
  have hnil (he : es = []) : ∀ e ∈ es, (∃ uid, e = .getUser uid) ∨ ∃ uid, e = .createUser uid := by
    rw [he]
    intro e hm
    cases hm
  have hcreate {uid : Uid} (he : es = [.createUser uid]) :
      ∀ e ∈ es, (∃ uid, e = .getUser uid) ∨ ∃ uid, e = .createUser uid := by
    rw [he]
    intro e hm
    exact .inr ⟨uid, List.mem_singleton.mp hm⟩
  cases a with
  | tapBible =>
    obtain ⟨i, c, hf, -, -, he⟩ := AppState.tapBible_inv h
    exact .inl ⟨i, c, rfl, hf, he⟩
  | initializeFirebase i =>
    obtain ⟨-, he, -⟩ | ⟨σ, hσ, -, he⟩ := AppState.initializeFirebase_inv h
    · exact .inr (.inr (.inr (hnil he)))
    · exact .inr (.inl ⟨_, σ, by simp [AppState.OpensCover, hσ], he⟩)
  | signInAnswer i answer =>
    obtain ⟨uid, v, rfl, -, -, ⟨-, hi, he⟩ | ⟨-, -, he⟩⟩ | ⟨-, -, -, he⟩ :=
      AppState.signInAnswer_inv h
    · exact .inr (.inl ⟨_, _, hi, he⟩)
    · exact .inr (.inr (.inr (hnil he)))
    · exact .inr (.inr (.inr (hnil he)))
  | checkAnswer i σ o m =>
    obtain ⟨-, -, -, ⟨-, -, he⟩ | ⟨ho, ⟨hi, -, he⟩ | ⟨-, -, he⟩⟩⟩ := AppState.checkAnswer_inv h
    · exact .inr (.inr (.inr (hcreate he)))
    · exact .inr (.inl ⟨_, _, ⟨ho, hi⟩, he⟩)
    · exact .inr (.inr (.inr (hnil he)))
  | createAnswer i σ o m =>
    obtain ⟨-, -, ⟨hi, -, he⟩ | ⟨-, -, he⟩⟩ := AppState.createAnswer_inv h
    · exact .inr (.inl ⟨_, _, hi, he⟩)
    · exact .inr (.inr (.inr (hnil he)))
  | createVerifiedAnswer i σ o =>
    obtain ⟨-, -, ⟨hi, -, he⟩ | ⟨-, -, he⟩⟩ := AppState.createVerifiedAnswer_inv h
    · exact .inr (.inl ⟨_, _, hi, he⟩)
    · exact .inr (.inr (.inr (hnil he)))
  | firebaseSignedOut b =>
    obtain ⟨-, -, he⟩ := AppState.firebaseSignedOut_inv h
    exact .inr (.inr (.inl ⟨b, rfl, he⟩))
  | reload i v =>
    obtain ⟨_, -, -, -, he | he⟩ := AppState.reload_inv h
    · exact .inr (.inr (.inr (hnil he)))
    · exact .inr (.inr (.inr (hcreate he)))
  | googleAnswer i user =>
    obtain ⟨-, ⟨uid, _, -, -, rfl⟩ | ⟨-, -, he⟩⟩ := AppState.googleAnswer_inv h
    · exact .inr (.inr (.inr (fun e hm => .inl ⟨uid, List.mem_singleton.mp hm⟩)))
    · exact .inr (.inr (.inr (hnil he)))
  | seeMore =>
    obtain ⟨_, _, _, _, -, -, he⟩ := AppState.seeMore_inv h
    exact .inr (.inr (.inr (hnil he)))
  | openMenu => exact .inr (.inr (.inr (hnil (AppState.openMenu_inv h).2.2)))
  | systemBack => exact .inr (.inr (.inr (hnil (AppState.systemBack_inv h).2)))
  | backButton => exact .inr (.inr (.inr (hnil (AppState.backButton_inv h).2)))
  | «open» p => exact .inr (.inr (.inr (hnil (AppState.openPage_inv h).2.2.2)))
  | replace p => exact .inr (.inr (.inr (hnil (AppState.replacePage_inv h).2.2)))
  | logOut => exact .inr (.inr (.inr (hnil (AppState.logOut_inv h).2)))
  | signIn | signUp | resetPassword =>
    obtain ⟨_, -, -, he⟩ := AppState.press_inv h
    exact .inr (.inr (.inr (hnil he)))
  | signInWithGoogle => exact .inr (.inr (.inr (hnil (AppState.signInWithGoogle_inv h).2.2)))
  | frame => exact .inr (.inr (.inr (hnil (AppState.frame_inv h).2.1)))
  | rebuild i =>
    obtain ⟨_, -, -, he⟩ := AppState.rebuild_inv h
    exact .inr (.inr (.inr (hnil he)))
  | fetchVerseAnswer i answer => exact .inr (.inr (.inr (hnil (AppState.fetchVerseAnswer_inv h).1)))
  | generateOutputAnswer i k answer =>
    exact .inr (.inr (.inr (hnil (AppState.generateOutputAnswer_inv h).1)))
  | signUpAnswer i answer => exact .inr (.inr (.inr (hnil (AppState.signUpAnswer_inv h).1)))
  | signInMethodsAnswer i e =>
    exact .inr (.inr (.inr (hnil (AppState.signInMethodsAnswer_inv h).1)))
  | resetAnswer i answer => exact .inr (.inr (.inr (hnil (AppState.resetAnswer_inv h).1)))
  | googleSignedOut b c =>
    obtain ⟨_, -, -, -, he⟩ := AppState.googleSignedOut_inv h
    exact .inr (.inr (.inr (hnil he)))

theorem opensCover_of_mem {path : SignInPath} {σ : Session}
    (h : step s a = some (s', es)) (hm : .openCover path σ ∈ es) : s.OpensCover a := by
  rcases effects_cases h with ⟨_, _, -, -, rfl⟩ | ⟨_, _, ho, -⟩ | ⟨_, -, rfl⟩ | he
  · simp at hm
  · exact ho
  · simp at hm
  · rcases he _ hm with ⟨_, hu⟩ | ⟨_, hu⟩ <;> cases hu

theorem signedOut_of_mem {σ : Session} {press : SignOut} (h : step s a = some (s', es))
    (hm : .signedOut σ press ∈ es) :
    a = .firebaseSignedOut press.before ∧ s.auth.currentUser = some σ := by
  rcases effects_cases h with ⟨_, _, -, -, rfl⟩ | ⟨_, _, -, rfl⟩ | ⟨b, rfl, rfl⟩ | he
  · simp at hm
  · simp at hm
  · obtain ⟨τ, hτ, he⟩ := Option.map_eq_some_iff.mp (Option.mem_toList.mp hm)
    cases he
    exact ⟨rfl, hτ⟩
  · rcases he _ hm with ⟨_, hu⟩ | ⟨_, hu⟩ <;> cases hu

theorem fetchVerse_of_mem {uid : Option Uid} (h : step s a = some (s', es))
    (hm : .fetchVerse uid ∈ es) : ∃ i c, s.front = some ⟨i, .cover (some c)⟩ ∧ c.userId = uid := by
  rcases effects_cases h with ⟨i, c, -, hf, rfl⟩ | ⟨_, _, -, rfl⟩ | ⟨_, -, rfl⟩ | he
  · cases List.mem_singleton.mp hm
    exact ⟨i, c, hf, rfl⟩
  · simp at hm
  · simp at hm
  · rcases he _ hm with ⟨_, hu⟩ | ⟨_, hu⟩ <;> cases hu

/-- What a step can do to Firebase's side. -/
theorem auth_cases (h : step s a = some (s', es)) :
    s'.auth = s.auth ∧ a.signsIn = none ∨
    (∃ uid v, a.signsIn = some (uid, v) ∧ s'.auth = (s.establish uid v).auth) ∨
    (∃ σ v, s.auth.currentUser = some σ ∧ a.signsIn = none ∧ s'.auth = { s.auth with
      currentUser := some { σ with emailVerified := σ.emailVerified || v } }) ∨
    a = .logOut ∧ s'.auth = s.signOut.auth ∨
    (∃ before rest, a.signsIn = none ∧ ⟨before, true⟩ ∈ s.auth.signOuts ∧
      (rest = s.auth.signOuts.erase ⟨before, true⟩ ∨
        rest = ⟨before, false⟩ :: s.auth.signOuts.erase ⟨before, true⟩) ∧
      s'.auth = { s.auth with signOuts := rest }) ∨
    (∃ before, a = .firebaseSignedOut before ∧ ⟨before, false⟩ ∈ s.auth.signOuts ∧
      s'.auth = { s.auth with
        currentUser := none
        signOuts := s.auth.signOuts.erase ⟨before, false⟩ }) := by
  cases a with
  | signInAnswer i answer =>
    obtain ⟨uid, v, rfl, ha, -, -⟩ | ⟨ha, hno, -, -⟩ := AppState.signInAnswer_inv h
    · exact .inr (.inl ⟨uid, v, rfl, ha⟩)
    · refine .inl ⟨ha, ?_⟩
      cases answer with
      | success uid v => exact absurd rfl (hno uid v)
      | authException => rfl
      | exception => rfl
  | signUpAnswer i answer =>
    obtain ⟨-, ⟨uid, rfl, ha, -⟩ | ⟨ha, hno, -⟩⟩ := AppState.signUpAnswer_inv h
    · exact .inr (.inl ⟨uid, false, rfl, ha⟩)
    · refine .inl ⟨ha, ?_⟩
      cases answer with
      | success uid => exact absurd rfl (hno uid)
      | emailAlreadyInUse => rfl
      | failure => rfl
  | googleAnswer i user =>
    obtain ⟨-, ⟨uid, v, rfl, ha, -⟩ | ⟨rfl, ha, -⟩⟩ := AppState.googleAnswer_inv h
    · exact .inr (.inl ⟨uid, v, rfl, ha⟩)
    · exact .inl ⟨ha, rfl⟩
  | reload i v =>
    obtain ⟨σ, hσ, -, ha, -⟩ := AppState.reload_inv h
    exact .inr (.inr (.inl ⟨σ, v, hσ, rfl, ha⟩))
  | logOut =>
    obtain ⟨rfl, -⟩ := AppState.logOut_inv h
    exact .inr (.inr (.inr (.inl ⟨rfl, rfl⟩)))
  | googleSignedOut b c =>
    obtain ⟨rest, hb, hr, rfl, -⟩ := AppState.googleSignedOut_inv h
    exact .inr (.inr (.inr (.inr (.inl ⟨b, rest, rfl, hb, hr, rfl⟩))))
  | firebaseSignedOut b =>
    obtain ⟨hb, rfl, -⟩ := AppState.firebaseSignedOut_inv h
    exact .inr (.inr (.inr (.inr (.inr ⟨b, rfl, hb, rfl⟩))))
  | tapBible => obtain ⟨_, _, -, -, rfl, -⟩ := AppState.tapBible_inv h; exact .inl ⟨rfl, rfl⟩
  | seeMore => obtain ⟨_, _, _, _, -, rfl, -⟩ := AppState.seeMore_inv h; exact .inl ⟨rfl, rfl⟩
  | openMenu => obtain ⟨-, rfl, -⟩ := AppState.openMenu_inv h; exact .inl ⟨rfl, rfl⟩
  | systemBack => obtain ⟨rfl | rfl, -⟩ := AppState.systemBack_inv h <;> exact .inl ⟨rfl, rfl⟩
  | backButton => obtain ⟨rfl, -⟩ := AppState.backButton_inv h; exact .inl ⟨rfl, rfl⟩
  | «open» p => obtain ⟨-, -, rfl, -⟩ := AppState.openPage_inv h; exact .inl ⟨rfl, rfl⟩
  | replace p => obtain ⟨-, rfl, -⟩ := AppState.replacePage_inv h; exact .inl ⟨rfl, rfl⟩
  | signIn | signUp | resetPassword =>
    obtain ⟨_, -, rfl, -⟩ := AppState.press_inv h
    exact .inl ⟨rfl, rfl⟩
  | signInWithGoogle => obtain ⟨-, ha, -⟩ := AppState.signInWithGoogle_inv h; exact .inl ⟨ha, rfl⟩
  | frame => obtain ⟨-, -, ha, -⟩ := AppState.frame_inv h; exact .inl ⟨ha, rfl⟩
  | rebuild i => obtain ⟨_, -, rfl, -⟩ := AppState.rebuild_inv h; exact .inl ⟨rfl, rfl⟩
  | initializeFirebase i =>
    obtain ⟨rfl, -, -⟩ | ⟨_, -, rfl, -⟩ := AppState.initializeFirebase_inv h
    · exact .inl ⟨rfl, rfl⟩
    · exact .inl ⟨rfl, rfl⟩
  | fetchVerseAnswer i answer =>
    obtain ⟨-, ⟨rfl, -⟩ | ⟨_, _, -, -, -, ha, -⟩⟩ := AppState.fetchVerseAnswer_inv h
    · exact .inl ⟨rfl, rfl⟩
    · exact .inl ⟨ha, rfl⟩
  | generateOutputAnswer i k answer =>
    obtain ⟨-, ha, -⟩ := AppState.generateOutputAnswer_inv h
    exact .inl ⟨ha, rfl⟩
  | signInMethodsAnswer i e =>
    obtain ⟨-, ha, -⟩ := AppState.signInMethodsAnswer_inv h
    exact .inl ⟨ha, rfl⟩
  | resetAnswer i answer =>
    obtain ⟨-, ha, -⟩ := AppState.resetAnswer_inv h
    exact .inl ⟨ha, rfl⟩
  | checkAnswer i σ o m =>
    obtain ⟨-, ha, -⟩ := AppState.checkAnswer_inv h
    exact .inl ⟨ha, rfl⟩
  | createAnswer i σ o m =>
    obtain ⟨ha, -⟩ := AppState.createAnswer_inv h
    exact .inl ⟨ha, rfl⟩
  | createVerifiedAnswer i σ o =>
    obtain ⟨ha, -⟩ := AppState.createVerifiedAnswer_inv h
    exact .inl ⟨ha, rfl⟩

end GoodOmens.App
