import GoodOmens.App.Inversion

/-!
# The gate in front of the verse flow

The verse flow is for users who are signed in with a verified email.  A
`CoverPage` looks for one when its first frame is built and leaves when there is
none; nothing later looks again.  `Guarded` says what is wanted of a state once
it is at rest, `AsksForUser` what is wanted of a verse request.

Log Out takes off the page on top and replaces the next one, so from a page deep
in the flow it leaves the pages under it where they are; and a sign-in may come
in over pages of the flow that are still there.  `KeepsGate` excludes these, and
a cover page opened while a sign-out is pending.  Under it `GateInv` is an
invariant: every page of the flow has a verified user to it, except a cover page
on top that still waits for its frame.  `along_guarded` is the run theorem.
-/

namespace GoodOmens.App

open Navigator

/-- When the sign-outs have finished and the first frames are built, and nobody
is signed in with a verified email, the page on top is none of the verse flow. -/
def Guarded (s : AppState) : Prop :=
  s.settled → (∀ r ∈ s.nav.history, r.page.awaitsFrame = false) → s.verifiedUser = none →
    ∀ r, s.nav.top = some r → r.page.isVerseFlow = false

/-- A verse is asked for with the id of a user who is signed in. -/
def AsksForUser (s : AppState) (es : List Effect) : Prop :=
  ∀ uid, .fetchVerse (some uid) ∈ es → ∃ σ, s.auth.currentUser = some σ ∧ σ.uid = uid

/-- The step leaves a guarded state, and asks only for a user who is there. -/
def KeepsGuarded (s : AppState) (_ : Act) (s' : AppState) (es : List Effect) : Prop :=
  Guarded s' ∧ AsksForUser s es

/-- A page of the verse flow that is there to stay: any but a cover page on top
that waits for its first frame. -/
def AppState.InFlow (s : AppState) (r : Route Page) : Prop :=
  r ∈ s.nav.history ∧ r.page.isVerseFlow ∧ ¬ (s.nav.top = some r ∧ r.page.awaitsFrame)

/-- What a step must respect. -/
structure KeepsGate (s : AppState) (a : Act) : Prop where
  /-- Log Out is pressed where no page of the flow is left under the two it
  removes. -/
  logOut : a = .logOut → ∀ r ∈ s.nav.history.drop 2, r.page.isVerseFlow = false
  /-- Whoever signs in over pages of the flow has a verified email and is the
  user of the cover pages there. -/
  signsIn : ∀ uid v, a.signsIn = some (uid, v) → ∀ r, s.InFlow r →
    v = true ∧ ∀ c, r.page = .cover (some c) → c.userId = some uid
  /-- A cover page is not opened while a sign-out is pending. -/
  opensCover : s.OpensCover a → s.settled
  /-- `VerifyEmailPage` is not put over a cover page that is about to leave. -/
  verifyEmail : ∀ i e, a = .signInMethodsAnswer i e → ∀ r, s.nav.top = some r →
    r.page.awaitsFrame → s.verifiedUser.isSome

/-- Pages of the flow are there for a verified user only. -/
structure GateInv (s : AppState) : Prop where
  settled : ∀ r ∈ s.nav.history, r.page.isVerseFlow → s.settled
  verified : ∀ r, s.InFlow r → s.verifiedUser.isSome
  user : ∀ r ∈ s.nav.history, ∀ c, r.page = .cover (some c) →
    c.userId = s.auth.currentUser.map Session.uid

variable {s s' : AppState} {a : Act} {es : List Effect} {p : Page}

theorem inFlow_of_built {r : Route Page} (hr : r ∈ s.nav.history) (hf : r.page.isVerseFlow)
    (hb : r.page.awaitsFrame = false) : s.InFlow r :=
  ⟨hr, hf, fun h => by rw [hb] at h; exact absurd h.2 (by simp)⟩

theorem inFlow_of_mem_tail {r : Route Page} (hr : r ∈ s.nav.history.tail)
    (hf : r.page.isVerseFlow) : s.InFlow r :=
  ⟨List.mem_of_mem_tail hr, hf, fun h => not_mem_tail_of_top h.1 hr⟩

/-! ### What the invariant says of a state -/

theorem guarded_of_inv (hi : GateInv s) : Guarded s := by
  intro _ hb hv r hr
  have hm := mem_of_top hr
  cases hf : r.page.isVerseFlow with
  | false => rfl
  | true =>
    have hsome := hi.verified r (inFlow_of_built hm hf (hb r hm))
    rw [hv] at hsome
    cases hsome

theorem asksForUser_of_inv (hi : GateInv s) (h : step s a = some (s', es)) :
    AsksForUser s es := by
  intro uid hm
  obtain ⟨i, c, hf, hc⟩ := fetchVerse_of_mem h hm
  have hu := hi.user _ (AppState.mem_of_front hf) c rfl
  rw [hc] at hu
  obtain ⟨σ, hσ, rfl⟩ := Option.map_eq_some_iff.mp hu.symm
  exact ⟨σ, hσ, rfl⟩

/-! ### What the changes to the stack do to it -/

theorem gateInv_congr (hi : GateInv s) (hn : s'.nav = s.nav) (ha : s'.auth = s.auth) :
    GateInv s' := by
  obtain ⟨hs, hv, hu⟩ := hi
  refine ⟨?_, ?_, ?_⟩
  · rw [AppState.settled, hn, ha]
    exact hs
  · intro r hr
    rw [AppState.InFlow, hn] at hr
    rw [AppState.verifiedUser, ha]
    exact hv r hr
  · rw [hn, ha]
    exact hu

theorem gateInv_pop (hi : GateInv s) : GateInv s.pop := by
  refine ⟨?_, ?_, ?_⟩
  · intro r hr hf
    exact hi.settled r (mem_of_mem_pop hr) hf
  · intro r hr
    exact hi.verified r (inFlow_of_mem_tail hr.1 hr.2.1)
  · intro r hr
    exact hi.user r (mem_of_mem_pop hr)

/-- A page outside the flow may be pushed over anything but a cover page that is
about to leave. -/
theorem gateInv_push (hi : GateInv s) (hp : p.isVerseFlow = false)
    (ht : ∀ r, s.nav.top = some r → r.page.awaitsFrame → s.verifiedUser.isSome) :
    GateInv (s.push p) := by
  refine ⟨?_, ?_, ?_⟩
  · intro r hr hf
    rcases mem_push.mp hr with rfl | hr
    · rw [hp] at hf
      cases hf
    · exact hi.settled r hr hf
  · rintro r ⟨hr, hf, -⟩
    rcases mem_push.mp hr with rfl | hr
    · rw [hp] at hf
      cases hf
    · by_cases h : s.nav.top = some r ∧ r.page.awaitsFrame
      · exact ht r h.1 h.2
      · exact hi.verified r ⟨hr, hf, h⟩
  · intro r hr c hc
    rcases mem_push.mp hr with rfl | hr
    · obtain rfl : p = .cover (some c) := hc
      cases hp
    · exact hi.user r hr c hc

theorem gateInv_push_front {r : Route Page} (hi : GateInv s) (hf : s.front = some r)
    (hp : p.isVerseFlow = false) : GateInv (s.push p) := by
  refine gateInv_push hi hp ?_
  intro t ht hw
  obtain ⟨hr, hb⟩ := AppState.front_eq hf
  obtain rfl := Option.some.inj (hr.symm.trans ht)
  rw [hb] at hw
  cases hw

/-- A page above the cover may be pushed where a page of the flow is there to
stay. -/
theorem gateInv_push_flow {r : Route Page} (hi : GateInv s) (hr : s.InFlow r)
    (hp : p.isCover = false) : GateInv (s.push p) := by
  have hv := hi.verified r hr
  refine ⟨?_, ?_, ?_⟩
  · intro _ _ _
    exact hi.settled r hr.1 hr.2.1
  · intro _ _
    exact hv
  · intro t ht c hc
    rcases mem_push.mp ht with rfl | ht
    · obtain rfl : p = .cover (some c) := hc
      cases hp
    · exact hi.user t ht c hc

theorem gateInv_pushReplacement (hi : GateInv s) (hp : p.isVerseFlow = false) :
    GateInv (s.pushReplacement p) := by
  refine ⟨?_, ?_, ?_⟩
  · intro r hr hf
    rcases mem_pushReplacement hr with ⟨rfl, -⟩ | hr
    · rw [hp] at hf
      cases hf
    · exact hi.settled r (List.mem_of_mem_tail hr) hf
  · rintro r ⟨hr, hf, -⟩
    rcases mem_pushReplacement hr with ⟨rfl, -⟩ | hr
    · rw [hp] at hf
      cases hf
    · exact hi.verified r (inFlow_of_mem_tail hr hf)
  · intro r hr c hc
    rcases mem_pushReplacement hr with ⟨rfl, -⟩ | hr
    · rw [hc] at hp
      cases hp
    · exact hi.user r (List.mem_of_mem_tail hr) c hc

/-- A cover page takes the place of the top page: it is on top and waits for its
frame, so it needs no user yet. -/
theorem gateInv_openCover (hi : GateInv s) (hs : s.settled) :
    GateInv (s.pushReplacement (.cover none)) := by
  refine ⟨?_, ?_, ?_⟩
  · intro _ _ _
    exact hs
  · rintro r ⟨hr, hf, hno⟩
    rcases mem_pushReplacement hr with ⟨hp, ht⟩ | hr
    · exact absurd ⟨ht, by rw [hp]; rfl⟩ hno
    · exact hi.verified r (inFlow_of_mem_tail hr hf)
  · intro r hr c hc
    rcases mem_pushReplacement hr with ⟨hp, -⟩ | hr
    · rw [hp] at hc
      cases hc
    · exact hi.user r (List.mem_of_mem_tail hr) c hc

/-- A page is changed where it stands, and a cover page stays one of its
user's. -/
theorem gateInv_setPage {i : Nat} (hi : GateInv s)
    (hf : ∀ t ∈ s.nav.history, t.id = i → p.isVerseFlow →
      t.page.isVerseFlow ∧ t.page.awaitsFrame = false)
    (hu : ∀ c, p = .cover (some c) → c.userId = s.auth.currentUser.map Session.uid) :
    GateInv (s.setPage i p) := by
  refine ⟨?_, ?_, ?_⟩
  · intro r hr hflow
    obtain ⟨t, ht, rfl⟩ := mem_mapPages.mp hr
    by_cases hid : t.id = i
    · rw [if_pos hid] at hflow
      exact hi.settled t ht (hf t ht hid hflow).1
    · rw [if_neg hid] at hflow
      exact hi.settled t ht hflow
  · rintro r ⟨hr, hflow, hno⟩
    obtain ⟨t, ht, rfl⟩ := mem_mapPages.mp hr
    by_cases hid : t.id = i
    · rw [if_pos hid] at hflow
      obtain ⟨ht', hb⟩ := hf t ht hid hflow
      exact hi.verified t (inFlow_of_built ht ht' hb)
    · rw [if_neg hid] at hflow hno
      refine hi.verified t ⟨ht, hflow, fun h => hno ⟨?_, h.2⟩⟩
      rw [AppState.setPage_nav, setPage, top_mapPages, h.1, Option.map_some, if_neg hid]
  · intro r hr c hc
    rcases mem_setPage hr with rfl | hr
    · exact hu c hc
    · exact hi.user r hr c hc

/-- What a cover page holds changes, its user apart. -/
theorem gateInv_setCover {i : Nat} {c c' : Cover} (hi : GateInv s)
    (hc : ⟨i, .cover (some c)⟩ ∈ s.nav.history) (hu : c'.userId = c.userId) :
    GateInv (s.setPage i (.cover (some c'))) := by
  refine gateInv_setPage hi ?_ ?_
  · intro t ht hid _
    obtain rfl := eq_of_id ht hc hid
    exact ⟨rfl, rfl⟩
  · rintro _ ⟨⟩
    rw [hu]
    exact hi.user _ hc c rfl

/-- No page of the flow is left. -/
theorem gateInv_of_noFlow (h : ∀ r ∈ s.nav.history, r.page.isVerseFlow = false) :
    GateInv s := by
  refine ⟨?_, ?_, ?_⟩
  · intro r hr hf
    rw [h r hr] at hf
    cases hf
  · intro r hr
    have hf := hr.2.1
    rw [h r hr.1] at hf
    cases hf
  · intro r hr c hc
    have hf := h r hr
    rw [hc] at hf
    cases hf

/-! ### Frames -/

theorem built_isVerseFlow (s : AppState) (p : Page) : (s.built p).isVerseFlow = p.isVerseFlow := by
  unfold AppState.built
  split
  · rename_i h
    exact (Page.isVerseFlow_of_awaitsFrame h).symm
  · rfl

/-- A cover page that is built has captured the user of now, or had a state
before. -/
theorem built_cover {s : AppState} {p : Page} {c : Cover} (h : s.built p = .cover (some c)) :
    c.userId = s.auth.currentUser.map Session.uid ∨ p = .cover (some c) := by
  unfold AppState.built at h
  split at h
  · cases h
    exact .inl rfl
  · exact .inr h

theorem gateInv_frame (hi : GateInv s) (h : s.frame = some (s', es)) : GateInv s' := by
  obtain ⟨-, -, ha, ⟨hn, hv⟩ | ⟨q, ⟨hq, -⟩, hn, hv⟩⟩ := AppState.frame_inv h
  · refine ⟨?_, ?_, ?_⟩
    · intro r hr hf
      rw [hn] at hr
      obtain ⟨t, ht, rfl⟩ := mem_mapPages.mp hr
      rw [AppState.settled, ha]
      exact hi.settled t ht (built_isVerseFlow s t.page ▸ hf)
    · intro r _
      rw [AppState.verifiedUser, ha]
      exact hv
    · intro r hr c hc
      rw [hn] at hr
      obtain ⟨t, ht, rfl⟩ := mem_mapPages.mp hr
      rw [ha]
      exact (built_cover hc).elim id (hi.user t ht c)
  · -- nobody is verified: the page on top is replaced, and no other is of the flow
    apply gateInv_of_noFlow
    intro r hr
    rw [hn] at hr
    rcases mem_pushReplacement hr with ⟨hp, -⟩ | hr
    · rw [hp]
      exact hq
    · obtain ⟨t, ht, rfl⟩ : ∃ t ∈ s.nav.history.tail, r = ⟨t.id, s.built t.page⟩ := by
        rw [show (s.nav.mapPages (fun _ => s.built)).history.tail =
          s.nav.history.tail.map (fun t => ⟨t.id, s.built t.page⟩) from List.map_tail.symm] at hr
        obtain ⟨t, ht, rfl⟩ := List.mem_map.mp hr
        exact ⟨t, ht, rfl⟩
      rw [built_isVerseFlow]
      cases hf : t.page.isVerseFlow with
      | false => rfl
      | true =>
        have hsome := hi.verified t (inFlow_of_mem_tail ht hf)
        rw [hv] at hsome
        cases hsome

/-! ### Firebase's side -/

theorem gateInv_establish {uid : Uid} {v : Bool} (hi : GateInv s)
    (h : ∀ r, s.InFlow r → v = true ∧ ∀ c, r.page = .cover (some c) → c.userId = some uid) :
    GateInv (s.establish uid v) := by
  refine ⟨hi.settled, ?_, ?_⟩
  · intro r hr
    obtain ⟨rfl, -⟩ := h r hr
    rfl
  · intro r hr c hc
    exact (h r (inFlow_of_built hr (by rw [hc]; rfl) (by rw [hc]; rfl))).2 c hc

/-- A reload keeps the user, and a verified email stays verified. -/
theorem gateInv_reload {σ : Session} {v : Bool} (hi : GateInv s) (hσ : s.auth.currentUser = some σ)
    (hn : s'.nav = s.nav) (ha : s'.auth = { s.auth with
      currentUser := some { σ with emailVerified := σ.emailVerified || v } }) : GateInv s' := by
  refine ⟨?_, ?_, ?_⟩
  · rw [AppState.settled, hn, ha]
    exact hi.settled
  · intro r hr
    rw [AppState.InFlow, hn] at hr
    have hsome := hi.verified r hr
    rw [AppState.verifiedUser, hσ] at hsome
    rw [AppState.verifiedUser, ha]
    cases hv : σ.emailVerified with
    | true => simp [Option.filter]
    | false => simp [Option.filter, hv] at hsome
  · rw [hn, ha]
    intro r hr c hc
    have hu := hi.user r hr c hc
    rw [hσ] at hu
    exact hu

/-- While a sign-out is pending there is no page of the flow. -/
theorem gateInv_of_pending {press : SignOut} (hi : GateInv s) (hp : press ∈ s.auth.signOuts)
    (hn : s'.nav = s.nav) : GateInv s' := by
  apply gateInv_of_noFlow
  intro r hr
  rw [hn] at hr
  cases hf : r.page.isVerseFlow with
  | false => rfl
  | true =>
    have hs := hi.settled r hr hf
    rw [AppState.settled] at hs
    rw [hs] at hp
    cases hp

/-! ### Steps and runs -/

/-- **One step keeps the invariant.** -/
theorem gateInv_step (hi : GateInv s) (hg : KeepsGate s a) (h : step s a = some (s', es)) :
    GateInv s' := by
  cases a with
  | tapBible =>
    obtain ⟨i, c, hf, -, rfl, -⟩ := AppState.tapBible_inv h
    have hset : GateInv (s.setPage i (.cover (some { c with isLoading := true }))) :=
      gateInv_setCover hi (AppState.mem_of_front hf) rfl
    exact gateInv_congr hset rfl rfl
  | seeMore =>
    obtain ⟨i, q, k, _, hf, rfl, -⟩ := AppState.seeMore_inv h
    exact gateInv_push_flow hi (inFlow_of_built (AppState.mem_of_front hf) rfl rfl) rfl
  | openMenu =>
    obtain ⟨⟨r, hf⟩, rfl, -⟩ := AppState.openMenu_inv h
    exact gateInv_push_front hi hf rfl
  | systemBack =>
    obtain ⟨rfl | rfl, -⟩ := AppState.systemBack_inv h
    · exact hi
    · exact gateInv_pop hi
  | backButton =>
    obtain ⟨rfl, -⟩ := AppState.backButton_inv h
    exact gateInv_pop hi
  | «open» q =>
    obtain ⟨⟨r, hf, -⟩, hq, rfl, -⟩ := AppState.openPage_inv h
    exact gateInv_push_front hi hf hq
  | replace q =>
    obtain ⟨⟨hq, -⟩, rfl, -⟩ := AppState.replacePage_inv h
    exact gateInv_pushReplacement hi hq
  | logOut =>
    obtain ⟨rfl, -⟩ := AppState.logOut_inv h
    apply gateInv_of_noFlow
    intro r hr
    rcases mem_pushReplacement hr with ⟨hp, -⟩ | hr
    · rw [hp]
      rfl
    · rw [AppState.pop_nav, AppState.signOut_nav, pop_history, ← List.drop_one, ← List.drop_one,
        List.drop_drop] at hr
      exact hg.logOut rfl r hr
  | signIn | signUp | resetPassword =>
    obtain ⟨i, hf, rfl, -⟩ := AppState.press_inv h
    exact gateInv_congr (gateInv_push_front hi hf rfl) rfl rfl
  | signInWithGoogle =>
    obtain ⟨hn, ha, -⟩ := AppState.signInWithGoogle_inv h
    exact gateInv_congr hi hn ha
  | frame => exact gateInv_frame hi h
  | rebuild i =>
    obtain ⟨q, ⟨hq, -⟩, rfl, -⟩ := AppState.rebuild_inv h
    refine gateInv_setPage hi ?_ ?_
    · intro _ _ _ hf
      rw [hq] at hf
      cases hf
    · rintro c rfl
      cases hq
  | initializeFirebase i =>
    obtain ⟨rfl, -, -⟩ | ⟨σ, hσ, rfl, -⟩ := AppState.initializeFirebase_inv h
    · exact hi
    · exact gateInv_openCover hi (hg.opensCover (by simp [AppState.OpensCover, hσ]))
  | reload i v =>
    obtain ⟨σ, hσ, hn, ha, -⟩ := AppState.reload_inv h
    exact gateInv_reload hi hσ hn ha
  | fetchVerseAnswer i answer =>
    obtain ⟨-, ⟨rfl, -⟩ | ⟨c, q, hc, hq, hn, ha, -⟩⟩ := AppState.fetchVerseAnswer_inv h
    · exact gateInv_congr hi rfl rfl
    · -- the cover page itself is the page of the flow that the verse goes over
      have hm := AppState.mem_of_coverState hc
      have hset : GateInv (s.setPage i (.cover (some (c.fetched answer)))) :=
        gateInv_setCover hi hm (userId_fetched c answer)
      have hin : (s.setPage i (.cover (some (c.fetched answer)))).InFlow
          ⟨i, .cover (some (c.fetched answer))⟩ := by
        refine inFlow_of_built ?_ rfl rfl
        exact mem_mapPages.mpr ⟨_, hm, by simp⟩
      exact gateInv_congr (gateInv_push_flow hset hin (Page.isCover_of_isVerse hq)) hn ha
  | generateOutputAnswer i k answer =>
    obtain ⟨-, ha, ⟨hn, -⟩ | ⟨-, -, hn⟩⟩ := AppState.generateOutputAnswer_inv h
    · exact gateInv_congr hi hn ha
    · exact gateInv_congr (gateInv_pop hi) hn ha
  | signInAnswer i answer =>
    obtain ⟨uid, v, rfl, ha, -, ⟨hn, hm, -⟩ | ⟨hn, -, -⟩⟩ | ⟨ha, -, hn | ⟨-, hn⟩, -⟩ :=
      AppState.signInAnswer_inv h
    · have hest := gateInv_establish hi (hg.signsIn uid v rfl)
      exact gateInv_congr (gateInv_openCover (gateInv_pop hest) (hg.opensCover hm)) hn ha
    · exact gateInv_congr (gateInv_establish hi (hg.signsIn uid v rfl)) hn ha
    · exact gateInv_congr hi hn ha
    · exact gateInv_congr (gateInv_pop hi) hn ha
  | signUpAnswer i answer =>
    obtain ⟨-, ⟨uid, rfl, ha, ⟨-, hn⟩ | ⟨-, hn⟩⟩ | ⟨ha, -, ⟨-, hn⟩ | ⟨-, hn⟩⟩⟩ :=
      AppState.signUpAnswer_inv h
    · have hest := gateInv_establish hi (hg.signsIn uid false rfl)
      refine gateInv_congr (gateInv_push (gateInv_pop hest) rfl ?_) hn ha
      -- what the pop uncovers is no page of the flow: its user would be verified
      intro r hr hw
      have hin : s.InFlow r :=
        inFlow_of_mem_tail (mem_of_top hr) (Page.isVerseFlow_of_awaitsFrame hw)
      cases (hg.signsIn uid false rfl r hin).1
    · exact gateInv_congr (gateInv_establish hi (hg.signsIn uid false rfl)) hn ha
    · exact gateInv_congr hi hn ha
    · exact gateInv_congr (gateInv_pop hi) hn ha
  | signInMethodsAnswer i e =>
    obtain ⟨-, ha, hn | ⟨-, hn⟩⟩ := AppState.signInMethodsAnswer_inv h
    · exact gateInv_congr hi hn ha
    · exact gateInv_congr (gateInv_push hi rfl (hg.verifyEmail i e rfl)) hn ha
  | resetAnswer i answer =>
    obtain ⟨-, ha, ⟨hn, -⟩ | ⟨-, hn⟩ | ⟨-, hn⟩⟩ := AppState.resetAnswer_inv h
    · exact gateInv_congr hi hn ha
    · exact gateInv_congr (gateInv_pop hi) hn ha
    · exact gateInv_congr (gateInv_pushReplacement hi rfl) hn ha
  | googleAnswer i user =>
    obtain ⟨hn, ⟨uid, v, rfl, ha, -⟩ | ⟨rfl, ha, -⟩⟩ := AppState.googleAnswer_inv h
    · exact gateInv_congr (gateInv_establish hi (hg.signsIn uid v rfl)) hn ha
    · exact gateInv_congr hi hn ha
  | checkAnswer i σ o m =>
    obtain ⟨-, ha, -, ⟨hn, -, -⟩ | ⟨ho, ⟨hm, hn, -⟩ | ⟨-, hn, -⟩⟩⟩ := AppState.checkAnswer_inv h
    · exact gateInv_congr hi hn ha
    · exact gateInv_congr (gateInv_openCover hi (hg.opensCover ⟨ho, hm⟩)) hn ha
    · exact gateInv_congr hi hn ha
  | createAnswer i σ o m =>
    obtain ⟨ha, -, ⟨hm, hn, -⟩ | ⟨-, hn, -⟩⟩ := AppState.createAnswer_inv h
    · exact gateInv_congr (gateInv_openCover hi (hg.opensCover hm)) hn ha
    · exact gateInv_congr hi hn ha
  | createVerifiedAnswer i σ o =>
    obtain ⟨ha, -, ⟨hm, hn, -⟩ | ⟨-, hn, -⟩⟩ := AppState.createVerifiedAnswer_inv h
    · exact gateInv_congr (gateInv_openCover hi (hg.opensCover hm)) hn ha
    · exact gateInv_congr hi hn ha
  | googleSignedOut b c =>
    obtain ⟨_, hb, -, rfl, -⟩ := AppState.googleSignedOut_inv h
    exact gateInv_of_pending hi hb rfl
  | firebaseSignedOut b =>
    obtain ⟨hb, rfl, -⟩ := AppState.firebaseSignedOut_inv h
    exact gateInv_of_pending hi hb rfl

theorem gateInv_start (h : Starts s) : GateInv s := by
  obtain ⟨hn, -, -, -, hs, -, -⟩ := h
  have hhome : s.nav.history = [⟨0, .cover none⟩] := by rw [hn]; rfl
  refine ⟨fun _ _ _ => hs, ?_, ?_⟩
  · rintro r ⟨hr, -, hno⟩
    rw [hhome] at hr
    obtain rfl := List.mem_singleton.mp hr
    exact absurd ⟨by rw [hn]; rfl, rfl⟩ hno
  · intro r hr c hc
    rw [hhome] at hr
    obtain rfl := List.mem_singleton.mp hr
    cases hc

/-- A step that signs nobody in, opens no cover page, and neither logs out nor
comes after `fetchSignInMethodsForEmail` keeps the gate. -/
theorem along_cons_keepsGate {as : List Act} (h : step s a = some (s', es))
    (hs : a.signsIn = none) (ho : ¬ s.OpensCover a) (hl : a ≠ .logOut)
    (hv : ∀ i e, a ≠ .signInMethodsAnswer i e)
    (hrest : app.Along (Machine.before KeepsGate) s' as) :
    app.Along (Machine.before KeepsGate) s (a :: as) := by
  refine (Machine.along_cons h as).mpr ⟨⟨fun hlog => absurd hlog hl, ?_,
    fun hop => absurd hop ho, fun i e he => absurd he (hv i e)⟩, hrest⟩
  intro uid v hin
  rw [hs] at hin
  cases hin

end GoodOmens.App
