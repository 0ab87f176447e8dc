import Mathlib.Algebra.Ring.Nat
import GoodOmens.App.Moves
import GoodOmens.App.Tasks

/-!
# The app comes to rest

No handler tries again what has failed, and no answer starts more than the one call that comes
next.  So whatever comes back, and in whatever order, the app is done after a while if nothing
is put in.

`weight` counts how much may still come back: for every call in flight what is left of its
chain of calls, up to the first frame of the cover page that it may end in, and the sign-outs.
What comes back makes it smaller, a press or a tick makes it larger by four at most
(`weight_step`), so in a whole run at most four things come back for each
(`comesBack_le`).  And as long as the app is not at rest something may come back: there is no
call whose answer no handler waits for.
-/

namespace GoodOmens.App

open Navigator

/-! ### What may still come back -/

/-- The calls that are left of a chain, with the frame of the cover page it may open. -/
def Task.rank : Task → Nat
  | generateOutput _ _ | fetchSignInMethods _ | resetPassword _ => 1
  | fetchVerse _ | signIn _ | signUp _ | createUser _ _ | createVerifiedUser _ _ => 2
  | checkIfFirstTimeLogin _ _ => 3
  | signInWithGoogle _ => 4

/-- `Authentication.signOut` waits for Google before it waits for Firebase. -/
def SignOut.rank (press : SignOut) : Nat := if press.google then 2 else 1

/-- How many cover pages wait for their first frame. -/
def unbuilt (n : Navigator Page) : Nat := n.history.countP (fun r => r.page.awaitsFrame)

namespace AppState

variable (s : AppState)

def weight : Nat :=
  (s.tasks.map Task.rank).sum + (s.auth.signOuts.map SignOut.rank).sum + unbuilt s.nav

/-- No call and no sign-out is in flight, and every page is built. -/
structure AtRest : Prop where
  tasks : s.tasks = []
  signOuts : s.auth.signOuts = []
  built : ∀ r ∈ s.nav.history, r.page.awaitsFrame = false

end AppState

/-- The step is something that comes back: an answer, the end of a sign-out, or a frame. -/
def Act.comesBack : Act → Bool
  | .frame | .googleSignedOut _ _ | .firebaseSignedOut _ => true
  | a => a.answers.isSome

variable {s s' t : AppState} {a : Act} {es : List Effect} {i : Nat} {n : Navigator Page} {p : Page}

/-! ### Cover pages that wait -/

theorem unbuilt_pop : unbuilt n.pop ≤ unbuilt n := (List.tail_sublist _).countP_le

theorem unbuilt_push (hp : p.awaitsFrame = false) : unbuilt (n.push p) = unbuilt n :=
  List.countP_cons_of_neg (by simp [hp])

theorem unbuilt_openCover : unbuilt (n.pushReplacement (.cover none)) ≤ unbuilt n + 1 := by
  unfold pushReplacement
  split
  · exact Nat.le_succ _
  · refine Nat.le_trans (Nat.le_of_eq (List.countP_cons_of_pos rfl)) ?_
    exact Nat.succ_le_succ unbuilt_pop

theorem unbuilt_setPage (hp : p.awaitsFrame = false) : unbuilt (n.setPage i p) ≤ unbuilt n := by
  unfold unbuilt setPage mapPages
  rw [List.countP_map]
  refine List.countP_mono_left ?_
  intro r hr h
  by_cases hi : r.id = i
  · simp [hi, hp] at h
  · simpa [hi] using h

theorem built_awaitsFrame (s : AppState) (p : Page) : (s.built p).awaitsFrame = false := by
  unfold AppState.built
  split
  · rfl
  · rename_i hp
    exact Bool.eq_false_iff.mpr hp

/-- After a frame, none. -/
theorem unbuilt_built (s : AppState) (n : Navigator Page) :
    unbuilt (n.mapPages (fun _ => s.built)) = 0 := by
  refine List.countP_eq_zero.mpr ?_
  intro r hr
  obtain ⟨q, -, rfl⟩ := mem_mapPages.mp hr
  simp [built_awaitsFrame]

theorem unbuilt_pos (h : ∃ r ∈ n.history, r.page.awaitsFrame) : 0 < unbuilt n :=
  List.countP_pos_iff.mpr h

theorem awaitsFrame_of_not_isCover (hp : p.isCover = false) : p.awaitsFrame = false := by
  cases p with
  | cover _ => cases hp
  | _ => rfl

theorem unbuilt_moves {m : Navigator Page} (h : Moves n m) : unbuilt m ≤ unbuilt n := by
  induction h with
  | refl => exact Nat.le_refl _
  | pop _ ih => exact Nat.le_trans unbuilt_pop ih
  | push hp _ ih =>
    rw [unbuilt_push (awaitsFrame_of_not_isCover hp)]
    exact ih
  | setPage hp _ ih => exact Nat.le_trans (unbuilt_setPage (awaitsFrame_of_not_isCover hp)) ih

/-- A step adds a cover page that waits only by opening it. -/
theorem unbuilt_step (h : step s a = some (s', es)) (ha : a ≠ .frame) :
    unbuilt s'.nav ≤ unbuilt s.nav ∨ s.OpensCover a ∧ unbuilt s'.nav ≤ unbuilt s.nav + 1 := by
  have hmoves (hw : a.writesCover = false) : unbuilt s'.nav ≤ unbuilt s.nav ∨
      s.OpensCover a ∧ unbuilt s'.nav ≤ unbuilt s.nav + 1 := by
    rcases moves_step h hw with hm | ⟨ho, m, hm, hn⟩
    · exact .inl (unbuilt_moves hm)
    · refine .inr ⟨ho, ?_⟩
      rw [hn]
      exact Nat.le_trans unbuilt_openCover (Nat.succ_le_succ (unbuilt_moves hm))
  cases a with
  | frame => exact absurd rfl ha
  | tapBible =>
    obtain ⟨_, _, -, -, rfl, -⟩ := AppState.tapBible_inv h
    exact .inl (unbuilt_setPage rfl)
  | fetchVerseAnswer i answer =>
    obtain ⟨-, ⟨rfl, -⟩ | ⟨c, p, -, hp, hn, -⟩⟩ := AppState.fetchVerseAnswer_inv h
    · exact .inl (Nat.le_refl _)
    · left
      rw [hn, unbuilt_push (Page.awaitsFrame_of_isVerse hp)]
      exact unbuilt_setPage rfl
  | _ => exact hmoves rfl

theorem unbuilt_frame (h : s.frame = some (s', es)) :
    unbuilt s'.nav = 0 ∧ 0 < unbuilt s.nav := by
  obtain ⟨hw, -, -, ⟨hn, -⟩ | ⟨q, ⟨hq, -⟩, hn, -⟩⟩ := AppState.frame_inv h
  · exact ⟨hn ▸ unbuilt_built s _, unbuilt_pos hw⟩
  · refine ⟨?_, unbuilt_pos hw⟩
    have hle : unbuilt s'.nav ≤ unbuilt (s.nav.mapPages (fun _ => s.built)) :=
      unbuilt_moves (hn ▸ .pushReplacement (Page.isCover_of_not_isVerseFlow hq) .refl)
    rw [unbuilt_built] at hle
    exact Nat.le_zero.mp hle

/-! ### Calls and sign-outs -/

/-- The rank of the call that comes back, or that is started. -/
def rankOf (t : Option Task) : Nat := t.elim 0 Task.rank

theorem sum_erase {α : Type} [DecidableEq α] {f : α → Nat} {x : α} {xs : List α} (hx : x ∈ xs) :
    ((xs.erase x).map f).sum + f x = (xs.map f).sum := by
  have hperm := ((List.perm_cons_erase hx).map f).sum_nat
  rw [hperm, List.map_cons, List.sum_cons, Nat.add_comm]

theorem tasks_weight (h : step s a = some (s', es)) :
    (s'.tasks.map Task.rank).sum + rankOf a.answers ≤
      (s.tasks.map Task.rank).sum + rankOf (s.starts a) := by
  have hothers : ((s.others a).map Task.rank).sum + rankOf a.answers =
      (s.tasks.map Task.rank).sum := by
    unfold AppState.others
    split
    · rename_i t ht
      rw [ht]
      exact sum_erase (mem_tasks_of_answers h ht)
    · rename_i hno
      rw [hno]
      rfl
  rcases tasks_step h with ht | ⟨t, hs, ht⟩
  · rw [ht, hothers]
    exact Nat.le_add_right _ _
  · rw [ht, hs, List.map_cons, List.sum_cons, ← hothers]
    show t.rank + _ + _ ≤ _ + t.rank
    omega

/-- Only Log Out starts sign-outs. -/
theorem signOuts_le (h : step s a = some (s', es)) (ha : a ≠ .logOut) :
    (s'.auth.signOuts.map SignOut.rank).sum ≤ (s.auth.signOuts.map SignOut.rank).sum := by
  rcases auth_cases h with ⟨hs, -⟩ | ⟨_, _, -, hs⟩ | ⟨_, _, -, -, hs⟩ | ⟨rfl, -⟩ |
    ⟨b, rest, -, hb, rfl | rfl, hs⟩ | ⟨b, -, hb, hs⟩
  · exact Nat.le_of_eq (by rw [hs])
  · rw [hs]
    exact Nat.le_refl _
  · exact Nat.le_of_eq (by rw [hs])
  · exact absurd rfl ha
  · rw [hs, ← sum_erase hb]
    exact Nat.le_add_right _ _
  · rw [hs, ← sum_erase hb, List.map_cons, List.sum_cons, Nat.add_comm]
    exact Nat.add_le_add_left (Nat.le_succ 1) _
  · rw [hs, ← sum_erase hb]
    exact Nat.le_add_right _ _

theorem signOuts_googleSignedOut {before : Nat} {completed : Bool}
    (h : s.googleSignedOut before completed = some (s', es)) :
    (s'.auth.signOuts.map SignOut.rank).sum + 1 ≤ (s.auth.signOuts.map SignOut.rank).sum := by
  obtain ⟨rest, hb, rfl | rfl, rfl, -⟩ := AppState.googleSignedOut_inv h
  · rw [← sum_erase hb]
    exact Nat.add_le_add_left (Nat.le_succ 1) _
  · rw [← sum_erase hb, List.map_cons, List.sum_cons]
    show 1 + _ + 1 ≤ _ + 2
    omega

theorem signOuts_firebaseSignedOut {before : Nat}
    (h : s.firebaseSignedOut before = some (s', es)) :
    (s'.auth.signOuts.map SignOut.rank).sum + 1 ≤ (s.auth.signOuts.map SignOut.rank).sum := by
  obtain ⟨hb, rfl, -⟩ := AppState.firebaseSignedOut_inv h
  rw [← sum_erase hb]
  exact Nat.le_refl _

/-- Log Out starts two sign-outs, and one of them may have to wait for Google first. -/
theorem signOuts_logOut (h : s.logOut = some (s', es)) :
    (s'.auth.signOuts.map SignOut.rank).sum ≤ (s.auth.signOuts.map SignOut.rank).sum + 3 := by
  obtain ⟨rfl, -⟩ := AppState.logOut_inv h
  show ((SignOut.mk _ (!s.kIsWeb) :: ⟨_, false⟩ :: s.auth.signOuts).map SignOut.rank).sum ≤ _
  rw [List.map_cons, List.map_cons, List.sum_cons, List.sum_cons]
  cases s.kIsWeb
  · show 2 + (1 + _) ≤ _
    omega
  · show 1 + (1 + _) ≤ _
    omega

/-! ### The weight -/

/-- An answer takes more from the weight than the call that it starts, or the cover page that
it opens, puts in. -/
theorem rank_answers {c : Nat} (ha : a.answers.isSome)
    (hc : c = 0 ∨ s.OpensCover a ∧ c = 1) : 1 + rankOf (s.starts a) + c ≤ rankOf a.answers := by
  cases a with
  | fetchVerseAnswer i answer =>
    obtain rfl := hc.resolve_right (fun ho => ho.1)
    cases answer
    · exact Nat.le_refl 2
    · exact Nat.le_succ 1
    · exact Nat.le_succ 1
  | generateOutputAnswer | signInMethodsAnswer | resetAnswer =>
    obtain rfl := hc.resolve_right (fun ho => ho.1)
    exact Nat.le_refl 1
  | signUpAnswer i answer =>
    obtain rfl := hc.resolve_right (fun ho => ho.1)
    cases answer
    · exact Nat.le_succ 1
    · exact Nat.le_refl 2
    · exact Nat.le_succ 1
  | googleAnswer i user =>
    obtain rfl := hc.resolve_right (fun ho => ho.1)
    cases user
    · exact Nat.le_add_left 1 3
    · exact Nat.le_refl 4
  | checkAnswer i σ o m =>
    -- the user is created, or the cover page is opened
    show 1 + rankOf (if _ then _ else none) + c ≤ 3
    rcases hc with rfl | ⟨⟨ho, -⟩, rfl⟩
    · split
      · exact Nat.le_refl 3
      · exact Nat.le_add_left 1 2
    · rw [if_neg (fun hf => ho (UserService.checkIfFirstTimeLogin_eq_true.mp hf))]
      exact Nat.le_succ 2
  | signInAnswer | createAnswer | createVerifiedAnswer =>
    rcases hc with rfl | ⟨-, rfl⟩
    · exact Nat.le_succ 1
    · exact Nat.le_refl 2
  | _ => cases ha

/-- A press or a tick starts one call at most, or it opens a cover page. -/
theorem rank_input {c : Nat} (ha : a.comesBack = false) (hc : c = 0 ∨ s.OpensCover a ∧ c = 1) :
    rankOf (s.starts a) + c ≤ 4 := by
  have hmap {α : Type} (x : Option α) (task : α → Task) (hr : ∀ y, (task y).rank ≤ 4) :
      rankOf (x.map task) + 0 ≤ 4 := by
    cases x with
    | none => exact Nat.zero_le 4
    | some y => exact hr y
  cases a with
  | tapBible | signIn | signUp =>
    obtain rfl := hc.resolve_right (fun ho => ho.1)
    exact hmap s.front _ (fun _ => Nat.le_add_left 2 2)
  | resetPassword =>
    obtain rfl := hc.resolve_right (fun ho => ho.1)
    exact hmap s.front _ (fun _ => Nat.le_add_left 1 3)
  | signInWithGoogle =>
    obtain rfl := hc.resolve_right (fun ho => ho.1)
    exact hmap s.front _ (fun _ => Nat.le_refl 4)
  | reload i v =>
    obtain rfl := hc.resolve_right (fun ho => ho.1)
    exact hmap s.auth.currentUser _ (fun _ => Nat.le_add_left 2 2)
  | initializeFirebase i =>
    rcases hc with rfl | ⟨-, rfl⟩
    · exact Nat.zero_le 4
    · exact Nat.le_add_left 1 3
  | seeMore | openMenu | systemBack | backButton | «open» | replace | logOut | rebuild =>
    obtain rfl := hc.resolve_right (fun ho => ho.1)
    exact Nat.zero_le 4
  | _ => cases ha

/-- The cover page that a step adds. -/
theorem exists_opened (h : step s a = some (s', es)) (ha : a ≠ .frame) :
    ∃ c, (c = 0 ∨ s.OpensCover a ∧ c = 1) ∧ unbuilt s'.nav ≤ unbuilt s.nav + c := by
  rcases unbuilt_step h ha with hle | ⟨ho, hle⟩
  · exact ⟨0, .inl rfl, hle⟩
  · exact ⟨1, .inr ⟨ho, rfl⟩, hle⟩

theorem weight_answers (h : step s a = some (s', es)) (ha : a.answers.isSome) :
    1 + s'.weight ≤ s.weight := by
  have htasks := tasks_weight h
  have hsign := signOuts_le h (by rintro rfl; cases ha)
  obtain ⟨c, hc, hbuilt⟩ := exists_opened h (by rintro rfl; cases ha)
  have hrank := rank_answers ha hc
  unfold AppState.weight
  omega

/-- The end of a sign-out touches Firebase's side alone. -/
theorem weight_of_auth {auth : Auth} (hs : s' = { s with auth := auth })
    (h : (s'.auth.signOuts.map SignOut.rank).sum + 1 ≤
      (s.auth.signOuts.map SignOut.rank).sum) : 1 + s'.weight ≤ s.weight := by
  have hrest : s'.tasks = s.tasks ∧ s'.nav = s.nav := by
    rw [hs]
    exact ⟨rfl, rfl⟩
  unfold AppState.weight
  rw [hrest.1, hrest.2]
  omega

/-- **What comes back makes the weight smaller.** -/
theorem weight_comesBack (h : step s a = some (s', es)) (ha : a.comesBack) :
    1 + s'.weight ≤ s.weight := by
  cases a with
  | frame =>
    have htasks : (s'.tasks.map Task.rank).sum ≤ (s.tasks.map Task.rank).sum := tasks_weight h
    have hsign := signOuts_le h (by rintro ⟨⟩)
    obtain ⟨hzero, hpos⟩ := unbuilt_frame h
    unfold AppState.weight
    omega
  | googleSignedOut before completed =>
    obtain ⟨_, -, -, hs, -⟩ := AppState.googleSignedOut_inv h
    exact weight_of_auth hs (signOuts_googleSignedOut h)
  | firebaseSignedOut before =>
    obtain ⟨-, hs, -⟩ := AppState.firebaseSignedOut_inv h
    exact weight_of_auth hs (signOuts_firebaseSignedOut h)
  | _ => exact weight_answers h ha

/-- **A press or a tick makes it larger by four at most.** -/
theorem weight_input (h : step s a = some (s', es)) (ha : a.comesBack = false) :
    s'.weight ≤ s.weight + 4 := by
  have hframe : a ≠ .frame := by
    rintro rfl
    cases ha
  have hanswers : rankOf a.answers = 0 := by
    cases a with
    | fetchVerseAnswer | generateOutputAnswer | signInAnswer | signUpAnswer | signInMethodsAnswer
    | resetAnswer | googleAnswer | checkAnswer | createAnswer | createVerifiedAnswer => cases ha
    | _ => rfl
  have htasks := tasks_weight h
  obtain ⟨c, hc, hbuilt⟩ := exists_opened h hframe
  unfold AppState.weight
  by_cases hlog : a = .logOut
  · subst hlog
    obtain rfl := hc.resolve_right (fun ho => ho.1)
    replace htasks : (s'.tasks.map Task.rank).sum ≤ (s.tasks.map Task.rank).sum := htasks
    have hsign := signOuts_logOut h
    omega
  · have hsign := signOuts_le h hlog
    have hrank := rank_input ha hc
    omega

/-! ### Something may come back -/

/-- An answer that the call may always get. -/
def Task.anAnswer : Task → Act
  | fetchVerse i => .fetchVerseAnswer i .threw
  | generateOutput i request => .generateOutputAnswer i request .threw
  | signIn i => .signInAnswer i .exception
  | signUp i => .signUpAnswer i .failure
  | fetchSignInMethods i => .signInMethodsAnswer i false
  | resetPassword i => .resetAnswer i .exception
  | signInWithGoogle i => .googleAnswer i none
  | checkIfFirstTimeLogin i σ => .checkAnswer i σ .exception false
  | createUser i σ => .createAnswer i σ .exception false
  | createVerifiedUser i σ => .createVerifiedAnswer i σ .exception

theorem isSome_anAnswer {u : Task} (hu : u ∈ s.tasks) : (step s u.anAnswer).isSome := by
  have hbind (f : AppState → Option (AppState × List Effect)) (hf : (f (s.done u)).isSome) :
      (s.finish u >>= f).isSome := by
    rw [AppState.finish_of_mem hu]
    exact hf
  cases u with
  | fetchVerse i =>
    refine hbind _ ?_
    cases (s.done (.fetchVerse i)).coverState i <;> rfl
  | checkIfFirstTimeLogin i σ =>
    refine hbind _ ?_
    unfold AppState.checkRest
    rw [if_neg (by rintro (⟨ho, -⟩ | ⟨ho, -⟩) <;> cases ho)]
    rfl
  | generateOutput | signIn | signUp | fetchSignInMethods | resetPassword | signInWithGoogle
  | createUser | createVerifiedUser => exact hbind _ rfl

/-- **As long as the app is not at rest, something may come back.** -/
theorem exists_comesBack (h : ¬ s.AtRest) : ∃ a, a.comesBack ∧ (step s a).isSome := by
  by_cases htasks : s.tasks = []
  · by_cases hsign : s.auth.signOuts = []
    · have hbuilt : s.nav.history.any (fun r => r.page.awaitsFrame) := by
        refine List.any_eq_true.mpr (Classical.byContradiction (fun hno => h ⟨htasks, hsign, ?_⟩))
        intro r hr
        exact Bool.eq_false_iff.mpr (fun hw => hno ⟨r, hr, hw⟩)
      refine ⟨.frame, rfl, ?_⟩
      show s.frame.isSome
      unfold AppState.frame
      rw [if_pos hbuilt]
      rfl
    · obtain ⟨⟨before, google⟩, hmem⟩ := List.exists_mem_of_ne_nil _ hsign
      cases google with
      | true =>
        refine ⟨.googleSignedOut before true, rfl, ?_⟩
        show (if _ then some _ else none).isSome
        rw [if_pos hmem]
        rfl
      | false =>
        refine ⟨.firebaseSignedOut before, rfl, ?_⟩
        show (if _ then some _ else none).isSome
        rw [if_pos hmem]
        rfl
  · obtain ⟨u, hu⟩ := List.exists_mem_of_ne_nil _ htasks
    refine ⟨u.anAnswer, ?_, isSome_anAnswer hu⟩
    cases u <;> rfl

/-! ### Whole runs -/

theorem weight_start (h : Starts s) : s.weight = 1 := by
  obtain ⟨hnav, htasks, -, -, hsign, -⟩ := h
  unfold AppState.weight
  rw [htasks, hsign, hnav]
  rfl

/-- **The app comes to rest.**  In every run, at most four things come back for each press and
each tick, apart from the first frame.  At the end the app is at rest, or something may come
back. -/
theorem comesBack_le {as : List Act} (h : Starts s) (he : app.exec s as = some (t, es)) :
    as.countP Act.comesBack + t.weight ≤ 1 + 4 * as.countP (fun a => !a.comesBack) ∧
      (t.AtRest ∨ ∃ a, a.comesBack ∧ (step t a).isSome) := by
  refine ⟨?_, Classical.or_iff_not_imp_left.mpr exists_comesBack⟩
  rw [← weight_start h]
  refine Machine.exec_countP_le (M := app) AppState.weight Act.comesBack 4 ?_ ?_ as he
  · exact fun s a s' es hst ha => weight_comesBack hst ha
  · exact fun s a s' es hst ha => weight_input hst ha

/-- The menu, Log Out, and everything that comes back. -/
def logsOut : List Act :=
  [.frame, .openMenu, .logOut, .firebaseSignedOut 1, .googleSignedOut 1 true, .firebaseSignedOut 1]

theorem comesBack_le_logsOut : ∃ t es, app.exec (startedBy "a" ["a"]) logsOut = some (t, es) ∧
    4 + t.weight ≤ 1 + 4 * 2 ∧ (t.AtRest ∨ ∃ a, a.comesBack ∧ (step t a).isSome) := by
  refine ⟨_, _, rfl, ?_⟩
  exact @comesBack_le (startedBy "a" ["a"]) _ _ logsOut (starts_startedBy "a" ["a"]) rfl

end GoodOmens.App
