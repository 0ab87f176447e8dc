import GoodOmens.App.Inversion

/-!
# Which calls a step starts

Whatever a step does, at most one call comes back with it (`answers`), and at most one is put
in flight.  `starts` says which: the one that the handler of the input awaits, with the route
in front, or the next one of a handler that awaits more than one.  `tasks_step` says that
nothing else happens to the calls in flight.
-/

namespace GoodOmens.App

/-- The call that comes back with the step. -/
def Act.answers : Act → Option Task
  | .fetchVerseAnswer i _ => some (.fetchVerse i)
  | .generateOutputAnswer i request _ => some (.generateOutput i request)
  | .signInAnswer i _ => some (.signIn i)
  | .signUpAnswer i _ => some (.signUp i)
  | .signInMethodsAnswer i _ => some (.fetchSignInMethods i)
  | .resetAnswer i _ => some (.resetPassword i)
  | .googleAnswer i _ => some (.signInWithGoogle i)
  | .checkAnswer i σ _ _ => some (.checkIfFirstTimeLogin i σ)
  | .createAnswer i σ _ _ => some (.createUser i σ)
  | .createVerifiedAnswer i σ _ => some (.createVerifiedUser i σ)
  | _ => none

/-- The call that the step may put in flight. -/
def AppState.starts (s : AppState) : Act → Option Task
  | .tapBible => s.front.map (fun r => .fetchVerse r.id)
  | .signIn => s.front.map (fun r => .signIn r.id)
  | .signUp => s.front.map (fun r => .signUp r.id)
  | .resetPassword => s.front.map (fun r => .resetPassword r.id)
  | .signInWithGoogle => s.front.map (fun r => .signInWithGoogle r.id)
  | .fetchVerseAnswer i .ok => some (.generateOutput i s.nextRequest)
  | .signUpAnswer i .emailAlreadyInUse => some (.fetchSignInMethods i)
  | .googleAnswer i (some (uid, v)) => some (.checkIfFirstTimeLogin i (s.nextSession uid v))
  | .checkAnswer i σ o _ =>
    if UserService.checkIfFirstTimeLogin o then some (.createUser i σ) else none
  | .reload i v => s.auth.currentUser.map (fun σ =>
      .createVerifiedUser i { σ with emailVerified := σ.emailVerified || v })
  | _ => none

/-- The calls in flight without the one that comes back. -/
def AppState.others (s : AppState) (a : Act) : List Task :=
  match a.answers with
  | some t => s.tasks.erase t
  | none => s.tasks

/-- The calls in flight after the step: the others, and perhaps the one that it starts. -/
def CallsAfter (s : AppState) (a : Act) (s' : AppState) : Prop :=
  s'.tasks = s.others a ∨ ∃ t, s.starts a = some t ∧ s'.tasks = t :: s.others a

variable {s s' t' : AppState} {a : Act} {es : List Effect} {t : Task} {i : Nat}

theorem tasks_store (s : AppState) (uid : Uid) (o : Outcome) : (s.store uid o).tasks = s.tasks := by
  unfold AppState.store
  split <;> rfl

theorem tasks_googleOpensCover (s : AppState) (σ : Session) (m : Bool) :
    (s.googleOpensCover σ m).1.tasks = s.tasks := by
  unfold AppState.googleOpensCover
  split <;> rfl

theorem tasks_postFrame (s : AppState) : s.postFrame.tasks = s.tasks := by
  obtain ⟨-, ⟨hs, -⟩ | ⟨_, -, hs, -⟩⟩ := AppState.postFrame_inv s
  · rw [hs]
  · rw [hs]
    rfl

theorem tasks_initializeFirebaseRest (s : AppState) :
    s.initializeFirebaseRest.1.tasks = s.tasks := by
  rcases AppState.initializeFirebaseRest_inv s with ⟨hs, -⟩ | ⟨_, -, hs⟩
  · rw [hs]
  · rw [hs]
    rfl

theorem tasks_generateOutputRest (s : AppState) (request : Nat) (m : Bool) (answer : Answer) :
    (s.generateOutputRest request m answer).tasks = s.tasks := by
  cases m <;> cases answer <;> rfl

theorem tasks_signInRest (s : AppState) (m : Bool) (answer : SignInAnswer) :
    (s.signInRest m answer).1.tasks = s.tasks := by
  cases m <;> cases answer <;> rfl

theorem tasks_signInMethodsRest (s : AppState) (m isEmpty : Bool) :
    (s.signInMethodsRest m isEmpty).tasks = s.tasks := by
  cases m <;> cases isEmpty <;> rfl

theorem tasks_resetRest (s : AppState) (m : Bool) (answer : ResetAnswer) :
    (s.resetRest m answer).tasks = s.tasks := by
  cases m <;> cases answer <;> rfl

theorem tasks_createVerifiedRest (s : AppState) (σ : Session) (o : Outcome) (m : Bool) :
    (s.createVerifiedRest σ o m).1.tasks = s.tasks := by
  cases m <;> exact tasks_store s σ.uid o

/-- The button of a form, or of Google: the call awaits for the route in front. -/
theorem calls_press {task : Nat → Task} {r : Route Page} (hf : s.front = some r)
    (ha : a.answers = none) (hs : s.starts a = s.front.map (fun r => task r.id))
    (ht : s'.tasks = task r.id :: s.tasks) : CallsAfter s a s' := by
  refine .inr ⟨task r.id, by rw [hs, hf]; rfl, ?_⟩
  rw [ht, AppState.others, ha]

theorem calls_tapBible (h : s.tapBible = some (s', es)) : CallsAfter s .tapBible s' := by
  obtain ⟨_, _, hf, -, rfl, -⟩ := AppState.tapBible_inv h
  exact calls_press hf rfl rfl rfl

theorem calls_signInWithGoogle (h : s.signInWithGoogle = some (s', es)) :
    CallsAfter s .signInWithGoogle s' := by
  unfold AppState.signInWithGoogle at h
  split at h
  · rename_i hf
    split at h
    · cases h
      exact calls_press hf rfl rfl rfl
    · cases h
  · cases h

theorem calls_frame (h : s.frame = some (s', es)) : CallsAfter s .frame s' := by
  left
  unfold AppState.frame at h
  split at h
  · cases h
    exact tasks_postFrame _
  · cases h

/-! The rests of the handlers, with the page there or not. -/

theorem calls_fetchVerseRest {c : Cover} {answer : Answer} (hn : s.nextRequest = t'.nextRequest)
    (ht : t'.tasks = s.tasks.erase (.fetchVerse i)) :
    CallsAfter s (.fetchVerseAnswer i answer) (t'.fetchVerseRest i c answer) := by
  cases answer with
  | ok =>
    refine .inr ⟨.generateOutput i s.nextRequest, rfl, ?_⟩
    rw [hn]
    exact congrArg _ ht
  | error => exact .inl ht
  | threw => exact .inl ht

theorem calls_signUpRest (m : Bool) (answer : SignUpAnswer) :
    CallsAfter s (.signUpAnswer i answer) ((s.done (.signUp i)).signUpRest i m answer) := by
  cases m with
  | false => cases answer <;> exact .inl rfl
  | true =>
    cases answer with
    | success uid => exact .inl rfl
    | emailAlreadyInUse => exact .inr ⟨_, rfl, rfl⟩
    | failure => exact .inl rfl

theorem calls_checkRest {σ : Session} {o : Outcome} {m b : Bool}
    (h : (s.done (.checkIfFirstTimeLogin i σ)).checkRest i σ o m = some (s', es)) :
    CallsAfter s (.checkAnswer i σ o b) s' := by
  unfold AppState.checkRest at h
  split at h
  · cases h
  · split at h
    · rename_i hfirst
      cases h
      exact .inr ⟨_, if_pos hfirst, rfl⟩
    · have htasks := tasks_googleOpensCover (s.done (.checkIfFirstTimeLogin i σ)) σ m
      rw [Option.some.inj h] at htasks
      exact .inl htasks

theorem calls_createRest {σ : Session} {o : Outcome} {m b : Bool}
    (h : ((s.done (.createUser i σ)).store σ.uid o).googleOpensCover σ m = (s', es)) :
    CallsAfter s (.createAnswer i σ o b) s' := by
  have htasks := tasks_googleOpensCover ((s.done (.createUser i σ)).store σ.uid o) σ m
  rw [h, tasks_store] at htasks
  exact .inl htasks

theorem calls_reloadRest {v : Bool} (h : s.reloadRest i v = some (s', es)) :
    CallsAfter s (.reload i v) s' := by
  unfold AppState.reloadRest at h
  split at h
  · rename_i σ hσ
    dsimp only at h
    split at h
    · cases h
      refine .inr ⟨_, ?_, rfl⟩
      show s.auth.currentUser.map _ = _
      rw [hσ]
      rfl
    · cases h
      exact .inl rfl
  · cases h

theorem calls_fetchVerseAnswer {answer : Answer}
    (h : s.fetchVerseAnswer i answer = some (s', es)) :
    CallsAfter s (.fetchVerseAnswer i answer) s' := by
  replace h := (AppState.finish_bind h).2
  split at h
  · cases h
    exact calls_fetchVerseRest rfl rfl
  · cases h
    exact .inl rfl

theorem calls_googleAnswer {user : Option (Uid × Bool)}
    (h : s.googleAnswer i user = some (s', es)) : CallsAfter s (.googleAnswer i user) s' := by
  replace h := (AppState.finish_bind h).2
  split at h <;> cases h
  · exact .inr ⟨_, rfl, rfl⟩
  · exact .inl rfl

/-- **One call comes back at most, one is started at most.** -/
theorem tasks_step (h : step s a = some (s', es)) : CallsAfter s a s' := by
  cases a with
  | tapBible => exact calls_tapBible h
  | seeMore =>
    obtain ⟨_, _, _, _, -, rfl, -⟩ := AppState.seeMore_inv h
    exact .inl rfl
  | openMenu =>
    obtain ⟨-, rfl, -⟩ := AppState.openMenu_inv h
    exact .inl rfl
  | systemBack =>
    obtain ⟨rfl | rfl, -⟩ := AppState.systemBack_inv h
    · exact .inl rfl
    · exact .inl rfl
  | backButton =>
    obtain ⟨rfl, -⟩ := AppState.backButton_inv h
    exact .inl rfl
  | «open» p =>
    obtain ⟨-, -, rfl, -⟩ := AppState.openPage_inv h
    exact .inl rfl
  | replace p =>
    obtain ⟨-, rfl, -⟩ := AppState.replacePage_inv h
    exact .inl rfl
  | logOut =>
    obtain ⟨rfl, -⟩ := AppState.logOut_inv h
    exact .inl rfl
  | signIn | signUp | resetPassword =>
    obtain ⟨_, hf, rfl, -⟩ := AppState.press_inv h
    exact calls_press hf rfl rfl rfl
  | signInWithGoogle => exact calls_signInWithGoogle h
  | frame => exact calls_frame h
  | rebuild i =>
    obtain ⟨_, -, rfl, -⟩ := AppState.rebuild_inv h
    exact .inl rfl
  | initializeFirebase i =>
    obtain ⟨rfl, -⟩ | ⟨_, -, rfl, -⟩ := AppState.initializeFirebase_inv h
    · exact .inl rfl
    · exact .inl rfl
  | reload i v =>
    replace h : s.reload i v = some (s', es) := h
    unfold AppState.reload at h
    split at h
    · exact calls_reloadRest h
    · cases h
  | fetchVerseAnswer i answer => exact calls_fetchVerseAnswer h
  | generateOutputAnswer i request answer =>
    obtain ⟨rfl, -⟩ := Prod.mk.inj (Option.some.inj (AppState.finish_bind h).2)
    exact .inl (tasks_generateOutputRest _ request _ answer)
  | signInAnswer i answer =>
    have hs := congrArg Prod.fst (Option.some.inj (AppState.finish_bind h).2)
    rw [← show _ = s' from hs]
    exact .inl (tasks_signInRest _ _ answer)
  | signUpAnswer i answer =>
    obtain ⟨rfl, -⟩ := Prod.mk.inj (Option.some.inj (AppState.finish_bind h).2)
    exact calls_signUpRest _ answer
  | signInMethodsAnswer i isEmpty =>
    obtain ⟨rfl, -⟩ := Prod.mk.inj (Option.some.inj (AppState.finish_bind h).2)
    exact .inl (tasks_signInMethodsRest _ _ isEmpty)
  | resetAnswer i answer =>
    obtain ⟨rfl, -⟩ := Prod.mk.inj (Option.some.inj (AppState.finish_bind h).2)
    exact .inl (tasks_resetRest _ _ answer)
  | googleAnswer i user => exact calls_googleAnswer h
  | checkAnswer i σ o m => exact calls_checkRest (AppState.finish_bind h).2
  | createAnswer i σ o m => exact calls_createRest (Option.some.inj (AppState.finish_bind h).2)
  | createVerifiedAnswer i σ o =>
    have hs := congrArg Prod.fst (Option.some.inj (AppState.finish_bind h).2)
    rw [← show _ = s' from hs]
    exact .inl (tasks_createVerifiedRest _ σ o _)
  | googleSignedOut b c =>
    obtain ⟨_, -, -, rfl, -⟩ := AppState.googleSignedOut_inv h
    exact .inl rfl
  | firebaseSignedOut b =>
    obtain ⟨-, rfl, -⟩ := AppState.firebaseSignedOut_inv h
    exact .inl rfl

theorem mem_tasks_of_others (ht : t ∈ s.others a) : t ∈ s.tasks := by
  unfold AppState.others at ht
  split at ht
  · exact List.mem_of_mem_erase ht
  · exact ht

/-- A call that is in flight was so before, or the step has started it. -/
theorem mem_tasks_of_calls (h : CallsAfter s a s') (ht : t ∈ s'.tasks) :
    t ∈ s.tasks ∨ s.starts a = some t := by
  rcases h with hs | ⟨u, hu, hs⟩
  · rw [hs] at ht
    exact .inl (mem_tasks_of_others ht)
  · rw [hs] at ht
    rcases List.mem_cons.mp ht with rfl | ht
    · exact .inr hu
    · exact .inl (mem_tasks_of_others ht)

theorem mem_tasks_step (h : step s a = some (s', es)) (ht : t ∈ s'.tasks) :
    t ∈ s.tasks ∨ s.starts a = some t := mem_tasks_of_calls (tasks_step h) ht

/-- What comes back was in flight. -/
theorem mem_tasks_of_answers (h : step s a = some (s', es)) (ha : a.answers = some t) :
    t ∈ s.tasks := by
  cases a with
  | fetchVerseAnswer | generateOutputAnswer | signInAnswer | signUpAnswer | signInMethodsAnswer
  | resetAnswer | googleAnswer | checkAnswer | createAnswer | createVerifiedAnswer =>
    cases ha
    exact (AppState.finish_bind h).1
  | _ => cases ha

end GoodOmens.App
