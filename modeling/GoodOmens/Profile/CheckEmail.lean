import GoodOmens.Library.Machine
import GoodOmens.Services.User

/-!
# Checking the email

Every three seconds `checkTimer` of `_VerifyEmailPageState` starts a call of
`checkEmailVerified`, which waits twice: for Firebase to reload the user, and, if
the email is verified, for the backend to create him.  Only at its very end does it
cancel the timer and put a `CoverPage` in the place of the page.  So any number of
calls may be under way, and they outlive the page.

`Once` says what a reader of the page expects: one `createUser`, one navigation,
and nothing done to a page that is gone.  No call asks about the others, nor
whether the page is still there, and `along_once_iff` is what that comes to: the
answers must come while the page is there, and one `reload` alone may find the
email verified.
-/

namespace GoodOmens.Profile

/-- The page, its timer, and the calls of `checkEmailVerified` that wait: for
`reload` and for `createUser`.  `createUsers` and `navigations` count what the calls
have done. -/
structure Verification where
  mounted : Bool
  checkTimer : Bool
  isEmailVerified : Bool
  reloads : Nat
  creates : Nat
  createUsers : Nat
  navigations : Nat
deriving DecidableEq, Repr

/-- The timer ticks; a `reload` comes back or throws; a `createUser` comes back; the
page is taken off the tree. -/
inductive Verification.Act
  | tick
  | reloaded (emailVerified : Bool)
  | reloadFailed
  | created (outcome : Outcome)
  | dispose
deriving DecidableEq, Repr

/-- What a call does to its page, which may be gone, and to the backend. -/
inductive Verification.Effect
  | setState (mounted : Bool)
  | createUser
  | pushReplacement (mounted : Bool)
deriving DecidableEq, Repr

namespace Verification

variable (s : Verification)

/-- `initState` for a user whose email is unverified. -/
def opened : Verification where
  mounted := true
  checkTimer := true
  isEmailVerified := false
  reloads := 0
  creates := 0
  createUsers := 0
  navigations := 0

/-- `checkEmailVerified` up to its first `await`. -/
def tick : Option (Verification × List Effect) :=
  if s.checkTimer then some ({ s with reloads := s.reloads + 1 }, []) else none

/-- `checkEmailVerified` between its `await`s.  `setState` throws when the page is
gone. -/
def reloaded (emailVerified : Bool) : Option (Verification × List Effect) :=
  if s.reloads = 0 then none
  else
    let s := { s with reloads := s.reloads - 1 }
    if !s.mounted then some (s, [.setState false])
    else
      let s := { s with isEmailVerified := emailVerified }
      if s.isEmailVerified then
        some ({ s with creates := s.creates + 1, createUsers := s.createUsers + 1 },
          [.setState true, .createUser])
      else some (s, [.setState true])

def reloadFailed : Option (Verification × List Effect) :=
  if s.reloads = 0 then none else some ({ s with reloads := s.reloads - 1 }, [])

/-- The rest of `checkEmailVerified`.  The result of `createUser` is dropped;
`Navigator.of(context)` throws when the page is gone. -/
def created (_ : Outcome) : Option (Verification × List Effect) :=
  if s.creates = 0 then none
  else
    let s := { s with creates := s.creates - 1, checkTimer := false }
    if s.mounted then
      some ({ s with navigations := s.navigations + 1 }, [.pushReplacement true])
    else some (s, [.pushReplacement false])

/-- `dispose`.  A page that was replaced is still there until the page in its place
has come in. -/
def dispose : Option (Verification × List Effect) :=
  if s.mounted then some ({ s with mounted := false, checkTimer := false }, []) else none

def step : Verification.Act → Option (Verification × List Effect)
  | .tick => s.tick
  | .reloaded emailVerified => s.reloaded emailVerified
  | .reloadFailed => s.reloadFailed
  | .created outcome => s.created outcome
  | .dispose => s.dispose

end Verification

/-- The life of a `VerifyEmailPage`, and what comes after it. -/
def verification : Machine Verification Verification.Act Verification.Effect where
  start s := s = .opened
  step := Verification.step

/-- One `createUser` and one navigation so far, and this step does nothing to a page
that is gone. -/
structure Once (s' : Verification) (es : List Verification.Effect) : Prop where
  createUsers : s'.createUsers ≤ 1
  navigations : s'.navigations ≤ 1
  setState : .setState false ∉ es
  pushReplacement : .pushReplacement false ∉ es

/-- An answer comes while the page is there, and no `reload` finds the email
verified after another one has. -/
def ChecksOnce (s : Verification) : Verification.Act → Prop
  | .reloaded emailVerified => s.mounted = true ∧ (emailVerified = true → s.createUsers = 0)
  | .created _ => s.mounted = true
  | _ => True

variable {s s' : Verification} {a : Verification.Act} {es : List Verification.Effect}

/-- Every navigation, done or to come, is that of a `createUser`, and there is one of
these at most. -/
structure Counted (s : Verification) : Prop where
  calls : s.navigations + s.creates ≤ s.createUsers
  createUsers : s.createUsers ≤ 1

theorem Counted.once (h : Counted s) (hs : .setState false ∉ es)
    (hp : .pushReplacement false ∉ es) : Once s es :=
  ⟨h.createUsers, Nat.le_trans (Nat.le_trans (Nat.le_add_right _ _) h.calls) h.createUsers, hs, hp⟩

/-! ### What each handler can do -/

theorem Verification.tick_inv (h : s.tick = some (s', es)) :
    s' = { s with reloads := s.reloads + 1 } ∧ es = [] := by
  unfold Verification.tick at h
  split at h
  · cases h
    exact ⟨rfl, rfl⟩
  · cases h

theorem Verification.reloaded_inv {v : Bool} (h : s.reloaded v = some (s', es)) :
    s.mounted = false ∧ s' = { s with reloads := s.reloads - 1 } ∧ es = [.setState false] ∨
    s.mounted = true ∧ v = true ∧ s' = { s with
      reloads := s.reloads - 1
      isEmailVerified := true
      creates := s.creates + 1
      createUsers := s.createUsers + 1 } ∧ es = [.setState true, .createUser] ∨
    s.mounted = true ∧ v = false ∧ s' = { s with
      reloads := s.reloads - 1
      isEmailVerified := false } ∧ es = [.setState true] := by
  unfold Verification.reloaded at h
  split at h
  · cases h
  · dsimp only at h
    split at h
    · rename_i hm
      cases h
      exact .inl ⟨by simpa using hm, rfl, rfl⟩
    · rename_i hm
      have hm' : s.mounted = true := by simpa using hm
      cases v with
      | true =>
        cases h
        exact .inr (.inl ⟨hm', rfl, rfl, rfl⟩)
      | false =>
        cases h
        exact .inr (.inr ⟨hm', rfl, rfl, rfl⟩)

theorem Verification.reloadFailed_inv (h : s.reloadFailed = some (s', es)) :
    s' = { s with reloads := s.reloads - 1 } ∧ es = [] := by
  unfold Verification.reloadFailed at h
  split at h
  · cases h
  · cases h
    exact ⟨rfl, rfl⟩

theorem Verification.created_inv {o : Outcome} (h : s.created o = some (s', es)) : s.creates ≠ 0 ∧
    (s.mounted = true ∧ s' = { s with
      creates := s.creates - 1
      checkTimer := false
      navigations := s.navigations + 1 } ∧ es = [.pushReplacement true] ∨
    s.mounted = false ∧ s' = { s with creates := s.creates - 1, checkTimer := false } ∧
      es = [.pushReplacement false]) := by
  unfold Verification.created at h
  split at h
  · cases h
  · rename_i hc
    refine ⟨hc, ?_⟩
    dsimp only at h
    split at h
    · rename_i hm
      cases h
      exact .inl ⟨hm, rfl, rfl⟩
    · rename_i hm
      cases h
      exact .inr ⟨by simpa using hm, rfl, rfl⟩

theorem Verification.dispose_inv (h : s.dispose = some (s', es)) :
    s' = { s with mounted := false, checkTimer := false } ∧ es = [] := by
  unfold Verification.dispose at h
  split at h
  · cases h
    exact ⟨rfl, rfl⟩
  · cases h

/-! ### Steps and runs -/

theorem counted_opened : Counted .opened := ⟨Nat.le_refl 0, Nat.zero_le 1⟩

/-- **One step** does what it should exactly when it meets the condition, and then
the counts fit. -/
theorem once_step (hi : Counted s) (h : verification.step s a = some (s', es)) :
    (Once s' es ↔ ChecksOnce s a) ∧ (ChecksOnce s a → Counted s') := by
  cases a with
  | tick =>
    obtain ⟨rfl, rfl⟩ := Verification.tick_inv h
    have hi' : Counted { s with reloads := s.reloads + 1 } := ⟨hi.calls, hi.createUsers⟩
    exact ⟨iff_of_true (hi'.once List.not_mem_nil List.not_mem_nil) trivial, fun _ => hi'⟩
  | reloaded v =>
    rcases Verification.reloaded_inv h with
      ⟨hm, rfl, rfl⟩ | ⟨hm, rfl, rfl, rfl⟩ | ⟨hm, rfl, rfl, rfl⟩
    · have hno : ¬ ChecksOnce s (.reloaded v) := by
        intro hg
        cases hm.symm.trans hg.1
      exact ⟨iff_of_false (fun ho => ho.setState (List.mem_singleton_self _)) hno,
        fun hg => absurd hg hno⟩
    · have hcalls := hi.calls
      have hone := hi.createUsers
      have hcounted : s.createUsers = 0 → Counted { s with
          reloads := s.reloads - 1
          isEmailVerified := true
          creates := s.creates + 1
          createUsers := s.createUsers + 1 } := by
        intro hzero
        refine ⟨?_, ?_⟩
        · show s.navigations + (s.creates + 1) ≤ s.createUsers + 1
          omega
        · show s.createUsers + 1 ≤ 1
          omega
      refine ⟨⟨?_, ?_⟩, fun hg => hcounted (hg.2 rfl)⟩
      · intro ho
        have hle : s.createUsers + 1 ≤ 1 := ho.createUsers
        exact ⟨hm, fun _ => by omega⟩
      · intro hg
        exact (hcounted (hg.2 rfl)).once (by decide) (by decide)
    · have hi' : Counted { s with reloads := s.reloads - 1, isEmailVerified := false } :=
        ⟨hi.calls, hi.createUsers⟩
      exact ⟨iff_of_true (hi'.once (by decide) (by decide)) ⟨hm, fun hv => by cases hv⟩,
        fun _ => hi'⟩
  | reloadFailed =>
    obtain ⟨rfl, rfl⟩ := Verification.reloadFailed_inv h
    have hi' : Counted { s with reloads := s.reloads - 1 } := ⟨hi.calls, hi.createUsers⟩
    exact ⟨iff_of_true (hi'.once List.not_mem_nil List.not_mem_nil) trivial, fun _ => hi'⟩
  | created o =>
    obtain ⟨hc, ⟨hm, rfl, rfl⟩ | ⟨hm, rfl, rfl⟩⟩ := Verification.created_inv (o := o) h
    · have hcalls := hi.calls
      have hi' : Counted { s with
          creates := s.creates - 1
          checkTimer := false
          navigations := s.navigations + 1 } := by
        refine ⟨?_, hi.createUsers⟩
        show s.navigations + 1 + (s.creates - 1) ≤ s.createUsers
        omega
      exact ⟨iff_of_true (hi'.once (by decide) (by decide)) hm, fun _ => hi'⟩
    · have hno : ¬ ChecksOnce s (.created o) := by
        intro hg
        cases hm.symm.trans (show s.mounted = true from hg)
      exact ⟨iff_of_false (fun ho => ho.pushReplacement (List.mem_singleton_self _)) hno,
        fun hg => absurd hg hno⟩
  | dispose =>
    obtain ⟨rfl, rfl⟩ := Verification.dispose_inv h
    have hi' : Counted { s with mounted := false, checkTimer := false } :=
      ⟨hi.calls, hi.createUsers⟩
    exact ⟨iff_of_true (hi'.once List.not_mem_nil List.not_mem_nil) trivial, fun _ => hi'⟩

/-- **Along the life of a page verification completes once exactly when every answer
finds the page there and one `reload` alone finds the email verified.** -/
theorem along_once_iff (as : List Verification.Act) :
    verification.Along (fun _ _ s' es => Once s' es) .opened as ↔
      verification.Along (Machine.before ChecksOnce) .opened as := by
  refine Machine.along_iff Counted ?_ ?_ as _ counted_opened
  · intro s a s' es hi hst
    exact (once_step hi hst).1
  · intro s a s' es hi hg hst
    exact (once_step hi hst).2 hg

/-- Two checks overlap, and both find the email verified. -/
theorem not_along_once :
    ¬ ∀ as, verification.Along (fun _ _ s' es => Once s' es) .opened as := by
  intro h
  have hlast := Machine.Along.last
    (h ([.tick, .tick, .reloaded true] ++ [.reloaded true])) rfl rfl
  exact absurd hlast.createUsers (by decide)

end GoodOmens.Profile
