import GoodOmens.App.Inversion

/-!
# A record behind every cover page

Four paths open a `CoverPage` for a user with a verified email.  Each should
leave a record of the user at the backend (`HasRecord`), and two of them make
one: the Google button, on a first login, and the verification page.

Neither looks at the result of `createUser`, and the Google button takes an
answer that says nothing about the record for one that says it is there, while
the other two paths ask nobody.  `FindsRecord` lists, path by path, what has to
be true for the page to open on a record, and `along_hasRecord_iff` says that
this is what it takes along any run.
-/

namespace GoodOmens.App

/-- When a cover page is opened for a user with a verified email, the backend
has a record of the user. -/
def HasRecord (_ : AppState) (_ : Act) (s' : AppState) (es : List Effect) : Prop :=
  ∀ path σ, .openCover path σ ∈ es → σ.emailVerified → σ.uid ∈ s'.records

/-- The record is there, or the request that the path waited for answers for
it: a `200` of `createUser`, a `200` of the check, or its `404`, on which the
path goes on to create the record. -/
def FindsRecord (s : AppState) : Act → Prop
  | .checkAnswer i σ o m => s.googleMounted i m → σ.emailVerified →
      o.Answered 200 ∨ o.Answered 404 ∨ σ.uid ∈ s.records
  | .createAnswer i σ o m => s.googleMounted i m → σ.emailVerified →
      o.Answered 200 ∨ σ.uid ∈ s.records
  | .createVerifiedAnswer i σ o => s.shows i Page.showsVerifyEmail → σ.emailVerified →
      o.Answered 200 ∨ σ.uid ∈ s.records
  | .signInAnswer i (.success uid emailVerified) => s.mounted i → emailVerified →
      uid ∈ s.records
  | .initializeFirebase _ => ∀ σ, s.verifiedUser = some σ → σ.uid ∈ s.records
  | _ => True

theorem mem_store {s : AppState} {uid u : Uid} {o : Outcome} :
    u ∈ (s.store uid o).records ↔ o.Answered 200 ∧ u = uid ∨ u ∈ s.records := by
  unfold AppState.store
  split
  · rename_i ho
    simp [ho]
  · rename_i ho
    simp [ho]

theorem verifiedUser_emailVerified {s : AppState} {σ : Session} (h : s.verifiedUser = some σ) :
    σ.emailVerified := by
  obtain ⟨-, hv⟩ := Option.filter_eq_some_iff.mp h
  exact hv

section

variable {s s' : AppState} {a : Act} {es : List Effect}

theorem hasRecord_nil : HasRecord s a s' [] := fun _ _ hm => absurd hm List.not_mem_nil

theorem hasRecord_openCover {path : SignInPath} {σ : Session} :
    HasRecord s a s' [.openCover path σ] ↔ (σ.emailVerified → σ.uid ∈ s'.records) := by
  constructor
  · intro hq
    exact hq path σ (List.mem_singleton.mpr rfl)
  · intro hrec path τ hm
    cases List.mem_singleton.mp hm
    exact hrec

/-- A page opened after `createUser` has its record if the answer was a `200`, or from
before. -/
theorem hasRecord_store {path : SignInPath} {σ : Session} {o : Outcome}
    (hr : s'.records = (s.store σ.uid o).records) :
    HasRecord s a s' [.openCover path σ] ↔
      (σ.emailVerified → o.Answered 200 ∨ σ.uid ∈ s.records) := by
  rw [hasRecord_openCover, hr, mem_store]
  simp only [and_true]

/-- One step: a cover page is opened on a record exactly when its path finds
one. -/
theorem hasRecord_iff (h : step s a = some (s', es)) :
    HasRecord s a s' es ↔ FindsRecord s a := by
  have hno (hn : ¬ s.OpensCover a) : HasRecord s a s' es := fun _ _ hm _ =>
    absurd (opensCover_of_mem h hm) hn
  cases a with
  | checkAnswer i σ o m =>
    obtain ⟨h200, -, hr, ⟨-, ho, rfl⟩ | ⟨ho, ⟨hi, -, rfl⟩ | ⟨hi, -, rfl⟩⟩⟩ :=
      AppState.checkAnswer_inv h
    · exact iff_of_true (by simp [HasRecord]) (fun _ _ => .inr (.inl ho))
    · rw [hasRecord_openCover, hr]
      constructor
      · intro hrec _ hv
        exact .inr (.inr (hrec hv))
      · intro hg hv
        rcases hg hi hv with h2 | h4 | hu
        · exact h200 h2
        · exact absurd h4 ho
        · exact hu
    · exact iff_of_true hasRecord_nil (fun hi' => absurd hi' hi)
  | createAnswer i σ o m =>
    obtain ⟨-, hr, ⟨hi, -, rfl⟩ | ⟨hi, -, rfl⟩⟩ := AppState.createAnswer_inv h
    · exact (hasRecord_store hr).trans ⟨fun hrec _ => hrec, fun hg => hg hi⟩
    · exact iff_of_true hasRecord_nil (fun hi' => absurd hi' hi)
  | createVerifiedAnswer i σ o =>
    obtain ⟨-, hr, ⟨hi, -, rfl⟩ | ⟨hi, -, rfl⟩⟩ := AppState.createVerifiedAnswer_inv h
    · exact (hasRecord_store hr).trans ⟨fun hrec _ => hrec, fun hg => hg hi⟩
    · exact iff_of_true hasRecord_nil (fun hi' => absurd hi' hi)
  | signInAnswer i answer =>
    obtain ⟨uid, v, rfl, -, hr, ⟨-, hi, rfl⟩ | ⟨-, hi, rfl⟩⟩ | ⟨-, hs, -, rfl⟩ :=
      AppState.signInAnswer_inv h
    · rw [hasRecord_openCover, hr]
      exact ⟨fun hrec _ => hrec, fun hg => hg hi⟩
    · exact iff_of_true hasRecord_nil (fun hi' => absurd hi' hi)
    · refine iff_of_true hasRecord_nil ?_
      cases answer with
      | success uid v => exact absurd rfl (hs uid v)
      | authException => trivial
      | exception => trivial
  | initializeFirebase i =>
    obtain ⟨rfl, rfl, hn⟩ | ⟨σ, hσ, rfl, rfl⟩ := AppState.initializeFirebase_inv h
    · exact iff_of_true hasRecord_nil (fun σ hσ => by rw [hn] at hσ; cases hσ)
    · rw [hasRecord_openCover]
      constructor
      · intro hrec τ hτ
        obtain rfl := Option.some.inj (hσ.symm.trans hτ)
        exact hrec (verifiedUser_emailVerified hσ)
      · intro hg _
        exact hg σ hσ
  | _ => exact iff_of_true (hno (fun hn => hn)) trivial

end

/-- **Along a run every cover page opens on a record exactly when each path
finds one.** -/
theorem along_hasRecord_iff (s : AppState) (as : List Act) :
    app.Along HasRecord s as ↔ app.Along (Machine.before FindsRecord) s as := by
  refine Machine.along_iff (fun _ => True) ?_ ?_ as s trivial
  · intro s a s' es _ h
    exact hasRecord_iff h
  · intros
    trivial

/-- A new user signs in with Google, the check throws, and the cover page opens
for a user whom the backend does not know. -/
theorem not_along_hasRecord :
    ¬ ∀ s, Starts s → ∀ as, app.Along HasRecord s as := by
  intro h
  have hrun := h startedByNobody starts_startedByNobody
    ([.frame, .open .login, .signInWithGoogle, .googleAnswer 2 (some ("a", true))] ++
      [.checkAnswer 2 ⟨0, "a", true⟩ .exception true])
  have hlast := Machine.Along.last hrun rfl rfl
  have hrec := hlast .google ⟨0, "a", true⟩ (by decide) rfl
  exact absurd hrec (by decide)

end GoodOmens.App
