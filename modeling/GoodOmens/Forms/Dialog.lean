import GoodOmens.Forms.Handlers

/-!
# What a handler leaves behind

When `signIn`, `signUp` or `resetPassword` has ended, its loading dialog should be gone
and nothing else with it, no exception should have got out, and a call that failed should
have left a message or led to another page (`EndsWell`).

`runsWell_iff` says for which outcomes this is so.  `signIn` has messages for six codes
only, and after any other exception it leaves the dialog where it is.  `signUp` asks
Firebase a second time inside its `on` clause, where nothing catches what that call
throws.  `resetPassword` ends its `on` clause with `navigatorKey.currentState!`, which is
null, and has no clause for other exceptions; so it ends well after a success only.
-/

namespace GoodOmens.Forms

open App (Page)
open Navigator

namespace Submission

/-- The call that the form is for was made, and has failed. -/
def Fails (validate : String → Bool) (fields : TextFields) : Submission → Prop
  | signUp outcome _ => isValid validate fields = true ∧ ∃ thrown, outcome = .error thrown
  | signIn outcome | resetPassword outcome => ∃ thrown, outcome = .error thrown

/-- A handler that has gone from `s` to `t`.  `s.nav.next` is the identity that its
dialog got. -/
structure EndsWell (validate : String → Bool) (fields : TextFields) (i : Nat)
    (p : Submission) (s : FormState) (result : Except Thrown Unit) (t : FormState) : Prop where
  dialogGone : s.nav.next ∉ t.nav.ids
  othersStay : ∀ r, Removed s.nav t.nav r → r.id = i ∧ p = .signIn (.ok ())
  nothingEscapes : result = .ok ()
  reported : p.Fails validate fields →
    s.snackBars.length < t.snackBars.length ∨ ∃ r, t.nav.top = some r ∧ s.nav.next < r.id

/-- The codes that `signIn` has a message for. -/
def signInCodes : List String :=
  ["channel-error", "network-request-failed", "INVALID_LOGIN_CREDENTIALS", "wrong-password",
    "invalid-email", "unknown"]

/-- The outcomes that the handler is prepared for. -/
def Prepared (validate : String → Bool) (fields : TextFields) : Submission → Prop
  | signIn outcome => outcome = .ok () ∨
      ∃ code message, outcome = .error (.firebaseAuthException code message) ∧ code ∈ signInCodes
  | signUp outcome signInMethods => isValid validate fields = false ∨
      ¬ ∃ message thrown,
        outcome = .error (.firebaseAuthException "email-already-in-use" message) ∧
          signInMethods = .error thrown
  | resetPassword outcome => outcome = .ok ()

end Submission

section

variable {n m : Navigator Page} {r : Route Page} {page : Page}

/-! ### The dialog comes and goes -/

theorem not_removed_of_subset (h : n.history ⊆ m.history) : ¬ Removed n m r :=
  fun hr => hr.2 r (h hr.1) rfl

theorem next_not_mem_ids : n.next ∉ n.ids := fun h => Nat.lt_irrefl _ (lt_next_of_mem h)

theorem next_not_mem_dismissed : n.next ∉ (dismissed n).ids := next_not_mem_ids

theorem not_removed_dismissed : ¬ Removed n (dismissed n) r :=
  not_removed_of_subset (List.Subset.refl _)

/-- Another page takes the identity after that of the dialog. -/
theorem next_not_mem_push_dismissed : n.next ∉ ((dismissed n).push page).ids := by
  rw [ids_push]
  intro h
  rcases List.mem_cons.mp h with he | hm
  · exact absurd he (Nat.ne_of_lt (Nat.lt_succ_self n.next))
  · exact next_not_mem_dismissed hm

theorem not_removed_push_dismissed : ¬ Removed n ((dismissed n).push page) r :=
  not_removed_of_subset (List.subset_cons_self _ _)

/-- Replacing the dialog is dismissing it and pushing. -/
theorem pushReplacement_dialog :
    (n.push .loadingDialog).pushReplacement page = (dismissed n).push page := rfl

theorem pushReplacement_dismissed (h : n.history ≠ []) :
    (dismissed n).pushReplacement page = (dismissed n).pop.push page := by
  obtain ⟨t, ts, hh⟩ := List.exists_cons_of_ne_nil h
  have hd : (dismissed n).history = t :: ts := hh
  rw [Navigator.pushReplacement, hd]

/-- Only the page on top goes when another one takes its place. -/
theorem top_of_removed_pushReplacement
    (h : Removed n ((dismissed n).pushReplacement page) r) (hn : n.history ≠ []) :
    n.top = some r := by
  rw [pushReplacement_dismissed hn] at h
  refine removed_pop.mp ⟨h.1, ?_⟩
  intro t ht
  exact h.2 t (mem_push.mpr (.inr ht))

theorem next_not_mem_pushReplacement (hn : n.history ≠ []) :
    n.next ∉ ((dismissed n).pushReplacement page).ids := by
  rw [pushReplacement_dismissed hn, ids_push, ids_pop]
  intro h
  rcases List.mem_cons.mp h with he | hm
  · exact absurd he (Nat.ne_of_lt (Nat.lt_succ_self n.next))
  · exact next_not_mem_dismissed (List.mem_of_mem_drop hm)

end

/-! ### The outcomes -/

namespace Submission

variable {validate : String → Bool} {fields : TextFields} {i : Nat} {p : Submission}
  {s t : FormState} {result : Except Thrown Unit} {page : Page}

/-- The dialog was popped, and a call that has failed has left a message. -/
theorem endsWell_of_dismissed (ht : t.nav = dismissed s.nav)
    (hm : p.Fails validate fields → s.snackBars.length < t.snackBars.length) :
    p.EndsWell validate fields i s (.ok ()) t where
  dialogGone := by
    rw [ht]
    exact next_not_mem_dismissed
  othersStay := by
    intro r hr
    rw [ht] at hr
    exact absurd hr not_removed_dismissed
  nothingEscapes := rfl
  reported := fun hf => .inl (hm hf)

/-- The dialog was popped and another page is open. -/
theorem endsWell_of_push (ht : t.nav = (dismissed s.nav).push page) :
    p.EndsWell validate fields i s (.ok ()) t where
  dialogGone := by
    rw [ht]
    exact next_not_mem_push_dismissed
  othersStay := by
    intro r hr
    rw [ht] at hr
    exact absurd hr not_removed_push_dismissed
  nothingEscapes := rfl
  reported := by
    intro _
    rw [ht]
    exact .inr ⟨⟨s.nav.next + 1, page⟩, rfl, Nat.lt_succ_self _⟩

/-- The dialog is still there. -/
theorem not_endsWell_of_shown (ht : t.nav = s.nav.push .loadingDialog) :
    ¬ p.EndsWell validate fields i s result t := by
  intro h
  refine h.dialogGone ?_
  rw [ht, ids_push]
  exact List.mem_cons_self

theorem not_endsWell_of_throws {thrown : Thrown} :
    ¬ p.EndsWell validate fields i s (.error thrown) t := by
  intro h
  cases h.nothingEscapes

/-- The dialog is gone, and the failure with it. -/
theorem not_endsWell_of_silent (ht : t.nav = dismissed s.nav) (hm : t.snackBars = s.snackBars)
    (hf : p.Fails validate fields) : ¬ p.EndsWell validate fields i s result t := by
  intro h
  rcases h.reported hf with hlt | ⟨r, hr, hlt⟩
  · rw [hm] at hlt
    exact Nat.lt_irrefl _ hlt
  · rw [ht] at hr
    have hmem : r ∈ s.nav.history := mem_of_top hr
    exact Nat.lt_asymm hlt (s.nav.lt_next r hmem)

/-- What `p` does from `s`, and whether that is well. -/
def RunsWell (validate : String → Bool) (fields : TextFields) (i : Nat) (p : Submission)
    (s : FormState) : Prop :=
  let (result, t) := (p.run validate fields i).exec s
  p.EndsWell validate fields i s result t

theorem signInMessage_isSome_iff {code : String} :
    (signInMessage code).isSome ↔ code ∈ signInCodes := by
  unfold signInMessage signInCodes
  split <;> simp_all

theorem runsWell_signIn {outcome : Except Thrown Unit} (h : s.nav.top = some ⟨i, .login⟩) :
    RunsWell validate fields i (.signIn outcome) s ↔ (signIn outcome).Prepared validate fields := by
  have hfind : (s.nav.find i).isSome := isSome_find (mem_of_top h)
  have hne : s.nav.history ≠ [] := List.ne_nil_of_mem (mem_of_top h)
  unfold RunsWell run
  cases outcome with
  | ok u =>
    rw [signIn_success hfind]
    refine iff_of_true ?_ (.inl rfl)
    refine ⟨next_not_mem_pushReplacement hne, ?_, rfl, ?_⟩
    · intro r hr
      have htop := top_of_removed_pushReplacement hr hne
      rw [h] at htop
      obtain rfl := Option.some.inj htop
      exact ⟨rfl, rfl⟩
    · rintro ⟨thrown, hthrown⟩
      cases hthrown
  | error thrown =>
    cases thrown with
    | firebaseAuthException code message =>
      rw [signIn_authException hfind]
      have hprepared : (signIn (.error (.firebaseAuthException code message))).Prepared validate
          fields ↔ code ∈ signInCodes := by simp [Prepared]
      rw [hprepared, ← signInMessage_isSome_iff]
      cases hm : signInMessage code with
      | some content =>
        refine iff_of_true (endsWell_of_dismissed rfl ?_) rfl
        intro _
        simp
      | none =>
        refine iff_of_false (not_endsWell_of_silent rfl ?_ ⟨_, rfl⟩) (by decide)
        simp
    | other e =>
      rw [signIn_other hfind]
      refine iff_of_false (not_endsWell_of_shown rfl) ?_
      rintro (hok | ⟨code, message, hauth, -⟩)
      · cases hok
      · cases hauth

theorem runsWell_signUp {outcome : Except Thrown Unit}
    {signInMethods : Except Thrown (List String)} (h : s.nav.top = some ⟨i, .signUp⟩) :
    RunsWell validate fields i (.signUp outcome signInMethods) s ↔
      (signUp outcome signInMethods).Prepared validate fields := by
  have hfind : (s.nav.find i).isSome := isSome_find (mem_of_top h)
  unfold RunsWell run
  cases hv : isValid validate fields with
  | false =>
    rw [signUp_invalid hv]
    refine iff_of_true ?_ (.inl hv)
    refine ⟨next_not_mem_ids, ?_, rfl, ?_⟩
    · intro r hr
      exact absurd hr not_removed_self
    · intro hf
      rw [hf.1] at hv
      cases hv
  | true =>
    have hprepared : (signUp outcome signInMethods).Prepared validate fields ↔
        ¬ ∃ message thrown,
          outcome = .error (.firebaseAuthException "email-already-in-use" message) ∧
            signInMethods = .error thrown := by simp [Prepared, hv]
    rw [hprepared]
    cases outcome with
    | ok u =>
      rw [signUp_success hfind hv]
      exact iff_of_true (endsWell_of_push rfl) (by simp)
    | error thrown =>
      cases thrown with
      | firebaseAuthException code message =>
        by_cases hc : code = "email-already-in-use"
        · subst hc
          rw [signUp_emailAlreadyInUse hfind hv]
          cases signInMethods with
          | error thrown =>
            refine iff_of_false not_endsWell_of_throws ?_
            exact fun hno => hno ⟨message, thrown, rfl, rfl⟩
          | ok methods =>
            refine iff_of_true ?_ (by simp)
            cases methods with
            | nil => exact endsWell_of_push rfl
            | cons m methods =>
              refine endsWell_of_dismissed rfl ?_
              intro _
              simp
        · rw [signUp_authException hfind hv hc]
          refine iff_of_true (endsWell_of_dismissed rfl ?_) (by simp [hc])
          intro _
          simp
      | other e =>
        rw [signUp_other hfind hv]
        refine iff_of_true (endsWell_of_dismissed rfl ?_) (by simp)
        intro _
        simp

theorem runsWell_resetPassword {outcome : Except Thrown Unit}
    (h : s.nav.top = some ⟨i, .forgotPassword⟩) :
    RunsWell validate fields i (.resetPassword outcome) s ↔
      (resetPassword outcome).Prepared validate fields := by
  have hfind : (s.nav.find i).isSome := isSome_find (mem_of_top h)
  unfold RunsWell run
  cases outcome with
  | ok u =>
    rw [resetPassword_success hfind]
    exact iff_of_true (endsWell_of_push pushReplacement_dialog) rfl
  | error thrown =>
    refine iff_of_false ?_ (by intro he; cases he)
    cases thrown with
    | firebaseAuthException code message =>
      rw [resetPassword_authException hfind]
      exact not_endsWell_of_throws
    | other e =>
      rw [resetPassword_other hfind]
      exact not_endsWell_of_throws

/-- **A handler ends well exactly after the outcomes that it is prepared for.** -/
theorem runsWell_iff (p : Submission) (h : s.nav.top = some ⟨i, p.page⟩) :
    RunsWell validate fields i p s ↔ p.Prepared validate fields := by
  cases p with
  | signIn outcome => exact runsWell_signIn h
  | signUp outcome signInMethods => exact runsWell_signUp h
  | resetPassword outcome => exact runsWell_resetPassword h

/-- The stack with the login page over the auth page. -/
def loginState : FormState where
  nav := (Navigator.home .auth).push .login
  snackBars := []
  calls := []

/-- A sign-in whose password was wrong. -/
theorem runsWell_wrongPassword :
    RunsWell (fun email => email.isEmpty = false) ⟨"adam@eden.org", "apple", ""⟩ 1
      (.signIn (.error (.firebaseAuthException "wrong-password" none))) loginState :=
  (runsWell_iff _ rfl).mpr (.inr ⟨"wrong-password", none, rfl, by decide⟩)

/-- A sign-in during which something else is thrown: the dialog stays. -/
theorem not_runsWell :
    ¬ ∀ (validate : String → Bool) (fields : TextFields) (i : Nat) (p : Submission)
      (s : FormState), s.nav.top = some ⟨i, p.page⟩ → RunsWell validate fields i p s := by
  intro h
  have hwell := h (fun email => email.isEmpty = false) ⟨"adam@eden.org", "apple", ""⟩ 1
    (.signIn (.error (.other .clientException))) loginState rfl
  rcases (runsWell_signIn rfl).mp hwell with hok | ⟨code, message, hauth, -⟩
  · cases hok
  · cases hauth

end Submission

end GoodOmens.Forms
