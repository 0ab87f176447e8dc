import GoodOmens.Library.Machine
import GoodOmens.Services.User

/-!
# The subscription flag

`UserSubscription` holds one flag for the whole app.  It is written by
`CoverPage.initializeUserData`, by `SubscriptionPage` and by `UnsubscribePage`,
each of which has made a request for the user its page was opened with.

Next to it stands what the flag is about: who is signed in, and for every user
the last status that the backend has acknowledged.  A set flag should mean that
the user who is signed in is subscribed (`Agrees`).  Two things are against it:
the flag outlives the session in which it was set, and the pages take a request
that threw, whose result is neither `"success"` nor `"error"`, for one that
succeeded.  `along_agrees_iff` gives the exact condition, operation by operation
(`KeepsAgreement`).
-/

namespace GoodOmens.Profile

/-- The flag, the user who is signed in, and the last status that the backend
acknowledged for a user: `1` is subscribed, `0` is not. -/
structure Subscription where
  isSubscribed : Bool
  currentUser : Option String
  acknowledged : String → Option Int

/-- The operations, each with the user its request was made for, the outcome, and
whether the page is still there when it comes. -/
inductive Operation
  | load (id : String) (outcome : Outcome) (mounted : Bool)
  | subscribeMonth (id : String) (outcome : Outcome) (mounted : Bool)
  | subscribeYear (id : String) (outcome : Outcome) (mounted : Bool)
  | unsubscribe (id : String) (outcome : Outcome) (mounted : Bool)
  | signOut
  | signIn (id : String)
deriving DecidableEq, Repr

namespace Subscription

variable (s : Subscription)

/-- `UserSubscription.setSubscription`. -/
def setSubscription (status : Bool) : Subscription := { s with isSubscribed := status }

/-- The backend has said what the status of a user is. -/
def acknowledge (id : String) (status : Int) : Subscription :=
  { s with acknowledged := fun u => if u = id then some status else s.acknowledged u }

/-- `CoverPage.initializeUserData`: everything that throws, `setState` of a page
that is gone included, ends in its `catch`. -/
def initializeUserData (jsonDecode : String → Except DartError Json) (id : String)
    (o : Outcome) (mounted : Bool) : Subscription :=
  match UserService.getUserById jsonDecode o with
  | .error _ => s
  | .ok user =>
    let s := s.acknowledge id user.subscription
    if !mounted then s
    else if user.subscription = 0 then s.setSubscription false
    else if user.subscription = 1 then s.setSubscription true
    else s

/-- `subscribeMonth`, `subscribeYear` and `unsubscribe`: the backend acknowledges
with a `200`, and the page sets the flag on any result but `"error"`. -/
def request (service : Outcome → Option String) (status : Int) (flag : Bool)
    (id : String) (o : Outcome) (mounted : Bool) : Subscription :=
  let s := if o.Answered 200 then s.acknowledge id status else s
  if service o = some "error" then s
  else if mounted then s.setSubscription flag
  else s

/-- `SubscriptionPage.subscribeMonth`. -/
def subscribeMonth : String → Outcome → Bool → Subscription :=
  s.request UserService.subscribe 1 true

/-- `SubscriptionPage.subscribeYear`. -/
def subscribeYear : String → Outcome → Bool → Subscription :=
  s.request UserService.subscribe 1 true

/-- `UnsubscribePage.unsubscribe`. -/
def unsubscribe : String → Outcome → Bool → Subscription :=
  s.request UserService.unsubscribe 0 false

end Subscription

/-- The app as it starts, with the user whom Firebase remembers. -/
def launched (currentUser : Option String) : Subscription where
  isSubscribed := false
  currentUser := currentUser
  acknowledged := fun _ => none

/-- The operations in any order. -/
def subscription (jsonDecode : String → Except DartError Json) :
    Machine Subscription Operation Empty where
  start s := ∃ currentUser, s = launched currentUser
  step s
    | .load id o mounted => some (s.initializeUserData jsonDecode id o mounted, [])
    | .subscribeMonth id o mounted => some (s.subscribeMonth id o mounted, [])
    | .subscribeYear id o mounted => some (s.subscribeYear id o mounted, [])
    | .unsubscribe id o mounted => some (s.unsubscribe id o mounted, [])
    | .signOut => some ({ s with currentUser := none }, [])
    | .signIn id => some ({ s with currentUser := some id }, [])

/-- The flag is set only if the user who is signed in is subscribed, as far as the
backend has said. -/
def Agrees (s : Subscription) : Prop :=
  s.isSubscribed = true → ∀ id, s.currentUser = some id → s.acknowledged id = some 1

section

variable (s : Subscription)

/-- Setting the flag after a request for `id`: a `200` speaks for `id` only, and
an exception for nobody. -/
def MaySubscribe (id : String) (o : Outcome) (mounted : Bool) : Prop :=
  mounted → ∀ u, s.currentUser = some u →
    (o.Answered 200 → u = id ∨ s.acknowledged u = some 1) ∧
    (o = .exception → s.acknowledged u = some 1)

/-- A user whose status was found: with `1` the flag is set; where it is not
written, it must not be against the status. -/
def MayLoad (id : String) (user : User) (mounted : Bool) : Prop :=
  if mounted ∧ user.subscription = 0 then True
  else if mounted ∧ user.subscription = 1 then
    ∀ u, s.currentUser = some u → u = id ∨ s.acknowledged u = some 1
  else s.isSubscribed = true → s.currentUser = some id → user.subscription = 1

/-- What an operation must respect. -/
def KeepsAgreement (jsonDecode : String → Except DartError Json) : Operation → Prop
  | .load id o mounted =>
    ∀ user, UserService.getUserById jsonDecode o = .ok user → MayLoad s id user mounted
  | .subscribeMonth id o mounted | .subscribeYear id o mounted => MaySubscribe s id o mounted
  | .unsubscribe id o mounted =>
    mounted = false → o.Answered 200 → s.isSubscribed = true → s.currentUser ≠ some id
  | .signOut => True
  | .signIn id => s.isSubscribed = true → s.acknowledged id = some 1

end

variable {s : Subscription} {id : String} {o : Outcome} {mounted : Bool}

/-! ### The operations -/

theorem acknowledged_acknowledge (id u : String) (status : Int) :
    (s.acknowledge id status).acknowledged u = if u = id then some status else s.acknowledged u :=
  rfl

/-- A status that fits the flag, acknowledged, leaves it in agreement exactly when
the user it is about is not signed in against it. -/
theorem agrees_acknowledge (h : Agrees s) (status : Int) :
    Agrees (s.acknowledge id status) ↔
      (s.isSubscribed = true → s.currentUser = some id → status = 1) := by
  constructor
  · intro ha hs hu
    have hi := ha hs id hu
    rw [acknowledged_acknowledge, if_pos rfl] at hi
    exact Option.some.inj hi
  · intro hstatus hs u hu
    rw [acknowledged_acknowledge]
    by_cases hui : u = id
    · subst hui
      rw [if_pos rfl, hstatus hs hu]
    · rw [if_neg hui]
      exact h hs u hu

theorem agrees_set_false : Agrees (s.setSubscription false) := by
  intro h
  cases h

theorem agrees_set_true : Agrees (s.setSubscription true) ↔
    ∀ u, s.currentUser = some u → s.acknowledged u = some 1 :=
  ⟨fun h => h rfl, fun h _ => h⟩

/-- The flag is set right after the status `1` came for `id`. -/
theorem agrees_acknowledge_set_true : Agrees ((s.acknowledge id 1).setSubscription true) ↔
    ∀ u, s.currentUser = some u → u = id ∨ s.acknowledged u = some 1 := by
  rw [agrees_set_true]
  refine forall_congr' fun u => imp_congr_right fun _ => ?_
  rw [acknowledged_acknowledge]
  by_cases hui : u = id
  · simp [hui]
  · simp [hui]

theorem agrees_initializeUserData (jsonDecode : String → Except DartError Json) (h : Agrees s) :
    Agrees (s.initializeUserData jsonDecode id o mounted) ↔
      ∀ user, UserService.getUserById jsonDecode o = .ok user → MayLoad s id user mounted := by
  unfold Subscription.initializeUserData
  cases hu : UserService.getUserById jsonDecode o with
  | error e => exact iff_of_true h (fun user hu' => by cases hu')
  | ok user =>
    have hall : (∀ u, Except.ok user = Except.ok (ε := DartError) u → MayLoad s id u mounted) ↔
        MayLoad s id user mounted :=
      ⟨fun hm => hm user rfl, fun hm u he => by cases he; exact hm⟩
    rw [hall, MayLoad]
    cases mounted with
    | false => simpa using agrees_acknowledge h user.subscription
    | true =>
      by_cases h0 : user.subscription = 0
      · simpa [h0] using agrees_set_false
      · by_cases h1 : user.subscription = 1
        · simpa [h1] using agrees_acknowledge_set_true
        · simpa [h0, h1] using agrees_acknowledge h user.subscription

theorem agrees_subscribe (h : Agrees s) :
    Agrees (s.subscribeMonth id o mounted) ↔ MaySubscribe s id o mounted := by
  unfold Subscription.subscribeMonth Subscription.request MaySubscribe
  dsimp only
  by_cases h200 : o.Answered 200
  · have hne : UserService.subscribe o ≠ some "error" := by
      intro he
      exact (UserService.acknowledged_eq_error.mp he).2 h200
    have hno : o ≠ .exception := by
      rintro rfl
      cases h200
    rw [if_pos h200, if_neg hne]
    cases mounted with
    | false => simpa using (agrees_acknowledge h 1).mpr (fun _ _ => rfl)
    | true => simpa [h200, hno] using agrees_acknowledge_set_true
  · rw [if_neg h200]
    by_cases hex : o = .exception
    · have hne : UserService.subscribe o ≠ some "error" := by
        intro he
        exact (UserService.acknowledged_eq_error.mp he).1 hex
      rw [if_neg hne]
      cases mounted with
      | false => simpa using h
      | true =>
        subst hex
        simpa [h200] using agrees_set_true (s := s)
    · have he : UserService.subscribe o = some "error" :=
        UserService.acknowledged_eq_error.mpr ⟨hex, h200⟩
      rw [if_pos he]
      exact iff_of_true h (fun _ _ _ => ⟨fun h' => absurd h' h200, fun h' => absurd h' hex⟩)

theorem agrees_unsubscribe (h : Agrees s) :
    Agrees (s.unsubscribe id o mounted) ↔
      (mounted = false → o.Answered 200 → s.isSubscribed = true → s.currentUser ≠ some id) := by
  unfold Subscription.unsubscribe Subscription.request
  dsimp only
  cases mounted with
  | true =>
    refine iff_of_true ?_ (fun hm => by cases hm)
    split
    · rename_i he
      rw [if_neg (UserService.acknowledged_eq_error.mp he).2]
      exact h
    · exact agrees_set_false
  | false =>
    have hsame (t : Subscription) : (if UserService.unsubscribe o = some "error" then t
        else if (false : Bool) = true then t.setSubscription false else t) = t := by
      split
      · rfl
      · rfl
    rw [hsame]
    by_cases h200 : o.Answered 200
    · rw [if_pos h200, agrees_acknowledge h]
      simp [h200]
    · rw [if_neg h200]
      exact iff_of_true h (fun _ h' => absurd h' h200)

/-! ### Steps and runs -/

/-- **One operation** keeps the agreement exactly when it respects the condition. -/
theorem agrees_step {jsonDecode : String → Except DartError Json} {s' : Subscription}
    {a : Operation} {es : List Empty} (h : Agrees s)
    (hst : (subscription jsonDecode).step s a = some (s', es)) :
    Agrees s' ↔ KeepsAgreement s jsonDecode a := by
  cases a with
  | load id o mounted =>
    cases hst
    exact agrees_initializeUserData jsonDecode h
  | subscribeMonth id o mounted =>
    cases hst
    exact agrees_subscribe h
  | subscribeYear id o mounted =>
    cases hst
    exact agrees_subscribe h
  | unsubscribe id o mounted =>
    cases hst
    exact agrees_unsubscribe h
  | signOut =>
    cases hst
    refine iff_of_true ?_ trivial
    rintro _ _ ⟨⟩
  | signIn id =>
    cases hst
    constructor
    · intro ha hs
      exact ha hs id rfl
    · rintro hg hs _ ⟨⟩
      exact hg hs

/-- **Along a run the flag agrees with the backend exactly when every operation
respects the condition.** -/
theorem along_agrees_iff (jsonDecode : String → Except DartError Json)
    (currentUser : Option String) (as : List Operation) :
    (subscription jsonDecode).Along (fun _ _ s' _ => Agrees s') (launched currentUser) as ↔
      (subscription jsonDecode).Along (Machine.before (fun s a => KeepsAgreement s jsonDecode a))
        (launched currentUser) as := by
  refine Machine.along_iff Agrees ?_ ?_ as _ ?_
  · intro s a s' es h hst
    exact agrees_step h hst
  · intro s a s' es h hg hst
    exact (agrees_step h hst).mpr hg
  · intro h
    cases h

/-- A request that throws sets the flag of a user of whom the backend has said
nothing. -/
theorem not_along_agrees :
    ¬ ∀ (jsonDecode : String → Except DartError Json) (currentUser : Option String)
      (as : List Operation),
      (subscription jsonDecode).Along (fun _ _ s' _ => Agrees s') (launched currentUser) as := by
  intro h
  have hrun := h (fun _ => .error .formatException) (some "a")
    ([] ++ [.subscribeMonth "a" .exception true])
  have hlast := Machine.Along.last hrun rfl rfl
  have hack := hlast rfl "a" rfl
  cases hack

end GoodOmens.Profile
