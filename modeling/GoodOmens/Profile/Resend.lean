import GoodOmens.Library.Machine

/-!
# Resending the verification email

`_VerifyEmailPageState` keeps the cooldown of its resend button twice: as
`countdownTime`, which a one-second timer counts down, and as `lastEmailSentTime`,
which `sendVerificationEmail` compares with the clock.  Both are set only when a
send has come back, and until then the button is live.

Times are milliseconds.  A timer is the moment at which it ticks next, and time
does not pass over a tick (`wait`).  A send in flight is the moment at which it was
started.  `button` is the button as it was last built: `sendVerificationEmail`
writes `canResendEmail` without `setState`, so the button stays live until the
next tick or the next check of the email.

`Agreed` is what the counter, the flag and the clock should have in common, and
`StepsDown` how the counter may fall; `Cooldown` asks the same of the button as of
the flag.  A run goes through three phases, `First`, `Cooling` and `Enabled`, as long
as the button is not tapped while a send is in flight (`along_agreed`).  But a send
that succeeds while the button is live leaves it so (`not_cooldown_of_sent`): the
cooldown holds as long as none does, and with such taps in no other run
(`along_cooldown`).  `Obtainable` says that an email can still be had;
`along_obtainable_iff` says that only a failure of the first send is against it.
-/

namespace GoodOmens.Profile

/-- What the page knows of the email, the button and its cooldown; the timers that
are running; the sends in flight.  `successes` are the starts of the sends that
succeeded, `fell` is when the counter fell last. -/
structure Resend where
  now : Nat
  isEmailVerified : Bool
  canResendEmail : Bool
  button : Bool
  countdownTime : Int
  lastEmailSentTime : Option Nat
  timers : List Nat
  sends : List Nat
  successes : List Nat
  fell : Option Nat
deriving DecidableEq, Repr

/-- Time passes; a timer ticks; the button is tapped; a send succeeds or fails; the
email is checked. -/
inductive Resend.Act
  | wait (duration : Nat)
  | tick (due : Nat)
  | tap
  | sent (start : Nat)
  | failed (start : Nat)
  | checked (verified : Bool)
deriving DecidableEq, Repr

namespace Resend

variable (s : Resend)

/-- `startCountdownTimer`. -/
def startCountdownTimer : Resend := { s with timers := (s.now + 1000) :: s.timers }

/-- The guard of `sendVerificationEmail`. -/
def mayResend : Bool := s.lastEmailSentTime.all (fun last => 60 ≤ (s.now - last) / 1000)

/-- `sendVerificationEmail` up to its `await`. -/
def sendVerificationEmail : Resend :=
  if s.mayResend then { s with sends := s.now :: s.sends } else s

/-- The page is built again. -/
def build : Resend := { s with button := s.canResendEmail }

/-- `initState` for a user whose email is unverified, and the first build. -/
def opened (now : Nat) : Resend :=
  let s : Resend :=
    { now := now
      isEmailVerified := false
      canResendEmail := false
      button := false
      countdownTime := 0
      lastEmailSentTime := none
      timers := []
      sends := []
      successes := []
      fell := none }
  s.sendVerificationEmail.build

/-- No timer is passed over. -/
def wait (duration : Nat) : Option Resend :=
  if ∀ due ∈ s.timers, s.now + duration ≤ due then some { s with now := s.now + duration }
  else none

/-- The callback of the timer. -/
def tick (due : Nat) : Option Resend :=
  if due ∈ s.timers ∧ due ≤ s.now then
    let timers := s.timers.erase due
    if s.countdownTime ≤ 0 then
      some { s with timers := timers, canResendEmail := true, countdownTime := 0 }.build
    else
      some { s with
        timers := (due + 1000) :: timers
        countdownTime := s.countdownTime - 1
        fell := some s.now }.build
  else none

/-- The resend button, where it is live. -/
def tap : Option Resend := if s.button then some s.sendVerificationEmail else none

/-- The rest of `sendVerificationEmail`. -/
def sent (start : Nat) : Option Resend :=
  if start ∈ s.sends then
    some { s with
      sends := s.sends.erase start
      successes := start :: s.successes
      lastEmailSentTime := some s.now
      countdownTime := 60
      canResendEmail := false }.startCountdownTimer
  else none

/-- Its `catch`. -/
def failed (start : Nat) : Option Resend :=
  if start ∈ s.sends then some { s with sends := s.sends.erase start } else none

/-- `checkEmailVerified` up to its `setState`.  An email that is verified stays
so. -/
def checked (verified : Bool) : Option Resend :=
  if s.isEmailVerified ∧ verified = false then none
  else some { s with isEmailVerified := verified }.build

def step : Resend.Act → Option Resend
  | .wait duration => s.wait duration
  | .tick due => s.tick due
  | .tap => s.tap
  | .sent start => s.sent start
  | .failed start => s.failed start
  | .checked verified => s.checked verified

end Resend

/-- A `VerifyEmailPage` opened at any time. -/
def resend : Machine Resend Resend.Act Empty where
  start s := ∃ now, s = .opened now
  step s a := (s.step a).map (fun s => (s, []))

/-! ### What should hold -/

/-- One timer at most; the counter within its bounds; `canResendEmail` set, with no
send in flight, only when a minute has passed; and successful sends started a
minute apart. -/
structure Agreed (s : Resend) : Prop where
  oneTimer : s.timers.length ≤ 1
  counter : 0 ≤ s.countdownTime ∧ s.countdownTime ≤ 60
  flag : s.canResendEmail = true → s.sends = [] →
    ∀ last, s.lastEmailSentTime = some last → last + 60000 ≤ s.now
  apart : s.successes.Pairwise (fun a b => b + 60000 ≤ a ∨ a + 60000 ≤ b)

/-- And the button that can be pressed is live, with no send in flight, only when a
minute has passed. -/
structure Cooldown (s : Resend) : Prop extends Agreed s where
  enabled : s.button = true → s.sends = [] →
    ∀ last, s.lastEmailSentTime = some last → last + 60000 ≤ s.now

/-- The counter falls by one, a second after it fell last. -/
def StepsDown (s s' : Resend) : Prop :=
  s'.countdownTime < s.countdownTime →
    s'.countdownTime = s.countdownTime - 1 ∧ ∀ t, s.fell = some t → t + 1000 ≤ s'.now

/-- What the cooldown asks of a step. -/
def Cools (s s' : Resend) : Prop := Cooldown s' ∧ StepsDown s s'

/-- The button is tapped only when no send is in flight. -/
def TapsAlone (s : Resend) (a : Resend.Act) : Prop := a = .tap → s.sends = []

/-- No send succeeds while the button is live. -/
def SentDead (s : Resend) (a : Resend.Act) : Prop := ∀ start, a = .sent start → s.button = false

/-- The user can still obtain an email: the button is enabled, or a timer is
running that will enable it, or a send is in flight. -/
def Obtainable (s : Resend) : Prop :=
  s.isEmailVerified = false → s.canResendEmail = true ∨ s.timers ≠ [] ∨ s.sends ≠ []

/-- No send fails before one has succeeded. -/
def FirstSucceeds (s : Resend) (a : Resend.Act) : Prop :=
  ∀ start, a = .failed start → s.lastEmailSentTime ≠ none ∨ s.isEmailVerified = true

variable {s s' : Resend} {a : Resend.Act}

/-! ### The phases of a run -/

/-- Before the first success. -/
structure First (s : Resend) : Prop where
  canResendEmail : s.canResendEmail = false
  button : s.button = false
  countdownTime : s.countdownTime = 0
  lastEmailSentTime : s.lastEmailSentTime = none
  timers : s.timers = []
  sends : s.sends.length ≤ 1
  starts : ∀ start ∈ s.sends, start ≤ s.now
  successes : s.successes = []
  fell : s.fell = none

/-- The last success was at `last`, and its timer is running. -/
structure Cooling (last : Nat) (s : Resend) : Prop where
  canResendEmail : s.canResendEmail = false
  button : s.button = true → s.countdownTime = 60
  counter : 0 ≤ s.countdownTime ∧ s.countdownTime ≤ 60
  lastEmailSentTime : s.lastEmailSentTime = some last
  timer : ∃ due, s.timers = [due] ∧ s.now ≤ due ∧
    (due : Int) = last + 1000 * (61 - s.countdownTime) ∧ ∀ t, s.fell = some t → t + 1000 ≤ due
  sends : s.sends = []
  since : last ≤ s.now
  successes : ∀ start ∈ s.successes, start ≤ last
  apart : s.successes.Pairwise (fun a b => b + 60000 ≤ a ∨ a + 60000 ≤ b)

/-- The timer of the last success has enabled the button. -/
structure Enabled (last : Nat) (s : Resend) : Prop where
  canResendEmail : s.canResendEmail = true
  button : s.button = true
  countdownTime : s.countdownTime = 0
  lastEmailSentTime : s.lastEmailSentTime = some last
  timers : s.timers = []
  since : last + 61000 ≤ s.now
  fell : ∀ t, s.fell = some t → t ≤ s.now
  successes : ∀ start ∈ s.successes, start ≤ last
  apart : s.successes.Pairwise (fun a b => b + 60000 ≤ a ∨ a + 60000 ≤ b)

/-- The three phases. -/
def Phased (s : Resend) : Prop := First s ∨ (∃ last, Cooling last s) ∨ ∃ last, Enabled last s

/-- One send may be in flight, and it was started a minute after the last success. -/
def SentLater (last : Nat) (s : Resend) : Prop :=
  s.sends.length ≤ 1 ∧ ∀ start ∈ s.sends, last + 60000 ≤ start ∧ start ≤ s.now

theorem Phased.agreed (h : Phased s) : Agreed s := by
  rcases h with h | ⟨last, h⟩ | ⟨last, h⟩
  · refine ⟨?_, ?_, ?_, ?_⟩
    · rw [h.timers]
      exact Nat.zero_le 1
    · rw [h.countdownTime]
      decide
    · intro hc
      rw [h.canResendEmail] at hc
      cases hc
    · rw [h.successes]
      exact List.Pairwise.nil
  · obtain ⟨due, htimers, -⟩ := h.timer
    refine ⟨?_, h.counter, ?_, h.apart⟩
    · rw [htimers]
      exact Nat.le_refl 1
    · intro hc
      rw [h.canResendEmail] at hc
      cases hc
  · refine ⟨?_, ?_, ?_, h.apart⟩
    · rw [h.timers]
      exact Nat.zero_le 1
    · rw [h.countdownTime]
      decide
    · intro _ _ last' hl
      obtain rfl := Option.some.inj (h.lastEmailSentTime.symm.trans hl)
      have := h.since
      omega

/-! ### What each handler can do -/

theorem Resend.wait_inv {d : Nat} (h : s.wait d = some s') :
    (∀ due ∈ s.timers, s.now + d ≤ due) ∧ s' = { s with now := s.now + d } := by
  unfold Resend.wait at h
  split at h
  · rename_i hd
    exact ⟨hd, (Option.some.inj h).symm⟩
  · cases h

theorem Resend.tick_inv {due : Nat} (h : s.tick due = some s') : due ∈ s.timers ∧ due ≤ s.now ∧
    (s.countdownTime ≤ 0 ∧ s' = { s with
        timers := s.timers.erase due
        canResendEmail := true
        countdownTime := 0
        button := true } ∨
      0 < s.countdownTime ∧ s' = { s with
        timers := (due + 1000) :: s.timers.erase due
        countdownTime := s.countdownTime - 1
        fell := some s.now
        button := s.canResendEmail }) := by
  unfold Resend.tick at h
  split at h
  · rename_i hd
    refine ⟨hd.1, hd.2, ?_⟩
    dsimp only at h
    split at h
    · rename_i hc
      exact .inl ⟨hc, (Option.some.inj h).symm⟩
    · rename_i hc
      exact .inr ⟨Int.not_le.mp hc, (Option.some.inj h).symm⟩
  · cases h

/-- A tap that comes through starts a send; the others meet the guard. -/
theorem Resend.tap_inv (h : s.tap = some s') : s.button = true ∧
    (s.mayResend = true ∧ s' = { s with sends := s.now :: s.sends } ∨
      s.mayResend = false ∧ s' = s) := by
  unfold Resend.tap at h
  split at h
  · rename_i hb
    refine ⟨hb, ?_⟩
    obtain rfl := Option.some.inj h
    unfold Resend.sendVerificationEmail
    split
    · rename_i hm
      exact .inl ⟨hm, rfl⟩
    · rename_i hm
      exact .inr ⟨by simpa using hm, rfl⟩
  · cases h

theorem Resend.sent_inv {start : Nat} (h : s.sent start = some s') : start ∈ s.sends ∧ s' = { s with
    sends := s.sends.erase start
    successes := start :: s.successes
    lastEmailSentTime := some s.now
    countdownTime := 60
    canResendEmail := false
    timers := (s.now + 1000) :: s.timers } := by
  unfold Resend.sent at h
  split at h
  · rename_i hs
    exact ⟨hs, (Option.some.inj h).symm⟩
  · cases h

theorem Resend.failed_inv {start : Nat} (h : s.failed start = some s') :
    start ∈ s.sends ∧ s' = { s with sends := s.sends.erase start } := by
  unfold Resend.failed at h
  split at h
  · rename_i hs
    exact ⟨hs, (Option.some.inj h).symm⟩
  · cases h

theorem Resend.checked_inv {v : Bool} (h : s.checked v = some s') :
    (s.isEmailVerified = true → v = true) ∧
      s' = { s with isEmailVerified := v, button := s.canResendEmail } := by
  unfold Resend.checked at h
  split at h
  · cases h
  · rename_i hv
    refine ⟨?_, (Option.some.inj h).symm⟩
    intro hs
    cases v with
    | true => rfl
    | false => exact absurd ⟨hs, rfl⟩ hv

theorem Resend.step_of_step {es : List Empty} (h : resend.step s a = some (s', es)) :
    s.step a = some s' := by
  obtain ⟨t, ht, he⟩ := Option.map_eq_some_iff.mp h
  cases he
  exact ht

/-- A list of one, less its element. -/
theorem erase_eq_nil {l : List Nat} {x : Nat} (hl : l.length ≤ 1) (hx : x ∈ l) :
    l.erase x = [] := by
  match l with
  | [] => cases hx
  | [y] =>
    obtain rfl := List.mem_singleton.mp hx
    exact List.erase_cons_head ..
  | _ :: _ :: _ => exact absurd hl (by simp)

/-! ### From phase to phase -/

theorem first_opened (now : Nat) : First (.opened now) := by
  refine ⟨rfl, rfl, rfl, rfl, rfl, Nat.le_refl 1, ?_, rfl, rfl⟩
  intro start hs
  obtain rfl := List.mem_singleton.mp hs
  exact Nat.le_refl _

/-- A send that was alone and has succeeded starts the only timer. -/
theorem cooling_sent {start : Nat} (h : s.sent start = some s') (htimers : s.timers = [])
    (halone : s.sends.length ≤ 1) (hstart : start ≤ s.now)
    (hfell : ∀ t, s.fell = some t → t ≤ s.now)
    (hbefore : ∀ x ∈ s.successes, x + 60000 ≤ start)
    (hapart : s.successes.Pairwise (fun a b => b + 60000 ≤ a ∨ a + 60000 ≤ b)) :
    Cooling s.now s' := by
  obtain ⟨hs, rfl⟩ := Resend.sent_inv h
  refine ⟨rfl, fun _ => rfl, ⟨?_, ?_⟩, rfl, ?_, erase_eq_nil halone hs, Nat.le_refl _, ?_, ?_⟩
  · show (0 : Int) ≤ 60
    decide
  · exact Int.le_refl 60
  · refine ⟨s.now + 1000, ?_, Nat.le_add_right _ _, ?_, ?_⟩
    · show (s.now + 1000) :: s.timers = _
      rw [htimers]
    · show ((s.now + 1000 : Nat) : Int) = s.now + 1000 * (61 - 60)
      omega
    · intro t ht
      exact Nat.add_le_add_right (hfell t ht) 1000
  · intro x hx
    rcases List.mem_cons.mp hx with rfl | hx
    · exact hstart
    · have := hbefore x hx
      omega
  · exact List.pairwise_cons.mpr ⟨fun x hx => .inl (hbefore x hx), hapart⟩

/-- Before the first success the button is dead and no timer runs. -/
theorem first_step (hi : First s) (h : s.step a = some s') :
    First s' ∨ ∃ last, Cooling last s' := by
  cases a with
  | wait d =>
    obtain ⟨-, rfl⟩ := Resend.wait_inv h
    exact .inl ⟨hi.canResendEmail, hi.button, hi.countdownTime, hi.lastEmailSentTime, hi.timers,
      hi.sends, fun x hx => Nat.le_add_right_of_le (hi.starts x hx), hi.successes, hi.fell⟩
  | tick due =>
    obtain ⟨hd, -⟩ := Resend.tick_inv h
    rw [hi.timers] at hd
    cases hd
  | tap =>
    obtain ⟨hb, -⟩ := Resend.tap_inv h
    rw [hi.button] at hb
    cases hb
  | sent start =>
    obtain ⟨hs, -⟩ := Resend.sent_inv h
    refine .inr ⟨s.now, cooling_sent h hi.timers hi.sends (hi.starts start hs) ?_ ?_ ?_⟩
    · intro t ht
      rw [hi.fell] at ht
      cases ht
    · intro x hx
      rw [hi.successes] at hx
      cases hx
    · rw [hi.successes]
      exact List.Pairwise.nil
  | failed start =>
    obtain ⟨hs, rfl⟩ := Resend.failed_inv h
    refine .inl ⟨hi.canResendEmail, hi.button, hi.countdownTime, hi.lastEmailSentTime, hi.timers,
      Nat.le_trans (List.length_erase_le) hi.sends,
      fun x hx => hi.starts x (List.mem_of_mem_erase hx), hi.successes, hi.fell⟩
  | checked v =>
    obtain ⟨-, rfl⟩ := Resend.checked_inv h
    exact .inl ⟨hi.canResendEmail, hi.canResendEmail, hi.countdownTime, hi.lastEmailSentTime,
      hi.timers, hi.sends, hi.starts, hi.successes, hi.fell⟩

/-- While the timer runs the button is dead, or as it was built before the success,
and then the guard turns a tap away. -/
theorem cooling_step {last : Nat} (hi : Cooling last s) (h : s.step a = some s') :
    Cooling last s' ∨ Enabled last s' := by
  obtain ⟨due, htimers, hnow, hdue, hfell⟩ := hi.timer
  have hcounter := hi.counter
  cases a with
  | wait d =>
    obtain ⟨hw, rfl⟩ := Resend.wait_inv h
    have hle : s.now + d ≤ due := hw due (by rw [htimers]; exact List.mem_singleton_self due)
    exact .inl ⟨hi.canResendEmail, hi.button, hi.counter, hi.lastEmailSentTime,
      ⟨due, htimers, hle, hdue, hfell⟩, hi.sends, Nat.le_add_right_of_le hi.since, hi.successes,
      hi.apart⟩
  | tick due' =>
    obtain ⟨hm, hle, hcases⟩ := Resend.tick_inv h
    rw [htimers] at hm hcases
    obtain rfl := List.mem_singleton.mp hm
    have herase : [due'].erase due' = [] := List.erase_cons_head ..
    rw [herase] at hcases
    rcases hcases with ⟨hzero, rfl⟩ | ⟨hpos, rfl⟩
    · refine .inr ⟨rfl, rfl, rfl, hi.lastEmailSentTime, rfl, ?_, ?_, hi.successes, hi.apart⟩
      · show last + 61000 ≤ s.now
        omega
      · intro t ht
        have := hfell t ht
        show t ≤ s.now
        omega
    · refine .inl ⟨hi.canResendEmail, ?_, ⟨?_, ?_⟩, hi.lastEmailSentTime, ?_, hi.sends, hi.since,
        hi.successes, hi.apart⟩
      · intro hb
        have hc : s.canResendEmail = true := hb
        rw [hi.canResendEmail] at hc
        cases hc
      · show 0 ≤ s.countdownTime - 1
        omega
      · show s.countdownTime - 1 ≤ 60
        omega
      · refine ⟨due' + 1000, rfl, ?_, ?_, ?_⟩
        · show s.now ≤ due' + 1000
          omega
        · show ((due' + 1000 : Nat) : Int) = last + 1000 * (61 - (s.countdownTime - 1))
          omega
        · intro t ht
          obtain rfl := Option.some.inj ht
          exact Nat.add_le_add_right hnow 1000
  | tap =>
    obtain ⟨hb, ⟨hm, rfl⟩ | ⟨-, rfl⟩⟩ := Resend.tap_inv h
    · -- the counter still stands at 60, so the last success is at most a second ago
      have hc := hi.button hb
      rw [Resend.mayResend, hi.lastEmailSentTime] at hm
      have hguard : 60 ≤ (s.now - last) / 1000 := by simpa using hm
      omega
    · exact .inl hi
  | sent start =>
    obtain ⟨hs, -⟩ := Resend.sent_inv h
    rw [hi.sends] at hs
    cases hs
  | failed start =>
    obtain ⟨hs, -⟩ := Resend.failed_inv h
    rw [hi.sends] at hs
    cases hs
  | checked v =>
    obtain ⟨-, rfl⟩ := Resend.checked_inv h
    refine .inl ⟨hi.canResendEmail, ?_, hi.counter, hi.lastEmailSentTime, hi.timer, hi.sends,
      hi.since, hi.successes, hi.apart⟩
    intro hb
    have hc : s.canResendEmail = true := hb
    rw [hi.canResendEmail] at hc
    cases hc

/-- The button is live, and stays so until a send succeeds. -/
theorem enabled_step {last : Nat} (hi : Enabled last s)
    (hsent : ∀ start, a = .sent start → SentLater last s) (h : s.step a = some s') :
    Enabled last s' ∨ ∃ last', Cooling last' s' := by
  cases a with
  | wait d =>
    obtain ⟨-, rfl⟩ := Resend.wait_inv h
    refine .inl ⟨hi.canResendEmail, hi.button, hi.countdownTime, hi.lastEmailSentTime, hi.timers,
      Nat.le_add_right_of_le hi.since, ?_, hi.successes, hi.apart⟩
    intro t ht
    exact Nat.le_add_right_of_le (hi.fell t ht)
  | tick due =>
    obtain ⟨hd, -⟩ := Resend.tick_inv h
    rw [hi.timers] at hd
    cases hd
  | tap =>
    obtain ⟨-, ⟨-, rfl⟩ | ⟨-, rfl⟩⟩ := Resend.tap_inv h
    · exact .inl ⟨hi.canResendEmail, hi.button, hi.countdownTime, hi.lastEmailSentTime, hi.timers,
        hi.since, hi.fell, hi.successes, hi.apart⟩
    · exact .inl hi
  | sent start =>
    obtain ⟨hs, -⟩ := Resend.sent_inv h
    obtain ⟨halone, hlater⟩ := hsent start rfl
    obtain ⟨hge, hle⟩ := hlater start hs
    refine .inr ⟨s.now, cooling_sent h hi.timers halone hle hi.fell ?_ hi.apart⟩
    intro x hx
    have := hi.successes x hx
    omega
  | failed start =>
    obtain ⟨-, rfl⟩ := Resend.failed_inv h
    exact .inl ⟨hi.canResendEmail, hi.button, hi.countdownTime, hi.lastEmailSentTime, hi.timers,
      hi.since, hi.fell, hi.successes, hi.apart⟩
  | checked v =>
    obtain ⟨-, rfl⟩ := Resend.checked_inv h
    exact .inl ⟨hi.canResendEmail, hi.canResendEmail, hi.countdownTime, hi.lastEmailSentTime,
      hi.timers, hi.since, hi.fell, hi.successes, hi.apart⟩

/-- **One step** goes from phase to phase, if what succeeds was sent alone. -/
theorem phased_step (hi : Phased s)
    (hsent : ∀ start last, a = .sent start → Enabled last s → SentLater last s)
    (h : s.step a = some s') : Phased s' := by
  rcases hi with hi | ⟨last, hi⟩ | ⟨last, hi⟩
  · exact (first_step hi h).imp id .inl
  · exact .inr ((cooling_step hi h).imp (⟨last, ·⟩) (⟨last, ·⟩))
  · rcases enabled_step hi (fun start ha => hsent start last ha hi) h with hi' | hi'
    · exact .inr (.inr ⟨last, hi'⟩)
    · exact .inr (.inl hi')

/-- In every phase the counter steps down. -/
theorem stepsDown_step (hi : Phased s) (h : s.step a = some s') : StepsDown s s' := by
  intro hlt
  have hle : s.countdownTime ≤ 60 := hi.agreed.counter.2
  cases a with
  | wait d =>
    obtain ⟨-, rfl⟩ := Resend.wait_inv h
    exact absurd hlt (Int.lt_irrefl _)
  | tick due =>
    obtain ⟨hm, hd, ⟨hz, rfl⟩ | ⟨hpos, rfl⟩⟩ := Resend.tick_inv h
    · have hge := hi.agreed.counter.1
      exact absurd hlt (Int.not_lt.mpr hz)
    · refine ⟨rfl, ?_⟩
      intro t ht
      rcases hi with hi | ⟨last, hi⟩ | ⟨last, hi⟩
      · rw [hi.timers] at hm
        cases hm
      · obtain ⟨due', htimers, -, -, hfell⟩ := hi.timer
        rw [htimers] at hm
        obtain rfl := List.mem_singleton.mp hm
        exact Nat.le_trans (hfell t ht) hd
      · rw [hi.timers] at hm
        cases hm
  | tap =>
    obtain ⟨-, ⟨-, rfl⟩ | ⟨-, rfl⟩⟩ := Resend.tap_inv h <;> exact absurd hlt (Int.lt_irrefl _)
  | sent start =>
    obtain ⟨-, rfl⟩ := Resend.sent_inv h
    exact absurd hlt (Int.not_lt.mpr hle)
  | failed start =>
    obtain ⟨-, rfl⟩ := Resend.failed_inv h
    exact absurd hlt (Int.lt_irrefl _)
  | checked v =>
    obtain ⟨-, rfl⟩ := Resend.checked_inv h
    exact absurd hlt (Int.lt_irrefl _)

/-- While the flag is set, a send in flight was started alone and late enough. -/
def Alone (s : Resend) : Prop :=
  s.canResendEmail = true → ∀ last, s.lastEmailSentTime = some last → SentLater last s

/-- Taps with no send in flight keep it so. -/
theorem alone_step (hi : Phased s) (ha : Alone s) (hg : TapsAlone s a)
    (h : s.step a = some s') : Alone s' := by
  intro hc last hl
  cases a with
  | wait d =>
    obtain ⟨-, rfl⟩ := Resend.wait_inv h
    obtain ⟨hone, hlater⟩ := ha hc last hl
    exact ⟨hone, fun x hx => ⟨(hlater x hx).1, Nat.le_add_right_of_le (hlater x hx).2⟩⟩
  | tick due =>
    obtain ⟨hm, -, hcases⟩ := Resend.tick_inv h
    have hsends : s.sends = [] := by
      rcases hi with hi | ⟨_, hi⟩ | ⟨_, hi⟩
      · rw [hi.timers] at hm
        cases hm
      · exact hi.sends
      · rw [hi.timers] at hm
        cases hm
    have hsends' : s'.sends = [] := by
      rcases hcases with ⟨-, rfl⟩ | ⟨-, rfl⟩
      · exact hsends
      · exact hsends
    rw [SentLater, hsends']
    exact ⟨Nat.zero_le 1, fun x hx => by cases hx⟩
  | tap =>
    have hno := hg rfl
    obtain ⟨-, ⟨hm, rfl⟩ | ⟨-, rfl⟩⟩ := Resend.tap_inv h
    · have hguard : 60 ≤ (s.now - last) / 1000 := by
        rw [Resend.mayResend, show s.lastEmailSentTime = some last from hl] at hm
        simpa using hm
      refine ⟨?_, ?_⟩
      · show (s.now :: s.sends).length ≤ 1
        rw [hno]
        exact Nat.le_refl 1
      · intro x hx
        rw [show s.now :: s.sends = [s.now] by rw [hno]] at hx
        obtain rfl := List.mem_singleton.mp hx
        exact ⟨by omega, Nat.le_refl _⟩
    · exact ha hc last hl
  | sent start =>
    obtain ⟨-, rfl⟩ := Resend.sent_inv h
    cases hc
  | failed start =>
    obtain ⟨-, rfl⟩ := Resend.failed_inv h
    obtain ⟨hone, hlater⟩ := ha hc last hl
    exact ⟨Nat.le_trans List.length_erase_le hone,
      fun x hx => hlater x (List.mem_of_mem_erase hx)⟩
  | checked v =>
    obtain ⟨-, rfl⟩ := Resend.checked_inv h
    exact ha hc last hl

/-- **Flag, counter and clock agree in every run in which the button is tapped only
when no send is in flight.** -/
theorem along_agreed (h : resend.start s) (as : List Resend.Act)
    (hg : resend.Along (Machine.before TapsAlone) s as) :
    resend.Along (fun s _ s' _ => Agreed s' ∧ StepsDown s s') s as := by
  obtain ⟨now, rfl⟩ := h
  refine Machine.along_of_inv (fun s => Phased s ∧ Alone s) ?_ as _
    ⟨.inl (first_opened now), fun hc => by cases hc⟩ hg
  intro s a s' es hi hg hst
  have hst' := Resend.step_of_step hst
  have hsent (start last : Nat) (_ : a = .sent start) (he : Enabled last s) : SentLater last s :=
    hi.2 he.canResendEmail last he.lastEmailSentTime
  have hi' := phased_step hi.1 hsent hst'
  exact ⟨⟨hi'.agreed, stepsDown_step hi.1 hst'⟩, hi', alone_step hi.1 hi.2 hg hst'⟩

/-! ### The button -/

/-- The button is live only if the flag is set. -/
def Fresh (s : Resend) : Prop := s.button = true → s.canResendEmail = true

/-- The only step after which the button lags behind is a success. -/
theorem fresh_step (hi : Fresh s) (hg : SentDead s a) (h : s.step a = some s') : Fresh s' := by
  cases a with
  | wait d =>
    obtain ⟨-, rfl⟩ := Resend.wait_inv h
    exact hi
  | tick due =>
    obtain ⟨-, -, ⟨-, rfl⟩ | ⟨-, rfl⟩⟩ := Resend.tick_inv h
    · exact fun _ => rfl
    · exact id
  | tap =>
    obtain ⟨-, ⟨-, rfl⟩ | ⟨-, rfl⟩⟩ := Resend.tap_inv h <;> exact hi
  | sent start =>
    obtain ⟨-, rfl⟩ := Resend.sent_inv h
    intro hb
    have hdead := hg start rfl
    rw [show s.button = true from hb] at hdead
    cases hdead
  | failed start =>
    obtain ⟨-, rfl⟩ := Resend.failed_inv h
    exact hi
  | checked v =>
    obtain ⟨-, rfl⟩ := Resend.checked_inv h
    exact id

/-- A send that succeeds while the button is live, and no other is in flight, leaves
it live although no time has passed. -/
theorem not_cooldown_of_sent {start : Nat} (h : s.sent start = some s') (hb : s.button = true)
    (halone : s.sends.erase start = []) : ¬ Cooldown s' := by
  obtain ⟨-, rfl⟩ := Resend.sent_inv h
  intro hc
  have hle := hc.enabled hb halone s.now rfl
  exact absurd hle (Nat.not_le_of_lt (Nat.lt_add_of_pos_right (Nat.zero_lt_succ _)))

/-- With no send succeeding while the button is live, the cooldown holds. -/
theorem along_cools (h : resend.start s) (as : List Resend.Act)
    (hg : resend.Along (Machine.before SentDead) s as) :
    resend.Along (fun s _ s' _ => Cools s s') s as := by
  obtain ⟨now, rfl⟩ := h
  refine Machine.along_of_inv (fun s => Phased s ∧ Fresh s) ?_ as _
    ⟨.inl (first_opened now), fun hb => by cases hb⟩ hg
  intro s a s' es hi hg hst
  have hst' := Resend.step_of_step hst
  have hsent (start last : Nat) (ha : a = .sent start) (he : Enabled last s) :
      SentLater last s := by
    have hdead := hg start ha
    rw [he.button] at hdead
    cases hdead
  have hi' := phased_step hi.1 hsent hst'
  have hfresh := fresh_step hi.2 hg hst'
  refine ⟨⟨⟨hi'.agreed, ?_⟩, stepsDown_step hi.1 hst'⟩, hi', hfresh⟩
  exact fun hb hs last hl => hi'.agreed.flag (hfresh hb) hs last hl

/-- A send that was tapped alone, succeeds and keeps the cooldown, finds the button dead. -/
theorem sentDead_step (hi : Phased s) (ha : Alone s) (hc : Cooldown s')
    (h : s.step a = some s') : SentDead s a := by
  rintro start rfl
  have hs := (Resend.sent_inv h).1
  refine Bool.eq_false_iff.mpr (fun hb => ?_)
  rcases hi with hi | ⟨last, hi⟩ | ⟨last, hi⟩
  · rw [hi.button] at hb
    cases hb
  · rw [hi.sends] at hs
    cases hs
  · have hlater := ha hi.canResendEmail last hi.lastEmailSentTime
    exact not_cooldown_of_sent h hb (erase_eq_nil hlater.1 hs) hc

/-- With taps only while no send is in flight, the cooldown holds in no other run. -/
theorem along_sentDead (h : resend.start s) (as : List Resend.Act)
    (hg : resend.Along (Machine.before TapsAlone) s as)
    (hc : resend.Along (fun s _ s' _ => Cools s s') s as) :
    resend.Along (Machine.before SentDead) s as := by
  obtain ⟨now, rfl⟩ := h
  refine Machine.along_of_along (fun s => Phased s ∧ Alone s) ?_ as _
    ⟨.inl (first_opened now), fun hc => by cases hc⟩ (hg.and hc)
  intro s a s' es hi hgc hst
  have hst' := Resend.step_of_step hst
  have hsent (start last : Nat) (_ : a = .sent start) (he : Enabled last s) : SentLater last s :=
    hi.2 he.canResendEmail last he.lastEmailSentTime
  exact ⟨sentDead_step hi.1 hi.2 hgc.2.1 hst', phased_step hi.1 hsent hst',
    alone_step hi.1 hi.2 hgc.1 hst'⟩

/-- **The cooldown holds in every run in which no send succeeds while the button is
live.**  Where the button is tapped only when no send is in flight it holds in no other
run; flag, counter and clock agree there all the same. -/
theorem along_cooldown (h : resend.start s) (as : List Resend.Act) :
    (resend.Along (Machine.before SentDead) s as →
      resend.Along (fun s _ s' _ => Cools s s') s as) ∧
    (resend.Along (Machine.before TapsAlone) s as →
      resend.Along (fun s _ s' _ => Agreed s' ∧ StepsDown s s') s as ∧
      (resend.Along (fun s _ s' _ => Cools s s') s as →
        resend.Along (Machine.before SentDead) s as)) :=
  ⟨along_cools h as, fun hg => ⟨along_agreed h as hg, along_sentDead h as hg⟩⟩

/-- The first send succeeds, and the counter starts to fall. -/
theorem along_cooldown_first :
    resend.Along (fun s _ s' _ => Cools s s') (.opened 0) [.sent 0, .wait 1000, .tick 1000] := by
  refine (along_cooldown ⟨0, rfl⟩ _).1 ?_
  refine (Machine.along_cons rfl _).mpr ⟨fun _ _ => rfl, ?_⟩
  refine (Machine.along_cons rfl _).mpr ⟨fun _ _ => rfl, ?_⟩
  exact (Machine.along_cons rfl _).mpr ⟨fun _ _ => rfl, trivial⟩

/-- A minute of ticks. -/
def countdown : List Resend.Act :=
  (List.range 61).flatMap (fun k => [.wait 1000, .tick (1000 * (k + 1))])

/-- The button is tapped twice before the first of the two sends is back: two
timers run. -/
theorem not_along_cooldown :
    ¬ ∀ s, resend.start s → ∀ as, resend.Along (fun s _ s' _ => Cools s s') s as := by
  intro h
  have hrun := h (.opened 0) ⟨0, rfl⟩
    (([.sent 0] ++ countdown ++ [.tap, .tap, .sent 61000]) ++ [.sent 61000])
  have hexec : resend.exec (.opened 0) ([.sent 0] ++ countdown ++ [.tap, .tap, .sent 61000]) =
      some (⟨61000, false, false, true, 60, some 61000, [62000], [61000], [61000, 0], some 60000⟩,
        []) := by
    decide +kernel
  have hlast := Machine.Along.last hrun hexec rfl
  exact absurd hlast.1.oneTimer (by decide)

/-! ### An email can still be had -/

/-- The first send is under way, or has failed; afterwards the button is enabled or
a timer runs. -/
structure Kept (s : Resend) : Prop where
  before : s.lastEmailSentTime = none →
    s.canResendEmail = false ∧ s.button = false ∧ s.timers = [] ∧ s.sends.length ≤ 1
  after : s.lastEmailSentTime ≠ none → s.canResendEmail = true ∨ s.timers ≠ []

theorem kept_opened (now : Nat) : Kept (.opened now) :=
  ⟨fun _ => ⟨rfl, rfl, rfl, Nat.le_refl 1⟩, fun h => absurd rfl h⟩

/-- A tick of a running timer enables the button, or keeps the timer running with
the counter one lower. -/
theorem tick_lowers {due : Nat} (h : s.tick due = some s') :
    s'.canResendEmail = true ∨ s'.timers ≠ [] ∧ s'.countdownTime = s.countdownTime - 1 := by
  obtain ⟨-, -, ⟨-, rfl⟩ | ⟨-, rfl⟩⟩ := Resend.tick_inv h
  · exact .inl rfl
  · exact .inr ⟨List.cons_ne_nil _ _, rfl⟩

theorem kept_step (hi : Kept s) (h : s.step a = some s') : Kept s' := by
  cases a with
  | wait d =>
    obtain ⟨-, rfl⟩ := Resend.wait_inv h
    exact ⟨hi.before, hi.after⟩
  | tick due =>
    have hlow := tick_lowers h
    obtain ⟨hm, -, hcases⟩ := Resend.tick_inv h
    have hlast : s'.lastEmailSentTime = s.lastEmailSentTime := by
      rcases hcases with ⟨-, rfl⟩ | ⟨-, rfl⟩ <;> rfl
    refine ⟨?_, fun _ => hlow.imp id And.left⟩
    intro hno
    rw [(hi.before (hlast.symm.trans hno)).2.2.1] at hm
    cases hm
  | tap =>
    obtain ⟨hb, ⟨-, rfl⟩ | ⟨-, rfl⟩⟩ := Resend.tap_inv h
    · refine ⟨?_, hi.after⟩
      intro hno
      rw [(hi.before hno).2.1] at hb
      cases hb
    · exact hi
  | sent start =>
    obtain ⟨-, rfl⟩ := Resend.sent_inv h
    exact ⟨(fun hno => by cases hno), fun _ => .inr (List.cons_ne_nil _ _)⟩
  | failed start =>
    obtain ⟨-, rfl⟩ := Resend.failed_inv h
    refine ⟨?_, hi.after⟩
    intro hno
    obtain ⟨hc, hb, ht, hlen⟩ := hi.before hno
    exact ⟨hc, hb, ht, Nat.le_trans List.length_erase_le hlen⟩
  | checked v =>
    obtain ⟨-, rfl⟩ := Resend.checked_inv h
    refine ⟨?_, hi.after⟩
    intro hno
    obtain ⟨hc, -, ht, hlen⟩ := hi.before hno
    exact ⟨hc, hc, ht, hlen⟩

/-- After a success an email can be had whatever happens. -/
theorem obtainable_of_after (hi : Kept s) (h : s.lastEmailSentTime ≠ none) : Obtainable s :=
  fun _ => (hi.after h).imp id .inl

/-- **One step** keeps an email obtainable exactly when it is not the failure of the
first send. -/
theorem obtainable_step (hi : Kept s) (ho : Obtainable s) (h : s.step a = some s') :
    Obtainable s' ↔ FirstSucceeds s a := by
  have hi' := kept_step hi h
  cases a with
  | failed start =>
    obtain ⟨hs, rfl⟩ := Resend.failed_inv h
    constructor
    · intro ho' _ _
      by_cases hv : s.isEmailVerified = true
      · exact .inr hv
      · left
        intro hno
        obtain ⟨hc, -, ht, hlen⟩ := hi.before hno
        rcases ho' (by simpa using hv) with hc' | ht' | hs'
        · rw [show s.canResendEmail = true from hc'] at hc
          cases hc
        · exact ht' ht
        · exact hs' (erase_eq_nil hlen hs)
    · intro hg
      rcases hg start rfl with hsome | hv
      · exact obtainable_of_after hi' hsome
      · intro hno
        rw [show s.isEmailVerified = false from hno] at hv
        cases hv
  | wait d =>
    obtain ⟨-, rfl⟩ := Resend.wait_inv h
    exact iff_of_true ho (fun _ he => by cases he)
  | tick due =>
    refine iff_of_true (fun _ => ?_) (fun _ he => by cases he)
    exact (tick_lowers h).imp id (fun hlow => .inl hlow.1)
  | tap =>
    refine iff_of_true ?_ (fun _ he => by cases he)
    obtain ⟨-, ⟨-, rfl⟩ | ⟨-, rfl⟩⟩ := Resend.tap_inv h
    · exact fun _ => .inr (.inr (List.cons_ne_nil _ _))
    · exact ho
  | sent start =>
    obtain ⟨-, rfl⟩ := Resend.sent_inv h
    exact iff_of_true (fun _ => .inr (.inl (List.cons_ne_nil _ _))) (fun _ he => by cases he)
  | checked v =>
    obtain ⟨hv, rfl⟩ := Resend.checked_inv h
    refine iff_of_true ?_ (fun _ he => by cases he)
    intro hno
    refine ho ?_
    cases hs : s.isEmailVerified with
    | false => rfl
    | true =>
      rw [show v = false from hno] at hv
      cases hv hs

/-- **Along a run an email can always be had exactly when no send fails before one
has succeeded.** -/
theorem along_obtainable_iff (h : resend.start s) (as : List Resend.Act) :
    resend.Along (fun _ _ s' _ => Obtainable s') s as ↔
      resend.Along (Machine.before FirstSucceeds) s as := by
  obtain ⟨now, rfl⟩ := h
  refine Machine.along_iff (fun s => Kept s ∧ Obtainable s) ?_ ?_ as _ ⟨kept_opened now, ?_⟩
  · intro s a s' es hi hst
    exact obtainable_step hi.1 hi.2 (Resend.step_of_step hst)
  · intro s a s' es hi hg hst
    have hst' := Resend.step_of_step hst
    exact ⟨kept_step hi.1 hst', (obtainable_step hi.1 hi.2 hst').mpr hg⟩
  · exact fun _ => .inr (.inr (List.cons_ne_nil _ _))

/-- The first send succeeds, and its timer ticks. -/
theorem along_obtainable_sent :
    resend.Along (fun _ _ s' _ => Obtainable s') (.opened 0) [.sent 0, .wait 1000, .tick 1000] := by
  refine (along_obtainable_iff ⟨0, rfl⟩ _).mpr ?_
  refine (Machine.along_cons rfl _).mpr ⟨by rintro _ ⟨⟩, ?_⟩
  refine (Machine.along_cons rfl _).mpr ⟨by rintro _ ⟨⟩, ?_⟩
  exact (Machine.along_cons rfl _).mpr ⟨by rintro _ ⟨⟩, trivial⟩

/-- The first send fails: the button never comes to life. -/
theorem not_along_obtainable :
    ¬ ∀ s, resend.start s → ∀ as, resend.Along (fun _ _ s' _ => Obtainable s') s as := by
  intro h
  have hlast := Machine.Along.last (h (.opened 0) ⟨0, rfl⟩ ([] ++ [.failed 0])) rfl rfl
  rcases hlast rfl with hc | ht | hs
  · cases hc
  · exact ht rfl
  · exact hs rfl

end GoodOmens.Profile
