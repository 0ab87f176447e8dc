import GoodOmens.Library.Machine
import GoodOmens.Services.User

/-!
# The theme that a profile visit hands back

`ProfileHomePage` pops `currTheme`, which starts at `0` and has two writers: the
user load of `initState`, and the returns from `PreferenceSettingPage`, which was
given a copy of it and hands back its own.  The caller expects the theme that the
user confirmed last, or the theme it had itself (`HandsBack`).

Whichever writer comes last wins, so a write may be out of date: a load answered
before a theme was confirmed, or a preference page opened before the load and left
without a choice.  And there may be no writer at all, if the user is back before
the load.  `InTime` excludes these three, and `along_handsBack` says that then the
right theme is handed back.  Its invariant `OnCourse` has two phases: before any
write `currTheme` is the constant and nothing was confirmed, afterwards it is the
right theme, or a preference page is open that will hand it back.
-/

namespace GoodOmens.Theme

/-- `PreferenceSettingPage`: its `currTheme`, and whether a theme was confirmed in
it. -/
structure Preference where
  currTheme : Int
  confirmed : Bool
deriving DecidableEq, Repr

/-- A visit.  `calling` is the theme of the page the menu was opened from, `seen`
are the themes that the backend has had since the load was sent, `confirmed` is
the last theme that the user confirmed. -/
structure Visit where
  calling : Int
  currTheme : Int
  loading : Bool
  loaded : Bool
  preference : Option Preference
  seen : List Int
  handed : Bool
  confirmed : Option Int
  popped : Option Int
deriving DecidableEq, Repr

/-- The load ends, with a theme or without; the preference page is opened; a theme
is confirmed in it, with the outcome of `updateUserTheme`; it is left; the user
presses back.  `kept` says whether the backend kept a theme whose request threw. -/
inductive Visit.Act
  | userData (theme : Int)
  | userDataFailed
  | openPreference
  | confirm (theme : Int) (outcome : Outcome) (kept : Bool)
  | leavePreference
  | back
deriving DecidableEq, Repr

namespace Visit

variable (v : Visit)

/-- `initState` of `ProfileHomePage`: the load is sent. -/
def start (calling : Int) : Visit where
  calling := calling
  currTheme := 0
  loading := true
  loaded := false
  preference := none
  seen := [calling]
  handed := false
  confirmed := none
  popped := none

/-- The rest of `initializeUserData`.  The answer is a theme that the backend has
had since the request; when the page is gone, `setState` throws. -/
def userData (theme : Int) : Option Visit :=
  if v.loading ∧ theme ∈ v.seen then
    if v.popped.isSome then some { v with loading := false }
    else some { v with loading := false, loaded := true, currTheme := theme }
  else none

def userDataFailed : Option Visit :=
  if v.loading then some { v with loading := false } else none

/-- The preference button. -/
def openPreference : Option Visit :=
  if v.popped = none ∧ v.preference = none then
    some { v with preference := some ⟨v.currTheme, false⟩ }
  else none

/-- `confirm` of the theme modal, and the rest of `showThemeBottomModal`: on any
result but `"error"` the modal hands the theme to the preference page. -/
def confirm (theme : Int) (o : Outcome) (kept : Bool) : Option Visit :=
  match v.preference with
  | none => none
  | some _ =>
    let v := if o.Answered 200 ∨ kept then { v with seen := theme :: v.seen } else v
    if UserService.updateUserTheme o = some "error" then some v
    else some { v with preference := some ⟨theme, true⟩, confirmed := some theme }

/-- A back button of the preference page, and the rest of the preference button's
handler. -/
def leavePreference : Option Visit :=
  match v.preference with
  | none => none
  | some p => some { v with
      preference := none
      currTheme := p.currTheme
      handed := v.handed || p.confirmed }

/-- The back paths of `ProfileHomePage`. -/
def back : Option Visit :=
  if v.popped = none ∧ v.preference = none then some { v with popped := some v.currTheme }
  else none

def step : Visit.Act → Option Visit
  | .userData theme => v.userData theme
  | .userDataFailed => v.userDataFailed
  | .openPreference => v.openPreference
  | .confirm theme o kept => v.confirm theme o kept
  | .leavePreference => v.leavePreference
  | .back => v.back

/-- The theme that should be handed back. -/
def due : Int := v.confirmed.getD v.calling

end Visit

/-- A visit for a calling page with any theme. -/
def visit : Machine Visit Visit.Act Empty where
  start v := ∃ calling, v = .start calling
  step v a := (v.step a).map (fun v => (v, []))

/-- What was handed back, if the visit is over, is the theme due. -/
def HandsBack (v : Visit) : Prop := ∀ theme, v.popped = some theme → theme = v.due

/-- A theme was confirmed in the preference page that is open. -/
def Visit.Choosing (v : Visit) : Prop := ∃ p, v.preference = some p ∧ p.confirmed = true

/-- The load brings the theme due, or the preference page will write over it; a
preference page left without a choice hands back what `currTheme` still is; and
the user goes back after a write, unless the caller's theme is the constant. -/
def InTime (v : Visit) : Visit.Act → Prop
  | .userData theme => v.popped = none → v.Choosing ∨ theme = v.due
  | .leavePreference => ∀ p, v.preference = some p → p.confirmed = false →
      p.currTheme = v.currTheme
  | .back => v.loaded = true ∨ v.handed = true ∨ v.calling = 0
  | _ => True

/-- The course of a visit. -/
structure OnCourse (v : Visit) : Prop where
  opened : ∀ p, v.preference = some p → v.popped = none
  choosing : ∀ p, v.preference = some p → p.confirmed = true → v.confirmed = some p.currTheme
  written : v.loaded = true ∨ v.handed = true → v.Choosing ∨ v.currTheme = v.due
  unwritten : v.loaded = false → v.handed = false →
    v.currTheme = 0 ∧ (v.Choosing ∨ v.confirmed = none)
  handsBack : HandsBack v

variable {v v' : Visit}

theorem onCourse_start (calling : Int) : OnCourse (.start calling) := by
  refine ⟨?_, ?_, ?_, ?_, ?_⟩
  · rintro p ⟨⟩
  · rintro p ⟨⟩
  · rintro (h | h) <;> cases h
  · intro _ _
    exact ⟨rfl, .inr rfl⟩
  · rintro theme ⟨⟩

theorem not_choosing_of_closed (h : v.preference = none) : ¬ v.Choosing := by
  rintro ⟨p, hp, -⟩
  rw [h] at hp
  cases hp

/-- Before anything was written nothing was confirmed, unless it is about to be
handed back. -/
theorem due_of_unwritten (hi : OnCourse v) (hc : ¬ v.Choosing) (hl : v.loaded = false)
    (hh : v.handed = false) : v.currTheme = 0 ∧ v.due = v.calling := by
  obtain ⟨h0, hno⟩ := hi.unwritten hl hh
  have hnone := hno.resolve_left hc
  exact ⟨h0, by rw [Visit.due, hnone]; rfl⟩

theorem onCourse_userData {theme : Int} (hi : OnCourse v) (hg : InTime v (.userData theme))
    (h : v.userData theme = some v') : OnCourse v' := by
  unfold Visit.userData at h
  split at h
  · split at h
    · obtain rfl := Option.some.inj h
      exact ⟨hi.opened, hi.choosing, hi.written, hi.unwritten, hi.handsBack⟩
    · rename_i hp
      have hnone : v.popped = none := by simpa using hp
      obtain rfl := Option.some.inj h
      refine ⟨hi.opened, hi.choosing, fun _ => hg hnone, (fun hl => by cases hl), ?_⟩
      intro t ht
      rw [show v.popped = some t from ht] at hnone
      cases hnone
  · cases h

theorem onCourse_openPreference (hi : OnCourse v) (h : v.openPreference = some v') :
    OnCourse v' := by
  unfold Visit.openPreference at h
  split at h
  · rename_i hc
    obtain rfl := Option.some.inj h
    have hno := not_choosing_of_closed hc.2
    refine ⟨fun _ _ => hc.1, ?_, ?_, ?_, hi.handsBack⟩
    · rintro p ⟨⟩ ⟨⟩
    · intro hw
      exact .inr ((hi.written hw).resolve_left hno)
    · intro hl hh
      obtain ⟨h0, hn⟩ := hi.unwritten hl hh
      exact ⟨h0, .inr (hn.resolve_left hno)⟩
  · cases h

/-- A theme that is confirmed is due from now on, and the preference page holds
it. -/
theorem onCourse_confirm {theme : Int} {o : Outcome} {kept : Bool} (hi : OnCourse v)
    (h : v.confirm theme o kept = some v') : OnCourse v' := by
  unfold Visit.confirm at h
  split at h
  · cases h
  · rename_i p hp
    have hpop := hi.opened p hp
    dsimp only at h
    split at h
    · obtain rfl := Option.some.inj h
      split
      · exact ⟨hi.opened, hi.choosing, hi.written, hi.unwritten, hi.handsBack⟩
      · exact hi
    · obtain rfl := Option.some.inj h
      split
      all_goals
        refine ⟨fun _ _ => hpop, ?_, fun _ => .inl ⟨_, rfl, rfl⟩, ?_, ?_⟩
        · rintro _ ⟨⟩ _
          rfl
        · intro hl hh
          exact ⟨(hi.unwritten hl hh).1, .inl ⟨_, rfl, rfl⟩⟩
        · intro t ht
          rw [show v.popped = some t from ht] at hpop
          cases hpop

theorem onCourse_leavePreference (hi : OnCourse v) (hg : InTime v .leavePreference)
    (h : v.leavePreference = some v') : OnCourse v' := by
  unfold Visit.leavePreference at h
  split at h
  · cases h
  · rename_i p hp
    have hpop := hi.opened p hp
    obtain rfl := Option.some.inj h
    refine ⟨by rintro _ ⟨⟩, by rintro _ ⟨⟩, ?_, ?_, ?_⟩
    · intro hw
      right
      cases hc : p.confirmed with
      | true =>
        show p.currTheme = v.confirmed.getD v.calling
        rw [hi.choosing p hp hc]
        rfl
      | false =>
        have hno : ¬ v.Choosing := by
          rintro ⟨q, hq, hqc⟩
          obtain rfl := Option.some.inj (hp.symm.trans hq)
          rw [hc] at hqc
          cases hqc
        have hw' : v.loaded = true ∨ v.handed = true := by simpa [hc] using hw
        rw [show p.currTheme = v.currTheme from hg p hp hc]
        exact (hi.written hw').resolve_left hno
    · intro hl hh
      have hor : v.handed = false ∧ p.confirmed = false := by simpa using hh
      obtain ⟨h0, hn⟩ := hi.unwritten hl hor.1
      refine ⟨(hg p hp hor.2).trans h0, .inr (hn.resolve_left ?_)⟩
      rintro ⟨q, hq, hqc⟩
      obtain rfl := Option.some.inj (hp.symm.trans hq)
      rw [hor.2] at hqc
      cases hqc
    · intro t ht
      rw [show v.popped = some t from ht] at hpop
      cases hpop

/-- **Going back hands back the theme due.** -/
theorem onCourse_back (hi : OnCourse v) (hg : InTime v .back) (h : v.back = some v') :
    OnCourse v' := by
  unfold Visit.back at h
  split at h
  · rename_i hc
    obtain rfl := Option.some.inj h
    have hno := not_choosing_of_closed hc.2
    have hdue : v.currTheme = v.due := by
      cases hl : v.loaded with
      | true => exact (hi.written (.inl hl)).resolve_left hno
      | false =>
        cases hh : v.handed with
        | true => exact (hi.written (.inr hh)).resolve_left hno
        | false =>
          obtain ⟨h0, hcall⟩ := due_of_unwritten hi hno hl hh
          have hzero : v.calling = 0 := by simpa [InTime, hl, hh] using hg
          rw [h0, hcall, hzero]
    refine ⟨?_, hi.choosing, hi.written, hi.unwritten, ?_⟩
    · intro p hp
      rw [show v.preference = some p from hp] at hc
      cases hc.2
    · rintro t ⟨⟩
      exact hdue
  · cases h

/-- **One step keeps the visit on its course.** -/
theorem onCourse_step {a : Visit.Act} (hi : OnCourse v) (hg : InTime v a)
    (h : v.step a = some v') : OnCourse v' := by
  cases a with
  | userData theme => exact onCourse_userData hi hg h
  | userDataFailed =>
    replace h : v.userDataFailed = some v' := h
    unfold Visit.userDataFailed at h
    split at h
    · obtain rfl := Option.some.inj h
      exact ⟨hi.opened, hi.choosing, hi.written, hi.unwritten, hi.handsBack⟩
    · cases h
  | openPreference => exact onCourse_openPreference hi h
  | confirm theme o kept => exact onCourse_confirm hi h
  | leavePreference => exact onCourse_leavePreference hi hg h
  | back => exact onCourse_back hi hg h

/-- **A visit hands back the theme due, in every run whose writes are in time.** -/
theorem along_handsBack (h : visit.start v) (as : List Visit.Act)
    (hg : visit.Along (Machine.before InTime) v as) :
    visit.Along (fun _ _ v' _ => HandsBack v') v as := by
  obtain ⟨calling, rfl⟩ := h
  refine Machine.along_of_inv OnCourse ?_ as _ (onCourse_start calling) hg
  intro v a v' es hi hg hst
  obtain ⟨w, hw, he⟩ := Option.map_eq_some_iff.mp hst
  cases he
  have hi' := onCourse_step hi hg hw
  exact ⟨hi'.handsBack, hi'⟩

/-- The load, a new theme, and back. -/
theorem along_handsBack_confirmed :
    visit.Along (fun _ _ v' _ => HandsBack v') (.start 3)
      [.userData 3, .openPreference, .confirm 5 (.response 200 "") true, .leavePreference,
        .back] := by
  refine along_handsBack ⟨3, rfl⟩ _ ?_
  refine (Machine.along_cons rfl _).mpr ⟨fun _ => .inr rfl, ?_⟩
  refine (Machine.along_cons rfl _).mpr ⟨trivial, ?_⟩
  refine (Machine.along_cons rfl _).mpr ⟨trivial, ?_⟩
  refine (Machine.along_cons rfl _).mpr ⟨?_, ?_⟩
  · rintro p ⟨⟩ ⟨⟩
  · exact (Machine.along_cons rfl _).mpr ⟨.inl rfl, trivial⟩

/-- The user is back before the load has come: the constant is handed back. -/
theorem not_along_handsBack :
    ¬ ∀ v, visit.start v → ∀ as, visit.Along (fun _ _ v' _ => HandsBack v') v as := by
  intro h
  have hlast := Machine.Along.last (h (.start 3) ⟨3, rfl⟩ ([] ++ [.back])) rfl rfl
  have heq : (0 : Int) = 3 := hlast 0 rfl
  omega

end GoodOmens.Theme
