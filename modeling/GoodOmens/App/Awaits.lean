import GoodOmens.App.Leaving

/-!
# What an awaited page answers

The pages of the verse flow, the cover included, push with
`int themeOut = await Navigator.of(context).push(...)` and then take the result over:
the theme, and in the handlers of a gesture the drag offset goes back to zero.  The
await ends when the route does, whatever ends it, and `null` is no `int`: the handler
throws there, and its page keeps what it had.

`awaiting` watches the screen with the awaits that are open and with what the pages
hold.  Only a page's own back path answers with a theme (`popsTheme`); Log Out, a
sign-in, a verified email, an error status, Confirm of a theme modal and the back button
of an auth page end routes with `null` (`drops`).  And a page that awaits another is below
it, unless its verse came while it was moving out: then it may be gone when the answer
comes.  `along_answersInt_iff` says that every await gets its `int`, and its handler runs
to its end, exactly if none of the routes that a step drops is awaited, and the page that
awaits the one popped with a theme is still there to take it.
-/

namespace GoodOmens.App

open Navigator

/-- The `theme` of a page and its `_offsetY`. -/
structure Held where
  theme : Int
  offsetY : Int
deriving DecidableEq, Repr

/-- An await of a push: the route that was pushed, the route whose handler waits, and
whether the handler resets the offset. -/
structure Await where
  route : Nat
  owner : Nat
  resetsOffset : Bool
deriving DecidableEq, Repr

/-- The end of an await: `none` is Dart's `null`. -/
structure Completion where
  await : Await
  result : Option Int
deriving DecidableEq, Repr

/-- The await that a step starts: `handleGesture` of the cover when the verse has come,
and of the pages above it, Submit of `QueryPage`, and the menu buttons. -/
def AppState.awaited (s : AppState) : Act → Option Await
  | .openMenu => s.front.map (fun r => ⟨s.nav.next, r.id, false⟩)
  | .seeMore =>
    match s.front with
    | some ⟨i, .flow p _⟩ => some ⟨s.nav.next, i, p ≠ .query⟩
    | _ => none
  | .fetchVerseAnswer i answer =>
    if (s.coverState i).isSome ∧ answer ≠ .threw then some ⟨s.nav.next, i, true⟩ else none
  | _ => none

/-- The await that a late step of the page `p` starts: its verse has come. -/
def AppState.awaitedLate (s : AppState) (p : Page) : Act → Option Await
  | .fetchVerseAnswer i answer =>
    if p.isBuiltCover ∧ answer ≠ .threw then some ⟨s.nav.next, i, true⟩ else none
  | _ => none

/-- The await that a step on the screen starts. -/
def Screen.awaited (t : Screen) : Screen.Act → Option Await
  | .app a =>
    match t.late a with
    | some r => t.app.awaitedLate r.page a
    | none => t.app.awaited a
  | _ => none

/-- The screen, what its pages hold, and the awaits that are open. -/
structure Awaiting where
  screen : Screen
  held : Nat → Held
  awaits : List Await

/-- A step on the screen; a theme from elsewhere comes to a `CoverPage` or a
`ProfileHomePage`; the page in front is dragged. -/
inductive Awaiting.Act
  | screen (b : Screen.Act)
  | themed (route : Nat) (theme : Int)
  | drag (dy : Int)
deriving DecidableEq, Repr

/-- The page takes a theme from the backend or from its preference page. -/
def Page.takesTheme : Page → Bool
  | cover (some _) | profileNav _ .profileHome => true
  | _ => false

/-- The page follows a vertical drag. -/
def Page.drags : Page → Bool
  | flow page _ => page = .verse ∨ page = .explaination ∨ page = .guidance
  | _ => false

namespace Awaiting

/-- The page that was pushed: `ProfileHomePage` starts with theme `0`, a page of the
flow with that of the page that pushed it. -/
def opened (b : Screen.Act) (held : Nat → Held) (w : Await) : Nat → Held :=
  let theme := if b = .app .openMenu then 0 else (held w.owner).theme
  fun i => if i = w.route then ⟨theme, 0⟩ else held i

/-- The rest of the handler, if its page is still there: `themeOut` is taken over, and
an assignment of `null` to it throws. -/
def resume (t : Screen) (result : Option Int) (held : Nat → Held) (w : Await) :
    Nat → Held :=
  match result with
  | none => held
  | some themeOut =>
    if t.mounted w.owner then
      fun i => if i = w.owner then
        ⟨themeOut, if w.resetsOffset then 0 else (held i).offsetY⟩ else held i
    else held

variable (s : Awaiting)

/-- A step on the screen, and the awaits whose routes it ends. -/
def screenStep (b : Screen.Act) : Option (Awaiting × List Completion) :=
  match s.screen.step b with
  | none => none
  | some (t, _) =>
    let result := (s.screen.popsTheme b).map (fun r => (s.held r.id).theme)
    let ended := s.awaits.filter (fun w => w.route ∉ t.app.nav.ids)
    let started := (s.screen.awaited b).toList
    some (
      { screen := t
        held := ended.foldl (resume t result) (started.foldl (opened b) s.held)
        awaits := started ++ s.awaits.filter (fun w => w.route ∈ t.app.nav.ids) },
      ended.map (fun w => ⟨w, result⟩))

def themed (i : Nat) (theme : Int) : Option (Awaiting × List Completion) :=
  if s.screen.shows i Page.takesTheme then
    some ({ s with held := fun j => if j = i then ⟨theme, (s.held i).offsetY⟩ else s.held j }, [])
  else none

/-- `onVerticalDragUpdate`. -/
def drag (dy : Int) : Option (Awaiting × List Completion) :=
  match s.screen.app.front with
  | some r =>
    if r.page.drags then
      some ({ s with held := fun j =>
        if j = r.id then ⟨(s.held j).theme, (s.held j).offsetY + dy⟩ else s.held j }, [])
    else none
  | none => none

def step : Act → Option (Awaiting × List Completion)
  | .screen b => s.screenStep b
  | .themed route theme => s.themed route theme
  | .drag dy => s.drag dy

end Awaiting

/-- The screen with its awaits.  A `CoverPage` starts with theme `999`. -/
def awaiting : Machine Awaiting Awaiting.Act Completion where
  start s := screen.start s.screen ∧ s.held = (fun _ => ⟨999, 0⟩) ∧ s.awaits = []
  step := Awaiting.step

/-- Every await that ends gets an `int`, and its handler, whose page is there, runs to its
end. -/
def AnswersInt (s' : Awaiting) (es : List Completion) : Prop :=
  ∀ c ∈ es, ∃ themeOut, c.result = some themeOut ∧ s'.screen.mounted c.await.owner ∧
    (s'.held c.await.owner).theme = themeOut ∧
    (c.await.resetsOffset = true → (s'.held c.await.owner).offsetY = 0)

/-- No route that the step ends with `null` is awaited, and the page that awaits the one
popped with a theme is there. -/
structure Answered (s : Awaiting) (b : Screen.Act) : Prop where
  kept : ∀ w ∈ s.awaits, w.route ∉ s.screen.app.nav.ids.take (s.screen.drops b)
  taken : ∀ r, s.screen.popsTheme b = some r →
    ∀ w ∈ s.awaits, w.route = r.id → s.screen.mounted w.owner

def HasAnswer (s : Awaiting) : Awaiting.Act → Prop
  | .screen b => Answered s b
  | _ => True

/-- An await is that of a route on the stack, and a route is awaited once. -/
structure Waits (s : Awaiting) : Prop where
  route : ∀ w ∈ s.awaits, w.route ∈ s.screen.app.nav.ids
  unique : s.awaits.Pairwise (fun v w => v.route ≠ w.route)

/-! ### A step on the screen -/

section

variable {s s' : Awaiting} {a : Act} {b : Screen.Act} {es : List Completion}

theorem screenStep_inv (h : s.screenStep b = some (s', es)) : ∃ t fs,
    s.screen.step b = some (t, fs) ∧ s'.screen = t ∧
    s'.held = (s.awaits.filter (fun w => w.route ∉ t.app.nav.ids)).foldl
      (Awaiting.resume t ((s.screen.popsTheme b).map (fun r => (s.held r.id).theme)))
      ((s.screen.awaited b).toList.foldl (Awaiting.opened b) s.held) ∧
    s'.awaits = (s.screen.awaited b).toList ++
      s.awaits.filter (fun w => w.route ∈ t.app.nav.ids) ∧
    es = (s.awaits.filter (fun w => w.route ∉ t.app.nav.ids)).map
      (fun w => ⟨w, (s.screen.popsTheme b).map (fun r => (s.held r.id).theme)⟩) := by
  unfold Awaiting.screenStep at h
  split at h
  · cases h
  · rename_i t fs hst
    cases h
    exact ⟨t, fs, hst, rfl, rfl, rfl, rfl⟩

/-- The route that a step of the app awaits is new. -/
theorem awaited_step {s s' : AppState} {es : List Effect} {w : Await}
    (hw : s.awaited a = some w) (h : step s a = some (s', es)) :
    w.route = s.nav.next ∧ s'.nav.ids = s.nav.next :: s.nav.ids := by
  unfold AppState.awaited at hw
  split at hw
  · obtain ⟨r, -, rfl⟩ := Option.map_eq_some_iff.mp hw
    obtain ⟨-, rfl, -⟩ := AppState.openMenu_inv h
    exact ⟨rfl, rfl⟩
  · split at hw
    · cases hw
      obtain ⟨_, _, _, _, -, rfl, -⟩ := AppState.seeMore_inv h
      exact ⟨rfl, rfl⟩
    · cases hw
  · rename_i i answer
    split at hw
    · rename_i hc
      cases hw
      obtain ⟨-, ⟨-, hno⟩ | ⟨c, p, -, -, hnav, -⟩⟩ := AppState.fetchVerseAnswer_inv h
      · rcases hno with hno | hno
        · rw [hno] at hc
          exact absurd hc.1 (by simp)
        · exact absurd hno hc.2
      · refine ⟨rfl, ?_⟩
        rw [hnav, ids_push]
        exact congrArg (s.nav.next :: ·) ids_mapPages
    · cases hw
  · cases hw

/-- So is that of a late one. -/
theorem awaited_late {s s' : AppState} {es : List Effect} {p : Page} {w : Await}
    (hw : s.awaitedLate p a = some w) (h : s.late p a = some (s', es)) :
    w.route = s.nav.next ∧ s'.nav.ids = s.nav.next :: s.nav.ids := by
  unfold AppState.awaitedLate at hw
  split at hw
  · rename_i i answer
    obtain ⟨⟨hp, hans⟩, hw⟩ := Option.ite_none_right_eq_some.mp hw
    cases hw
    replace h := (AppState.finish_bind h).2
    split at h
    · cases h
      cases answer with
      | ok | error => exact ⟨rfl, rfl⟩
      | threw => exact absurd rfl hans
    · rename_i hno
      unfold Page.isBuiltCover at hp
      split at hp
      · exact absurd rfl (hno _)
      · cases hp
  · cases hw

/-- The route that a step on the screen awaits is new, and what was there is below it. -/
theorem awaited_screen {t t' : Screen} {es : List Effect} {w : Await}
    (hw : t.awaited b = some w) (h : t.step b = some (t', es)) :
    w.route = t.app.nav.next ∧ t'.app.nav.ids = t.app.nav.next :: t.app.nav.ids := by
  cases b with
  | app a =>
    rw [Screen.awaited] at hw
    obtain ⟨-, ⟨hl, hst, -⟩ | ⟨r, hl, hst, -⟩⟩ := appStep_cases h
    · rw [hl] at hw
      exact awaited_step hw hst
    · rw [hl] at hw
      exact awaited_late hw hst
  | _ => cases hw

/-- How many routes a step on the screen ends. -/
def ends (t : Screen) (b : Screen.Act) : Nat := t.drops b + (t.popsTheme b).toList.length

/-- The await of a route ends exactly if the route is among those that the step ends. -/
theorem mem_ended_iff {t : Screen} {fs : List Effect} {w : Await} (hi : Waits s)
    (hst : s.screen.step b = some (t, fs)) :
    w ∈ s.awaits.filter (fun w => w.route ∉ t.app.nav.ids) ↔
      w ∈ s.awaits ∧ w.route ∈ s.screen.app.nav.ids.take (ends s.screen b) := by
  rw [List.mem_filter, decide_eq_true_iff]
  refine and_congr_right ?_
  intro hw
  rw [mem_ids_of_drops (drops_screen hst) (hi.route w hw), Classical.not_not]
  rfl

/-- The routes that stay awaited are those that stay on the stack. -/
theorem waits_screenStep (hi : Waits s) (h : s.screenStep b = some (s', es)) : Waits s' := by
  obtain ⟨t, fs, hst, rfl, -, haw, -⟩ := screenStep_inv h
  have hnew : ∀ w ∈ (s.screen.awaited b).toList, w.route = s.screen.app.nav.next ∧
      s'.screen.app.nav.ids = s.screen.app.nav.next :: s.screen.app.nav.ids := by
    intro w hw
    exact awaited_screen (Option.mem_toList.mp hw) hst
  have hold : ∀ w ∈ s.awaits.filter (fun w => w.route ∈ s'.screen.app.nav.ids),
      w ∈ s.awaits ∧ w.route ∈ s'.screen.app.nav.ids := by
    intro w hw
    obtain ⟨hmem, hr⟩ := List.mem_filter.mp hw
    exact ⟨hmem, of_decide_eq_true hr⟩
  refine ⟨?_, ?_⟩
  · intro w hw
    rw [haw] at hw
    rcases List.mem_append.mp hw with hw | hw
    · obtain ⟨hr, hids⟩ := hnew w hw
      rw [hr, hids]
      exact List.mem_cons_self
    · exact (hold w hw).2
  · rw [haw]
    refine List.pairwise_append.mpr ⟨?_, hi.unique.filter _, ?_⟩
    · cases s.screen.awaited b with
      | none => exact List.Pairwise.nil
      | some w => exact List.pairwise_singleton _ w
    · intro v hv w hw heq
      have hlt : w.route < s.screen.app.nav.next := lt_next_of_mem (hi.route w (hold w hw).1)
      rw [← heq, (hnew v hv).1] at hlt
      exact Nat.lt_irrefl _ hlt

/-- A step that pops a theme is one of the app, at the page on top. -/
theorem popsTheme_cases {t : Screen} {r : Route Page} (hr : t.popsTheme b = some r) :
    (∃ a, b = .app a ∧ t.app.popsTheme a = some r) ∧ t.app.nav.top = some r ∧ t.drops b = 0 := by
  cases b with
  | app a =>
    have hpops : t.app.popsTheme a = some r := hr
    have hfront : t.app.front.filter (fun r => r.page.onWillPop = .pops) = some r := by
      cases a with
      | systemBack | backButton => exact hr
      | _ => cases hr
    refine ⟨⟨a, rfl, hpops⟩, (AppState.front_eq (Option.filter_eq_some_iff.mp hfront).1).1, ?_⟩
    have hl : t.late a = none := by
      cases a with
      | systemBack | backButton => rfl
      | _ => cases hr
    rw [Screen.drops, hl]
    exact drops_eq_zero_of_popsTheme hpops
  | _ => cases hr

/-- It ends the route on top only. -/
theorem mem_take_ends_iff {t : Screen} {r : Route Page} {i : Nat} (hr : t.popsTheme b = some r) :
    i ∈ t.app.nav.ids.take (ends t b) ↔ i = r.id := by
  obtain ⟨-, htop, hdrops⟩ := popsTheme_cases hr
  have hone : ends t b = 1 := by
    rw [ends, hdrops, hr]
    rfl
  rw [hone, ids]
  rw [top] at htop
  cases hh : t.app.nav.history with
  | nil =>
    rw [hh] at htop
    cases htop
  | cons x xs =>
    rw [hh] at htop
    obtain rfl : x = r := Option.some.inj htop
    exact List.mem_singleton

/-- So the await of that route is the only one that ends. -/
theorem ended_eq_singleton {t : Screen} {fs : List Effect} {r : Route Page} {w : Await}
    (hi : Waits s) (hst : s.screen.step b = some (t, fs)) (hr : s.screen.popsTheme b = some r)
    (hw : w ∈ s.awaits.filter (fun w => w.route ∉ t.app.nav.ids)) :
    s.awaits.filter (fun w => w.route ∉ t.app.nav.ids) = [w] := by
  have htop : ∀ v ∈ s.awaits.filter (fun w => w.route ∉ t.app.nav.ids), v.route = r.id := by
    intro v hv
    exact (mem_take_ends_iff hr).mp ((mem_ended_iff hi hst).mp hv).2
  have hpair := hi.unique.filter (fun w => decide (w.route ∉ t.app.nav.ids))
  cases hl : s.awaits.filter (fun w => w.route ∉ t.app.nav.ids) with
  | nil =>
    rw [hl] at hw
    cases hw
  | cons v vs =>
    rw [hl] at hw htop hpair
    cases vs with
    | nil => rw [List.mem_singleton.mp hw]
    | cons v' vs =>
      have hne := (List.pairwise_cons.mp hpair).1 v' List.mem_cons_self
      have hv := htop v List.mem_cons_self
      have hv' := htop v' (List.mem_cons_of_mem _ List.mem_cons_self)
      exact absurd (hv.trans hv'.symm) hne

/-- The pages that are there before a way back are those that are there after it. -/
theorem mounted_back_iff {t t' : Screen} {fs : List Effect} {r : Route Page} {i : Nat}
    (hst : t.step b = some (t', fs)) (hr : t.popsTheme b = some r) :
    t'.mounted i ↔ t.mounted i := by
  obtain ⟨⟨a, rfl, hpops⟩, -⟩ := popsTheme_cases hr
  exact ⟨mounted_of_popsTheme hst hpops, mounted_appStep hst⟩

/-- **A step on the screen answers what it ends with an `int`, exactly if what it drops is
not awaited and the page that awaits what it pops is there.** -/
theorem answersInt_screenStep_iff (hi : Waits s) (h : s.screenStep b = some (s', es)) :
    AnswersInt s' es ↔ HasAnswer s (.screen b) := by
  obtain ⟨t, fs, hst, rfl, hheld, -, rfl⟩ := screenStep_inv h
  constructor
  · intro hq
    refine ⟨?_, ?_⟩
    · intro w hw htake
      have hpops : s.screen.popsTheme b = none := by
        cases hp : s.screen.popsTheme b with
        | none => rfl
        | some r =>
          rw [(popsTheme_cases hp).2.2] at htake
          cases htake
      have hended := (mem_ended_iff hi hst).mpr
        ⟨hw, List.take_subset_take_left _ (Nat.le_add_right _ _) htake⟩
      obtain ⟨themeOut, hres, -⟩ := hq _ (List.mem_map_of_mem hended)
      rw [hpops] at hres
      cases hres
    · intro r hr w hw hid
      have hended := (mem_ended_iff hi hst).mpr ⟨hw, (mem_take_ends_iff hr).mpr hid⟩
      obtain ⟨_, -, hm, -⟩ := hq _ (List.mem_map_of_mem hended)
      exact (mounted_back_iff hst hr).mp hm
  · intro hg c hc
    obtain ⟨w, hw, rfl⟩ := List.mem_map.mp hc
    obtain ⟨hmem, htake⟩ := (mem_ended_iff hi hst).mp hw
    cases hp : s.screen.popsTheme b with
    | none =>
      rw [ends, hp] at htake
      exact absurd htake (hg.kept w hmem)
    | some r =>
      rw [ended_eq_singleton hi hst hp hw, hp] at hheld
      have hown := hg.taken r hp w hmem ((mem_take_ends_iff hp).mp htake)
      rw [← mounted_back_iff hst hp] at hown
      refine ⟨(s.held r.id).theme, rfl, hown, ?_, ?_⟩
      · rw [hheld]
        simp [Awaiting.resume, hown]
      · intro hreset
        rw [hheld]
        simp [Awaiting.resume, hown, show w.resetsOffset = true from hreset]

end

/-! ### Runs -/

section

variable {s s' : Awaiting} {a : Awaiting.Act} {es : List Completion}

/-- What the pages do on their own ends no await. -/
theorem answersInt_iff (hi : Waits s) (h : s.step a = some (s', es)) :
    (AnswersInt s' es ↔ HasAnswer s a) ∧ Waits s' := by
  cases a with
  | screen b => exact ⟨answersInt_screenStep_iff hi h, waits_screenStep hi h⟩
  | themed i theme =>
    replace h : s.themed i theme = some (s', es) := h
    unfold Awaiting.themed at h
    split at h
    · cases h
      refine ⟨iff_of_true ?_ trivial, hi.route, hi.unique⟩
      intro c hc
      cases hc
    · cases h
  | drag dy =>
    replace h : s.drag dy = some (s', es) := h
    unfold Awaiting.drag at h
    split at h
    · split at h
      · cases h
        refine ⟨iff_of_true ?_ trivial, hi.route, hi.unique⟩
        intro c hc
        cases hc
      · cases h
    · cases h

theorem waits_start (h : awaiting.start s) : Waits s := by
  obtain ⟨-, -, hno⟩ := h
  refine ⟨?_, ?_⟩
  · intro w hw
    rw [hno] at hw
    cases hw
  · rw [hno]
    exact List.Pairwise.nil

/-- **Every awaited page answers with an `int` that its handler takes over, exactly in the
runs that drop no awaited route and pop none whose handler has lost its page.** -/
theorem along_answersInt_iff (h : awaiting.start s) (as : List Awaiting.Act) :
    awaiting.Along (fun _ _ s' es => AnswersInt s' es) s as ↔
      awaiting.Along (Machine.before HasAnswer) s as := by
  refine Machine.along_iff Waits ?_ ?_ as s (waits_start h)
  · intro s a s' es hi hst
    exact (answersInt_iff hi hst).1
  · intro s a s' es hi _ hst
    exact (answersInt_iff hi hst).2

end

/-- The app started by a signed-in user, nothing awaited yet. -/
def awaitingBy (uid : Uid) : Awaiting := ⟨.of (startedBy uid [uid]), fun _ => ⟨999, 0⟩, []⟩

theorem start_awaitingBy (uid : Uid) : awaiting.start (awaitingBy uid) :=
  ⟨start_of (starts_startedBy uid [uid]), rfl, rfl⟩

/-- The menu from the cover page, a theme, and back. -/
theorem along_answersInt_visited :
    awaiting.Along (fun _ _ s' es => AnswersInt s' es) (awaitingBy "u")
      [.screen (.app .frame), .screen (.app .openMenu), .themed 1 7,
        .screen (.app .systemBack)] := by
  refine (along_answersInt_iff (start_awaitingBy "u") _).mpr ?_
  refine (Machine.along_cons rfl _).mpr
    ⟨⟨(fun w hw => by cases hw), (fun r hr => by cases hr)⟩, ?_⟩
  refine (Machine.along_cons rfl _).mpr
    ⟨⟨(fun w hw => by cases hw), (fun r hr => by cases hr)⟩, ?_⟩
  refine (Machine.along_cons rfl _).mpr ⟨trivial, ?_⟩
  refine (Machine.along_cons rfl _).mpr ⟨⟨?_, ?_⟩, trivial⟩
  · intro w _ hw
    cases hw
  · intro r _ w hw _
    obtain rfl := List.mem_singleton.mp hw
    rfl

/-- Log Out in the menu ends the await of the cover page with `null`. -/
theorem not_along_answersInt :
    ¬ ∀ s, awaiting.start s → ∀ as,
      awaiting.Along (fun _ _ s' es => AnswersInt s' es) s as := by
  intro h
  have hlast := Machine.Along.last (h (awaitingBy "u") (start_awaitingBy "u")
    ([.screen (.app .frame), .screen (.app .openMenu)] ++ [.screen (.app .logOut)])) rfl rfl
  obtain ⟨themeOut, hres, -⟩ := hlast ⟨⟨1, 0, false⟩, none⟩ List.mem_cons_self
  cases hres

end GoodOmens.App
