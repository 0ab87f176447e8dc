import GoodOmens.App.Page
import GoodOmens.Library.Machine

/-!
# The copies of the theme

Every page of the verse flow keeps a copy of the theme.  It is passed on when the
next page is pushed and handed back when a page is popped; a menu visit hands its
result back to the page the menu was opened from; and the user's data, once
loaded, goes into the copy of the `CoverPage` alone, wherever the user is by then.

Next to the copies `establish` keeps the one variable they stand for: the theme
that was loaded or chosen last.  The page on top should show it (`ShowsCurrent`).
Pushing and popping keep that, since both carry the copy on top along.  The two
writes that may break it are a load that lands under other pages, and a menu visit
without a choice that hands back the theme from before a load
(`along_showsCurrent_iff`).
-/

namespace GoodOmens.Theme

open App

/-- A page above the cover with its theme, or a menu visit, which starts with the
theme of the page it was opened from. -/
inductive Layer
  | page (page : FlowPage) (theme : Int)
  | menu (opened : Int)
deriving DecidableEq, Repr

/-- The `CoverPage`'s theme, the layers above it from the top down, and the two
requests of the `CoverPage`: the user load of its `initState`, and a verse. -/
structure Flow where
  theme : Int
  layers : List Layer
  loading : Bool
  isLoading : Bool
deriving DecidableEq, Repr

/-- What the user does, and what comes back. -/
inductive Act
  | userData (theme : Int)
  | userDataFailed
  | tapBible
  | verse
  | forward
  | back
  | openMenu
  | closeMenu (choice : Option Int)
deriving DecidableEq, Repr

/-- The theme of the topmost page. -/
def topTheme (cover : Int) : List Layer → Int
  | [] => cover
  | .page _ theme :: _ => theme
  | .menu _ :: layers => topTheme cover layers

/-- There is a page above the cover. -/
def hasPage : List Layer → Bool
  | [] => false
  | .page _ _ :: _ => true
  | .menu _ :: layers => hasPage layers

/-- The layers after the topmost page took over a theme. -/
def setLayers (themeOut : Int) : List Layer → List Layer
  | [] => []
  | .page p _ :: layers => .page p themeOut :: layers
  | .menu opened :: layers => .menu opened :: setLayers themeOut layers

namespace Flow

variable (f : Flow)

/-- The theme of the page on top of the flow. -/
def top : Int := topTheme f.theme f.layers

/-- The rest of a handler that awaited a push: its page, which is the topmost now,
takes over the result. -/
def handBack (themeOut : Int) : Flow :=
  if hasPage f.layers then { f with layers := setLayers themeOut f.layers }
  else { f with theme := themeOut }

def push (layer : Layer) : Flow := { f with layers := layer :: f.layers }

/-- One step. -/
def step : Act → Option Flow
  | .userData theme => if f.loading then some { f with theme := theme, loading := false } else none
  | .userDataFailed => if f.loading then some { f with loading := false } else none
  | .tapBible =>
    match f.layers with
    | [] => if f.isLoading then none else some { f with isLoading := true }
    | _ :: _ => none
  | .verse =>
    if f.isLoading then some ({ f with isLoading := false }.push (.page .verse f.theme)) else none
  | .forward =>
    match f.layers with
    | .page p theme :: _ => p.next.map (fun q => f.push (.page q theme))
    | _ => none
  | .back =>
    match f.layers with
    | .page _ theme :: layers => some ({ f with layers := layers }.handBack theme)
    | _ => none
  | .openMenu =>
    match f.layers with
    | .menu _ :: _ => none
    | _ => some (f.push (.menu f.top))
  | .closeMenu choice =>
    match f.layers with
    | .menu opened :: layers => some ({ f with layers := layers }.handBack (choice.getD opened))
    | _ => none

end Flow

/-- A `CoverPage` that was just built: its user load is on the way. -/
def coverPage : Flow where
  theme := 999
  layers := []
  loading := true
  isLoading := false

/-- The theme that was established last. -/
def establish (current : Int) : Act → Int
  | .userData theme => theme
  | .closeMenu (some choice) => choice
  | _ => current

/-- The pages, and the theme established last. -/
def flow : Machine (Flow × Int) Act Empty :=
  Machine.watch
    { start := fun f => f = coverPage, step := fun f a => (f.step a).map (fun f => (f, [])) }
    (fun f current => current = f.theme) establish

/-- The page on top shows the theme established last. -/
def ShowsCurrent (s : Flow × Int) : Prop := s.1.top = s.2

/-- The user's data lands on the page on top, or brings the theme shown there
already; and a menu visit without a choice hands back the theme that its page
still has. -/
def KeepsShown (s : Flow × Int) (a : Act) : Prop :=
  match a with
  | .userData theme => hasPage s.1.layers = false ∨ theme = s.1.top
  | .closeMenu none => ∀ opened layers, s.1.layers = .menu opened :: layers → opened = s.1.top
  | _ => True

/-! ### The topmost page -/

theorem topTheme_of_hasPage {c c' : Int} : ∀ {layers : List Layer}, hasPage layers = true →
    topTheme c layers = topTheme c' layers := by
  intro layers
  induction layers with
  | nil => intro h; cases h
  | cons l layers ih =>
    intro h
    cases l with
    | page p theme => rfl
    | menu opened => exact ih h

theorem topTheme_of_not_hasPage {c : Int} : ∀ {layers : List Layer}, hasPage layers = false →
    topTheme c layers = c := by
  intro layers
  induction layers with
  | nil => intro _; rfl
  | cons l layers ih =>
    intro h
    cases l with
    | page p theme => cases h
    | menu opened => exact ih h

theorem topTheme_setLayers {c t : Int} : ∀ {layers : List Layer}, hasPage layers = true →
    topTheme c (setLayers t layers) = t := by
  intro layers
  induction layers with
  | nil => intro h; cases h
  | cons l layers ih =>
    intro h
    cases l with
    | page p theme => rfl
    | menu opened => exact ih h

/-- The page that is handed a theme shows it. -/
theorem top_handBack (f : Flow) (t : Int) : (f.handBack t).top = t := by
  unfold Flow.handBack Flow.top
  split
  · rename_i h
    exact topTheme_setLayers h
  · rename_i h
    exact topTheme_of_not_hasPage (by simpa using h)

/-- The user's data, written to the cover page. -/
theorem top_userData (f : Flow) (t : Int) (b : Bool) :
    ({ f with theme := t, loading := b } : Flow).top = if hasPage f.layers then f.top else t := by
  unfold Flow.top
  split
  · rename_i h
    exact topTheme_of_hasPage h
  · rename_i h
    exact topTheme_of_not_hasPage (by simpa using h)

theorem hasPage_setLayers {t : Int} : ∀ {layers : List Layer},
    hasPage (setLayers t layers) = hasPage layers := by
  intro layers
  induction layers with
  | nil => rfl
  | cons l layers ih =>
    cases l with
    | page p theme => rfl
    | menu opened => exact ih

theorem hasPage_handBack (f : Flow) (t : Int) :
    hasPage (f.handBack t).layers = hasPage f.layers := by
  unfold Flow.handBack
  split
  · exact hasPage_setLayers
  · rfl

theorem isLoading_handBack (f : Flow) (t : Int) : (f.handBack t).isLoading = f.isLoading := by
  unfold Flow.handBack
  split <;> rfl

/-! ### Steps and runs -/

/-- A verse comes only while there is no page above the cover: the Bible is not
there to tap otherwise, and it is hidden while a verse is coming. -/
def VerseComesFirst (f : Flow) : Prop := f.isLoading = true → hasPage f.layers = false

theorem verseComesFirst_step {f f' : Flow} {a : Act} (h : VerseComesFirst f)
    (hst : f.step a = some f') : VerseComesFirst f' := by
  cases a with
  | userData theme =>
    simp only [Flow.step] at hst
    split at hst
    · obtain rfl := Option.some.inj hst
      exact h
    · cases hst
  | userDataFailed =>
    simp only [Flow.step] at hst
    split at hst
    · obtain rfl := Option.some.inj hst
      exact h
    · cases hst
  | tapBible =>
    simp only [Flow.step] at hst
    split at hst
    · rename_i hl
      split at hst
      · cases hst
      · obtain rfl := Option.some.inj hst
        intro _
        rw [hl]
        rfl
    · cases hst
  | verse =>
    simp only [Flow.step] at hst
    split at hst
    · obtain rfl := Option.some.inj hst
      rintro ⟨⟩
    · cases hst
  | forward =>
    simp only [Flow.step] at hst
    split at hst
    · rename_i p theme layers hl
      obtain ⟨q, -, rfl⟩ := Option.map_eq_some_iff.mp hst
      intro hload
      have hno := h hload
      rw [hl] at hno
      cases hno
    · cases hst
  | back =>
    simp only [Flow.step] at hst
    split at hst
    · rename_i p theme layers hl
      obtain rfl := Option.some.inj hst
      intro hload
      rw [isLoading_handBack] at hload
      have hno := h hload
      rw [hl] at hno
      cases hno
    · cases hst
  | openMenu =>
    simp only [Flow.step] at hst
    split at hst
    · cases hst
    · obtain rfl := Option.some.inj hst
      exact h
  | closeMenu choice =>
    simp only [Flow.step] at hst
    split at hst
    · rename_i opened layers hl
      obtain rfl := Option.some.inj hst
      intro hload
      rw [isLoading_handBack] at hload
      have hno := h hload
      rw [hl] at hno
      rw [hasPage_handBack]
      exact hno
    · cases hst

/-- **One step** keeps the page on top at the theme established last exactly when
it meets the condition. -/
theorem showsCurrent_step {s s' : Flow × Int} {a : Act} {es : List Empty} (h : ShowsCurrent s)
    (hv : VerseComesFirst s.1) (hst : flow.step s a = some (s', es)) :
    (ShowsCurrent s' ↔ KeepsShown s a) ∧ VerseComesFirst s'.1 := by
  obtain ⟨f, current⟩ := s
  obtain ⟨f', current'⟩ := s'
  obtain ⟨hf, rfl⟩ := Machine.watch_step hst
  obtain ⟨g, hg, he⟩ := Option.map_eq_some_iff.mp hf
  obtain rfl : g = f' := congrArg Prod.fst he
  refine ⟨?_, verseComesFirst_step hv hg⟩
  have htop : f.top = current := h
  show g.top = establish current a ↔ _
  cases a with
  | userData theme =>
    simp only [Flow.step] at hg
    split at hg
    · obtain rfl := Option.some.inj hg
      rw [top_userData]
      cases hp : hasPage f.layers with
      | false => exact iff_of_true rfl (.inl hp)
      | true =>
        constructor
        · intro ht
          exact .inr ht.symm
        · rintro (hno | rfl)
          · rw [hp] at hno
            cases hno
          · rfl
    · cases hg
  | userDataFailed =>
    simp only [Flow.step] at hg
    split at hg
    · obtain rfl := Option.some.inj hg
      exact iff_of_true htop trivial
    · cases hg
  | tapBible =>
    simp only [Flow.step] at hg
    split at hg
    · split at hg
      · cases hg
      · obtain rfl := Option.some.inj hg
        exact iff_of_true htop trivial
    · cases hg
  | verse =>
    simp only [Flow.step] at hg
    split at hg
    · rename_i hload
      obtain rfl := Option.some.inj hg
      refine iff_of_true ?_ trivial
      rw [Flow.top, topTheme_of_not_hasPage (hv hload)] at htop
      exact htop
    · cases hg
  | forward =>
    simp only [Flow.step] at hg
    split at hg
    · rename_i p theme layers hl
      obtain ⟨q, -, rfl⟩ := Option.map_eq_some_iff.mp hg
      refine iff_of_true ?_ trivial
      rw [Flow.top, hl] at htop
      exact htop
    · cases hg
  | back =>
    simp only [Flow.step] at hg
    split at hg
    · rename_i p theme layers hl
      obtain rfl := Option.some.inj hg
      refine iff_of_true ?_ trivial
      rw [Flow.top, hl] at htop
      rw [top_handBack]
      exact htop
    · cases hg
  | openMenu =>
    simp only [Flow.step] at hg
    split at hg
    · cases hg
    · obtain rfl := Option.some.inj hg
      exact iff_of_true htop trivial
  | closeMenu choice =>
    simp only [Flow.step] at hg
    split at hg
    · rename_i opened layers hl
      obtain rfl := Option.some.inj hg
      rw [top_handBack]
      cases choice with
      | some c => exact iff_of_true rfl trivial
      | none =>
        show opened = current ↔ _
        constructor
        · rintro ho o ls hol
          rw [hl] at hol
          cases hol
          exact ho.trans htop.symm
        · intro hk
          exact (hk opened layers hl).trans htop
    · cases hg

/-- **Along a run the page on top shows the theme established last exactly when
every load and every menu visit without a choice meets the condition.** -/
theorem along_showsCurrent_iff (as : List Act) :
    flow.Along (fun _ _ s' _ => ShowsCurrent s') (coverPage, coverPage.theme) as ↔
      flow.Along (Machine.before KeepsShown) (coverPage, coverPage.theme) as := by
  refine Machine.along_iff (fun s => ShowsCurrent s ∧ VerseComesFirst s.1) ?_ ?_ as _ ?_
  · intro s a s' es hi hst
    exact (showsCurrent_step hi.1 hi.2 hst).1
  · intro s a s' es hi hg hst
    obtain ⟨hq, hv⟩ := showsCurrent_step hi.1 hi.2 hst
    exact ⟨hq.mpr hg, hv⟩
  · exact ⟨rfl, fun h => by cases h⟩

/-- The verse is opened before the user's data is there: the `VersePage` stays at
the default theme. -/
theorem not_along_showsCurrent :
    ¬ ∀ as, flow.Along (fun _ _ s' _ => ShowsCurrent s') (coverPage, coverPage.theme) as := by
  intro h
  have hlast := Machine.Along.last (h ([.tapBible, .verse] ++ [.userData 2])) rfl rfl
  have heq : (999 : Int) = 2 := hlast
  omega

end GoodOmens.Theme
