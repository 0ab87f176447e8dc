import GoodOmens.App.Inversion

/-!
# A failed explanation

On an error status `CoverPage.generateOutput` pops whatever page is on top.
What it may take off are the pages of its own request (`RemovesOwn`): the
`VersePage` opened for it and those walked on to from there.

A pop removes the top route and no other (`removed_pop`), so along any run the
handler keeps to its own pages exactly when each time an error status comes in,
and the cover page is still there to take it, the page on top is one of the
request's (`OwnOnTop`).  Going back to the cover page before the answer is
enough to break it (`not_along_removesOwn`).
-/

namespace GoodOmens.App

open Navigator

/-- A step that ends an explanation request with an error status takes off pages
of that request only, and does not empty the navigator. -/
def RemovesOwn (s : AppState) (a : Act) (s' : AppState) (_ : List Effect) : Prop :=
  ∀ cover request, a = .generateOutputAnswer cover request .error →
    (∀ r, Removed s.nav s'.nav r → r.page.request = some request) ∧
    (s.nav.history ≠ [] → s'.nav.history ≠ [])

/-- When an error status comes in and the cover page is there to take it, the
page on top belongs to the request. -/
def OwnOnTop (s : AppState) (a : Act) : Prop :=
  ∀ cover request, a = .generateOutputAnswer cover request .error →
    (s.coverState cover).isSome → ∃ r, s.nav.top = some r ∧ r.page.request = some request

/-- Under a page of the flow on top, the cover page is left by a pop. -/
theorem pop_below_ne_nil {s : AppState} {i : Nat} {r : Route Page} {k : Nat}
    (hc : (s.coverState i).isSome) (ht : s.nav.top = some r) (hr : r.page.request = some k) :
    s.nav.pop.history ≠ [] := by
  obtain ⟨c, hc⟩ := Option.isSome_iff_exists.mp hc
  have hm := AppState.mem_of_coverState hc
  rw [pop_history]
  intro he
  rw [top] at ht
  cases hh : s.nav.history with
  | nil => rw [hh] at hm; cases hm
  | cons t ts =>
    rw [hh] at hm ht he
    obtain rfl : t = r := by simpa using ht
    obtain rfl : ts = [] := he
    obtain rfl := List.mem_singleton.mp hm
    cases hr

/-- One step: an error status takes off the pages of its request only, exactly
when one of them is on top. -/
theorem removesOwn_iff {s s' : AppState} {a : Act} {es : List Effect}
    (h : step s a = some (s', es)) : RemovesOwn s a s' es ↔ OwnOnTop s a := by
  constructor
  · rintro hq cover request rfl hc
    obtain ⟨-, -, ⟨-, hno⟩ | ⟨-, -, hn⟩⟩ := AppState.generateOutputAnswer_inv h
    · exact absurd ⟨rfl, hc⟩ hno
    · obtain ⟨c, hc⟩ := Option.isSome_iff_exists.mp hc
      have hm := AppState.mem_of_coverState hc
      obtain ⟨r, hr⟩ : ∃ r, s.nav.top = some r := by
        rw [top]
        cases hh : s.nav.history with
        | nil => rw [hh] at hm; cases hm
        | cons t ts => exact ⟨t, rfl⟩
      have hrem : Removed s.nav s'.nav r := by
        rw [hn]
        exact removed_pop.mpr hr
      exact ⟨r, hr, (hq cover request rfl).1 r hrem⟩
  · rintro hg cover request rfl
    obtain ⟨-, -, ⟨hn, -⟩ | ⟨-, hc, hn⟩⟩ := AppState.generateOutputAnswer_inv h
    · rw [hn]
      exact ⟨fun r hr => absurd hr not_removed_self, fun hne => hne⟩
    · obtain ⟨r, hr, hk⟩ := hg cover request rfl hc
      rw [hn]
      refine ⟨fun t ht => ?_, fun _ => pop_below_ne_nil hc hr hk⟩
      have htop := removed_pop.mp ht
      rw [hr] at htop
      obtain rfl := Option.some.inj htop
      exact hk

/-- **A failed explanation keeps to its own pages along a run exactly when they
are on top each time one comes in.** -/
theorem along_removesOwn_iff (s : AppState) (as : List Act) :
    app.Along RemovesOwn s as ↔ app.Along (Machine.before OwnOnTop) s as := by
  refine Machine.along_iff (fun _ => True) ?_ ?_ as s trivial
  · intro s a s' es _ h
    exact removesOwn_iff h
  · intros
    trivial

/-- The verse is opened and left again before its explanation fails, and the
pop takes the cover page, the only one. -/
theorem not_along_removesOwn :
    ¬ ∀ s, Starts s → ∀ as, app.Along RemovesOwn s as := by
  intro h
  have hrun := h (startedBy "a" ["a"]) (starts_startedBy _ _)
    ([.frame, .tapBible, .fetchVerseAnswer 0 .ok, .systemBack] ++
      [.generateOutputAnswer 0 0 .error])
  have hlast := Machine.Along.last hrun rfl rfl
  exact (hlast 0 0 rfl).2 (by decide) rfl

end GoodOmens.App
