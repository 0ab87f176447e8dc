import GoodOmens.App.Inversion
import GoodOmens.Cover.Bible

/-!
# The tap on the Bible, seen from the page and from the app

`Cover/Page.lean` runs `handleGesture` on the fields of its page, with the bytes of
the answer; the app runs it in two steps, `tapBible` and `fetchVerseAnswer`, among
everything else that goes on, and knows of the answer only how it ends.  This file
joins the two.  `verseAnswer` says how an outcome ends, `Matches` what the app and
the fields of one of its pages have in common, and `AppState.follow` what the app
makes of a change of these fields: the routes that the page has pushed stand on
the stack, an error route for a `pageBuilder` that throws, and the explanation
requests that it has started are in flight.

`fetchVerseAnswer_refines` says that the step of the app is this and nothing else:
when the answer comes, what `handleGesture` does to the page is what the app
follows.
-/

namespace GoodOmens.App

open GoodOmens.Cover

/-- How an outcome of the verse request ends for its handler. -/
def verseAnswer (jsonDecode : String → Except DartError Json) : Outcome → Answer
  | .exception => .threw
  | .response statusCode body =>
    if statusCode = 200 then
      match jsonDecode body with
      | .ok (.obj entries) =>
        match Json.field entries "Book", Json.field entries "Content" with
        | .str _, .str _ => .ok
        | _, _ => .threw
      | _ => .threw
    else .error

/-- The app with its page `i`, and the fields of that page: it is loading in both
or in neither, `outputDataFuture` is set in both or in neither, and by a request
that was started. -/
structure Matches (i : Nat) (s : AppState) (c : CoverState) : Prop where
  isLoading : ∀ cover, s.coverState i = some cover → cover.isLoading = c.isLoading
  outputDataFuture : ∀ cover, s.coverState i = some cover →
    cover.outputDataFuture = c.outputDataFuture.isSome
  started : ∀ future, c.outputDataFuture = some future → future.serial < c.started

/-- What a route of the cover page is for the app, when the page had started
`started` requests before and the app counts the next one as `request`: a
`VersePage` with an older future belongs to no request. -/
def routePage (started request : Nat) : Except DartError VersePage → Page
  | .ok page =>
    .flow .verse (if page.generateOutputFuture.serial = started then some request else none)
  | .error _ => .errorRoute

/-- The app after the fields of its page `i` have gone from `c` to `c'`. -/
def AppState.follow (s : AppState) (i : Nat) (c c' : CoverState) : AppState :=
  let started := c'.started - c.started
  let nav := match s.coverState i with
    | some cover =>
      s.nav.setPage i (.cover (some ⟨cover.userId, c'.isLoading, c'.outputDataFuture.isSome⟩))
    | none => s.nav
  { s with
    nav := (c'.pushed.drop c.pushed.length).foldl
      (fun n route => n.push (routePage c.started s.nextRequest route)) nav
    tasks := (List.range' s.nextRequest started).map (.generateOutput i) ++ s.tasks
    nextRequest := s.nextRequest + started }

variable {jsonDecode : String → Except DartError Json} {o : Outcome}
  {s s' : AppState} {es : List Effect} {c c' : CoverState} {i : Nat}

/-! ### What `handleGesture` does, by how the outcome ends -/

theorem exec_of_ok (h : verseAnswer jsonDecode o = .ok) :
    ∃ page, page.generateOutputFuture.serial = c.started ∧
      ((handleGesture jsonDecode o true).exec c).2.isLoading = false ∧
      ((handleGesture jsonDecode o true).exec c).2.outputDataFuture =
        some page.generateOutputFuture ∧
      ((handleGesture jsonDecode o true).exec c).2.started = c.started + 1 ∧
      ((handleGesture jsonDecode o true).exec c).2.pushed = c.pushed ++ [.ok page] := by
  unfold verseAnswer at h
  split at h
  · cases h
  · split at h
    · rename_i h200
      subst h200
      split at h
      · rename_i entries hj
        split at h
        · rename_i book content hb hc
          rw [exec_wellFormed hj hb hc]
          exact ⟨_, rfl, rfl, rfl, rfl, rfl⟩
        · cases h
      · cases h
    · cases h

/-- After an error status the route holds a page exactly if `outputDataFuture` was set. -/
theorem exec_of_error (h : verseAnswer jsonDecode o = .error) :
    ∃ route,
      ((handleGesture jsonDecode o true).exec c).2.isLoading = false ∧
      ((handleGesture jsonDecode o true).exec c).2.outputDataFuture = c.outputDataFuture ∧
      ((handleGesture jsonDecode o true).exec c).2.started = c.started ∧
      ((handleGesture jsonDecode o true).exec c).2.pushed = c.pushed ++ [route] ∧
      (match c.outputDataFuture with
        | some future => ∃ page, route = .ok page ∧ page.generateOutputFuture = future
        | none => route = .error .lateInitialization) := by
  unfold verseAnswer at h
  split at h
  · cases h
  · split at h
    · split at h
      · split at h <;> cases h
      · cases h
    · rename_i hne
      rw [exec_error hne]
      refine ⟨_, rfl, rfl, rfl, rfl, ?_⟩
      unfold pageBuilder
      cases hf : c.outputDataFuture with
      | some future => exact ⟨_, rfl, rfl⟩
      | none => rfl

/-- The page is loading, and nothing was started or pushed. -/
structure Stuck (c c' : CoverState) : Prop where
  isLoading : c'.isLoading = true
  outputDataFuture : c'.outputDataFuture = c.outputDataFuture
  started : c'.started = c.started
  pushed : c'.pushed = c.pushed

theorem exec_of_threw (h : verseAnswer jsonDecode o = .threw) :
    Stuck c ((handleGesture jsonDecode o true).exec c).2 := by
  unfold verseAnswer at h
  split at h
  · rw [exec_exception]
    exact ⟨rfl, rfl, rfl, rfl⟩
  · split at h
    · rename_i h200
      subst h200
      split at h
      · rename_i entries hj
        split at h
        · cases h
        · rename_i hno
          by_cases hb : ∃ book, Json.field entries "Book" = .str book
          · obtain ⟨book, hb⟩ := hb
            rw [exec_content hj hb (fun content hc => hno book content hb hc)]
            exact ⟨rfl, rfl, rfl, rfl⟩
          · rw [exec_book hj (fun book hbook => hb ⟨book, hbook⟩)]
            exact ⟨rfl, rfl, rfl, rfl⟩
      · rename_i hno
        obtain ⟨e, he⟩ := decode_error hno
        rw [exec_undecodable he]
        exact ⟨rfl, rfl, rfl, rfl⟩
    · cases h

/-- After the page is gone nothing is pushed, however the outcome ends. -/
theorem exec_of_unmounted : Stuck c ((handleGesture jsonDecode o false).exec c).2 := by
  cases o with
  | exception =>
    rw [exec_exception]
    exact ⟨rfl, rfl, rfl, rfl⟩
  | response statusCode body =>
    by_cases h200 : statusCode = 200
    · subst h200
      rw [exec_unmounted]
      exact ⟨rfl, rfl, rfl, rfl⟩
    · rw [exec_error h200, if_neg (by decide)]
      exact ⟨rfl, rfl, rfl, rfl⟩

/-! ### What the app makes of it -/

theorem coverState_of_find {cover : Cover} (h : s.nav.find i = some (.cover (some cover))) :
    s.coverState i = some cover := by
  rw [AppState.coverState, h]

theorem find_of_coverState {cover : Cover} (h : s.coverState i = some cover) (p : Page) :
    (s.nav.setPage i p).find i = some p :=
  Navigator.find_setPage (Navigator.find_eq_some.mpr (AppState.mem_of_coverState h))

/-- Nothing was started and nothing pushed: at most the page itself is another. -/
theorem follow_eq (hs : c'.started = c.started) (hp : c'.pushed = c.pushed) :
    s.follow i c c' =
      match s.coverState i with
      | some cover =>
        s.setPage i (.cover (some ⟨cover.userId, c'.isLoading, c'.outputDataFuture.isSome⟩))
      | none => s := by
  unfold AppState.follow
  rw [hs, hp, List.drop_length, Nat.sub_self]
  cases s.coverState i <;> rfl

/-- One route was pushed. -/
theorem follow_push {cover : Cover} {route : Except DartError VersePage}
    (hc : s.coverState i = some cover) (hp : c'.pushed = c.pushed ++ [route]) :
    s.follow i c c' =
      { s with
        nav := (s.nav.setPage i (.cover
          (some ⟨cover.userId, c'.isLoading, c'.outputDataFuture.isSome⟩))).push
            (routePage c.started s.nextRequest route)
        tasks := (List.range' s.nextRequest (c'.started - c.started)).map (.generateOutput i) ++
          s.tasks
        nextRequest := s.nextRequest + (c'.started - c.started) } := by
  unfold AppState.follow
  rw [hc, hp, List.drop_left]
  rfl

/-- A page that was loading and is stuck is followed by doing nothing. -/
theorem follow_of_stuck (hm : Matches i s c) (hl : c.isLoading = true) (hc : Stuck c c') :
    s.follow i c c' = s := by
  rw [follow_eq hc.started hc.pushed]
  split
  · rename_i cover hcover
    have hsame : (⟨cover.userId, c'.isLoading, c'.outputDataFuture.isSome⟩ : Cover) = cover := by
      rw [hc.isLoading, hc.outputDataFuture, ← hm.outputDataFuture cover hcover, ← hl,
        ← hm.isLoading cover hcover]
    rw [hsame]
    exact AppState.setPage_coverState hcover
  · rfl

theorem Matches.of_stuck (hm : Matches i s c) (hl : c.isLoading = true) (hc : Stuck c c') :
    Matches i s c' where
  isLoading := fun cover hcover => (hm.isLoading cover hcover).trans (hl.trans hc.isLoading.symm)
  outputDataFuture := by
    rw [hc.outputDataFuture]
    exact hm.outputDataFuture
  started := by
    rw [hc.outputDataFuture, hc.started]
    exact hm.started

/-- The page that was written is the one that is found. -/
theorem matches_of_find {uid : Option Uid} {b future : Bool}
    (h : s.nav.find i = some (.cover (some ⟨uid, b, future⟩))) (hl : b = c.isLoading)
    (hf : future = c.outputDataFuture.isSome)
    (hs : ∀ future, c.outputDataFuture = some future → future.serial < c.started) :
    Matches i s c := by
  have hcover : ∀ cover, s.coverState i = some cover → cover = ⟨uid, b, future⟩ :=
    fun cover hc => Option.some.inj (hc.symm.trans (coverState_of_find h))
  refine ⟨?_, ?_, hs⟩
  · intro cover hc
    rw [hcover cover hc]
    exact hl
  · intro cover hc
    rw [hcover cover hc]
    exact hf

/-! ### The two steps of the app -/

/-- The tap itself: from here on the page is loading in both. -/
theorem tapBible_refines {p : Page} (hm : Matches i s c) (hf : s.front = some ⟨i, p⟩)
    (h : s.tapBible = some (s', es)) :
    s' = (s.follow i c { c with isLoading := true }).await (.fetchVerse i) ∧
      Matches i s' { c with isLoading := true } := by
  obtain ⟨j, cover, hf', -, rfl, -⟩ := AppState.tapBible_inv h
  obtain ⟨rfl, rfl⟩ := Route.mk.inj (Option.some.inj (hf.symm.trans hf'))
  have hc := coverState_of_find (Navigator.find_eq_some.mpr (AppState.mem_of_front hf))
  refine ⟨?_, ?_⟩
  · have hfollow : s.follow i c { c with isLoading := true } = _ := follow_eq rfl rfl
    rw [hfollow, hc]
    dsimp only
    rw [← hm.outputDataFuture cover hc]
  · exact matches_of_find (find_of_coverState hc _) rfl (hm.outputDataFuture cover hc) hm.started

/-- **The answer to a tap does to the app what `handleGesture` does to its page.** -/
theorem fetchVerseAnswer_refines (hm : Matches i s c) (hl : c.isLoading = true)
    (ht : .fetchVerse i ∈ s.tasks) :
    ∃ s', step s (.fetchVerseAnswer i (verseAnswer jsonDecode o)) = some (s', []) ∧
      s' = (s.done (.fetchVerse i)).follow i c
        ((handleGesture jsonDecode o (s.coverState i).isSome).exec c).2 ∧
      Matches i s' ((handleGesture jsonDecode o (s.coverState i).isSome).exec c).2 := by
  have hstep : step s (.fetchVerseAnswer i (verseAnswer jsonDecode o)) =
      s.fetchVerseAnswer i (verseAnswer jsonDecode o) := rfl
  rw [hstep, AppState.fetchVerseAnswer, AppState.finish_of_mem ht, Option.bind_eq_bind,
    Option.bind_some]
  have hdone : Matches i (s.done (.fetchVerse i)) c :=
    ⟨hm.isLoading, hm.outputDataFuture, hm.started⟩
  cases hc : s.coverState i with
  | none =>
    have hc' : (s.done (.fetchVerse i)).coverState i = none := hc
    rw [hc', Option.isSome_none]
    exact ⟨_, rfl, (follow_of_stuck hdone hl exec_of_unmounted).symm,
      hdone.of_stuck hl exec_of_unmounted⟩
  | some cover =>
    have hc' : (s.done (.fetchVerse i)).coverState i = some cover := hc
    rw [hc', Option.isSome_some]
    refine ⟨_, rfl, ?_⟩
    cases ha : verseAnswer jsonDecode o with
    | ok =>
      obtain ⟨page, hserial, hcl, hcf, hcs, hcp⟩ := exec_of_ok (c := c) ha
      refine ⟨?_, ?_⟩
      · rw [follow_push hc' hcp, hcs, hcl, hcf, routePage, if_pos hserial, Nat.add_sub_cancel_left]
        rfl
      · refine matches_of_find (Navigator.find_push (find_of_coverState hc' _)) hcl.symm ?_ ?_
        · rw [hcf]
          rfl
        · intro future hf
          rw [hcf] at hf
          obtain rfl := Option.some.inj hf
          rw [hserial, hcs]
          exact Nat.lt_succ_self _
    | error =>
      obtain ⟨route, hcl, hcf, hcs, hcp, hroute⟩ := exec_of_error (c := c) ha
      refine ⟨?_, ?_⟩
      · have hpage : routePage c.started s.nextRequest route = cover.routeOnError := by
          rw [Cover.routeOnError, hm.outputDataFuture cover hc]
          cases hf : c.outputDataFuture with
          | none =>
            rw [hf] at hroute
            rw [show route = _ from hroute]
            rfl
          | some future =>
            rw [hf] at hroute
            obtain ⟨page, rfl, hpage⟩ := hroute
            have hlt := hm.started future hf
            rw [routePage, hpage, if_neg (Nat.ne_of_lt hlt)]
            rfl
        rw [follow_push hc' hcp, hcs, hcl, hcf, Nat.sub_self, ← hm.outputDataFuture cover hc]
        rw [show (s.done (.fetchVerse i)).nextRequest = s.nextRequest from rfl, hpage]
        rfl
      · refine matches_of_find (Navigator.find_push (find_of_coverState hc' _)) hcl.symm ?_ ?_
        · rw [hcf]
          exact hm.outputDataFuture cover hc
        · rw [hcf, hcs]
          exact hm.started
    | threw =>
      have hstuck := exec_of_threw (c := c) ha
      have hs : (s.done (.fetchVerse i)).setPage i (.cover (some (cover.fetched .threw))) =
          s.done (.fetchVerse i) := AppState.setPage_coverState hc'
      rw [hs]
      exact ⟨(follow_of_stuck hdone hl hstuck).symm, hdone.of_stuck hl hstuck⟩

/-- The cover page while it fetches its first verse. -/
def firstTap : CoverState where
  verseId := ""
  bible := ""
  verse := ""
  book := ""
  chapter := ""
  content := ""
  input := ""
  isLoading := true
  theme := 0
  outputDataFuture := none
  started := 0
  pushed := []
  snackBars := []

/-- The first verse is answered with an error status: an error route comes over the cover
page on both sides. -/
theorem fetchVerseAnswer_refines_error : ∃ s es,
    app.exec (startedBy "a" []) [.frame, .tapBible] = some (s, es) ∧
    ∃ s', step s (.fetchVerseAnswer 0
        (verseAnswer (fun _ => .error .formatException) (.response 500 ""))) = some (s', []) ∧
      s' = (s.done (.fetchVerse 0)).follow 0 firstTap
        ((handleGesture (fun _ => .error .formatException) (.response 500 "")
          (s.coverState 0).isSome).exec firstTap).2 ∧
      Matches 0 s' ((handleGesture (fun _ => .error .formatException) (.response 500 "")
          (s.coverState 0).isSome).exec firstTap).2 := by
  refine ⟨_, _, rfl, ?_⟩
  refine fetchVerseAnswer_refines (c := firstTap) ⟨?_, ?_, ?_⟩ rfl List.mem_cons_self
  · intro cover hc
    cases hc
    rfl
  · intro cover hc
    cases hc
    rfl
  · intro future hf
    cases hf

end GoodOmens.App
