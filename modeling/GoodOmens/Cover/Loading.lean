import GoodOmens.Cover.Bible
import GoodOmens.Library.Machine

/-!
# Whether the cover page is left loading

`isLoading` hides the Bible from the tap on.  This file runs the whole of
`handleGesture`, tap after tap, with the two requests of a tap: the verse, which
is awaited, and the explanation, which is not and whose answer may come at any
time (`opening`).

When `handleGesture` has ended the Bible should be there again (`BibleShown`).
Only two of the ways through `fetchVerse` put `isLoading` back: the end of a
well-formed `200` and the end of the error branch.  `isLoading_iff` says that no
other way does, and `along_bibleShown_iff` lifts it to runs.  What the explanation
does, and with what the pushed route completes, makes no difference.
-/

namespace GoodOmens.Cover

/-- Where the last call of `handleGesture` stands. -/
inductive Gesture
  | idle
  | fetchVerse
  | verse
  | ended (result : Except DartError Unit)

/-- The page, the call of `handleGesture`, and the calls of `generateOutput` that
wait for their answers. -/
structure Opening where
  page : CoverState
  gesture : Gesture
  explaining : List ExplainFuture

/-- A tap on the Bible; the verse; an explanation; the pushed route completes.
`mounted` says whether the page is still there. -/
inductive Opening.Act
  | tap
  | verse (outcome : Outcome) (mounted : Bool)
  | explanation (future : ExplainFuture) (outcome : Outcome) (mounted : Bool)
  | closed (themeOut : Option Int) (mounted : Bool)

open Handler

/-- What a step does to the navigator besides the push. -/
inductive Opening.Effect
  | pop
deriving DecidableEq, Repr

section

variable (jsonDecode : String → Except DartError Json)

/-- The rest of `generateOutput`: the paragraphs, or a pop of the page on top. -/
def generateOutputRest (o : Outcome) (mounted : Bool) :
    CoverM (List String × List Opening.Effect) := do
  match o with
  | .exception => throw .clientException
  | .response statusCode body =>
    if statusCode = 200 then
      let res ← eval ((decode jsonDecode body "Explain").bind Json.asString)
      let paragraphs := res.splitOn "&&"
      if !mounted then throw .unmounted
      return (paragraphs, [])
    else
      if !mounted then throw .unmounted
      return ([], [.pop])

/-- The rest of `handleGesture`: a result that is no `int` throws. -/
def handleGestureRest (themeOut : Option Int) (mounted : Bool) : CoverM Unit := do
  match themeOut with
  | none => throw .typeError
  | some themeOut =>
    if !mounted then throw .unmounted
    modify fun s => { s with theme := themeOut }

namespace Opening

variable (p : Opening)

/-- A tap, where the Bible is shown and no other page is over it. -/
def tap : Option Opening :=
  if p.page.isLoading then none
  else
    match p.gesture with
    | .idle | .ended _ =>
      some { p with page := { p.page with isLoading := true }, gesture := .fetchVerse }
    | .fetchVerse | .verse => none

/-- The verse comes: the call ends with an error, or waits for the route that it
has pushed. -/
def verse (o : Outcome) (mounted : Bool) : Option Opening :=
  match p.gesture with
  | .fetchVerse =>
    let (result, page) := (handleGesture jsonDecode o mounted).exec p.page
    let explaining :=
      if p.page.started < page.started then page.outputDataFuture.toList ++ p.explaining
      else p.explaining
    match result with
    | .ok () => some ⟨page, .verse, explaining⟩
    | .error e => some ⟨page, .ended (.error e), explaining⟩
  | _ => none

def explanation (future : ExplainFuture) (o : Outcome) (mounted : Bool) :
    Option (Opening × List Effect) :=
  if future ∈ p.explaining then
    let (result, page) := (generateOutputRest jsonDecode o mounted).exec p.page
    let effects := match result with
      | .ok (_, effects) => effects
      | .error _ => []
    some ({ p with page := page, explaining := p.explaining.erase future }, effects)
  else none

def closed (themeOut : Option Int) (mounted : Bool) : Option Opening :=
  match p.gesture with
  | .verse =>
    let (result, page) := (handleGestureRest themeOut mounted).exec p.page
    some { p with page := page, gesture := .ended result }
  | _ => none

end Opening

/-- A cover page, from its first frame on. -/
def opening : Machine Opening Opening.Act Opening.Effect where
  start p := p.gesture = .idle ∧ p.page.isLoading = false ∧ p.explaining = []
  step p
    | .tap => p.tap.map (fun p => (p, []))
    | .verse o mounted => (p.verse jsonDecode o mounted).map (fun p => (p, []))
    | .explanation future o mounted => p.explanation jsonDecode future o mounted
    | .closed themeOut mounted => (p.closed themeOut mounted).map (fun p => (p, []))

/-- When `handleGesture` has ended, with or without an error, the page is not
loading. -/
def BibleShown (p : Opening) : Prop := ∀ result, p.gesture = .ended result →
  p.page.isLoading = false

/-- The page is still there, the request did not throw, and a `200` has a map for
its body in which `Book` and `Content` are strings. -/
def Usable (o : Outcome) (mounted : Bool) : Prop :=
  mounted = true ∧ ∃ statusCode body, o = .response statusCode body ∧
    (statusCode = 200 → ∃ entries book content, jsonDecode body = .ok (.obj entries) ∧
      Json.field entries "Book" = .str book ∧ Json.field entries "Content" = .str content)

/-- Every verse that comes is usable. -/
def KeepsBible (_ : Opening) : Opening.Act → Prop
  | .verse o mounted => Usable jsonDecode o mounted
  | _ => True

end

variable {jsonDecode : String → Except DartError Json} {o : Outcome} {mounted : Bool}
  {s : CoverState} {p p' : Opening}

/-! ### One verse -/

/-- What is left of an answer that is no use: an error, and a page that is loading. -/
def LeftLoading (r : Except DartError Unit × CoverState) : Prop :=
  (∃ e, r.1 = .error e) ∧ r.2.isLoading = true

/-- A `200` that the page is there to take, but that is not well formed. -/
theorem leftLoading_malformed {body : String}
    (h : ¬ ∃ entries book content, jsonDecode body = .ok (.obj entries) ∧
      Json.field entries "Book" = .str book ∧ Json.field entries "Content" = .str content) :
    LeftLoading ((handleGesture jsonDecode (.response 200 body) true).exec s) := by
  by_cases hobj : ∃ entries, jsonDecode body = .ok (.obj entries)
  · obtain ⟨entries, hj⟩ := hobj
    by_cases hb : ∃ book, Json.field entries "Book" = .str book
    · obtain ⟨book, hb⟩ := hb
      have hc : ∀ content, Json.field entries "Content" ≠ .str content :=
        fun content hc => h ⟨entries, book, content, hj, hb, hc⟩
      rw [exec_content hj hb hc]
      exact ⟨⟨_, rfl⟩, rfl⟩
    · rw [exec_book hj (fun book hbook => hb ⟨book, hbook⟩)]
      exact ⟨⟨_, rfl⟩, rfl⟩
  · obtain ⟨e, he⟩ := decode_error (fun entries hj => hobj ⟨entries, hj⟩)
    rw [exec_undecodable he]
    exact ⟨⟨_, rfl⟩, rfl⟩

theorem leftLoading_of_not_usable (h : ¬ Usable jsonDecode o mounted) :
    LeftLoading ((handleGesture jsonDecode o mounted).exec s) := by
  cases o with
  | exception =>
    rw [exec_exception]
    exact ⟨⟨_, rfl⟩, rfl⟩
  | response statusCode body =>
    by_cases h200 : statusCode = 200
    · subst h200
      cases mounted with
      | false =>
        rw [exec_unmounted]
        exact ⟨⟨_, rfl⟩, rfl⟩
      | true => exact leftLoading_malformed (fun hw => h ⟨rfl, 200, body, rfl, fun _ => hw⟩)
    · cases mounted with
      | false =>
        rw [exec_error h200, if_neg (by decide)]
        exact ⟨⟨_, rfl⟩, rfl⟩
      | true => exact absurd ⟨rfl, statusCode, body, rfl, fun he => absurd he h200⟩ h

theorem isLoading_of_usable (h : Usable jsonDecode o mounted) :
    ((handleGesture jsonDecode o mounted).exec s).2.isLoading = false := by
  obtain ⟨rfl, statusCode, body, rfl, hbody⟩ := h
  by_cases h200 : statusCode = 200
  · obtain ⟨entries, book, content, hj, hb, hc⟩ := hbody h200
    subst h200
    rw [exec_wellFormed hj hb hc]
  · rw [exec_error h200, if_pos rfl]

/-- **`fetchVerse` puts `isLoading` back exactly after a usable answer.** -/
theorem isLoading_iff : ((handleGesture jsonDecode o mounted).exec s).2.isLoading = false ↔
    Usable jsonDecode o mounted := by
  by_cases hu : Usable jsonDecode o mounted
  · exact iff_of_true (isLoading_of_usable hu) hu
  · refine iff_of_false ?_ hu
    rw [(leftLoading_of_not_usable hu).2]
    decide

/-! ### The other answers -/

/-- The rest of `generateOutput` writes nothing. -/
theorem generateOutputRest_state :
    ((generateOutputRest jsonDecode o mounted).exec s).2 = s := by
  cases o with
  | exception => rfl
  | response statusCode body =>
    unfold generateOutputRest
    by_cases h200 : statusCode = 200
    · simp only [if_pos h200, exec_bind, exec_eval]
      cases (decode jsonDecode body "Explain").bind Json.asString with
      | ok res => cases mounted <;> rfl
      | error e => rfl
    · simp only [if_neg h200]
      cases mounted <;> rfl

/-- The rest of `handleGesture` writes the theme and nothing else. -/
theorem handleGestureRest_isLoading (themeOut : Option Int) :
    ((handleGestureRest themeOut mounted).exec s).2.isLoading = s.isLoading := by
  cases themeOut <;> cases mounted <;> rfl

/-! ### Steps and runs -/

/-- The page is loading only while a verse is being fetched. -/
def LoadsVerse (p : Opening) : Prop := p.gesture = .fetchVerse ∨ p.page.isLoading = false

theorem verse_cases (h : p.verse jsonDecode o mounted = some p') :
    p'.page = ((handleGesture jsonDecode o mounted).exec p.page).2 ∧
      (p'.gesture = .verse ∧ ((handleGesture jsonDecode o mounted).exec p.page).1 = .ok () ∨
        ∃ e, p'.gesture = .ended (.error e) ∧
          ((handleGesture jsonDecode o mounted).exec p.page).1 = .error e) := by
  unfold Opening.verse at h
  split at h
  · dsimp only at h
    split at h
    · rename_i hr
      obtain rfl := Option.some.inj h
      exact ⟨rfl, .inl ⟨rfl, hr⟩⟩
    · rename_i e hr
      obtain rfl := Option.some.inj h
      exact ⟨rfl, .inr ⟨e, rfl, hr⟩⟩
  · cases h

/-- The step of a verse shows the Bible exactly when the verse is usable. -/
theorem bibleShown_verse (h : p.verse jsonDecode o mounted = some p') :
    (BibleShown p' ↔ Usable jsonDecode o mounted) ∧
      (Usable jsonDecode o mounted → LoadsVerse p') := by
  obtain ⟨hpage, hgesture⟩ := verse_cases h
  have hloading : p'.page.isLoading = false ↔ Usable jsonDecode o mounted := by
    rw [hpage]
    exact isLoading_iff
  refine ⟨?_, fun hu => .inr (hloading.mpr hu)⟩
  by_cases hu : Usable jsonDecode o mounted
  · exact iff_of_true (fun _ _ => hloading.mpr hu) hu
  · obtain ⟨⟨e, he⟩, -⟩ := leftLoading_of_not_usable (s := p.page) hu
    refine iff_of_false ?_ hu
    intro hb
    rcases hgesture with ⟨-, hok⟩ | ⟨e', hg, -⟩
    · rw [he] at hok
      cases hok
    · exact hu (hloading.mp (hb _ hg))

/-- **One step** of a page that loads verses only. -/
theorem bibleShown_step {a : Opening.Act} {es : List Opening.Effect} (hi : LoadsVerse p)
    (h : (opening jsonDecode).step p a = some (p', es)) :
    (BibleShown p' ↔ KeepsBible jsonDecode p a) ∧ (KeepsBible jsonDecode p a → LoadsVerse p') := by
  cases a with
  | tap =>
    obtain ⟨q, hq, he⟩ := Option.map_eq_some_iff.mp h
    cases he
    unfold Opening.tap at hq
    split at hq
    · cases hq
    · split at hq <;> cases hq
      all_goals
        refine ⟨iff_of_true ?_ trivial, fun _ => .inl rfl⟩
        intro result hr
        cases hr
  | verse o mounted =>
    obtain ⟨q, hq, he⟩ := Option.map_eq_some_iff.mp h
    cases he
    exact bibleShown_verse hq
  | explanation future o mounted =>
    replace h : p.explanation jsonDecode future o mounted = some (p', es) := h
    unfold Opening.explanation at h
    split at h
    · cases h
      have hstate : ((generateOutputRest jsonDecode o mounted).exec p.page).2 = p.page :=
        generateOutputRest_state
      refine ⟨iff_of_true ?_ trivial, fun _ => ?_⟩
      · intro result hr
        rcases hi with hf | hl
        · rw [show p.gesture = .ended result from hr] at hf
          cases hf
        · exact (congrArg CoverState.isLoading hstate).trans hl
      · exact hi.imp id (fun hl => (congrArg CoverState.isLoading hstate).trans hl)
    · cases h
  | closed themeOut mounted =>
    obtain ⟨q, hq, he⟩ := Option.map_eq_some_iff.mp h
    cases he
    unfold Opening.closed at hq
    split at hq
    · rename_i hg
      obtain rfl := Option.some.inj hq
      have hl : p.page.isLoading = false := hi.resolve_left (by rw [hg]; intro hf; cases hf)
      have hl' : ((handleGestureRest themeOut mounted).exec p.page).2.isLoading = false :=
        (handleGestureRest_isLoading themeOut).trans hl
      exact ⟨iff_of_true (fun _ _ => hl') trivial, fun _ => .inr hl'⟩
    · cases hq

/-- **In every run the Bible is shown whenever `handleGesture` has ended, exactly
when every verse that comes is usable.** -/
theorem along_bibleShown_iff (h : (opening jsonDecode).start p) (as : List Opening.Act) :
    (opening jsonDecode).Along (fun _ _ p' _ => BibleShown p') p as ↔
      (opening jsonDecode).Along (Machine.before (KeepsBible jsonDecode)) p as := by
  refine Machine.along_iff LoadsVerse ?_ ?_ as p (.inr h.2.1)
  · intro p a p' es hi hst
    exact (bibleShown_step hi hst).1
  · intro p a p' es hi hg hst
    exact (bibleShown_step hi hst).2 hg

/-- A cover page as it is built. -/
def builtPage : Opening where
  page := ⟨"", "", "", "", "", "", "", false, 999, none, 0, [], []⟩
  gesture := .idle
  explaining := []

/-- Two taps, the first of which finds the backend down. -/
theorem along_bibleShown_again :
    (opening (fun _ => .error .formatException)).Along (fun _ _ p' _ => BibleShown p') builtPage
      [.tap, .verse (.response 500 "down") true, .closed (some 999) true, .tap,
        .verse (.response 500 "down") true] := by
  refine (along_bibleShown_iff ⟨rfl, rfl, rfl⟩ _).mpr ?_
  have hdown : Usable (fun _ => .error .formatException) (.response 500 "down") true :=
    ⟨rfl, 500, "down", rfl, fun h => absurd h (by decide)⟩
  refine (Machine.along_cons rfl _).mpr ⟨trivial, ?_⟩
  refine (Machine.along_cons rfl _).mpr ⟨hdown, ?_⟩
  refine (Machine.along_cons rfl _).mpr ⟨trivial, ?_⟩
  refine (Machine.along_cons rfl _).mpr ⟨trivial, ?_⟩
  exact (Machine.along_cons rfl _).mpr ⟨hdown, trivial⟩

/-- The verse request throws: the page is loading for good. -/
theorem not_along_bibleShown :
    ¬ ∀ (jsonDecode : String → Except DartError Json) (p : Opening), (opening jsonDecode).start p →
      ∀ as, (opening jsonDecode).Along (fun _ _ p' _ => BibleShown p') p as := by
  intro h
  have hrun := h (fun _ => .error .formatException) builtPage ⟨rfl, rfl, rfl⟩
    ([.tap] ++ [.verse .exception true])
  have hlast := Machine.Along.last hrun rfl rfl
  cases hlast _ rfl

end GoodOmens.Cover
