import GoodOmens.Cover.Loading
import GoodOmens.Library.Handler
import GoodOmens.Library.Splits

/-!
# What the explanation page makes of an explanation

`generateOutput` cuts the text it has received at `&&`, and `ExplainationPage` takes the
first part for the explanation and the second for the guidance, which `handleGesture`
hands to the `GuidancePage`.  The two sides meet in the future: it ends with a list, or
with an error, and until then and after an error the builder has no data (`snapshot`).

The builder does not ask how long the list is.  With fewer than two parts it goes out of
range, and parts after the second are dropped; so the text is shown whole exactly if
`&&` stands in it once (`shownWhole_iff`).  An error status ends the future with the
empty list, and that is out of range too.
-/

namespace GoodOmens.Cover

/-- The arguments of a `GuidancePage`. -/
structure GuidancePage where
  bible : String
  guidance : String
  theme : Int
deriving DecidableEq, Repr

/-- The fields of `_ExplainationState` and of its widget that the builder and
`handleGesture` read or write, and the pages pushed. -/
structure ExplainationState where
  bible : String
  theme : Int
  explanation : String
  guidance : String
  pushed : List GuidancePage

/-- What the `FutureBuilder` shows.  Below an explanation that is not empty stands the
See More that calls `handleGesture`. -/
inductive Shown
  | threeBodySimulation
  | nothing
  | explanation (text : String)
deriving DecidableEq, Repr

/-- `list[n]`. -/
def elementAt {α : Type} (l : List α) (n : Nat) : Except DartError α :=
  match l[n]? with
  | some a => .ok a
  | none => .error .rangeError

namespace Explaination

open Handler

/-- The `builder` of the `FutureBuilder`. -/
def builder (snapshot : Option (List String)) : Handler DartError ExplainationState Shown := do
  match snapshot with
  | some data =>
    let first ← eval (elementAt data 0)
    modify fun s => { s with explanation := first }
    let second ← eval (elementAt data 1)
    modify fun s => { s with guidance := second }
    let s ← get
    return if s.explanation.isEmpty then .nothing else .explanation s.explanation
  | none => return .threeBodySimulation

/-- `handleGesture`, up to its push. -/
def handleGesture (s : ExplainationState) : ExplainationState :=
  { s with pushed := s.pushed ++ [{ bible := s.bible, guidance := s.guidance, theme := s.theme }] }

section

variable (jsonDecode : String → Except DartError Json)

/-- The text that a body carries under `Explain`. -/
def explain (body : String) : Except DartError String :=
  (decode jsonDecode body "Explain").bind Json.asString

/-- What the `FutureBuilder` has when `generateOutput` has ended on the cover page `c`:
the list, or no data after an error. -/
def snapshot (o : Outcome) (mounted : Bool) (c : CoverState) : Option (List String) :=
  match ((generateOutputRest jsonDecode o mounted).exec c).1 with
  | .ok (data, _) => some data
  | .error _ => none

/-- The page after the explanation has been built, with what `builder` gave. -/
def build (o : Outcome) (mounted : Bool) (c : CoverState) (s : ExplainationState) :
    Except DartError Shown × ExplainationState :=
  (builder (snapshot jsonDecode o mounted c)).exec s

/-- The builder stays in its list, and of a text that was received nothing is dropped:
the explanation, `&&` and what `handleGesture` passes on are the text. -/
structure ShownWhole (o : Outcome) (mounted : Bool) (c : CoverState) (s : ExplainationState) :
    Prop where
  inBounds : (build jsonDecode o mounted c s).1 ≠ .error .rangeError
  whole : ∀ data body text, snapshot jsonDecode o mounted c = some data →
    o = .response 200 body → explain jsonDecode body = .ok text →
    ∃ page, (handleGesture (build jsonDecode o mounted c s).2).pushed = s.pushed ++ [page] ∧
      (build jsonDecode o mounted c s).2.explanation ++ "&&" ++ page.guidance = text

/-- `&&` stands in the text once, the occurrences read from the left. -/
def OneSeparator (text : String) : Prop :=
  ∃ a b : String, text = a ++ "&&" ++ b ∧ ¬ "&&".toList <:+: a.toList ++ ['&'] ∧
    ¬ "&&".toList <:+: b.toList

/-- Whatever list `generateOutput` returns to a page that is still there comes from a
`200` with one separator in its text. -/
def SeparatedOnce (o : Outcome) (mounted : Bool) : Prop :=
  mounted = true → ∀ statusCode body, o = .response statusCode body →
    statusCode = 200 ∧ ∀ text, explain jsonDecode body = .ok text → OneSeparator text

end

variable {jsonDecode : String → Except DartError Json} {o : Outcome} {mounted : Bool}
  {c : CoverState} {s : ExplainationState} {body text : String}

/-! ### The list -/

theorem oneSeparator_iff : OneSeparator text ↔ ∃ a b, text.splitOn "&&" = [a, b] := by
  refine exists_congr (fun a => exists_congr (fun b => ?_))
  exact (splitOn_eq_pair_iff (by decide)).symm

/-- The text, cut. -/
theorem snapshot_text (h : explain jsonDecode body = .ok text) :
    snapshot jsonDecode (.response 200 body) true c = some (text.splitOn "&&") := by
  have hrest : ((generateOutputRest jsonDecode (.response 200 body) true).exec c).1 =
      .ok (text.splitOn "&&", []) := by
    unfold generateOutputRest
    unfold explain at h
    simp [h]
    rfl
  rw [snapshot, hrest]

theorem snapshot_error {e : DartError} (h : explain jsonDecode body = .error e) :
    snapshot jsonDecode (.response 200 body) mounted c = none := by
  have hrest : ((generateOutputRest jsonDecode (.response 200 body) mounted).exec c).1 =
      .error e := by
    unfold generateOutputRest
    unfold explain at h
    simp [exec_bind, h]
  rw [snapshot, hrest]

theorem snapshot_status {statusCode : Nat} (h : statusCode ≠ 200) :
    snapshot jsonDecode (.response statusCode body) true c = some [] := by
  have hrest : ((generateOutputRest jsonDecode (.response statusCode body) true).exec c).1 =
      .ok ([], [.pop]) := by
    unfold generateOutputRest
    simp [h]
  rw [snapshot, hrest]

theorem snapshot_unmounted : snapshot jsonDecode o false c = none := by
  have hrest : ∃ e, ((generateOutputRest jsonDecode o false).exec c).1 = .error e := by
    cases o with
    | exception => exact ⟨_, rfl⟩
    | response statusCode body =>
      unfold generateOutputRest
      by_cases h200 : statusCode = 200
      · cases hb : (decode jsonDecode body "Explain").bind Json.asString with
        | ok text => exact ⟨.unmounted, by simp [exec_bind, h200, hb]⟩
        | error e => exact ⟨e, by simp [exec_bind, h200, hb]⟩
      · exact ⟨.unmounted, by simp [h200]⟩
  obtain ⟨e, he⟩ := hrest
  rw [snapshot, he]

/-! ### The builder -/

theorem builder_none : (builder none).exec s = (.ok .threeBodySimulation, s) := rfl

theorem builder_nil : (builder (some [])).exec s = (.error .rangeError, s) := rfl

theorem builder_singleton (a : String) :
    (builder (some [a])).exec s = (.error .rangeError, { s with explanation := a }) := rfl

theorem builder_cons_cons (a b : String) (rest : List String) :
    (builder (some (a :: b :: rest))).exec s =
      (.ok (if a.isEmpty then .nothing else .explanation a),
        { s with explanation := a, guidance := b }) := rfl

/-- With no data nothing is read. -/
theorem shownWhole_of_none (h : snapshot jsonDecode o mounted c = none) :
    ShownWhole jsonDecode o mounted c s where
  inBounds := by
    rw [build, h, builder_none]
    intro he
    cases he
  whole := by
    intro data body text hdata
    rw [h] at hdata
    cases hdata

/-- The empty list of an error status is out of range. -/
theorem not_shownWhole_of_nil (h : snapshot jsonDecode o mounted c = some []) :
    ¬ ShownWhole jsonDecode o mounted c s := by
  intro hw
  refine hw.inBounds ?_
  rw [build, h, builder_nil]

/-- **A text is shown whole exactly if it falls in two parts.** -/
theorem shownWhole_text (h : explain jsonDecode body = .ok text) :
    ShownWhole jsonDecode (.response 200 body) true c s ↔ OneSeparator text := by
  have hsnapshot := snapshot_text (c := c) h
  have hjoin : "&&".intercalate (text.splitOn "&&") = text := intercalate_splitOn text (by decide)
  rw [oneSeparator_iff]
  cases hparts : text.splitOn "&&" with
  | nil => exact absurd hparts (splitOn_ne_nil text (by decide))
  | cons a parts =>
    rw [hparts] at hsnapshot hjoin
    cases parts with
    | nil =>
      refine iff_of_false ?_ (by simp)
      intro hw
      refine hw.inBounds ?_
      rw [build, hsnapshot, builder_singleton]
    | cons b rest =>
      have hbuild : build jsonDecode (.response 200 body) true c s =
          (.ok (if a.isEmpty then .nothing else .explanation a),
            { s with explanation := a, guidance := b }) := by
        rw [build, hsnapshot, builder_cons_cons]
      have hlist : (∃ a' b', a :: b :: rest = [a', b']) ↔ rest = [] := by simp
      rw [hlist, ← @intercalate_eq_pair_iff "&&" a b rest (by decide), hjoin]
      constructor
      · intro hw
        obtain ⟨page, hpage, htext⟩ := hw.whole _ body text hsnapshot rfl h
        rw [hbuild] at hpage htext
        obtain rfl := List.singleton_injective (List.append_cancel_left hpage)
        exact htext.symm
      · intro htext
        refine ⟨?_, ?_⟩
        · rw [hbuild]
          intro he
          cases he
        · intro data body' text' hdata ho ht
          obtain ⟨-, rfl⟩ := Outcome.response.inj ho
          obtain rfl := Except.ok.inj (h.symm.trans ht)
          rw [hbuild]
          exact ⟨_, rfl, htext.symm⟩

/-- **The explanation is shown whole, in bounds, exactly if every list that
`generateOutput` returns comes from a text with one separator.** -/
theorem shownWhole_iff : ShownWhole jsonDecode o mounted c s ↔
    SeparatedOnce jsonDecode o mounted := by
  cases mounted with
  | false =>
    refine iff_of_true (shownWhole_of_none snapshot_unmounted) ?_
    intro hm
    cases hm
  | true =>
    cases o with
    | exception =>
      refine iff_of_true (shownWhole_of_none rfl) ?_
      intro _ statusCode body ho
      cases ho
    | response statusCode body =>
      by_cases h200 : statusCode = 200
      · subst h200
        cases ht : explain jsonDecode body with
        | ok text =>
          rw [shownWhole_text ht]
          constructor
          · intro hone _ statusCode body' ho
            obtain ⟨rfl, rfl⟩ := Outcome.response.inj ho
            refine ⟨rfl, ?_⟩
            intro text' ht'
            obtain rfl := Except.ok.inj (ht.symm.trans ht')
            exact hone
          · intro hs
            exact (hs rfl 200 body rfl).2 text ht
        | error e =>
          refine iff_of_true (shownWhole_of_none (snapshot_error ht)) ?_
          intro _ statusCode body' ho
          obtain ⟨rfl, rfl⟩ := Outcome.response.inj ho
          refine ⟨rfl, ?_⟩
          intro text ht'
          rw [ht] at ht'
          cases ht'
      · refine iff_of_false (not_shownWhole_of_nil (snapshot_status h200)) ?_
        intro hs
        exact h200 (hs rfl statusCode body rfl).1

/-- A text without `&&`. -/
theorem not_shownWhole :
    ¬ ∀ (jsonDecode : String → Except DartError Json) (o : Outcome) (mounted : Bool)
      (c : CoverState) (s : ExplainationState), ShownWhole jsonDecode o mounted c s := by
  intro h
  have hw := h (fun _ => .ok (.obj [("Explain", .str "God is near.")])) (.response 200 "") true
    builtPage.page ⟨"", 999, "", "", []⟩
  obtain ⟨a, b, htext, -, -⟩ := (shownWhole_text rfl).mp hw
  have hmem : '&' ∈ "God is near.".toList := by
    rw [htext]
    simp
  exact absurd hmem (by decide)

end Explaination

end GoodOmens.Cover
