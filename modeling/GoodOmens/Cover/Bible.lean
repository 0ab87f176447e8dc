import GoodOmens.Cover.Page

/-!
# Opening the Bible is all or nothing

A tap on the Bible should end in one of two ways.  Either the answer of the
backend has become the verse of the page, one `VersePage` is pushed with it, and
its explanation was asked for (`Opened`); or the verse of the page is the one it
was, and nothing is pushed (`Untouched`).

`handleGesture` has eight ways through, and the lemmas `exec_…` below say what
state each leaves.  `allOrNothing_iff` compares: what goes wrong is a status other
than `200`, after which a page is pushed all the same, and a `200` whose body has
a `Book` or a `Content` that is no string, which throws when half of the fields are
written.  These are harmless only when what was written is what stood there.
-/

namespace GoodOmens.Cover

open Handler

/-- The verse of the page, its future and the routes pushed are as they were. -/
structure Untouched (s s' : CoverState) : Prop where
  verseId : s'.verseId = s.verseId
  chapter : s'.chapter = s.chapter
  verse : s'.verse = s.verse
  book : s'.book = s.book
  content : s'.content = s.content
  bible : s'.bible = s.bible
  outputDataFuture : s'.outputDataFuture = s.outputDataFuture
  pushed : s'.pushed = s.pushed

/-- The verse of the page is the one of the response, one explanation was asked
for, for this verse, and one `VersePage` is pushed with all of it. -/
structure Opened (json : Json) (future : ExplainFuture) (s s' : CoverState) : Prop where
  verseId : (json.index "Id").map Json.toString = .ok s'.verseId
  chapter : (json.index "Chapter").map Json.toString = .ok s'.chapter
  verse : (json.index "Verse").map Json.toString = .ok s'.verse
  book : json.index "Book" = .ok (.str s'.book)
  content : json.index "Content" = .ok (.str s'.content)
  bible : s'.bible = s'.book ++ " " ++ s'.chapter ++ ":" ++ s'.verse ++ " " ++ s'.content
  started : s'.started = s.started + 1
  request : future.serial = s.started ∧ future.id = s'.verseId ∧ future.verse = s'.bible
  outputDataFuture : s'.outputDataFuture = some future
  pushed : s'.pushed = s.pushed ++ [.ok {
    bible := s'.bible
    book := s'.book
    chapter := s'.chapter
    verse := s'.verse
    content := s'.content
    verseId := s'.verseId
    generateOutputFuture := future
    theme := s'.theme }]

section

variable (jsonDecode : String → Except DartError Json) (s : CoverState) (o : Outcome)
  (mounted : Bool)

/-- One of the two. -/
def AllOrNothing (s' : CoverState) : Prop :=
  (∃ body json future, o = .response 200 body ∧ jsonDecode body = .ok json ∧
    Opened json future s s') ∨ Untouched s s'

/-- When it is. -/
def Harmless : Prop :=
  match o with
  | .exception => True
  | .response statusCode body =>
    if statusCode = 200 then
      mounted → ∀ entries, jsonDecode body = .ok (.obj entries) →
        (∃ book content, Json.field entries "Book" = .str book ∧
          Json.field entries "Content" = .str content) ∨
        (Json.field entries "Id").toString = s.verseId ∧
          (Json.field entries "Chapter").toString = s.chapter ∧
          (Json.field entries "Verse").toString = s.verse ∧
          ∀ book, Json.field entries "Book" = .str book → book = s.book
    else mounted = false ∧ body = s.verse

end

variable {jsonDecode : String → Except DartError Json} {s : CoverState} {o : Outcome}
  {mounted : Bool} {body : String}

/-! ### The ways through -/

theorem exec_exception : (handleGesture jsonDecode .exception mounted).exec s =
    (.error .clientException, { s with isLoading := true }) := by
  simp [exec_bind, handleGesture, fetchVerse]

theorem exec_unmounted : (handleGesture jsonDecode (.response 200 body) false).exec s =
    (.error .unmounted, { s with isLoading := true }) := by
  simp [exec_bind, handleGesture, fetchVerse]

/-- The body does not decode, or not to a map. -/
theorem exec_undecodable {e : DartError} (h : ∀ key, decode jsonDecode body key = .error e) :
    (handleGesture jsonDecode (.response 200 body) true).exec s =
      (.error e, { s with isLoading := true }) := by
  simp [exec_bind, handleGesture, fetchVerse, h]

/-- A body that does not decode to a map gives no field at all. -/
theorem decode_error (h : ∀ entries, jsonDecode body ≠ .ok (.obj entries)) :
    ∃ e, ∀ key, decode jsonDecode body key = .error e := by
  cases hj : jsonDecode body with
  | error e => exact ⟨e, fun key => by simp [decode, hj, bind, Except.bind]⟩
  | ok json =>
    cases json with
    | obj entries => exact absurd hj (h entries)
    | arr _ => exact ⟨.typeError, fun key => by simp [decode, hj, Json.index, bind, Except.bind]⟩
    | str _ => exact ⟨.typeError, fun key => by simp [decode, hj, Json.index, bind, Except.bind]⟩
    | _ => exact ⟨.noSuchMethod, fun key => by simp [decode, hj, Json.index, bind, Except.bind]⟩

theorem decode_obj {entries : List (String × Json)} (h : jsonDecode body = .ok (.obj entries))
    (key : String) : decode jsonDecode body key = .ok (Json.field entries key) := by
  simp [decode, h, Json.index, bind, Except.bind]

section

variable {entries : List (String × Json)}

/-- A `Book` that is no string throws when three fields are written. -/
theorem exec_book (h : jsonDecode body = .ok (.obj entries))
    (hb : ∀ text, Json.field entries "Book" ≠ .str text) :
    (handleGesture jsonDecode (.response 200 body) true).exec s =
      (.error .typeError, { s with
        isLoading := true
        verseId := (Json.field entries "Id").toString
        chapter := (Json.field entries "Chapter").toString
        verse := (Json.field entries "Verse").toString }) := by
  simp [exec_bind, handleGesture, fetchVerse, decode_obj h, Except.bind, Json.asString]

/-- A `Content` that is no string throws when four fields are written. -/
theorem exec_content {book : String} (h : jsonDecode body = .ok (.obj entries))
    (hb : Json.field entries "Book" = .str book)
    (hc : ∀ text, Json.field entries "Content" ≠ .str text) :
    (handleGesture jsonDecode (.response 200 body) true).exec s =
      (.error .typeError, { s with
        isLoading := true
        verseId := (Json.field entries "Id").toString
        chapter := (Json.field entries "Chapter").toString
        verse := (Json.field entries "Verse").toString
        book := book }) := by
  simp [exec_bind, handleGesture, fetchVerse, decode_obj h, Except.bind, hb, Json.asString]

/-- A well-formed answer writes every field and starts a request, in this order. -/
theorem exec_wellFormed {book content : String} (h : jsonDecode body = .ok (.obj entries))
    (hb : Json.field entries "Book" = .str book)
    (hc : Json.field entries "Content" = .str content) :
    let id := (Json.field entries "Id").toString
    let chapter := (Json.field entries "Chapter").toString
    let verse := (Json.field entries "Verse").toString
    let bible := book ++ " " ++ chapter ++ ":" ++ verse ++ " " ++ content
    let future : ExplainFuture := ⟨s.started, id, bible, s.input⟩
    (handleGesture jsonDecode (.response 200 body) true).exec s =
      (.ok (), { s with
        verseId := id
        bible := bible
        verse := verse
        book := book
        chapter := chapter
        content := content
        isLoading := false
        outputDataFuture := some future
        started := s.started + 1
        pushed := s.pushed ++
          [.ok ⟨bible, book, chapter, verse, content, id, future, s.theme⟩] }) := by
  simp [exec_bind, handleGesture, fetchVerse, decode_obj h, Except.bind, hb, hc, Json.asString,
    generateOutput, pageBuilder]

/-- So it opens the verse. -/
theorem exec_opened {book content : String} (h : jsonDecode body = .ok (.obj entries))
    (hb : Json.field entries "Book" = .str book)
    (hc : Json.field entries "Content" = .str content) :
    ∃ future, Opened (.obj entries) future s
      ((handleGesture jsonDecode (.response 200 body) true).exec s).2 := by
  rw [exec_wellFormed h hb hc]
  refine ⟨_, rfl, rfl, rfl, ?_, ?_, rfl, rfl, ⟨rfl, rfl, rfl⟩, rfl, rfl⟩
  · rw [Json.index, hb]
  · rw [Json.index, hc]

end

/-- After a status that is no `200` the body stands in the place of the verse, and
a route is pushed as long as the page is there. -/
theorem exec_error {statusCode : Nat} (h : statusCode ≠ 200) :
    (handleGesture jsonDecode (.response statusCode body) mounted).exec s =
      if mounted then
        (.ok (), { s with
          verse := body
          isLoading := false
          snackBars := s.snackBars ++ ["Cannot fetch verse for now. Please try again later."]
          pushed := s.pushed ++ [pageBuilder { s with verse := body }] })
      else (.error .unmounted, { s with verse := body, isLoading := true }) := by
  cases mounted <;> simp [exec_bind, handleGesture, fetchVerse, h, pageBuilder]

/-! ### All or nothing -/

theorem untouched_loading (s : CoverState) : Untouched s { s with isLoading := true } :=
  ⟨rfl, rfl, rfl, rfl, rfl, rfl, rfl, rfl⟩

/-- A list is not itself with something added. -/
theorem ne_append_singleton {α : Type} (l : List α) (x : α) : l ++ [x] ≠ l := by
  intro h
  have hl := congrArg List.length h
  rw [List.length_append, List.length_singleton] at hl
  omega

/-- When nothing was pushed, all or nothing is nothing. -/
theorem allOrNothing_iff_untouched {s' : CoverState} (h : s'.pushed = s.pushed) :
    AllOrNothing jsonDecode s o s' ↔ Untouched s s' := by
  constructor
  · rintro (⟨_, _, _, -, -, ho⟩ | hu)
    · have hp := ho.pushed
      rw [h] at hp
      exact absurd hp.symm (ne_append_singleton _ _)
    · exact hu
  · exact .inr

/-- A `200` that the page is there to take. -/
theorem allOrNothing_ok_iff (jsonDecode : String → Except DartError Json) (s : CoverState)
    (body : String) :
    AllOrNothing jsonDecode s (.response 200 body)
        ((handleGesture jsonDecode (.response 200 body) true).exec s).2 ↔
      Harmless jsonDecode s (.response 200 body) true := by
  by_cases hobj : ∃ entries, jsonDecode body = .ok (.obj entries)
  · obtain ⟨entries, hj⟩ := hobj
    by_cases hb : ∃ book, Json.field entries "Book" = .str book
    · obtain ⟨book, hb⟩ := hb
      by_cases hc : ∃ content, Json.field entries "Content" = .str content
      · obtain ⟨content, hc⟩ := hc
        obtain ⟨future, hf⟩ := exec_opened hj hb hc
        refine iff_of_true (.inl ⟨body, _, future, rfl, hj, hf⟩) ?_
        intro _ es hes
        rw [hj] at hes
        cases hes
        exact .inl ⟨book, content, hb, hc⟩
      · have hc' : ∀ text, Json.field entries "Content" ≠ .str text :=
          fun text ht => hc ⟨text, ht⟩
        rw [exec_content hj hb hc']
        refine (allOrNothing_iff_untouched ?_).trans ?_
        · rfl
        constructor
        · intro hu _ es hes
          rw [hj] at hes
          cases hes
          refine .inr ⟨hu.verseId, hu.chapter, hu.verse, ?_⟩
          intro b hb'
          obtain rfl := Json.str.inj (hb.symm.trans hb')
          exact hu.book
        · intro hh
          rcases hh rfl entries hj with ⟨_, content, -, hc⟩ | ⟨hid, hch, hv, hbook⟩
          · exact absurd hc (hc' content)
          · exact ⟨hid, hch, hv, hbook book hb, rfl, rfl, rfl, rfl⟩
    · have hb' : ∀ text, Json.field entries "Book" ≠ .str text :=
        fun text ht => hb ⟨text, ht⟩
      rw [exec_book hj hb']
      refine (allOrNothing_iff_untouched ?_).trans ?_
      · rfl
      constructor
      · intro hu _ es hes
        rw [hj] at hes
        cases hes
        exact .inr ⟨hu.verseId, hu.chapter, hu.verse, fun book hbook => absurd hbook (hb' book)⟩
      · intro hh
        rcases hh rfl entries hj with ⟨book, _, hbook, -⟩ | ⟨hid, hch, hv, -⟩
        · exact absurd hbook (hb' book)
        · exact ⟨hid, hch, hv, rfl, rfl, rfl, rfl, rfl⟩
  · have hno : ∀ entries, jsonDecode body ≠ .ok (.obj entries) := fun es hes => hobj ⟨es, hes⟩
    obtain ⟨e, he⟩ := decode_error hno
    rw [exec_undecodable he]
    exact iff_of_true (.inr (untouched_loading s)) (fun _ es hes => absurd hes (hno es))

/-- **A tap on the Bible is all or nothing exactly when it is harmless**: the
request throws, or the answer is a `200` that is well formed, decodes to no map,
or comes when the page is gone; and in every other case only when each field that
was written got the value that it had. -/
theorem allOrNothing_iff (jsonDecode : String → Except DartError Json) (s : CoverState)
    (o : Outcome) (mounted : Bool) :
    AllOrNothing jsonDecode s o ((handleGesture jsonDecode o mounted).exec s).2 ↔
      Harmless jsonDecode s o mounted := by
  cases o with
  | exception =>
    rw [exec_exception]
    exact iff_of_true (.inr (untouched_loading s)) trivial
  | response statusCode body =>
    rw [Harmless]
    by_cases h200 : statusCode = 200
    · subst h200
      rw [if_pos rfl]
      cases mounted with
      | false =>
        rw [exec_unmounted]
        exact iff_of_true (.inr (untouched_loading s)) (fun h => by cases h)
      | true => exact allOrNothing_ok_iff jsonDecode s body
    · rw [if_neg h200, exec_error h200]
      cases mounted with
      | false =>
        rw [if_neg (by decide)]
        refine (allOrNothing_iff_untouched ?_).trans ?_
        · rfl
        constructor
        · intro hu
          exact ⟨rfl, hu.verse⟩
        · rintro ⟨-, hv⟩
          exact ⟨rfl, rfl, hv, rfl, rfl, rfl, rfl, rfl⟩
      | true =>
        rw [if_pos rfl]
        refine iff_of_false ?_ (fun h => by cases h.1)
        rintro (⟨_, _, _, ho, -, -⟩ | hu)
        · cases ho
          exact h200 rfl
        · exact ne_append_singleton _ _ hu.pushed

/-- A backend error on the first tap: its text stands in the place of the verse. -/
theorem not_allOrNothing :
    ¬ ∀ (jsonDecode : String → Except DartError Json) (s : CoverState) (o : Outcome)
      (mounted : Bool),
      AllOrNothing jsonDecode s o ((handleGesture jsonDecode o mounted).exec s).2 := by
  intro h
  have hall := h (fun _ => .error .formatException)
    ⟨"", "", "", "", "", "", "", false, 999, none, 0, [], []⟩ (.response 500 "down") true
  rw [exec_error (by decide), if_pos rfl] at hall
  rcases hall with ⟨_, _, _, ho, -, -⟩ | hu
  · cases ho
  · exact absurd hu.verse (by decide)

end GoodOmens.Cover
