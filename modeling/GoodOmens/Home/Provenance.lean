import GoodOmens.Home.Reading

/-!
# Where the text of a page comes from

Verses and explanations come in any order, more than one may be on its way, and the pages
read what they push out of fields that a later answer may have written.  Still no page
shows the text of another verse.  What stands below a page of the walk are the pages that
led to it, and along them the verse is one and the same; the guidance is a part of the
text that answered the very request which carried this verse (`guidance_along`); and every
prompt that a chat page sends starts with this verse and with the question that stands on
the page below (`prompt_along`).

The argument is local.  `fetchVerse` writes the text of the verse and the future together
or not at all (`Current`), each page is given what the one below hands on (`Follows`), and
nothing is ever slid in between two pages.  So one step keeps the links (`sound_step`),
and the rest is read off a stack that is linked.
-/

namespace GoodOmens.Home

open Cover Chat Navigator

/-! ### One page and the page below -/

/-- What a page hands on to the page that is opened from it.  A cover page hands on nothing
here: its verse page is pushed when the verse has come, on whatever is on top by then. -/
inductive Handed
  | verse (cover : Nat) (bible verseId : String) (future : ExplainFuture)
  | explaination (cover : Nat) (future : ExplainFuture) (bible : String)
  | guidance (bible : String)
  | query (bible input : String)

def Sheet.hands : Sheet → Option Handed
  | verse i page => some (.verse i page.bible page.verseId page.generateOutputFuture)
  | explaination e => some (.explaination e.cover e.generateOutputFuture e.state.bible)
  | guidance page => some (.guidance page.bible)
  | query page => some (.query page.bible page.input)
  | cover _ | chat _ | other => none

/-- The future of the cover page asks for the text that stands on it. -/
def Current (page : CoverState) : Prop :=
  ∀ future, page.outputDataFuture = some future → future.verse = page.bible

section

variable (jsonDecode : String → Except DartError Json) (answered : List Answered)

/-- The request was answered, and `text` and `guidance` are the first parts of the answer. -/
def Explained (cover : Nat) (future : ExplainFuture) (text guidance : String) : Prop :=
  ∃ a ∈ answered, a.cover = cover ∧ a.future = future ∧ ∃ rest,
    Explaination.snapshot jsonDecode a.outcome true a.page = some (text :: guidance :: rest)

/-- What a page is, given what the page right below it hands on. -/
def Follows : Sheet → Option Handed → Prop
  | .cover p, _ => Current p.page
  | .verse _ page, _ => page.generateOutputFuture.verse = page.bible
  | .explaination e, handed =>
    handed = some (.verse e.cover e.state.bible e.verseId e.generateOutputFuture) ∧
      ∀ text, e.shown = .ok (.explanation text) →
        Explained jsonDecode answered e.cover e.generateOutputFuture text e.state.guidance
  | .guidance g, handed => ∃ cover future text,
    handed = some (.explaination cover future g.bible) ∧
      Explained jsonDecode answered cover future text g.guidance
  | .query q, handed => handed = some (.guidance q.bible)
  | .chat c, handed =>
    handed = some (.query c.quote c.input) ∧ c.input ≠ "" ∧
      ∀ state, c.state = some state → seeds c.quote c.input <+: state.chatHistory
  | .other, _ => True

/-- Every page follows the one below. -/
def Sound (s : Reading) : Prop :=
  s.nav.Linked (fun p below => Follows jsonDecode s.answered p (below.bind Sheet.hands))

end

variable {jsonDecode : String → Except DartError Json} {answered : List Answered}
  {s s' : Reading} {es : List Effect} {handed : Option Handed} {i : Nat} {p q : Sheet}

/-- More answers change nothing. -/
theorem follows_append (a : Answered) (h : Follows jsonDecode answered p handed) :
    Follows jsonDecode (answered ++ [a]) p handed := by
  have hmono : ∀ {i future text guidance}, Explained jsonDecode answered i future text guidance →
      Explained jsonDecode (answered ++ [a]) i future text guidance := by
    rintro i future text guidance ⟨b, hb, hrest⟩
    exact ⟨b, List.mem_append_left _ hb, hrest⟩
  cases p with
  | explaination e => exact ⟨h.1, fun text ht => hmono (h.2 text ht)⟩
  | guidance g =>
    obtain ⟨i, future, text, hg, ht⟩ := h
    exact ⟨i, future, text, hg, hmono ht⟩
  | _ => exact h

theorem hands_withTheme (theme : Int) : (p.withTheme theme).hands = p.hands := by
  cases p <;> rfl

theorem follows_withTheme (theme : Int) (h : Follows jsonDecode answered p handed) :
    Follows jsonDecode answered (p.withTheme theme) handed := by
  cases p <;> exact h

/-! ### The changes of a stack -/

/-- A page changes where it stands, and hands on what it handed on. -/
theorem sound_setPage (h : Sound jsonDecode s) (hi : s.nav.find i = some p)
    (hq : q.hands = p.hands)
    (hf : ∀ handed, Follows jsonDecode s.answered p handed →
      Follows jsonDecode s.answered q handed) : Sound jsonDecode (s.setPage i q) := by
  refine linked_setPage h hi (fun below => hf _) ?_
  intro above ha
  rw [Option.bind_some] at ha ⊢
  rw [hq]
  exact ha

theorem sound_push (h : Sound jsonDecode s)
    (hp : Follows jsonDecode s.answered p ((s.nav.top.map Route.page).bind Sheet.hands)) :
    Sound jsonDecode (s.push p) :=
  linked_push h hp

/-- A verse page is pushed wherever its cover page is. -/
theorem sound_pushRoutes (j : Nat) : ∀ (routes : List (Except DartError VersePage)) (s : Reading),
    Sound jsonDecode s →
    (∀ page, .ok page ∈ routes → page.generateOutputFuture.verse = page.bible) →
    Sound jsonDecode (s.pushRoutes j routes) := by
  intro routes
  induction routes with
  | nil => intro s h _; exact h
  | cons route routes ih =>
    intro s h hr
    refine ih _ (sound_push h ?_) (fun page hp => hr page (List.mem_cons_of_mem _ hp))
    cases route with
    | ok page => exact hr page List.mem_cons_self
    | error e => exact trivial

/-! ### The cover page -/

/-- The future and the text are both new or both old, and a route that was pushed shows the
page as it is now. -/
structure Pushes (c c' : CoverState) : Prop where
  current : Current c → Current c'
  pushed : c'.pushed = c.pushed ∨ c'.pushed = c.pushed ++ [pageBuilder c']

/-- A body that is not what it should be leaves the text and the future. -/
theorem pushes_malformed {c : CoverState} {body : String}
    (h : ¬ ∃ entries book content, jsonDecode body = .ok (.obj entries) ∧
      Json.field entries "Book" = .str book ∧ Json.field entries "Content" = .str content) :
    Pushes c ((Cover.handleGesture jsonDecode (.response 200 body) true).exec c).2 := by
  by_cases hobj : ∃ entries, jsonDecode body = .ok (.obj entries)
  · obtain ⟨entries, hj⟩ := hobj
    by_cases hb : ∃ book, Json.field entries "Book" = .str book
    · obtain ⟨book, hb⟩ := hb
      rw [exec_content hj hb (fun content hc => h ⟨entries, book, content, hj, hb, hc⟩)]
      exact ⟨id, .inl rfl⟩
    · rw [exec_book hj (fun book hbook => hb ⟨book, hbook⟩)]
      exact ⟨id, .inl rfl⟩
  · obtain ⟨e, he⟩ := decode_error (fun entries hj => hobj ⟨entries, hj⟩)
    rw [exec_undecodable he]
    exact ⟨id, .inl rfl⟩

theorem pushes_handleGesture (c : CoverState) (o : Outcome) :
    Pushes c ((Cover.handleGesture jsonDecode o true).exec c).2 := by
  cases o with
  | exception =>
    rw [exec_exception]
    exact ⟨id, .inl rfl⟩
  | response statusCode body =>
    by_cases h200 : statusCode = 200
    · subst h200
      by_cases hw : ∃ entries book content, jsonDecode body = .ok (.obj entries) ∧
          Json.field entries "Book" = .str book ∧ Json.field entries "Content" = .str content
      · obtain ⟨entries, book, content, hj, hb, hc⟩ := hw
        rw [exec_wellFormed hj hb hc]
        refine ⟨fun _ future hf => ?_, .inr rfl⟩
        obtain rfl := Option.some.inj hf
        rfl
      · exact pushes_malformed hw
    · rw [exec_error h200, if_pos rfl]
      exact ⟨id, .inr rfl⟩

/-- A page that is shown is the one that the future was started for. -/
theorem verse_of_pageBuilder {c : CoverState} {page : VersePage} (hc : Current c)
    (h : pageBuilder c = .ok page) : page.generateOutputFuture.verse = page.bible := by
  unfold pageBuilder at h
  split at h
  · rename_i future hf
    obtain rfl := Except.ok.inj h
    exact hc future hf
  · cases h

theorem Pushes.routes {c c' : CoverState} (h : Pushes c c') (hc : Current c) :
    ∀ page, .ok page ∈ c'.pushed.drop c.pushed.length →
      page.generateOutputFuture.verse = page.bible := by
  intro page hp
  rcases h.pushed with he | he
  · rw [he, List.drop_length] at hp
    cases hp
  · rw [he, List.drop_left, List.mem_singleton] at hp
    exact verse_of_pageBuilder (h.current hc) hp.symm

/-! ### The steps -/

theorem top_of_find {r : Route Sheet} (h : s.nav.top = some r) : s.nav.find r.id = some r.page :=
  find_eq_some.mpr (mem_of_top h)

theorem follows_of_find (h : Sound jsonDecode s) (hi : s.nav.find i = some p) :
    ∃ handed, Follows jsonDecode s.answered p handed := by
  obtain ⟨below, -, hf⟩ := suffix_of_linked h (mem_of_find hi)
  exact ⟨_, hf⟩

/-- A cover page changes, and stays current. -/
theorem sound_cover {opening opening' : Opening} (h : Sound jsonDecode s)
    (hi : s.nav.find i = some (.cover opening))
    (hc : Current opening.page → Current opening'.page) :
    Sound jsonDecode (s.setPage i (.cover opening')) :=
  sound_setPage h hi rfl (fun _ => hc)

theorem page_of_verse {o : Outcome} {p p' : Opening} (h : p.verse jsonDecode o true = some p') :
    p'.page = ((Cover.handleGesture jsonDecode o true).exec p.page).2 := by
  unfold Opening.verse at h
  split at h
  · dsimp only at h
    split at h <;> cases h <;> rfl
  · cases h

theorem sound_verse {o : Outcome} (h : Sound jsonDecode s)
    (hst : s.verse jsonDecode i o = some (s', es)) : Sound jsonDecode s' := by
  unfold Reading.verse at hst
  split at hst
  · rename_i p hi
    obtain ⟨p', hp', he⟩ := Option.map_eq_some_iff.mp hst
    cases he
    have hpushes : Pushes p.page p'.page := page_of_verse hp' ▸ pushes_handleGesture p.page o
    obtain ⟨_, hcurrent⟩ := follows_of_find h hi
    exact sound_pushRoutes i _ _ (sound_cover h hi hpushes.current) (hpushes.routes hcurrent)
  · cases hst

theorem sound_explanation {future : ExplainFuture} {o : Outcome} (h : Sound jsonDecode s)
    (hst : s.explanation jsonDecode i future o = some s') : Sound jsonDecode s' := by
  unfold Reading.explanation at hst
  split at hst
  · rename_i c hi
    obtain ⟨⟨c', effects⟩, hc', he⟩ := Option.map_eq_some_iff.mp hst
    cases he
    have hpage : c'.page = c.page := by
      unfold Opening.explanation at hc'
      split at hc'
      · cases hc'
        exact generateOutputRest_state
      · cases hc'
    have hset : Sound jsonDecode (s.setPage i (.cover c')) :=
      sound_cover h hi (fun hc => hpage.symm ▸ hc)
    have hnav : (s.nav.setPage i (.cover c')).Linked (fun p below => Follows jsonDecode
        (s.answered ++ [⟨i, c.page, future, o⟩]) p (below.bind Sheet.hands)) :=
      linked_mono hset (fun _ _ => follows_append _)
    unfold Sound
    dsimp only
    split
    · exact linked_pop hnav
    · exact hnav
  · cases hst

/-- The future that is read is one that was answered. -/
theorem explained_of_snapshot {i : Nat} {future : ExplainFuture} {text guidance : String}
    {rest : List String} (h : s.snapshot jsonDecode i future = some (text :: guidance :: rest)) :
    Explained jsonDecode s.answered i future text guidance := by
  obtain ⟨a, ha, hdata⟩ := Option.bind_eq_some_iff.mp h
  have hkey : a.cover = i ∧ a.future = future := by simpa using List.find?_some ha
  exact ⟨a, List.mem_of_find?_eq_some ha, hkey.1, hkey.2, rest, hdata⟩

/-- The builder shows an explanation only together with its guidance. -/
theorem builder_spec (data : Option (List String)) (e : ExplainationState) :
    ((Explaination.builder data).exec e).2.bible = e.bible ∧
      ∀ text, ((Explaination.builder data).exec e).1 = .ok (.explanation text) →
        ∃ rest, data = some (text :: ((Explaination.builder data).exec e).2.guidance :: rest) := by
  match data with
  | none =>
    rw [Explaination.builder_none]
    exact ⟨rfl, fun text ht => by cases ht⟩
  | some [] =>
    rw [Explaination.builder_nil]
    exact ⟨rfl, fun text ht => by cases ht⟩
  | some [a] =>
    rw [Explaination.builder_singleton]
    exact ⟨rfl, fun text ht => by cases ht⟩
  | some (a :: b :: rest) =>
    rw [Explaination.builder_cons_cons]
    refine ⟨rfl, fun text ht => ⟨rest, ?_⟩⟩
    split at ht <;> cases ht
    rfl

theorem sound_build (h : Sound jsonDecode s) (hst : s.build jsonDecode i = some s') :
    Sound jsonDecode s' := by
  unfold Reading.build at hst
  split at hst
  · rename_i e hi
    obtain rfl := Option.some.inj hst
    obtain ⟨hbible, hshown⟩ :=
      builder_spec (s.snapshot jsonDecode e.cover e.generateOutputFuture) e.state
    refine sound_setPage h hi ?_ ?_
    · rw [Sheet.hands, Sheet.hands, hbible]
    · rintro handed ⟨hhanded, -⟩
      refine ⟨?_, fun text ht => ?_⟩
      · rw [hbible]
        exact hhanded
      · obtain ⟨rest, hdata⟩ := hshown text ht
        exact explained_of_snapshot hdata
  · cases hst

theorem sound_closed {themeOut : Option Int} (h : Sound jsonDecode s)
    (hst : s.closed i themeOut = some s') : Sound jsonDecode s' := by
  unfold Reading.closed at hst
  split at hst
  · rename_i p hi
    obtain ⟨p', hp', he⟩ := Option.map_eq_some_iff.mp hst
    cases he
    refine sound_cover h hi (fun hc => ?_)
    unfold Opening.closed at hp'
    split at hp'
    · cases hp'
      cases themeOut <;> exact hc
    · cases hp'
  · cases hst

theorem sound_tap (h : Sound jsonDecode s) (hst : s.tap = some s') : Sound jsonDecode s' := by
  unfold Reading.tap at hst
  split at hst
  · rename_i i p ht
    obtain ⟨p', hp', he⟩ := Option.map_eq_some_iff.mp hst
    cases he
    refine sound_cover h (top_of_find ht) (fun hc => ?_)
    unfold Opening.tap at hp'
    split at hp'
    · cases hp'
    · split at hp' <;> cases hp' <;> exact hc
  · cases hst

theorem sound_seeMore (h : Sound jsonDecode s) (hst : s.seeMore = some s') :
    Sound jsonDecode s' := by
  unfold Reading.seeMore at hst
  split at hst
  · rename_i j i page ht
    split at hst
    · cases hst
    · cases hst
      refine sound_push h ⟨?_, fun text hshown => by cases hshown⟩
      rw [ht]
      rfl
  · rename_i j e ht
    split at hst
    · rename_i text hshown
      obtain rfl := Option.some.inj hst
      obtain ⟨_, -, hexplained⟩ := follows_of_find h (top_of_find ht)
      have hset := sound_setPage (q := .explaination { e with
        state := Explaination.handleGesture e.state }) h (top_of_find ht) rfl (fun _ hf => hf)
      have hpushed : (Explaination.handleGesture e.state).pushed.drop e.state.pushed.length =
          [⟨e.state.bible, e.state.guidance, e.state.theme⟩] := List.drop_left
      rw [hpushed]
      refine sound_push hset ⟨e.cover, e.generateOutputFuture, text, ?_, hexplained text hshown⟩
      have htop := top_setPage (p := .explaination { e with
        state := Explaination.handleGesture e.state }) ht
      rw [show (s.setPage j _).nav.top = _ from htop]
      rfl
    · cases hst
  · rename_i j page ht
    cases hst
    refine sound_push h ?_
    rw [ht]
    rfl
  · cases hst

theorem sound_type {text : String} (h : Sound jsonDecode s)
    (hst : s.type text = some s') : Sound jsonDecode s' := by
  unfold Reading.type at hst
  split at hst
  · rename_i i q ht
    cases hst
    exact linked_setPage_top h ht (fun _ hf => hf)
  · cases hst

theorem sound_submit (h : Sound jsonDecode s) (hst : s.submit = some s') :
    Sound jsonDecode s' := by
  unfold Reading.submit at hst
  split at hst
  · rename_i i q ht
    split at hst
    · cases hst
    · rename_i hne
      cases hst
      refine sound_push h ⟨?_, ?_, fun state hs => by cases hs⟩
      · rw [ht]
        rfl
      · intro he
        exact hne (by rw [show q.input = "" from he]; rfl)
  · cases hst

theorem sound_frame {b : Bool} (h : Sound jsonDecode s)
    (hst : s.frame i b = some (s', es)) : Sound jsonDecode s' := by
  unfold Reading.frame at hst
  split at hst
  · rename_i c hi
    split at hst
    · obtain ⟨rfl, -⟩ := Prod.mk.inj (Option.some.inj hst)
      refine sound_setPage h hi rfl ?_
      rintro handed ⟨hhanded, hne, -⟩
      refine ⟨hhanded, hne, fun state hs => ?_⟩
      obtain rfl := Option.some.inj hs
      exact (firstFrame_chatHistory c.quote c.input b).symm ▸ List.prefix_refl _
    · cases hst
  · cases hst

/-- The history of a chat page only grows. -/
theorem sound_chat {c : ChatPage} {state state' : ChatState} (h : Sound jsonDecode s)
    (hi : s.nav.find i = some (.chat c)) (hs : c.state = some state)
    (hgrows : state.chatHistory <+: state'.chatHistory) :
    Sound jsonDecode (s.setPage i (.chat { c with state := some state' })) := by
  refine sound_setPage h hi rfl ?_
  rintro handed ⟨hhanded, hne, hseeds⟩
  refine ⟨hhanded, hne, fun t ht => ?_⟩
  obtain rfl := Option.some.inj ht
  exact (hseeds state hs).trans hgrows

theorem sound_send {text : String} (h : Sound jsonDecode s)
    (hst : s.send text = some (s', es)) : Sound jsonDecode s' := by
  unfold Reading.send at hst
  split at hst
  · rename_i i c ht
    obtain ⟨state, hs, he⟩ := Option.map_eq_some_iff.mp hst
    obtain ⟨rfl, -⟩ := Prod.mk.inj he
    exact sound_chat h (top_of_find ht) hs (prefix_handle state (.sendInput text))
  · cases hst

theorem sound_receive {e : Event} (h : Sound jsonDecode s)
    (hst : s.receive i e = some s') : Sound jsonDecode s' := by
  unfold Reading.receive at hst
  split at hst
  · rename_i c hi
    obtain ⟨state, hs, rfl⟩ := Option.map_eq_some_iff.mp hst
    exact sound_chat h hi hs (prefix_handle state e)
  · cases hst

theorem sound_setTheme {theme : Int} (h : Sound jsonDecode s)
    (hst : s.setTheme i theme = some s') : Sound jsonDecode s' := by
  obtain ⟨p, hi, rfl⟩ := Option.map_eq_some_iff.mp hst
  exact sound_setPage h hi (hands_withTheme theme) (fun _ => follows_withTheme theme)

theorem eq_of_silent {x : Option Reading} (h : x.map Reading.silent = some (s', es)) :
    x = some s' ∧ es = [] := by
  obtain ⟨t, ht, he⟩ := Option.map_eq_some_iff.mp h
  obtain ⟨rfl, rfl⟩ := Prod.mk.inj he
  exact ⟨ht, rfl⟩

/-- **One step keeps every page on the one that opened it.** -/
theorem sound_step {a : Act} (h : Sound jsonDecode s) (hst : step jsonDecode s a = some (s', es)) :
    Sound jsonDecode s' := by
  cases a with
  | tap => exact sound_tap h (eq_of_silent hst).1
  | verse cover outcome => exact sound_verse h hst
  | explanation cover future outcome => exact sound_explanation h (eq_of_silent hst).1
  | closed cover themeOut => exact sound_closed h (eq_of_silent hst).1
  | build route => exact sound_build h (eq_of_silent hst).1
  | seeMore => exact sound_seeMore h (eq_of_silent hst).1
  | type text => exact sound_type h (eq_of_silent hst).1
  | submit => exact sound_submit h (eq_of_silent hst).1
  | frame route isSubscribed => exact sound_frame h hst
  | send text => exact sound_send h hst
  | newMessage route data => exact sound_receive h (eq_of_silent hst).1
  | endOfResponse route => exact sound_receive h (eq_of_silent hst).1
  | setTheme route theme => exact sound_setTheme h (eq_of_silent hst).1
  | push =>
    cases hst
    exact sound_push h trivial
  | pop =>
    cases hst
    exact linked_pop h
  | replace =>
    cases hst
    exact linked_pushReplacement h (fun _ => trivial)
  | replaceByCover =>
    cases hst
    refine linked_pushReplacement h (fun _ future hf => ?_)
    cases hf

theorem sound_home : Sound jsonDecode home := by
  refine linked_home (fun future hf => ?_)
  cases hf

/-! ### Reading the links -/

/-- The pages, from the top down. -/
def Reading.pages (s : Reading) : List Sheet := s.nav.history.map Route.page

section

variable {below : List Sheet} {bible : String}

theorem below_query {input : String}
    (h : below.head?.bind Sheet.hands = some (.query bible input)) :
    ∃ q rest, below = .query q :: rest ∧ q.bible = bible ∧ q.input = input := by
  obtain ⟨p, hp, hh⟩ := Option.bind_eq_some_iff.mp h
  obtain ⟨rest, rfl⟩ := List.head?_eq_some_iff.mp hp
  cases p <;> cases hh
  exact ⟨_, rest, rfl, rfl, rfl⟩

theorem below_guidance (h : below.head?.bind Sheet.hands = some (.guidance bible)) :
    ∃ g rest, below = .guidance g :: rest ∧ g.bible = bible := by
  obtain ⟨p, hp, hh⟩ := Option.bind_eq_some_iff.mp h
  obtain ⟨rest, rfl⟩ := List.head?_eq_some_iff.mp hp
  cases p <;> cases hh
  exact ⟨_, rest, rfl, rfl⟩

theorem below_explaination {future : ExplainFuture}
    (h : below.head?.bind Sheet.hands = some (.explaination i future bible)) :
    ∃ e rest, below = .explaination e :: rest ∧ e.cover = i ∧ e.generateOutputFuture = future ∧
      e.state.bible = bible := by
  obtain ⟨p, hp, hh⟩ := Option.bind_eq_some_iff.mp h
  obtain ⟨rest, rfl⟩ := List.head?_eq_some_iff.mp hp
  cases p <;> cases hh
  exact ⟨_, rest, rfl, rfl, rfl, rfl⟩

theorem below_verse {verseId : String} {future : ExplainFuture}
    (h : below.head?.bind Sheet.hands = some (.verse i bible verseId future)) :
    ∃ v rest, below = .verse i v :: rest ∧ v.bible = bible ∧ v.generateOutputFuture = future := by
  obtain ⟨p, hp, hh⟩ := Option.bind_eq_some_iff.mp h
  obtain ⟨rest, rfl⟩ := List.head?_eq_some_iff.mp hp
  cases p <;> cases hh
  exact ⟨_, rest, rfl, rfl, rfl⟩

end

/-- What is there when a `snapshot` has two parts. -/
theorem explain_of_snapshot {o : Outcome} {c : CoverState} {parts : List String}
    (h : Explaination.snapshot jsonDecode o true c = some parts) (hne : parts ≠ []) :
    ∃ body text, o = .response 200 body ∧ Explaination.explain jsonDecode body = .ok text ∧
      text.splitOn "&&" = parts := by
  cases o with
  | exception => cases h
  | response statusCode body =>
    by_cases h200 : statusCode = 200
    · subst h200
      cases ht : Explaination.explain jsonDecode body with
      | ok text =>
        rw [Explaination.snapshot_text ht] at h
        exact ⟨body, text, rfl, ht, Option.some.inj h⟩
      | error e =>
        rw [Explaination.snapshot_error ht] at h
        cases h
    · rw [Explaination.snapshot_status h200] at h
      exact absurd (Option.some.inj h).symm hne

variable (jsonDecode) in
/-- The guidance is the second part of the answer to a request that carried the verse of
the page `v` of the cover page `i`. -/
structure Guides (s : Reading) (i : Nat) (v : VersePage) (guidance : String) : Prop where
  asked : v.generateOutputFuture.verse = v.bible
  answered : ∃ a ∈ s.answered, a.cover = i ∧ a.future = v.generateOutputFuture ∧
    ∃ body text first rest, a.outcome = .response 200 body ∧
      Explaination.explain jsonDecode body = .ok text ∧
      text.splitOn "&&" = first :: guidance :: rest

/-- Below a guidance page stand its explanation page and its verse page. -/
theorem guidance_of_sound {g : GuidancePage} {below : List Sheet} (h : Sound jsonDecode s)
    (hs : .guidance g :: below <:+ s.pages) :
    ∃ e i v rest, below = .explaination e :: .verse i v :: rest ∧ e.state.bible = v.bible ∧
      v.bible = g.bible ∧ Guides jsonDecode s i v g.guidance := by
  obtain ⟨i, future, text, hg, hexplained⟩ := linked_of_suffix h hs
  obtain ⟨e, below, rfl, rfl, rfl, hbible⟩ := below_explaination hg
  have hs' := (List.suffix_cons _ _).trans hs
  obtain ⟨he, -⟩ := linked_of_suffix h hs'
  obtain ⟨v, rest, rfl, hv, hfuture⟩ := below_verse he
  have hverse : v.generateOutputFuture.verse = v.bible :=
    linked_of_suffix h ((List.suffix_cons _ _).trans hs')
  obtain ⟨a, ha, hcover, hafuture, others, hdata⟩ := hexplained
  obtain ⟨body, all, ho, hexplain, hparts⟩ := explain_of_snapshot hdata (List.cons_ne_nil _ _)
  refine ⟨e, e.cover, v, rest, rfl, hv.symm, hv.trans hbible, hverse, a, ha, hcover,
    hafuture.trans hfuture.symm, body, all, text, others, ho, hexplain, hparts⟩

/-- **No guidance for another verse.**  In every run, whatever comes in and in whatever
order: below a guidance page stand the explanation page and the verse page that led to it,
with one verse, and the guidance is the second part of the answer to a request that carried
this verse. -/
theorem guidance_along (jsonDecode : String → Except DartError Json) (as : List Act) :
    (reading jsonDecode).Along (fun _ _ s' _ => ∀ g below, .guidance g :: below <:+ s'.pages →
      ∃ e i v rest, below = .explaination e :: .verse i v :: rest ∧ e.state.bible = v.bible ∧
        v.bible = g.bible ∧ Guides jsonDecode s' i v g.guidance) home as := by
  refine Machine.along_of_keeps (Sound jsonDecode) ?_ as home sound_home
  intro s a s' es h hst
  have h' := sound_step h hst
  exact ⟨fun g below hs => guidance_of_sound h' hs, h'⟩

/-! ### The prompts -/

/-- The chat page and the pages below it, down to the verse. -/
structure Chain (s : Reading) (c : ChatPage) (q : QueryPage) (g : GuidancePage) (i : Nat)
    (v : VersePage) : Prop where
  pages : ∃ e rest,
    .chat c :: .query q :: .guidance g :: .explaination e :: .verse i v :: rest <:+ s.pages
  verse : c.quote = v.bible
  question : c.input = q.input
  asked : q.input ≠ ""

theorem chain_of_sound {c : ChatPage} (h : Sound jsonDecode s)
    (hi : s.nav.find i = some (.chat c)) :
    ∃ q g j v, Chain s c q g j v ∧ Guides jsonDecode s j v g.guidance := by
  obtain ⟨below, hbelow, -⟩ := suffix_of_linked h (mem_of_find hi)
  have hs : .chat c :: below.map Route.page <:+ s.pages := hbelow.map Route.page
  generalize below.map Route.page = below at hs
  obtain ⟨hc, hne, -⟩ := linked_of_suffix h hs
  obtain ⟨q, below, rfl, hquote, hinput⟩ := below_query hc
  have hq := (List.suffix_cons _ _).trans hs
  obtain ⟨g, below, rfl, hg⟩ := below_guidance (linked_of_suffix h hq)
  obtain ⟨e, j, v, rest, rfl, -, hv, hguides⟩ :=
    guidance_of_sound h ((List.suffix_cons _ _).trans hq)
  refine ⟨q, g, j, v, ⟨⟨e, rest, hs⟩, ?_, hinput.symm, hinput ▸ hne⟩, hguides⟩
  rw [← hquote, ← hg, hv]

/-- What the prompt starts with while the seeds are in place. -/
theorem prompt_starts {quote input : String} {state : ChatState}
    (h : seeds quote input <+: state.sendInput.1.chatHistory) :
    ∃ more, state.sendInput.2 = "My Verse: " ++ quote ++ "\nMy Question: " ++ input ++ more := by
  obtain ⟨rest, hrest⟩ := h
  have hseeds : "\n".intercalate (seeds quote input) =
      "My Verse: " ++ quote ++ "\nMy Question: " ++ input := by
    rw [seeds, String.intercalate_cons_cons, String.intercalate_singleton,
      show "\nMy Question: " = "\n" ++ "My Question: " by decide]
    simp only [String.append_assoc]
  have hne : seeds quote input ≠ [] := List.cons_ne_nil _ _
  rw [sendInput_prompt, ← hrest, ← hseeds]
  by_cases he : rest = []
  · subst he
    rw [List.append_nil, String.append_assoc]
    exact ⟨_, rfl⟩
  · rw [String.intercalate_append_of_ne_nil hne he]
    simp only [String.append_assoc]
    exact ⟨_, rfl⟩

/-- The prompt that a chat page sends when it is built. -/
theorem prompted_frame {j : Nat} {b : Bool} {text : String}
    (hst : s.frame j b = some (s', es)) (hi : .prompt i text ∈ es) :
    ∃ c, s'.nav.find i = some (.chat c) ∧
      ∃ more, text = "My Verse: " ++ c.quote ++ "\nMy Question: " ++ c.input ++ more := by
  unfold Reading.frame at hst
  split at hst
  · rename_i c hj
    split at hst
    · obtain ⟨rfl, rfl⟩ := Prod.mk.inj (Option.some.inj hst)
      obtain ⟨rfl, rfl⟩ := Effect.prompt.inj (List.mem_singleton.mp hi)
      refine ⟨_, find_setPage hj, prompt_starts ?_⟩
      exact (firstFrame_chatHistory c.quote c.input b).symm ▸ List.prefix_refl _
    · cases hst
  · cases hst

/-- The prompt of a later question. -/
theorem prompted_send {asked text : String} (h : Sound jsonDecode s)
    (hst : s.send asked = some (s', es)) (hi : .prompt i text ∈ es) :
    ∃ c, s'.nav.find i = some (.chat c) ∧
      ∃ more, text = "My Verse: " ++ c.quote ++ "\nMy Question: " ++ c.input ++ more := by
  unfold Reading.send at hst
  split at hst
  · rename_i j c ht
    obtain ⟨state, hs, he⟩ := Option.map_eq_some_iff.mp hst
    obtain ⟨rfl, rfl⟩ := Prod.mk.inj he
    obtain ⟨rfl, rfl⟩ := Effect.prompt.inj (List.mem_singleton.mp hi)
    obtain ⟨_, -, -, hseeds⟩ := follows_of_find h (top_of_find ht)
    exact ⟨_, find_setPage (top_of_find ht),
      prompt_starts ((hseeds state hs).trans (prefix_handle state (.sendInput asked)))⟩
  · cases hst

/-- A verse sends the request for its explanation, and no prompt. -/
theorem prompt_not_mem_verse {j : Nat} {o : Outcome} {text : String}
    (hst : s.verse jsonDecode j o = some (s', es)) : .prompt i text ∉ es := by
  unfold Reading.verse at hst
  split at hst
  · obtain ⟨_, -, he⟩ := Option.map_eq_some_iff.mp hst
    obtain ⟨-, rfl⟩ := Prod.mk.inj he
    split <;> simp
  · cases hst

theorem prompted_step {a : Act} {text : String} (h : Sound jsonDecode s)
    (hst : step jsonDecode s a = some (s', es)) (hi : .prompt i text ∈ es) :
    ∃ c, s'.nav.find i = some (.chat c) ∧
      ∃ more, text = "My Verse: " ++ c.quote ++ "\nMy Question: " ++ c.input ++ more := by
  have hsilent : es ≠ [] := List.ne_nil_of_mem hi
  cases a with
  | frame route isSubscribed => exact prompted_frame hst hi
  | send asked => exact prompted_send h hst hi
  | verse cover outcome => exact absurd hi (prompt_not_mem_verse hst)
  | push | pop | replace | replaceByCover =>
    cases hst
    exact absurd rfl hsilent
  | _ => exact absurd (eq_of_silent hst).2 hsilent

/-- **Every prompt speaks of the verse on whose pages it was asked.** -/
theorem prompt_along (jsonDecode : String → Except DartError Json) (as : List Act) :
    (reading jsonDecode).Along (fun _ _ s' es => ∀ i text, .prompt i text ∈ es →
      ∃ c q g j v more, s'.nav.find i = some (.chat c) ∧ Chain s' c q g j v ∧
        Guides jsonDecode s' j v g.guidance ∧
        text = "My Verse: " ++ v.bible ++ "\nMy Question: " ++ q.input ++ more) home as := by
  refine Machine.along_of_keeps (Sound jsonDecode) ?_ as home sound_home
  intro s a s' es h hst
  have h' := sound_step h hst
  refine ⟨fun i text hi => ?_, h'⟩
  obtain ⟨c, hfind, more, htext⟩ := prompted_step h hst hi
  obtain ⟨q, g, j, v, hchain, hguides⟩ := chain_of_sound h' hfind
  refine ⟨c, q, g, j, v, more, hfind, hchain, hguides, ?_⟩
  rw [htext, hchain.verse, hchain.question]

end GoodOmens.Home
