import GoodOmens.Library.Navigator
import GoodOmens.Cover.Explaination
import GoodOmens.Chat.Page

/-!
# Reading a verse, page after page

The walk from the Bible to the chat as one machine.  `App/` knows of these pages only
their kind; here every page of the navigator has what its widget was given and what its
state holds, and the pages are pushed with what the handlers of the source read out of
their own fields at that moment.

The handlers themselves are those of `Cover/` and `Chat/`: a tap and its verse are
`Opening.tap` and `Opening.verse`, an explanation is built by `Explaination.build`, and a
chat page starts with `firstFrame`.  What is new is that they meet: verses and explanations
come in any order, for any of the cover pages on the stack, while the user walks on, goes
back, opens the menu, or has a page replaced.

Two things are left wider than they are.  `setTheme` gives any page any theme, at any time,
and `other` stands for the pages that are not in the walk.  The handlers of a cover page
that is gone are left out: they throw before they write or show anything.
-/

namespace GoodOmens.Home

open Cover Chat

/-- `ExplainationPage` and its state: the cover page whose request it waits for, and what
its `FutureBuilder` has built last. -/
structure ExplainationPage where
  cover : Nat
  verseId : String
  generateOutputFuture : ExplainFuture
  state : ExplainationState
  shown : Except DartError Shown

/-- `QueryPage` and the field of its state that `onChanged` writes. -/
structure QueryPage where
  bible : String
  theme : Int
  input : String

/-- `ChatPage`; its state is there after the first frame. -/
structure ChatPage where
  quote : String
  theme : Int
  input : String
  state : Option ChatState

/-- The pages of the walk.  A verse page remembers which cover page pushed it. -/
inductive Sheet
  | cover (opening : Opening)
  | verse (cover : Nat) (page : VersePage)
  | explaination (page : ExplainationPage)
  | guidance (page : GuidancePage)
  | query (page : QueryPage)
  | chat (page : ChatPage)
  | other

/-- The page with another theme. -/
def Sheet.withTheme (theme : Int) : Sheet → Sheet
  | cover p => cover { p with page := { p.page with theme := theme } }
  | verse i page => verse i { page with theme := theme }
  | explaination page => explaination { page with state := { page.state with theme := theme } }
  | guidance page => guidance { page with theme := theme }
  | query page => query { page with theme := theme }
  | chat page => chat { page with theme := theme }
  | other => other

/-- An explanation request that was answered: the cover page that had sent it, as it was
then, and how it ended. -/
structure Answered where
  cover : Nat
  page : CoverState
  future : ExplainFuture
  outcome : Outcome

/-- The navigator, and the explanation requests that were answered. -/
structure Reading where
  nav : Navigator Sheet
  answered : List Answered

/-- User inputs, what comes back, frames, and what the rest of the app does to the
navigator. -/
inductive Act
  | tap
  | verse (cover : Nat) (outcome : Outcome)
  | explanation (cover : Nat) (future : ExplainFuture) (outcome : Outcome)
  | closed (cover : Nat) (themeOut : Option Int)
  | build (route : Nat)
  | seeMore
  | type (text : String)
  | submit
  | frame (route : Nat) (isSubscribed : Bool)
  | send (text : String)
  | newMessage (route : Nat) (data : String)
  | endOfResponse (route : Nat)
  | setTheme (route : Nat) (theme : Int)
  | push | pop | replace | replaceByCover

/-- What a step sends: an explanation request, or the prompt of a chat page. -/
inductive Effect
  | explain (cover : Nat) (future : ExplainFuture)
  | prompt (chat : Nat) (text : String)

/-- The cover page `builtPage` as home. -/
def home : Reading := ⟨.home (.cover builtPage), []⟩

namespace Reading

variable (s : Reading)

def push (p : Sheet) : Reading := { s with nav := s.nav.push p }

def setPage (i : Nat) (p : Sheet) : Reading := { s with nav := s.nav.setPage i p }

/-- The route that a handler of the cover page has pushed; an error of the `pageBuilder`
shows in the place of the page. -/
def pushRoutes (i : Nat) (routes : List (Except DartError VersePage)) : Reading :=
  routes.foldl (fun s route => s.push (match route with
    | .ok page => .verse i page
    | .error _ => .other)) s

/-! ### The cover page -/

/-- `handleGesture` up to the request of `fetchVerse`. -/
def tap : Option Reading :=
  match s.nav.top with
  | some ⟨i, .cover p⟩ => p.tap.map (fun p => s.setPage i (.cover p))
  | _ => none

section

variable (jsonDecode : String → Except DartError Json)

/-- The verse comes: `handleGesture` goes on to its push. -/
def verse (i : Nat) (o : Outcome) : Option (Reading × List Effect) :=
  match s.nav.find i with
  | some (.cover p) =>
    (p.verse jsonDecode o true).map (fun p' =>
      ((s.setPage i (.cover p')).pushRoutes i (p'.page.pushed.drop p.page.pushed.length),
        if p.page.started < p'.page.started then
          p'.page.outputDataFuture.toList.map (.explain i)
        else []))
  | _ => none

/-- An explanation comes.  After an error status the page on top is popped. -/
def explanation (i : Nat) (future : ExplainFuture) (o : Outcome) : Option Reading :=
  match s.nav.find i with
  | some (.cover p) =>
    (p.explanation jsonDecode future o true).map (fun (p', effects) =>
      let nav := s.nav.setPage i (.cover p')
      { nav := if .pop ∈ effects then nav.pop else nav
        answered := s.answered ++ [⟨i, p.page, future, o⟩] })
  | _ => none

/-- What the future of the explanation page has: nothing before the answer. -/
def snapshot (i : Nat) (future : ExplainFuture) : Option (List String) :=
  (s.answered.find? (fun a => a.cover = i ∧ a.future = future)).bind
    (fun a => Explaination.snapshot jsonDecode a.outcome true a.page)

/-- The `FutureBuilder` of an explanation page builds. -/
def build (i : Nat) : Option Reading :=
  match s.nav.find i with
  | some (.explaination e) =>
    let built := (Explaination.builder
      (s.snapshot jsonDecode e.cover e.generateOutputFuture)).exec e.state
    some (s.setPage i (.explaination { e with state := built.2, shown := built.1 }))
  | _ => none

end

/-- The pushed route has completed: the rest of `handleGesture`. -/
def closed (i : Nat) (themeOut : Option Int) : Option Reading :=
  match s.nav.find i with
  | some (.cover p) =>
    (p.closed themeOut true).map (fun p => s.setPage i (.cover p))
  | _ => none

/-! ### See More and Submit -/

/-- `handleGesture` of the three pages that have a See More.  A verse page shows it below a
verse, an explanation page below an explanation. -/
def seeMore : Option Reading :=
  match s.nav.top with
  | some ⟨_, .verse i page⟩ =>
    if page.content.isEmpty then none
    else some (s.push (.explaination {
      cover := i
      verseId := page.verseId
      generateOutputFuture := page.generateOutputFuture
      state := ⟨page.bible, page.theme, "", "", []⟩
      shown := .ok .threeBodySimulation }))
  | some ⟨j, .explaination e⟩ =>
    match e.shown with
    | .ok (.explanation _) =>
      let state := Explaination.handleGesture e.state
      let s := s.setPage j (.explaination { e with state := state })
      some ((state.pushed.drop e.state.pushed.length).foldl
        (fun s page => s.push (.guidance page)) s)
    | _ => none
  | some ⟨_, .guidance page⟩ =>
    some (s.push (.query { bible := page.bible, theme := page.theme, input := "" }))
  | _ => none

/-- `onChanged` of the query's text field. -/
def type (text : String) : Option Reading :=
  match s.nav.top with
  | some ⟨i, .query q⟩ => some (s.setPage i (.query { q with input := text }))
  | _ => none

/-- Submit, and `generateOutput` of the query page up to its push. -/
def submit : Option Reading :=
  match s.nav.top with
  | some ⟨_, .query q⟩ =>
    if q.input.isEmpty then none
    else some (s.push (.chat ⟨q.bible, q.theme, q.input, none⟩))
  | _ => none

/-! ### The chat page -/

/-- The post-frame callback of its `initState`. -/
def frame (i : Nat) (isSubscribed : Bool) : Option (Reading × List Effect) :=
  match s.nav.find i with
  | some (.chat c) =>
    match c.state with
    | none =>
      let first := firstFrame c.quote c.input isSubscribed
      some (s.setPage i (.chat { c with state := some first.1 }), [.prompt i first.2])
    | some _ => none
  | _ => none

/-- Send is pressed with `text` in the box. -/
def send (text : String) : Option (Reading × List Effect) :=
  match s.nav.top with
  | some ⟨i, .chat c⟩ =>
    c.state.map (fun state =>
      let sent := { state with inputController := text }.sendInput
      (s.setPage i (.chat { c with state := some sent.1 }), [.prompt i sent.2]))
  | _ => none

/-- The socket of a chat page delivers an event. -/
def receive (i : Nat) (e : Event) : Option Reading :=
  match s.nav.find i with
  | some (.chat c) =>
    c.state.map (fun state => s.setPage i (.chat { c with state := some (state.handle e) }))
  | _ => none

/-! ### What the rest of the app does -/

def setTheme (i : Nat) (theme : Int) : Option Reading :=
  (s.nav.find i).map (fun p => s.setPage i (p.withTheme theme))

/-- The step sends nothing. -/
def silent : Reading × List Effect := (s, [])

end Reading

section

variable (jsonDecode : String → Except DartError Json)

/-- One step. -/
def step (s : Reading) : Act → Option (Reading × List Effect)
  | .tap => s.tap.map Reading.silent
  | .verse cover outcome => s.verse jsonDecode cover outcome
  | .explanation cover future outcome => (s.explanation jsonDecode cover future outcome).map Reading.silent
  | .closed cover themeOut => (s.closed cover themeOut).map Reading.silent
  | .build route => (s.build jsonDecode route).map Reading.silent
  | .seeMore => s.seeMore.map Reading.silent
  | .type text => (s.type text).map Reading.silent
  | .submit => s.submit.map Reading.silent
  | .frame route isSubscribed => s.frame route isSubscribed
  | .send text => s.send text
  | .newMessage route data => (s.receive route (.newMessage data)).map Reading.silent
  | .endOfResponse route => (s.receive route .endOfResponse).map Reading.silent
  | .setTheme route theme => (s.setTheme route theme).map Reading.silent
  | .push => some (s.push .other).silent
  | .pop => some { s with nav := s.nav.pop }.silent
  | .replace => some { s with nav := s.nav.pushReplacement .other }.silent
  | .replaceByCover => some { s with nav := s.nav.pushReplacement (.cover builtPage) }.silent

/-- The walk. -/
def reading : Machine Reading Act Effect where
  start s := s = home
  step := step jsonDecode

end

end GoodOmens.Home
