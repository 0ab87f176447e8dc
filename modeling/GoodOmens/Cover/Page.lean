import GoodOmens.Library.Handler
import GoodOmens.Services.Http

/-!
# Opening the Bible

`_CoverPageState.handleGesture`, line by line: `fetchVerse`, which writes the
fields of the verse one after the other, and the push of a `VersePage`.  A Dart
method that throws leaves behind what it wrote before, so a method is a
computation in `CoverM`, a `Handler` on the fields of the page.

`mounted` says whether the page is still there when the answer comes.  The body
of the answer is read with `jsonDecode`, a parameter; the source decodes it anew
for every field, and so does `decode`.

Two things of the platform are in the state: the explanation requests that were
started, counted by `started`, and the routes that the page has pushed.  A route
holds what its `pageBuilder` gives, which is no page but an error when
`outputDataFuture` was never set.
-/

namespace GoodOmens.Cover

/-- The future of `generateOutput`: the how many-th it is, and what its request
asks for. -/
structure ExplainFuture where
  serial : Nat
  id : String
  verse : String
  input : String
deriving DecidableEq, Repr

/-- The arguments of a `VersePage`. -/
structure VersePage where
  bible : String
  book : String
  chapter : String
  verse : String
  content : String
  verseId : String
  generateOutputFuture : ExplainFuture
  theme : Int
deriving DecidableEq, Repr

/-- The fields of `_CoverPageState` that opening the Bible reads or writes; the
requests started; the routes pushed; the snack bars shown. -/
structure CoverState where
  verseId : String
  bible : String
  verse : String
  book : String
  chapter : String
  content : String
  input : String
  isLoading : Bool
  theme : Int
  outputDataFuture : Option ExplainFuture
  started : Nat
  pushed : List (Except DartError VersePage)
  snackBars : List String

/-- Computations on the state that may throw and keep what was written. -/
abbrev CoverM := Handler DartError CoverState

open Handler

/-- `generateOutput` up to its `await`: the request goes out with the id and the
text of the verse as they are now. -/
def generateOutput : CoverM ExplainFuture := do
  let s ← get
  set { s with started := s.started + 1 }
  return { serial := s.started, id := s.verseId, verse := s.bible, input := s.input }

section

variable (jsonDecode : String → Except DartError Json)

/-- `jsonDecode(response.body)[key]`. -/
def decode (body key : String) : Except DartError Json := do
  (← jsonDecode body).index key

/-- `fetchVerse`, with the outcome of its request. -/
def fetchVerse (o : Outcome) (mounted : Bool) : CoverM Unit := do
  modify fun s => { s with isLoading := true }
  match o with
  | .exception => throw .clientException
  | .response statusCode body =>
    if statusCode = 200 then
      if mounted then
        let id ← eval (decode jsonDecode body "Id")
        modify fun s => { s with verseId := id.toString }
        let chapter ← eval (decode jsonDecode body "Chapter")
        modify fun s => { s with chapter := chapter.toString }
        let verse ← eval (decode jsonDecode body "Verse")
        modify fun s => { s with verse := verse.toString }
        let book ← eval ((decode jsonDecode body "Book").bind Json.asString)
        modify fun s => { s with book := book }
        let content ← eval ((decode jsonDecode body "Content").bind Json.asString)
        modify fun s => { s with content := content }
        modify fun s =>
          { s with bible := s.book ++ " " ++ s.chapter ++ ":" ++ s.verse ++ " " ++ s.content }
        modify fun s => { s with isLoading := false }
        let future ← generateOutput
        modify fun s => { s with outputDataFuture := some future }
    else
      modify fun s => { s with verse := body }
      if !mounted then throw .unmounted
      modify fun s => { s with
        snackBars := s.snackBars ++ ["Cannot fetch verse for now. Please try again later."]
        isLoading := false }

/-- What the `pageBuilder` of the pushed route gives. -/
def pageBuilder (s : CoverState) : Except DartError VersePage :=
  match s.outputDataFuture with
  | some future =>
    .ok {
      bible := s.bible
      book := s.book
      chapter := s.chapter
      verse := s.verse
      content := s.content
      verseId := s.verseId
      generateOutputFuture := future
      theme := s.theme }
  | none => .error .lateInitialization

/-- `handleGesture` up to the push of its route. -/
def handleGesture (o : Outcome) (mounted : Bool) : CoverM Unit := do
  fetchVerse jsonDecode o mounted
  if !mounted then throw .unmounted
  modify fun s => { s with pushed := s.pushed ++ [pageBuilder s] }

end

end GoodOmens.Cover
