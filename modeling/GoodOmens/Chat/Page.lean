import GoodOmens.Services.Http

/-!
# The chat page

`_ChatPageState`: the history as the page keeps it, a list of strings, and the
answer that is still coming in.  Three handlers write them: `_sendInput`, and the
two of the socket, `new_message` and `end_of_response`.

`firstFrame` is the post-frame callback of `initState`, `run` the events that
come in after it, in any order.  `itemBuilder` and `listView` are the
`ListView.builder` of `build`.  Scrolling, the socket's connection and the focus
are left out.
-/

namespace GoodOmens.Chat

/-- The fields of `_ChatPageState` that its handlers read or write. -/
structure ChatState where
  inputController : String
  inputText : String
  chatHistory : List String
  currentResponse : String
  isSubscribed : Bool
  limit : Nat
deriving DecidableEq, Repr

namespace ChatState

variable (s : ChatState)

/-- `_sendInput`, with the prompt that it emits as `start_stream`. -/
def sendInput : ChatState × String :=
  let s := { s with limit := s.limit + 1 }
  let s :=
    if s.inputController ≠ "" then
      { s with
        inputText := s.inputController
        chatHistory := s.chatHistory ++ ["Q:\n" ++ s.inputController] }
    else s
  let chatHistoryPrompt :=
    "\n".intercalate s.chatHistory ++ "\nMy New Question: " ++ s.inputText
  ({ s with inputController := "" }, chatHistoryPrompt)

/-- The handler of `new_message`. -/
def newMessage (data : String) : ChatState :=
  { s with currentResponse := s.currentResponse ++ data }

/-- The handler of `end_of_response`. -/
def endOfResponse : ChatState :=
  if s.currentResponse ≠ "" then
    { s with
      chatHistory := s.chatHistory ++ ["Good Omens:\n" ++ s.currentResponse]
      currentResponse := "" }
  else s

/-- `itemCount` of the list view. -/
def itemCount : Nat := s.chatHistory.length + 1

/-- `itemBuilder` of the list view: an empty container, or a tile with a text. -/
def itemBuilder (index : Nat) : Except DartError (Option String) :=
  if index < 2 then .ok none
  else if index = s.chatHistory.length then .ok (some s.currentResponse)
  else
    match s.chatHistory[index]? with
    | some entry => .ok (some entry)
    | none => .error .rangeError

/-- The list view, every item built. -/
def listView : Except DartError (List (Option String)) :=
  (List.range s.itemCount).mapM s.itemBuilder

end ChatState

/-- The two entries that the history starts with. -/
def seeds (quote input : String) : List String :=
  ["My Verse: " ++ quote, "My Question: " ++ input]

/-- The post-frame callback of `initState`. -/
def firstFrame (quote input : String) (isSubscribed : Bool) : ChatState × String :=
  let s : ChatState :=
    { inputController := ""
      inputText := ""
      chatHistory := []
      currentResponse := ""
      isSubscribed := false
      limit := 0 }
  let s := { s with chatHistory := s.chatHistory ++ seeds quote input }
  let s := { s with inputText := input, isSubscribed := isSubscribed }
  s.sendInput

/-- What a page handles after its first frame.  `sendInput text` is a press of
send with `text` in the box. -/
inductive Event
  | newMessage (data : String)
  | endOfResponse
  | sendInput (text : String)
deriving DecidableEq, Repr

/-- The state after an event. -/
def ChatState.handle (s : ChatState) : Event → ChatState
  | .newMessage data => s.newMessage data
  | .endOfResponse => s.endOfResponse
  | .sendInput text => { s with inputController := text }.sendInput.1

/-- The state after a list of events. -/
def ChatState.run (s : ChatState) (events : List Event) : ChatState :=
  events.foldl ChatState.handle s

/-! ### What the handlers do to the history -/

section

variable (s : ChatState)

@[simp] theorem newMessage_currentResponse (data : String) :
    (s.newMessage data).currentResponse = s.currentResponse ++ data := rfl

theorem endOfResponse_of_ne (h : s.currentResponse ≠ "") :
    s.endOfResponse.chatHistory = s.chatHistory ++ ["Good Omens:\n" ++ s.currentResponse] ∧
      s.endOfResponse.currentResponse = "" := by
  rw [ChatState.endOfResponse, if_pos h]
  exact ⟨rfl, rfl⟩

theorem endOfResponse_of_eq (h : s.currentResponse = "") : s.endOfResponse = s := by
  rw [ChatState.endOfResponse, if_neg (not_not_intro h)]

@[simp] theorem sendInput_currentResponse :
    s.sendInput.1.currentResponse = s.currentResponse := by
  unfold ChatState.sendInput
  dsimp only
  split <;> rfl

theorem sendInput_of_ne (h : s.inputController ≠ "") :
    s.sendInput.1.chatHistory = s.chatHistory ++ ["Q:\n" ++ s.inputController] := by
  unfold ChatState.sendInput
  dsimp only
  rw [if_pos h]

theorem sendInput_of_eq (h : s.inputController = "") :
    s.sendInput.1.chatHistory = s.chatHistory := by
  unfold ChatState.sendInput
  dsimp only
  rw [if_neg (not_not_intro h)]

/-- The prompt holds the history as it is after the press, the new question in
it. -/
theorem sendInput_prompt : s.sendInput.2 =
    "\n".intercalate s.sendInput.1.chatHistory ++ "\nMy New Question: " ++
      s.sendInput.1.inputText := by
  unfold ChatState.sendInput
  rfl

@[simp] theorem firstFrame_chatHistory (quote input : String) (b : Bool) :
    (firstFrame quote input b).1.chatHistory = seeds quote input := by
  unfold firstFrame
  dsimp only
  rw [sendInput_of_eq _ rfl]
  rfl

theorem prefix_handle (e : Event) : s.chatHistory <+: (s.handle e).chatHistory := by
  cases e with
  | newMessage data => exact List.prefix_refl _
  | endOfResponse =>
    by_cases h : s.currentResponse = ""
    · have he : s.handle .endOfResponse = s := endOfResponse_of_eq s h
      exact he.symm ▸ List.prefix_refl _
    · rw [ChatState.handle, (endOfResponse_of_ne s h).1]
      exact List.prefix_append _ _
  | sendInput text =>
    by_cases h : text = ""
    · have he : (s.handle (.sendInput text)).chatHistory = s.chatHistory := sendInput_of_eq _ h
      exact he.symm ▸ List.prefix_refl _
    · rw [ChatState.handle, sendInput_of_ne _ h]
      exact List.prefix_append _ _

/-- The history only grows, and at its end. -/
theorem prefix_run (events : List Event) :
    ∀ s : ChatState, s.chatHistory <+: (s.run events).chatHistory := by
  induction events with
  | nil => intro s; exact List.prefix_refl _
  | cons e events ih => intro s; exact (prefix_handle s e).trans (ih (s.handle e))

end

/-! ### The list view -/

/-- Building the items of a range gives the list that has them in their places. -/
theorem mapM_range'_of_getElem {ε α : Type} {f : Nat → Except ε α} : ∀ (items : List α) (k : Nat),
    (∀ i x, items[i]? = some x → f (k + i) = .ok x) →
    (List.range' k items.length).mapM f = .ok items := by
  intro items
  induction items with
  | nil => intro k _; rfl
  | cons a items ih =>
    intro k h
    have hhead : f k = .ok a := h 0 a rfl
    have htail := ih (k + 1) (fun i x hx => by
      have hi := h (i + 1) x (by simpa using hx)
      rwa [← Nat.add_assoc, Nat.add_right_comm] at hi)
    rw [List.length_cons, List.range'_succ, List.mapM_cons, hhead, htail]
    rfl

/-- With the seeds in place the list view shows the entries after them and the
current response, and no index is out of range. -/
theorem listView_eq (s : ChatState) (h : 2 ≤ s.chatHistory.length) :
    s.listView = .ok ([none, none] ++ (s.chatHistory.drop 2).map some ++
      [some s.currentResponse]) := by
  obtain ⟨a, b, rest, hh⟩ : ∃ a b rest, s.chatHistory = a :: b :: rest := by
    match hm : s.chatHistory with
    | [] => simp [hm] at h
    | [_] => simp [hm] at h
    | a :: b :: rest => exact ⟨a, b, rest, rfl⟩
  have hcount : s.itemCount =
      ([none, none] ++ rest.map some ++ [some s.currentResponse]).length := by
    simp [ChatState.itemCount, hh]
  rw [ChatState.listView, List.range_eq_range', hcount, hh]
  refine mapM_range'_of_getElem _ 0 ?_
  intro i x hx
  rw [Nat.zero_add, ChatState.itemBuilder, hh]
  match i with
  | 0 => simpa using hx
  | 1 => simpa using hx
  | i + 2 =>
    have hx' : (rest.map some ++ [some s.currentResponse])[i]? = some x := by simpa using hx
    rw [if_neg (by omega)]
    rcases Nat.lt_trichotomy i rest.length with hlt | rfl | hgt
    · rw [if_neg (by simp only [List.length_cons]; omega)]
      rw [List.getElem?_append_left (by simpa using hlt), List.getElem?_map] at hx'
      obtain ⟨entry, hentry, rfl⟩ := Option.map_eq_some_iff.mp hx'
      rw [List.getElem?_cons_succ, List.getElem?_cons_succ, hentry]
    · rw [if_pos (by simp only [List.length_cons])]
      simpa using hx'
    · rw [List.getElem?_eq_none (by simp; omega)] at hx'
      cases hx'

end GoodOmens.Chat
