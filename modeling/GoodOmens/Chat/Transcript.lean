import GoodOmens.Chat.Page

/-!
# The transcript of a conversation

What the chat page is for: a list of entries, each said by one of two speakers
and never empty, and the words of the answer that is coming in (`Transcript`).
The entries carry their own well-formedness, so no operation can make an empty
one.

The page keeps the entries as strings with a label in front.  `Shows` relates
the two, `shows_run` says that the handlers of the page do to the strings what
the operations of the transcript do to the entries, in every order of events.
What is then proved of a transcript (`said_run`, `textsBy_you_run`) is read off
the strings again with `textsAfter`, since the label of an entry tells who said
it (`textsAfter_render`).  `chat_faithful` puts it together.
-/

namespace GoodOmens.Chat

/-! ### Transcripts -/

inductive Speaker
  | you | goodOmens
deriving DecidableEq, Repr

/-- Something that was said, by whom. -/
structure Entry where
  speaker : Speaker
  text : String
  text_ne : text ≠ ""

/-- The entries, and the words of the answer coming in. -/
structure Transcript where
  entries : List Entry
  pending : String

namespace Transcript

variable (t : Transcript)

/-- Words come in. -/
def hear (words : String) : Transcript := { t with pending := t.pending ++ words }

/-- The answer is over: it is an entry now, if there was one. -/
def close : Transcript :=
  if h : t.pending = "" then t
  else { entries := t.entries ++ [⟨.goodOmens, t.pending, h⟩], pending := "" }

/-- A question is asked, if it is one. -/
def ask (text : String) : Transcript :=
  if h : text = "" then t else { t with entries := t.entries ++ [⟨.you, text, h⟩] }

/-- The texts of one speaker, in order. -/
def textsBy (speaker : Speaker) : List String :=
  (t.entries.filter (fun e => e.speaker = speaker)).map Entry.text

/-- Every word that came in. -/
def said : String := String.join (t.textsBy .goodOmens) ++ t.pending

/-- The operation behind an event of the page. -/
def handle (t : Transcript) : Event → Transcript
  | .newMessage data => t.hear data
  | .endOfResponse => t.close
  | .sendInput text => t.ask text

def run (t : Transcript) (events : List Event) : Transcript := events.foldl handle t

end Transcript

/-- The texts that come in with a list of events. -/
def chunks (events : List Event) : List String :=
  events.filterMap (fun e => match e with | .newMessage data => some data | _ => none)

/-- The texts that are sent in it. -/
def sent (events : List Event) : List String :=
  events.filterMap (fun e => match e with | .sendInput text => some text | _ => none)

section

variable {t : Transcript} {w : String}

@[simp] theorem textsBy_hear (sp : Speaker) : (t.hear w).textsBy sp = t.textsBy sp := rfl

/-- Closing adds the answer that came in to those of Good Omens. -/
theorem textsBy_close (h : t.pending ≠ "") (sp : Speaker) :
    t.close.textsBy sp = t.textsBy sp ++ if sp = .goodOmens then [t.pending] else [] := by
  rw [Transcript.close, dif_neg h]
  cases sp <;> simp [Transcript.textsBy]

/-- Asking adds the question to those of the user. -/
theorem textsBy_ask (h : w ≠ "") (sp : Speaker) :
    (t.ask w).textsBy sp = t.textsBy sp ++ if sp = .you then [w] else [] := by
  rw [Transcript.ask, dif_neg h]
  cases sp <;> simp [Transcript.textsBy]

@[simp] theorem close_of_eq (h : t.pending = "") : t.close = t := by
  rw [Transcript.close, dif_pos h]

theorem close_pending : t.close.pending = "" := by
  unfold Transcript.close
  split
  · assumption
  · rfl

@[simp] theorem ask_pending : (t.ask w).pending = t.pending := by
  unfold Transcript.ask
  split <;> rfl

@[simp] theorem ask_of_eq (h : w = "") : t.ask w = t := by
  rw [Transcript.ask, dif_pos h]

theorem said_hear : (t.hear w).said = t.said ++ w := by
  rw [Transcript.said, textsBy_hear, Transcript.said, String.append_assoc]
  rfl

theorem said_close : t.close.said = t.said := by
  by_cases h : t.pending = ""
  · rw [close_of_eq h]
  · rw [Transcript.said, textsBy_close h, close_pending, if_pos rfl, String.join_append,
      Transcript.said]
    simp

theorem said_ask : (t.ask w).said = t.said := by
  by_cases h : w = ""
  · rw [ask_of_eq h]
  · rw [Transcript.said, textsBy_ask h, ask_pending, if_neg (by decide), List.append_nil,
      Transcript.said]

/-- **No word is lost, said twice, or moved.** -/
theorem said_run (events : List Event) :
    ∀ t : Transcript, (t.run events).said = t.said ++ String.join (chunks events) := by
  induction events with
  | nil =>
    intro t
    simp [Transcript.run, chunks]
  | cons e events ih =>
    intro t
    rw [Transcript.run, List.foldl_cons, ← Transcript.run, ih]
    cases e with
    | newMessage data =>
      rw [show t.handle (.newMessage data) = t.hear data from rfl, said_hear]
      simp [chunks, String.append_assoc]
    | endOfResponse =>
      rw [show t.handle .endOfResponse = t.close from rfl, said_close]
      rfl
    | sendInput text =>
      rw [show t.handle (.sendInput text) = t.ask text from rfl, said_ask]
      rfl

/-- **The questions are those that were sent.** -/
theorem textsBy_you_run (events : List Event) : ∀ t : Transcript,
    (t.run events).textsBy .you = t.textsBy .you ++ (sent events).filter (fun x => x ≠ "") := by
  induction events with
  | nil =>
    intro t
    simp [Transcript.run, sent]
  | cons e events ih =>
    intro t
    rw [Transcript.run, List.foldl_cons, ← Transcript.run, ih]
    cases e with
    | newMessage data => rfl
    | endOfResponse =>
      rw [show t.handle .endOfResponse = t.close from rfl]
      by_cases h : t.pending = ""
      · rw [close_of_eq h]
        rfl
      · rw [textsBy_close h, if_neg (by decide), List.append_nil]
        rfl
    | sendInput text =>
      rw [show t.handle (.sendInput text) = t.ask text from rfl]
      by_cases h : text = ""
      · rw [ask_of_eq h]
        simp [sent, h]
      · rw [textsBy_ask h, if_pos rfl]
        simp [sent, h]

end

/-! ### Entries as strings -/

def Speaker.label : Speaker → String
  | you => "Q:\n"
  | goodOmens => "Good Omens:\n"

/-- The entry as the page keeps it. -/
def Entry.render (e : Entry) : String := e.speaker.label ++ e.text

/-- What stands after the label, if the entry has it. -/
def afterLabel (label entry : String) : Option String :=
  if label.toList.isPrefixOf entry.toList then
    some (String.ofList (entry.toList.drop label.toList.length))
  else none

/-- The texts of the entries with the label, in order. -/
def textsAfter (label : String) (history : List String) : List String :=
  history.filterMap (afterLabel label)

theorem afterLabel_append (label text : String) : afterLabel label (label ++ text) = some text := by
  simp [afterLabel]

/-- The labels begin with different letters, so an entry has one of them only. -/
theorem afterLabel_render (sp : Speaker) (e : Entry) :
    afterLabel sp.label e.render = if e.speaker = sp then some e.text else none := by
  obtain ⟨who, text, hne⟩ := e
  by_cases h : who = sp
  · subst h
    rw [if_pos rfl]
    exact afterLabel_append _ _
  · rw [if_neg h]
    cases who <;> cases sp
    · exact absurd rfl h
    · simp [afterLabel, Entry.render, Speaker.label]
    · simp [afterLabel, Entry.render, Speaker.label]
    · exact absurd rfl h

theorem textsAfter_render (sp : Speaker) (t : Transcript) :
    textsAfter sp.label (t.entries.map Entry.render) = t.textsBy sp := by
  rw [Transcript.textsBy, textsAfter]
  induction t.entries with
  | nil => rfl
  | cons e es ih =>
    rw [List.map_cons, List.filterMap_cons, afterLabel_render, List.filter_cons]
    by_cases h : e.speaker = sp
    · simp [h, ih]
    · simp [h, ih]

/-! ### The page shows the transcript -/

/-- The history is the seeds and the entries, the response what is pending. -/
structure Shows (quote input : String) (s : ChatState) (t : Transcript) : Prop where
  chatHistory : s.chatHistory = seeds quote input ++ t.entries.map Entry.render
  currentResponse : s.currentResponse = t.pending

section

variable {quote input : String} {s : ChatState} {t : Transcript}

theorem shows_firstFrame (quote input : String) (b : Bool) :
    Shows quote input (firstFrame quote input b).1 ⟨[], ""⟩ :=
  ⟨by simp, rfl⟩

theorem shows_newMessage (h : Shows quote input s t) (data : String) :
    Shows quote input (s.newMessage data) (t.hear data) :=
  ⟨h.chatHistory, by rw [newMessage_currentResponse, h.currentResponse]; rfl⟩

theorem shows_endOfResponse (h : Shows quote input s t) :
    Shows quote input s.endOfResponse t.close := by
  have hp := h.currentResponse
  by_cases he : t.pending = ""
  · rw [close_of_eq he, endOfResponse_of_eq s (hp.trans he)]
    exact h
  · obtain ⟨hh, hr⟩ := endOfResponse_of_ne s (by rwa [hp])
    refine ⟨?_, hr.trans close_pending.symm⟩
    rw [hh, h.chatHistory, hp, Transcript.close, dif_neg he]
    simp [Entry.render, Speaker.label]

theorem shows_sendInput (h : Shows quote input s t) (text : String) :
    Shows quote input { s with inputController := text }.sendInput.1 (t.ask text) := by
  refine ⟨?_, ?_⟩
  · by_cases he : text = ""
    · rw [ask_of_eq he, sendInput_of_eq _ he]
      exact h.chatHistory
    · rw [sendInput_of_ne _ he, h.chatHistory, Transcript.ask, dif_neg he]
      simp [Entry.render, Speaker.label]
  · rw [sendInput_currentResponse, ask_pending]
    exact h.currentResponse

/-- **One event does the same to both.** -/
theorem shows_handle (h : Shows quote input s t) (e : Event) :
    Shows quote input (s.handle e) (t.handle e) := by
  cases e with
  | newMessage data => exact shows_newMessage h data
  | endOfResponse => exact shows_endOfResponse h
  | sendInput text => exact shows_sendInput h text

theorem shows_run (events : List Event) : ∀ {s : ChatState} {t : Transcript},
    Shows quote input s t → Shows quote input (s.run events) (t.run events) := by
  induction events with
  | nil => intro s t h; exact h
  | cons e events ih => intro s t h; exact ih (shows_handle h e)

theorem Shows.drop (h : Shows quote input s t) :
    s.chatHistory.drop 2 = t.entries.map Entry.render := by
  rw [h.chatHistory]
  rfl

theorem Shows.take (h : Shows quote input s t) : s.chatHistory.take 2 = seeds quote input := by
  rw [h.chatHistory]
  rfl

theorem Shows.textsAfter (h : Shows quote input s t) (sp : Speaker) :
    textsAfter sp.label (s.chatHistory.drop 2) = t.textsBy sp := by
  rw [h.drop, textsAfter_render]

end

/-- **The page is faithful to the conversation.**  Whatever comes in after the
first frame: the history only grows at its end; it starts with the seeds, and
every later entry is a question or an answer with a text; the texts of the
answers and the current response are all the chunks in order; the texts of the
questions are the texts that were sent and not empty; and the list view shows the
later entries and the current response. -/
theorem chat_faithful (quote input : String) (isSubscribed : Bool) (events : List Event) :
    let s := (firstFrame quote input isSubscribed).1.run events
    (∀ later, s.chatHistory <+: (s.run later).chatHistory) ∧
    s.chatHistory.take 2 = seeds quote input ∧
    (∀ entry ∈ s.chatHistory.drop 2,
      ∃ text, text ≠ "" ∧ (entry = "Q:\n" ++ text ∨ entry = "Good Omens:\n" ++ text)) ∧
    String.join (textsAfter "Good Omens:\n" (s.chatHistory.drop 2)) ++ s.currentResponse =
      String.join (chunks events) ∧
    textsAfter "Q:\n" (s.chatHistory.drop 2) = (sent events).filter (fun x => x ≠ "") ∧
    s.listView = .ok ([none, none] ++ (s.chatHistory.drop 2).map some ++
      [some s.currentResponse]) := by
  intro s
  have hs : Shows quote input s ((⟨[], ""⟩ : Transcript).run events) :=
    shows_run events (shows_firstFrame quote input isSubscribed)
  refine ⟨fun later => prefix_run later s, hs.take, ?_, ?_, ?_, ?_⟩
  · intro entry he
    rw [hs.drop] at he
    obtain ⟨⟨who, text, hne⟩, -, rfl⟩ := List.mem_map.mp he
    cases who with
    | you => exact ⟨text, hne, .inl rfl⟩
    | goodOmens => exact ⟨text, hne, .inr rfl⟩
  · have hsaid := said_run events ⟨[], ""⟩
    rw [Transcript.said, ← hs.textsAfter .goodOmens, ← hs.currentResponse] at hsaid
    simpa [Transcript.said, Transcript.textsBy, Speaker.label] using hsaid
  · have hsent := textsBy_you_run events ⟨[], ""⟩
    rw [← hs.textsAfter .you] at hsent
    simpa [Transcript.textsBy, Speaker.label] using hsent
  · refine listView_eq s ?_
    rw [hs.chatHistory, List.length_append]
    exact Nat.le_add_right 2 _

end GoodOmens.Chat
