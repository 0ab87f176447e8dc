import GoodOmens.Chat.Transcript
import GoodOmens.Library.Machine

/-!
# A chat over a connection that drops

The server answers the requests it has one at a time, each with chunks and one end
marker, and the connection may be cut at any point (`link`).  The answer that is
being given is lost then, and any of the requests that wait may be lost with it;
what the page has heard of the answer stays in `currentResponse`, since no handler
deals with a disconnect and only an end marker clears it.

Next to the page stand the chunks that it has heard since its last entry, each with
the request it answers, and the chunks that each entry was made of.  An entry should
be made of the chunks of one request (`EntriesPure`).  `along_entriesPure` proves it
of the runs in which no words come in on top of what is left of another answer, and
`wholeAnswers_heardAlone` names the natural case: the connection is cut only between
answers.
-/

namespace GoodOmens.Chat

/-- Words of the answer to a request. -/
structure Chunk where
  request : Nat
  data : String
deriving DecidableEq, Repr

/-- The page; whether it is connected; the requests that wait, and the one that is
being answered, with what was sent of its answer; the chunks heard since the last
entry, and those of every entry. -/
structure Link where
  page : ChatState
  connected : Bool
  waiting : List Nat
  answering : Option Nat
  nextRequest : Nat
  streaming : String
  heard : List Chunk
  entries : List (List Chunk)

/-- A press of send; the server turns to the next request, sends words, ends the
answer; the connection drops, the requests in `lost` being lost; it comes back. -/
inductive Link.Act
  | send (text : String)
  | begin
  | chunk (data : String)
  | finish
  | drop (lost : List Nat)
  | reconnect
deriving DecidableEq, Repr

/-- The words of a list of chunks. -/
def words (chunks : List Chunk) : String := String.join (chunks.map Chunk.data)

namespace Link

variable (l : Link)

/-- A page after its first frame, whose prompt is request `0`. -/
def opened (quote input : String) (isSubscribed : Bool) : Link where
  page := (firstFrame quote input isSubscribed).1
  connected := true
  waiting := [0]
  answering := none
  nextRequest := 1
  streaming := ""
  heard := []
  entries := []

/-- `_sendInput`.  Without a connection the request is kept until there is one. -/
def send (text : String) : Link :=
  { l with
    page := { l.page with inputController := text }.sendInput.1
    waiting := l.waiting ++ [l.nextRequest]
    nextRequest := l.nextRequest + 1 }

def begin : Option Link :=
  match l.connected, l.answering, l.waiting with
  | true, none, request :: waiting =>
    some { l with answering := some request, waiting := waiting }
  | _, _, _ => none

def chunk (data : String) : Option Link :=
  match l.connected, l.answering with
  | true, some request =>
    some { l with
      page := l.page.newMessage data
      streaming := l.streaming ++ data
      heard := l.heard ++ [⟨request, data⟩] }
  | _, _ => none

/-- The end marker: what was heard is an entry now, if there was anything. -/
def finish : Option Link :=
  match l.connected, l.answering with
  | true, some _ =>
    some { l with
      page := l.page.endOfResponse
      answering := none
      streaming := ""
      heard := []
      entries := if l.page.currentResponse ≠ "" then l.entries ++ [l.heard] else l.entries }
  | _, _ => none

def drop (lost : List Nat) : Option Link :=
  if l.connected then
    some { l with
      connected := false
      answering := none
      streaming := ""
      waiting := l.waiting.filter (fun request => request ∉ lost) }
  else none

def reconnect : Option Link := if l.connected then none else some { l with connected := true }

def step : Link.Act → Option Link
  | .send text => some (l.send text)
  | .begin => l.begin
  | .chunk data => l.chunk data
  | .finish => l.finish
  | .drop lost => l.drop lost
  | .reconnect => l.reconnect

end Link

/-- The page and the server, from the first frame on. -/
def link : Machine Link Link.Act Empty where
  start l := ∃ quote input isSubscribed, l = .opened quote input isSubscribed
  step l a := (l.step a).map (fun l => (l, []))

/-- All the words in the list are from the answer to one request. -/
def OneRequest (chunks : List Chunk) : Prop :=
  ∃ request, ∀ c ∈ chunks, c.data ≠ "" → c.request = request

/-- The texts of the 'Good Omens' entries are the words of the lists in `entries`, each
of which is from one request. -/
structure EntriesPure (l : Link) : Prop where
  texts : textsAfter "Good Omens:\n" (l.page.chatHistory.drop 2) = l.entries.map words
  pure : ∀ chunks ∈ l.entries, OneRequest chunks

/-- Words come in only when the current response is what the server has sent of this
very answer. -/
def HeardAlone (l : Link) (a : Link.Act) : Prop :=
  ∀ data, a = .chunk data → data ≠ "" → l.page.currentResponse = l.streaming

/-- The connection is cut only when there is no current response. -/
def WholeAnswers (l : Link) (a : Link.Act) : Prop :=
  ∀ lost, a = .drop lost → l.page.currentResponse = ""

variable {l l' : Link} {a : Link.Act}

/-! ### What was heard -/

theorem words_concat (chunks : List Chunk) (c : Chunk) :
    words (chunks ++ [c]) = words chunks ++ c.data := by
  simp [words]

theorem words_append (xs ys : List Chunk) : words (xs ++ ys) = words xs ++ words ys := by
  simp [words]

/-- Chunks without words are all empty. -/
theorem data_eq_of_words : ∀ {chunks : List Chunk}, words chunks = "" →
    ∀ c ∈ chunks, c.data = "" := by
  intro chunks
  induction chunks with
  | nil => intro _ c hc; cases hc
  | cons d ds ih =>
    intro h c hc
    have hd : d.data ++ words ds = "" := by simpa [words] using h
    rw [String.append_eq_empty_iff] at hd
    rcases List.mem_cons.mp hc with rfl | hc
    · exact hd.1
    · exact ih hd.2 c hc

theorem oneRequest_nil : OneRequest [] := ⟨0, fun _ hc => by cases hc⟩

/-- Chunks of one request, after chunks without words. -/
theorem oneRequest_append {xs ys : List Chunk} {request : Nat} (hx : words xs = "")
    (hy : ∀ c ∈ ys, c.request = request) : OneRequest (xs ++ ys) := by
  refine ⟨request, ?_⟩
  intro c hc hne
  rcases List.mem_append.mp hc with hc | hc
  · exact absurd (data_eq_of_words hx c hc) hne
  · exact hy c hc

/-- A chunk without words is no matter. -/
theorem oneRequest_concat_empty {xs : List Chunk} {c : Chunk} (h : OneRequest xs)
    (hc : c.data = "") : OneRequest (xs ++ [c]) := by
  obtain ⟨request, hr⟩ := h
  refine ⟨request, ?_⟩
  intro d hd hne
  rcases List.mem_append.mp hd with hd | hd
  · exact hr d hd hne
  · obtain rfl := List.mem_singleton.mp hd
    exact absurd hc hne

/-! ### The run -/

/-- The page shows a transcript whose answers are the entries and whose pending words
were heard.  What was heard is `left` over from answers that were cut off, and `own`,
what was sent of the answer being given. -/
structure Tracked (quote input : String) (l : Link) (t : Transcript) (left own : List Chunk) :
    Prop where
  shows : Shows quote input l.page t
  texts : t.textsBy .goodOmens = l.entries.map words
  pure : ∀ chunks ∈ l.entries, OneRequest chunks
  pending : t.pending = words l.heard
  heard : l.heard = left ++ own
  requests : ∀ c ∈ own, l.answering = some c.request
  streaming : words own = l.streaming
  oneRequest : OneRequest l.heard

variable {quote input : String} {t : Transcript} {left own : List Chunk}

theorem Tracked.entriesPure (h : Tracked quote input l t left own) : EntriesPure l where
  texts := (h.shows.textsAfter .goodOmens).trans h.texts
  pure := h.pure

theorem tracked_opened (quote input : String) (b : Bool) :
    Tracked quote input (.opened quote input b) ⟨[], ""⟩ [] [] := by
  refine ⟨shows_firstFrame quote input b, rfl, ?_, rfl, rfl, ?_, rfl, oneRequest_nil⟩
  · intro chunks hc
    cases hc
  · intro c hc
    cases hc

theorem tracked_send (hi : Tracked quote input l t left own) (text : String) :
    Tracked quote input (l.send text) (t.ask text) left own := by
  refine ⟨shows_sendInput hi.shows text, ?_, hi.pure, ?_, hi.heard, hi.requests, hi.streaming,
    hi.oneRequest⟩
  · by_cases h : text = ""
    · rw [ask_of_eq h]
      exact hi.texts
    · rw [textsBy_ask h, if_neg (by decide), List.append_nil]
      exact hi.texts
  · rw [ask_pending]
    exact hi.pending

theorem Link.begin_inv (h : l.begin = some l') : ∃ request waiting, l.answering = none ∧
    l' = { l with answering := some request, waiting := waiting } := by
  unfold Link.begin at h
  split at h
  · rename_i request waiting _ hn _
    exact ⟨request, waiting, hn, (Option.some.inj h).symm⟩
  · cases h

theorem Link.chunk_inv {data : String} (h : l.chunk data = some l') :
    ∃ request, l.answering = some request ∧ l' = { l with
      page := l.page.newMessage data
      streaming := l.streaming ++ data
      heard := l.heard ++ [⟨request, data⟩] } := by
  unfold Link.chunk at h
  split at h
  · rename_i request _ hr
    exact ⟨request, hr, (Option.some.inj h).symm⟩
  · cases h

theorem Link.finish_inv (h : l.finish = some l') : l' = { l with
    page := l.page.endOfResponse
    answering := none
    streaming := ""
    heard := []
    entries := if l.page.currentResponse ≠ "" then l.entries ++ [l.heard] else l.entries } := by
  unfold Link.finish at h
  split at h
  · exact (Option.some.inj h).symm
  · cases h

theorem Link.drop_inv {lost : List Nat} (h : l.drop lost = some l') : l' = { l with
    connected := false
    answering := none
    streaming := ""
    waiting := l.waiting.filter (fun request => request ∉ lost) } := by
  unfold Link.drop at h
  split at h
  · exact (Option.some.inj h).symm
  · cases h

theorem Link.reconnect_inv (h : l.reconnect = some l') : l' = { l with connected := true } := by
  unfold Link.reconnect at h
  split at h
  · cases h
  · exact (Option.some.inj h).symm

/-- The server turns to the next request: what was heard so far is left over. -/
theorem tracked_begin (hi : Tracked quote input l t left own) (h : l.begin = some l') :
    Tracked quote input l' t left own := by
  obtain ⟨request, waiting, hn, rfl⟩ := Link.begin_inv h
  refine ⟨hi.shows, hi.texts, hi.pure, hi.pending, hi.heard, ?_, hi.streaming, hi.oneRequest⟩
  intro c hc
  have hsome := hi.requests c hc
  rw [hn] at hsome
  cases hsome

theorem tracked_chunk {data : String} (hi : Tracked quote input l t left own)
    (hg : HeardAlone l (.chunk data)) (h : l.chunk data = some l') :
    ∃ own', Tracked quote input l' (t.hear data) left own' := by
  obtain ⟨request, hr, rfl⟩ := Link.chunk_inv h
  have hown : ∀ c ∈ own ++ [⟨request, data⟩], c.request = request := by
    intro c hc
    rcases List.mem_append.mp hc with hc | hc
    · exact (Option.some.inj (hr.symm.trans (hi.requests c hc))).symm
    · obtain rfl := List.mem_singleton.mp hc
      rfl
  refine ⟨own ++ [⟨request, data⟩], shows_newMessage hi.shows data, ?_, hi.pure, ?_, ?_, ?_, ?_, ?_⟩
  · rw [textsBy_hear]
    exact hi.texts
  · rw [words_concat, ← hi.pending]
    rfl
  · rw [hi.heard, List.append_assoc]
  · intro c hc
    rw [hown c hc]
    exact hr
  · rw [words_concat, hi.streaming]
  · by_cases hd : data = ""
    · exact oneRequest_concat_empty hi.oneRequest hd
    · -- the current response is all of this answer, so nothing with words is left over
      have hcur := hg data rfl hd
      rw [hi.shows.currentResponse, hi.pending, hi.heard, words_append, hi.streaming] at hcur
      have hleft : words left = "" := by
        have hlen := congrArg String.length hcur
        rw [String.length_append] at hlen
        exact String.length_eq_zero_iff.mp (by omega)
      rw [hi.heard, List.append_assoc]
      exact oneRequest_append hleft hown

/-- The end marker: the entry is what was heard. -/
theorem tracked_finish (hi : Tracked quote input l t left own) (h : l.finish = some l') :
    Tracked quote input l' t.close [] [] := by
  obtain rfl := Link.finish_inv h
  have hcur := hi.shows.currentResponse
  refine ⟨shows_endOfResponse hi.shows, ?_, ?_, close_pending, rfl, ?_, rfl, oneRequest_nil⟩
  · by_cases he : t.pending = ""
    · rw [close_of_eq he, hi.texts, hcur, he]
      rfl
    · rw [textsBy_close he, if_pos rfl, hi.texts, hcur, if_pos he, List.map_append, hi.pending]
      rfl
  · intro chunks hc
    split at hc
    · rcases List.mem_append.mp hc with hc | hc
      · exact hi.pure chunks hc
      · obtain rfl := List.mem_singleton.mp hc
        exact hi.oneRequest
    · exact hi.pure chunks hc
  · intro c hc
    cases hc

/-- The connection is cut: what was sent of the answer is left over. -/
theorem tracked_drop {lost : List Nat} (hi : Tracked quote input l t left own)
    (h : l.drop lost = some l') : Tracked quote input l' t (left ++ own) [] := by
  obtain rfl := Link.drop_inv h
  refine ⟨hi.shows, hi.texts, hi.pure, hi.pending, ?_, ?_, rfl, hi.oneRequest⟩
  · rw [List.append_nil]
    exact hi.heard
  · intro c hc
    cases hc

/-- **One step** in which no words come in on top of another answer's. -/
theorem tracked_step (hi : Tracked quote input l t left own) (hg : HeardAlone l a)
    (h : l.step a = some l') : ∃ t' left' own', Tracked quote input l' t' left' own' := by
  cases a with
  | send text =>
    obtain rfl := Option.some.inj h
    exact ⟨_, _, _, tracked_send hi text⟩
  | begin => exact ⟨_, _, _, tracked_begin hi h⟩
  | chunk data =>
    obtain ⟨own', hi'⟩ := tracked_chunk hi hg h
    exact ⟨_, _, _, hi'⟩
  | finish => exact ⟨_, _, _, tracked_finish hi h⟩
  | drop lost => exact ⟨_, _, _, tracked_drop hi h⟩
  | reconnect =>
    obtain rfl := Link.reconnect_inv h
    exact ⟨_, _, _, hi.shows, hi.texts, hi.pure, hi.pending, hi.heard, hi.requests, hi.streaming,
      hi.oneRequest⟩

/-- **Every entry is from one answer, in every run in which no words come in on top of
what is left of another answer.** -/
theorem along_entriesPure (h : link.start l) (as : List Link.Act)
    (hg : link.Along (Machine.before HeardAlone) l as) :
    link.Along (fun _ _ l' _ => EntriesPure l') l as := by
  obtain ⟨quote, input, b, rfl⟩ := h
  refine Machine.along_of_inv (fun l => ∃ t left own, Tracked quote input l t left own) ?_ as _
    ⟨_, _, _, tracked_opened quote input b⟩ hg
  rintro l a l' es ⟨t, left, own, hi⟩ hg hst
  obtain ⟨m, hm, he⟩ := Option.map_eq_some_iff.mp hst
  cases he
  obtain ⟨t', left', own', hi'⟩ := tracked_step hi hg hm
  exact ⟨hi'.entriesPure, t', left', own', hi'⟩

/-- Two answers, with the connection cut and back in between. -/
theorem along_entriesPure_reconnected :
    link.Along (fun _ _ l' _ => EntriesPure l') (.opened "v" "q" false)
      [.begin, .chunk "a", .finish, .drop [], .reconnect, .send "r", .begin, .chunk "b",
        .finish] := by
  refine along_entriesPure ⟨"v", "q", false, rfl⟩ _ ?_
  refine (Machine.along_cons rfl _).mpr ⟨by rintro _ ⟨⟩, ?_⟩
  refine (Machine.along_cons rfl _).mpr ⟨by rintro _ ⟨⟩ _; rfl, ?_⟩
  refine (Machine.along_cons rfl _).mpr ⟨by rintro _ ⟨⟩, ?_⟩
  refine (Machine.along_cons rfl _).mpr ⟨by rintro _ ⟨⟩, ?_⟩
  refine (Machine.along_cons rfl _).mpr ⟨by rintro _ ⟨⟩, ?_⟩
  refine (Machine.along_cons rfl _).mpr ⟨by rintro _ ⟨⟩, ?_⟩
  refine (Machine.along_cons rfl _).mpr ⟨by rintro _ ⟨⟩, ?_⟩
  refine (Machine.along_cons rfl _).mpr ⟨by rintro _ ⟨⟩ _; rfl, ?_⟩
  exact (Machine.along_cons rfl _).mpr ⟨by rintro _ ⟨⟩, trivial⟩

/-- The connection is cut in the middle of the first answer: the entry is made of two. -/
theorem not_along_entriesPure :
    ¬ ∀ l, link.start l → ∀ as, link.Along (fun _ _ l' _ => EntriesPure l') l as := by
  intro h
  have hrun := h (.opened "v" "q" false) ⟨"v", "q", false, rfl⟩
    ([.begin, .chunk "a", .drop [], .reconnect, .send "r", .begin, .chunk "b"] ++ [.finish])
  have hlast := Machine.Along.last hrun rfl rfl
  obtain ⟨request, hr⟩ := hlast.pure [⟨0, "a"⟩, ⟨1, "b"⟩] (by decide)
  have h0 : 0 = request := hr ⟨0, "a"⟩ (by decide) (by decide)
  have h1 : 1 = request := hr ⟨1, "b"⟩ (by decide) (by decide)
  omega

/-! ### Whole answers -/

theorem endOfResponse_currentResponse (s : ChatState) : s.endOfResponse.currentResponse = "" := by
  by_cases h : s.currentResponse = ""
  · rw [endOfResponse_of_eq s h, h]
  · exact (endOfResponse_of_ne s h).2

/-- **When the connection is cut only between answers, no words come in on top of
another answer's.** -/
theorem wholeAnswers_heardAlone (h : link.start l) (as : List Link.Act)
    (hg : link.Along (Machine.before WholeAnswers) l as) :
    link.Along (Machine.before HeardAlone) l as := by
  obtain ⟨quote, input, b, rfl⟩ := h
  refine Machine.along_of_inv (fun l => l.page.currentResponse = l.streaming) ?_ as _ rfl hg
  intro l a l' es hi hg hst
  obtain ⟨m, hm, he⟩ := Option.map_eq_some_iff.mp hst
  cases he
  refine ⟨fun _ _ _ => hi, ?_⟩
  cases a with
  | send text =>
    obtain rfl := Option.some.inj hm
    exact (sendInput_currentResponse _).trans hi
  | begin =>
    obtain ⟨_, _, -, rfl⟩ := Link.begin_inv hm
    exact hi
  | chunk data =>
    obtain ⟨_, -, rfl⟩ := Link.chunk_inv hm
    show l.page.currentResponse ++ data = l.streaming ++ data
    rw [hi]
  | finish =>
    obtain rfl := Link.finish_inv hm
    exact endOfResponse_currentResponse l.page
  | drop lost =>
    obtain rfl := Link.drop_inv hm
    exact hg lost rfl
  | reconnect =>
    obtain rfl := Link.reconnect_inv hm
    exact hi

end GoodOmens.Chat
