import Mathlib.Data.List.Basic
import GoodOmens.Chat.Turns
import GoodOmens.Chat.Reconnect

/-!
# Every answer beneath its own question

The socket does not say of a chunk which question it answers, and the page does not ask whether
the answer before it came in full.  So what the page shows depends on when the user sends and
when the connection is cut.  A question has the number of its request, the one that the page
was opened with being `0`, and an answer should be made of the words for the question it stands
beneath (`AnswersOwn`).

`along_staysOwn_iff` says in exactly which runs it is, and stays so while the user goes on:
those in which every press of send has a text and finds no question open, and the connection is
not cut in the middle of an answer (`OneByOne`).  Requests may be lost with the connection, and
questions may be sent before it is back.
-/

namespace GoodOmens.Chat

namespace Link

variable (l : Link)

/-- The requests that are open, the one that is being answered first. -/
def pending : List Nat := l.answering.toList ++ l.waiting

/-- The number of the last question on the page. -/
def asked : Nat := (textsAfter "Q:\n" (l.page.chatHistory.drop 2)).length

end Link

/-- Every answer is made of words for the last question before it. -/
def AnswersOwn (history : List String) (entries : List (List Chunk)) : Prop :=
  ∀ before entry after text, history = before ++ entry :: after →
    afterLabel "Good Omens:\n" entry = some text →
    ∃ chunks, entries[(textsAfter "Good Omens:\n" before).length]? = some chunks ∧
      text = words chunks ∧
      ∀ c ∈ chunks, c.data ≠ "" → c.request = (textsAfter "Q:\n" before).length

/-- The answers that the page shows are. -/
def Link.Own (l : Link) : Prop := AnswersOwn (l.page.chatHistory.drop 2) l.entries

/-- What is sent is a question and no other is open, and no answer is cut off. -/
def OneByOne (l : Link) : Link.Act → Prop
  | .send text => text ≠ "" ∧ l.pending = []
  | .drop _ => l.page.currentResponse = ""
  | _ => True

/-- The answers are made of words for their questions, and stay so while the user goes on one
question at a time. -/
def StaysOwn (l : Link) : Prop :=
  l.Own ∧ ∀ as, link.Along (Machine.before OneByOne) l as →
    link.Along (fun _ _ l' _ => l'.Own) l as

/-- The answers on the page are the entries, and none comes in without a connection. -/
structure Counted (l : Link) : Prop where
  seeds : 2 ≤ l.page.chatHistory.length
  answers : (textsAfter "Good Omens:\n" (l.page.chatHistory.drop 2)).length = l.entries.length
  offline : l.connected = false → l.answering = none

/-- At most the last question is open, and what was heard is for it. -/
structure Attributed (l : Link) : Prop extends Counted l where
  response : l.page.currentResponse = words l.heard
  asked : l.nextRequest = l.asked + 1
  pending : l.pending = [] ∨ l.pending = [l.asked]
  idle : l.answering = none → words l.heard = ""
  heard : ∀ c ∈ l.heard, c.data ≠ "" → c.request = l.asked
  own : l.Own

variable {l l' : Link} {a : Link.Act} {history : List String} {entries : List (List Chunk)}
  {chunks : List Chunk} {text : String}

/-! ### Questions and answers added to the page -/

theorem answersOwn_question (h : AnswersOwn history entries) (text : String) :
    AnswersOwn (history ++ ["Q:\n" ++ text]) entries := by
  intro before entry after answer he ha
  rcases concat_eq_append_cons he with ⟨-, rfl⟩ | ⟨rest, hl⟩
  · rw [(afterLabel_other text).1] at ha
    cases ha
  · exact h before entry rest answer hl ha

theorem answersOwn_answer (h : AnswersOwn history entries)
    (hn : (textsAfter "Good Omens:\n" history).length = entries.length)
    (hc : ∀ c ∈ chunks, c.data ≠ "" → c.request = (textsAfter "Q:\n" history).length) :
    AnswersOwn (history ++ ["Good Omens:\n" ++ words chunks]) (entries ++ [chunks]) := by
  intro before entry after answer he ha
  rcases concat_eq_append_cons he with ⟨rfl, rfl⟩ | ⟨rest, hl⟩
  · rw [afterLabel_append] at ha
    refine ⟨chunks, ?_, (Option.some.inj ha).symm, hc⟩
    rw [hn]
    exact List.getElem?_concat_length
  · obtain ⟨found, hf, hrest⟩ := h before entry rest answer hl ha
    obtain ⟨hlt, -⟩ := List.getElem?_eq_some_iff.mp hf
    exact ⟨found, by rw [List.getElem?_append_left hlt, hf], hrest⟩

/-- What is known of the last answer. -/
theorem request_of_answersOwn
    (h : AnswersOwn (history ++ ["Good Omens:\n" ++ text]) (entries ++ [chunks]))
    (hn : (textsAfter "Good Omens:\n" history).length = entries.length) :
    ∀ c ∈ chunks, c.data ≠ "" → c.request = (textsAfter "Q:\n" history).length := by
  obtain ⟨found, hf, -, hc⟩ := h history _ [] text rfl (afterLabel_append _ _)
  rw [hn, List.getElem?_concat_length] at hf
  obtain rfl := Option.some.inj hf
  exact hc

theorem words_eq_empty (h : ∀ c ∈ chunks, c.data = "") : words chunks = "" := by
  induction chunks with
  | nil => rfl
  | cons c cs ih =>
    have hcons : words (c :: cs) = c.data ++ words cs := by simp [words]
    rw [hcons, h c List.mem_cons_self, ih (fun d hd => h d (List.mem_cons_of_mem _ hd))]
    rfl

/-! ### What the handlers do to the page -/

section

variable (hc : Counted l)

include hc

theorem drop_send (h : text ≠ "") : (l.send text).page.chatHistory.drop 2 =
    l.page.chatHistory.drop 2 ++ ["Q:\n" ++ text] := by
  have hh : (l.send text).page.chatHistory = l.page.chatHistory ++ ["Q:\n" ++ text] :=
    sendInput_of_ne _ h
  rw [hh, List.drop_append_of_le_length hc.seeds]

theorem asked_send (h : text ≠ "") : (l.send text).asked = l.asked + 1 := by
  unfold Link.asked
  rw [drop_send hc h, textsAfter_concat, afterLabel_append]
  simp

theorem drop_endOfResponse (h : l.page.currentResponse ≠ "") :
    l.page.endOfResponse.chatHistory.drop 2 =
      l.page.chatHistory.drop 2 ++ ["Good Omens:\n" ++ l.page.currentResponse] := by
  rw [(endOfResponse_of_ne l.page h).1, List.drop_append_of_le_length hc.seeds]

/-- The end of an answer adds no question. -/
theorem asked_finish (h : l.finish = some l') : l'.asked = l.asked := by
  obtain rfl := Link.finish_inv h
  unfold Link.asked
  by_cases he : l.page.currentResponse = ""
  · rw [endOfResponse_of_eq l.page he]
  · rw [drop_endOfResponse hc he, textsAfter_concat, (afterLabel_other _).2]
    exact congrArg List.length (List.append_nil _)

theorem counted_finish (h : l.finish = some l') : Counted l' := by
  obtain rfl := Link.finish_inv h
  by_cases he : l.page.currentResponse = ""
  · refine ⟨?_, ?_, fun _ => rfl⟩
    · rw [endOfResponse_of_eq l.page he]
      exact hc.seeds
    · rw [endOfResponse_of_eq l.page he, if_neg (not_not_intro he)]
      exact hc.answers
  · refine ⟨?_, ?_, fun _ => rfl⟩
    · rw [(endOfResponse_of_ne l.page he).1, List.length_append]
      exact Nat.le_trans hc.seeds (Nat.le_add_right _ _)
    · rw [drop_endOfResponse hc he, if_pos he, textsAfter_concat, afterLabel_append,
        List.length_append, List.length_append, hc.answers]
      rfl

theorem counted_send : Counted (l.send text) := by
  by_cases h : text = ""
  · have hh : (l.send text).page.chatHistory = l.page.chatHistory := sendInput_of_eq _ h
    refine ⟨?_, ?_, hc.offline⟩
    · rw [hh]
      exact hc.seeds
    · rw [hh]
      exact hc.answers
  · refine ⟨?_, ?_, hc.offline⟩
    · have hh : (l.send text).page.chatHistory = l.page.chatHistory ++ ["Q:\n" ++ text] :=
        sendInput_of_ne _ h
      rw [hh, List.length_append]
      exact Nat.le_trans hc.seeds (Nat.le_add_right _ _)
    · rw [drop_send hc h, textsAfter_concat, (afterLabel_other text).1]
      exact (congrArg List.length (List.append_nil _)).trans hc.answers

end

theorem asked_send_eq : (l.send "").asked = l.asked := by
  unfold Link.asked
  rw [show (l.send "").page.chatHistory = l.page.chatHistory from sendInput_of_eq _ rfl]

theorem pending_send : (l.send text).pending = l.pending ++ [l.nextRequest] :=
  (List.append_assoc _ _ _).symm

theorem Link.begin_eq (h : l.begin = some l') : ∃ request waiting, l.connected = true ∧
    l.answering = none ∧ l.waiting = request :: waiting ∧
      l' = { l with answering := some request, waiting := waiting } := by
  unfold Link.begin at h
  split at h
  · rename_i request waiting hc hn hw
    exact ⟨request, waiting, hc, hn, hw, (Option.some.inj h).symm⟩
  · cases h

/-! ### Runs that meet the condition -/

/-- What is being answered is the last question, and it alone is open. -/
theorem Attributed.answering (hi : Attributed l) {request : Nat}
    (hr : l.answering = some request) : request = l.asked ∧ l.waiting = [] := by
  have hp := hi.pending
  unfold Link.pending at hp
  rw [hr] at hp
  rcases hp with hp | hp
  · cases hp
  · exact List.cons.inj hp

theorem attributed_opened (quote input : String) (b : Bool) :
    Attributed (.opened quote input b) := by
  have hh : (Link.opened quote input b).page.chatHistory = seeds quote input :=
    firstFrame_chatHistory quote input b
  have hdrop : (Link.opened quote input b).page.chatHistory.drop 2 = [] := by
    rw [hh]
    rfl
  have hasked : (Link.opened quote input b).asked = 0 := by
    unfold Link.asked
    rw [hdrop]
    rfl
  refine ⟨⟨?_, ?_, fun _ => rfl⟩, rfl, ?_, ?_, fun _ => rfl, ?_, ?_⟩
  · rw [hh]
    exact Nat.le_refl _
  · rw [hdrop]
    rfl
  · rw [hasked]
    rfl
  · rw [hasked]
    exact .inr rfl
  · exact fun c hc => absurd hc List.not_mem_nil
  · intro before entry after text he
    rw [hdrop] at he
    exact absurd he (by simp)

theorem attributed_send (hi : Attributed l) (ht : text ≠ "") (hp : l.pending = []) :
    Attributed (l.send text) := by
  have hasked := asked_send hi.toCounted ht
  have hnone : l.answering = none := Option.toList_eq_nil_iff.mp (List.append_eq_nil_iff.mp hp).1
  refine ⟨counted_send hi.toCounted, ?_, ?_, ?_, hi.idle, ?_, ?_⟩
  · exact (sendInput_currentResponse _).trans hi.response
  · rw [hasked, ← hi.asked]
    rfl
  · right
    rw [pending_send, hp, hasked, hi.asked]
    rfl
  · -- nothing was heard of an answer that is not over
    intro c hc hne
    exact absurd (data_eq_of_words (hi.idle hnone) c hc) hne
  · unfold Link.Own
    rw [drop_send hi.toCounted ht]
    exact answersOwn_question hi.own text

theorem attributed_begin (hi : Attributed l) (h : l.begin = some l') : Attributed l' := by
  obtain ⟨request, waiting, hc, hn, hw, rfl⟩ := Link.begin_eq h
  refine ⟨⟨hi.seeds, hi.answers, ?_⟩, hi.response, hi.asked, ?_, fun _ => hi.idle hn, hi.heard,
    hi.own⟩
  · intro hoff
    rw [show l.connected = false from hoff] at hc
    cases hc
  · have hp := hi.pending
    unfold Link.pending at hp
    rw [hn, hw] at hp
    exact hp

theorem attributed_chunk {data : String} (hi : Attributed l) (h : l.chunk data = some l') :
    Attributed l' := by
  obtain ⟨request, hr, rfl⟩ := Link.chunk_inv h
  refine ⟨⟨hi.seeds, hi.answers, hi.offline⟩, ?_, hi.asked, hi.pending, ?_, ?_, hi.own⟩
  · rw [words_concat, ← hi.response]
    rfl
  · intro hn
    rw [show l.answering = none from hn] at hr
    cases hr
  · intro c hc hne
    rcases List.mem_append.mp hc with hc | hc
    · exact hi.heard c hc hne
    · obtain rfl := List.mem_singleton.mp hc
      exact (hi.answering hr).1

theorem attributed_finish (hi : Attributed l) (h : l.finish = some l') : Attributed l' := by
  have hcounted := counted_finish hi.toCounted h
  have hasked := asked_finish hi.toCounted h
  obtain rfl := Link.finish_inv h
  refine ⟨hcounted, endOfResponse_currentResponse l.page, ?_, ?_, fun _ => rfl, ?_, ?_⟩
  · rw [hasked]
    exact hi.asked
  · rw [hasked]
    cases hr : l.answering with
    | none =>
      have hp := hi.pending
      unfold Link.pending at hp
      rw [hr] at hp
      exact hp
    | some request => exact .inl (hi.answering hr).2
  · exact fun c hc => absurd hc List.not_mem_nil
  · show AnswersOwn (l.page.endOfResponse.chatHistory.drop 2) _
    by_cases he : l.page.currentResponse = ""
    · rw [endOfResponse_of_eq l.page he, if_neg (not_not_intro he)]
      exact hi.own
    · rw [drop_endOfResponse hi.toCounted he, if_pos he, hi.response]
      exact answersOwn_answer hi.own hi.answers hi.heard

theorem attributed_drop {lost : List Nat} (hi : Attributed l) (hg : l.page.currentResponse = "")
    (h : l.drop lost = some l') : Attributed l' := by
  obtain rfl := Link.drop_inv h
  refine ⟨⟨hi.seeds, hi.answers, fun _ => rfl⟩, hi.response, hi.asked, ?_, ?_, hi.heard, hi.own⟩
  · have hsub : (l.waiting.filter (fun request => request ∉ lost)).Sublist l.pending :=
      List.filter_sublist.trans (List.sublist_append_right _ _)
    rcases hi.pending with hp | hp
    · rw [hp] at hsub
      exact .inl (List.sublist_nil.mp hsub)
    · rw [hp] at hsub
      exact List.sublist_singleton.mp hsub
  · intro _
    exact hi.response.symm.trans hg

/-- **One step** that meets the condition. -/
theorem attributed_step (hi : Attributed l) (hg : OneByOne l a) (h : l.step a = some l') :
    Attributed l' := by
  cases a with
  | send text =>
    obtain rfl := Option.some.inj h
    exact attributed_send hi hg.1 hg.2
  | begin => exact attributed_begin hi h
  | chunk data => exact attributed_chunk hi h
  | finish => exact attributed_finish hi h
  | drop lost => exact attributed_drop hi hg h
  | reconnect =>
    obtain rfl := Link.reconnect_inv h
    exact ⟨⟨hi.seeds, hi.answers, nofun⟩, hi.response, hi.asked, hi.pending, hi.idle, hi.heard,
      hi.own⟩

theorem staysOwn_of_attributed (hi : Attributed l) : StaysOwn l := by
  refine ⟨hi.own, fun as hg => Machine.along_of_inv Attributed ?_ as l hi hg⟩
  intro l a l' es hi hg hst
  obtain ⟨m, hm, he⟩ := Option.map_eq_some_iff.mp hst
  cases he
  have hi' := attributed_step hi hg hm
  exact ⟨hi'.own, hi'⟩

/-! ### Runs that do not -/

section

variable {request : Nat} {rest : List Nat}

theorem staysOwn_step (h : StaysOwn l) (hg : OneByOne l a) (hst : l.step a = some l') :
    StaysOwn l' := by
  have hlink : link.step l a = some (l', []) := by
    show (l.step a).map _ = _
    rw [hst]
    rfl
  have hall (as : List Link.Act) (has : link.Along (Machine.before OneByOne) l' as) :
      l'.Own ∧ link.Along (fun _ _ l' _ => l'.Own) l' as :=
    (Machine.along_cons hlink as).mp (h.2 _ ((Machine.along_cons hlink as).mpr ⟨hg, has⟩))
  exact ⟨(hall [] trivial).1, fun as has => (hall as has).2⟩

/-- The server turns to the first request that is open, once the connection is there. -/
theorem staysOwn_answering (h : StaysOwn l) (hc : Counted l) (hp : l.pending = request :: rest) :
    StaysOwn { l with connected := true, answering := some request, waiting := rest } := by
  obtain ⟨page, connected, waiting, answering, nextRequest, streaming, heard, entries⟩ := l
  cases answering with
  | some r =>
    obtain ⟨rfl, rfl⟩ := List.cons.inj hp
    cases connected with
    | true => exact h
    | false => cases hc.offline rfl
  | none =>
    obtain rfl : waiting = request :: rest := hp
    cases connected with
    | true => exact staysOwn_step (a := .begin) h trivial rfl
    | false =>
      have hback := staysOwn_step (a := .reconnect) h trivial rfl
      exact staysOwn_step (a := .begin) hback trivial rfl

/-- It is answered: what was heard is for the last question, and the rest is still open. -/
theorem staysOwn_answered (h : StaysOwn l) (hc : Counted l) (hp : l.pending = request :: rest) :
    (∀ c ∈ l.heard ++ [⟨request, "x"⟩], c.data ≠ "" → c.request = l.asked) ∧
      ∃ l', StaysOwn l' ∧ Counted l' ∧ l'.pending = rest ∧ l'.asked = l.asked := by
  have hword := staysOwn_step (a := .chunk "x") (staysOwn_answering h hc hp) trivial rfl
  have hdone := staysOwn_step (a := .finish) hword trivial rfl
  have hcounted : Counted { l with
      page := l.page.newMessage "x"
      connected := true
      answering := some request
      waiting := rest
      streaming := l.streaming ++ "x"
      heard := l.heard ++ [⟨request, "x"⟩] } := ⟨hc.seeds, hc.answers, nofun⟩
  have hasked := asked_finish hcounted rfl
  have hne : (l.page.newMessage "x").currentResponse ≠ "" := by simp
  refine ⟨?_, _, hdone, counted_finish hcounted rfl, rfl, hasked⟩
  have hown : AnswersOwn ((l.page.newMessage "x").endOfResponse.chatHistory.drop 2)
      (if (l.page.newMessage "x").currentResponse ≠ "" then
        l.entries ++ [l.heard ++ [⟨request, "x"⟩]] else l.entries) := hdone.1
  rw [drop_endOfResponse hcounted hne, if_pos hne] at hown
  exact request_of_answersOwn hown hc.answers

/-- Every open request is for the last question. -/
theorem request_of_staysOwn : ∀ {requests : List Nat} {l : Link}, l.pending = requests →
    StaysOwn l → Counted l → ∀ r ∈ requests, r = l.asked := by
  intro requests
  induction requests with
  | nil => exact fun _ _ _ r hr => absurd hr List.not_mem_nil
  | cons request rest ih =>
    intro l hp h hc r hr
    obtain ⟨hheard, l', h', hc', hp', hasked⟩ := staysOwn_answered h hc hp
    rcases List.mem_cons.mp hr with rfl | hr
    · exact hheard ⟨r, "x"⟩ (List.mem_append_right _ List.mem_cons_self) (show "x" ≠ "" by decide)
    · rw [← hasked]
      exact ih hp' h' hc' r hr

/-- What is left of an answer would be taken for words of the next. -/
theorem words_heard_of_staysOwn (h : StaysOwn l) (hc : Counted l) (hp : l.pending = [])
    (hh : ∀ c ∈ l.heard, c.data ≠ "" → c.request = l.asked) : words l.heard = "" := by
  have hne : "r" ≠ "" := by decide
  have hsent := staysOwn_step (a := .send "r") h ⟨hne, hp⟩ rfl
  have hpending : (l.send "r").pending = [l.nextRequest] := by
    rw [pending_send, hp]
    rfl
  obtain ⟨hheard, -⟩ := staysOwn_answered hsent (counted_send hc) hpending
  refine words_eq_empty (fun c hmem => Classical.byContradiction (fun hd => ?_))
  have hnext := hheard c (List.mem_append_left _ hmem) hd
  rw [asked_send hc hne, hh c hmem hd] at hnext
  omega

end

theorem oneByOne_of_staysOwn (hi : Attributed l) (hst : l.step a = some l') (h : StaysOwn l') :
    OneByOne l a := by
  cases a with
  | send text =>
    obtain rfl := Option.some.inj hst
    have hall := request_of_staysOwn pending_send h (counted_send hi.toCounted)
    have hlast := hall l.nextRequest (List.mem_append_right _ List.mem_cons_self)
    have hasked := hi.asked
    by_cases ht : text = ""
    · subst ht
      rw [asked_send_eq] at hlast
      omega
    · refine ⟨ht, ?_⟩
      rcases hi.pending with hp | hp
      · exact hp
      · have hold := hall l.asked (List.mem_append_left _ (hp ▸ List.mem_cons_self))
        rw [asked_send hi.toCounted ht] at hold
        omega
  | drop lost =>
    obtain rfl := Link.drop_inv hst
    show l.page.currentResponse = ""
    rw [hi.response]
    cases hr : l.answering with
    | none => exact hi.idle hr
    | some request =>
      have hnone : [] ++ l.waiting.filter (fun request => request ∉ lost) = [] := by
        rw [(hi.answering hr).2]
        rfl
      have hleft := words_heard_of_staysOwn h ⟨hi.seeds, hi.answers, fun _ => rfl⟩ hnone hi.heard
      exact hleft
  | _ => trivial

/-- **Every answer is made of words for the question it stands beneath, and stays so while the
user goes on one question at a time**, in exactly the runs in which every press of send has a
text and finds no question open, and the connection is not cut in the middle of an answer. -/
theorem along_staysOwn_iff (h : link.start l) (as : List Link.Act) :
    link.Along (fun _ _ l' _ => StaysOwn l') l as ↔
      link.Along (Machine.before OneByOne) l as := by
  obtain ⟨quote, input, b, rfl⟩ := h
  refine Machine.along_iff Attributed ?_ ?_ as _ (attributed_opened quote input b)
  · intro l a l' es hi hst
    obtain ⟨m, hm, he⟩ := Option.map_eq_some_iff.mp hst
    cases he
    exact ⟨oneByOne_of_staysOwn hi hm,
      fun hg => staysOwn_of_attributed (attributed_step hi hg hm)⟩
  · intro l a l' es hi hg hst
    obtain ⟨m, hm, he⟩ := Option.map_eq_some_iff.mp hst
    cases he
    exact attributed_step hi hg hm

/-- The first question is lost with the connection, and the second is sent without one. -/
theorem along_staysOwn_lost :
    link.Along (fun _ _ l' _ => StaysOwn l') (.opened "v" "q" false)
      [.drop [0], .send "r", .reconnect, .begin, .chunk "a", .finish] := by
  refine (along_staysOwn_iff ⟨"v", "q", false, rfl⟩ _).mpr ?_
  refine (Machine.along_cons rfl _).mpr ⟨rfl, ?_⟩
  refine (Machine.along_cons rfl _).mpr ⟨⟨by decide, rfl⟩, ?_⟩
  refine (Machine.along_cons rfl _).mpr ⟨trivial, ?_⟩
  refine (Machine.along_cons rfl _).mpr ⟨trivial, ?_⟩
  refine (Machine.along_cons rfl _).mpr ⟨trivial, ?_⟩
  exact (Machine.along_cons rfl _).mpr ⟨trivial, trivial⟩

end GoodOmens.Chat
