import GoodOmens.Chat.Transcript
import GoodOmens.Library.Machine

/-!
# Turns of a conversation

A chat page and a server that answers its prompts one at a time, in the order in
which they came (`conversation`).  The page may send at any moment, whether or
not an answer is still coming in.

`TurnsInOrder` is what a reader expects: the answer to a question stands between
it and the next one, and a prompt holds the answers to all questions before it.
No handler ties a chunk to the question it answers, so this is a matter of when
the user sends: `along_turnsInOrder_iff` says that along a run the turns stay in
order exactly when nothing is sent while an answer is due (`SendsAnswered`).
What carries the proof is `Aligned`: the answers among the entries are those that
the server has given, and the questions are one fewer than the prompts, the first
prompt being for the question the page was opened with.
-/

namespace GoodOmens.Chat

/-- The page; the prompts it emitted; the answers that the server has completed;
and what it has sent so far of the next one. -/
structure Conversation where
  page : ChatState
  prompts : List String
  answers : List String
  streaming : String

/-- A press of send, a `new_message`, an `end_of_response`. -/
inductive Act
  | send (text : String)
  | chunk (data : String)
  | finish
deriving DecidableEq, Repr

namespace Conversation

variable (c : Conversation)

/-- A prompt waits for its answer. -/
def Due : Prop := c.answers.length < c.prompts.length

instance : Decidable c.Due := inferInstanceAs (Decidable (_ < _))

/-- Send is pressed with a text in the box. -/
def send (text : String) : Option Conversation :=
  if text = "" then none
  else
    let (page, prompt) := { c.page with inputController := text }.sendInput
    some { c with page := page, prompts := c.prompts ++ [prompt] }

/-- The server sends words of the answer that is due. -/
def chunk (data : String) : Option Conversation :=
  if c.Due then some { c with page := c.page.newMessage data, streaming := c.streaming ++ data }
  else none

/-- The server ends the answer that is due, which is not empty. -/
def finish : Option Conversation :=
  if c.Due ∧ c.streaming ≠ "" then
    some { c with
      page := c.page.endOfResponse
      answers := c.answers ++ [c.streaming]
      streaming := "" }
  else none

end Conversation

/-- A page after its first frame, with the prompt that frame emitted. -/
def opened (quote input : String) (isSubscribed : Bool) : Conversation where
  page := (firstFrame quote input isSubscribed).1
  prompts := [(firstFrame quote input isSubscribed).2]
  answers := []
  streaming := ""

/-- The page and the server. -/
def conversation : Machine Conversation Act Empty where
  start c := ∃ quote input isSubscribed, c = opened quote input isSubscribed
  step c
    | .send text => (c.send text).map (fun c => (c, []))
    | .chunk data => (c.chunk data).map (fun c => (c, []))
    | .finish => c.finish.map (fun c => (c, []))

/-! ### What is wanted -/

/-- The answer stands in the prompt in full. -/
def Contains (prompt answer : String) : Prop := answer.toList <:+: prompt.toList

/-- An entry with the text of an answer has as many questions before it, the
first one apart, as answers: it stands after the question that it answers and
before the next one. -/
def AnswersInPlace (entries answers : List String) : Prop :=
  ∀ before entry after text, entries = before ++ entry :: after →
    afterLabel "Good Omens:\n" entry = some text →
    answers[(textsAfter "Good Omens:\n" before).length]? = some text ∧
    (textsAfter "Q:\n" before).length = (textsAfter "Good Omens:\n" before).length

/-- A prompt holds the answers to all questions before its own. -/
def PromptsComplete (prompts answers : List String) : Prop :=
  ∀ (k : Nat) prompt, prompts[k]? = some prompt → ∀ i < k,
    ∃ answer, answers[i]? = some answer ∧ Contains prompt answer

/-- The turns are in order. -/
structure TurnsInOrder (c : Conversation) : Prop where
  answers : AnswersInPlace (c.page.chatHistory.drop 2) c.answers
  prompts : PromptsComplete c.prompts c.answers

/-- Nothing is sent while an answer is due. -/
def SendsAnswered (c : Conversation) (a : Act) : Prop :=
  ∀ text, a = .send text → ¬ c.Due

/-! ### Strings and lists -/

theorem afterLabel_eq_some {label entry text : String} :
    afterLabel label entry = some text ↔ entry = label ++ text := by
  constructor
  · intro h
    unfold afterLabel at h
    split at h
    · rename_i hp
      obtain ⟨rest, hrest⟩ := List.isPrefixOf_iff_prefix.mp hp
      obtain rfl := Option.some.inj h
      apply String.toList_inj.mp
      rw [String.toList_append, String.toList_ofList, ← hrest, List.drop_left]
    · cases h
  · rintro rfl
    exact afterLabel_append label text

theorem mem_textsAfter {label text : String} {entries : List String} :
    text ∈ textsAfter label entries ↔ label ++ text ∈ entries := by
  constructor
  · intro h
    obtain ⟨entry, he, ht⟩ := List.mem_filterMap.mp h
    rwa [← afterLabel_eq_some.mp ht]
  · intro h
    exact List.mem_filterMap.mpr ⟨_, h, afterLabel_append label text⟩

theorem textsAfter_concat (label entry : String) (entries : List String) :
    textsAfter label (entries ++ [entry]) =
      textsAfter label entries ++ (afterLabel label entry).toList := by
  rw [textsAfter, List.filterMap_append, ← textsAfter]
  cases h : afterLabel label entry <;> simp [h]

/-- A question is no answer, and an answer no question. -/
theorem afterLabel_other (text : String) :
    afterLabel "Good Omens:\n" ("Q:\n" ++ text) = none ∧
      afterLabel "Q:\n" ("Good Omens:\n" ++ text) = none := by
  constructor <;> simp [afterLabel]

/-- What was joined is found in the result. -/
theorem infix_intercalate {sep x : String} : ∀ {l : List String}, x ∈ l →
    x.toList <:+: (sep.intercalate l).toList := by
  intro l
  induction l with
  | nil => intro h; cases h
  | cons y l ih =>
    intro h
    cases l with
    | nil =>
      obtain rfl := List.mem_singleton.mp h
      exact ⟨[], [], by simp⟩
    | cons z l =>
      rw [String.intercalate_cons_cons, String.toList_append, String.toList_append]
      rcases List.mem_cons.mp h with rfl | h
      · exact List.infix_append_of_infix_left (List.infix_append_of_infix_left (List.infix_refl _))
      · exact List.infix_append_of_infix_right (ih h)

/-- Where an entry stands in a list that an entry was added to. -/
theorem concat_eq_append_cons {l before after : List String} {x y : String}
    (h : l ++ [x] = before ++ y :: after) :
    before = l ∧ y = x ∨ ∃ rest, l = before ++ y :: rest := by
  rcases List.eq_nil_or_concat after with rfl | ⟨rest, z, rfl⟩
  · obtain ⟨hl, hx⟩ := List.append_inj' h rfl
    exact .inl ⟨hl.symm, (List.singleton_inj.mp hx).symm⟩
  · right
    rw [List.concat_eq_append, ← List.cons_append, ← List.append_assoc] at h
    exact ⟨rest, (List.append_inj' h rfl).1⟩

/-! ### Questions and answers added to the lists -/

section

variable {entries prompts answers : List String}

theorem answersInPlace_question (h : AnswersInPlace entries answers) (text : String) :
    AnswersInPlace (entries ++ ["Q:\n" ++ text]) answers := by
  intro before entry after answer he ha
  rcases concat_eq_append_cons he with ⟨-, rfl⟩ | ⟨rest, hl⟩
  · rw [(afterLabel_other text).1] at ha
    cases ha
  · exact h before entry rest answer hl ha

/-- An answer that is added when the questions after the first are as many as the
answers is in its place. -/
theorem answersInPlace_answer (h : AnswersInPlace entries answers)
    (ha : textsAfter "Good Omens:\n" entries = answers)
    (hq : (textsAfter "Q:\n" entries).length = answers.length) (text : String) :
    AnswersInPlace (entries ++ ["Good Omens:\n" ++ text]) (answers ++ [text]) := by
  intro before entry after answer he hlabel
  rcases concat_eq_append_cons he with ⟨rfl, rfl⟩ | ⟨rest, hl⟩
  · rw [afterLabel_append] at hlabel
    obtain rfl := Option.some.inj hlabel
    rw [ha]
    exact ⟨by simp, hq⟩
  · obtain ⟨hans, hlen⟩ := h before entry rest answer hl hlabel
    obtain ⟨hlt, -⟩ := List.getElem?_eq_some_iff.mp hans
    exact ⟨by rw [List.getElem?_append_left hlt, hans], hlen⟩

theorem promptsComplete_answer (h : PromptsComplete prompts answers) (text : String) :
    PromptsComplete prompts (answers ++ [text]) := by
  intro k prompt hk i hi
  obtain ⟨answer, ha, hc⟩ := h k prompt hk i hi
  obtain ⟨hlt, -⟩ := List.getElem?_eq_some_iff.mp ha
  exact ⟨answer, by rw [List.getElem?_append_left hlt, ha], hc⟩

/-- A prompt that is emitted when no answer is due, and holds all there are, is
complete. -/
theorem promptsComplete_prompt (h : PromptsComplete prompts answers) {prompt : String}
    (hl : prompts.length ≤ answers.length) (hc : ∀ answer ∈ answers, Contains prompt answer) :
    PromptsComplete (prompts ++ [prompt]) answers := by
  intro k p hk i hi
  by_cases hlt : k < prompts.length
  · rw [List.getElem?_append_left hlt] at hk
    exact h k p hk i hi
  · obtain ⟨hkl, -⟩ := List.getElem?_eq_some_iff.mp hk
    rw [List.length_append, List.length_singleton] at hkl
    obtain rfl : k = prompts.length := by omega
    rw [List.getElem?_concat_length] at hk
    obtain rfl := Option.some.inj hk
    have hlen : i < answers.length := by omega
    exact ⟨answers[i], List.getElem?_eq_getElem hlen, hc _ (List.getElem_mem hlen)⟩

/-- A prompt emitted while an answer is due is not. -/
theorem not_promptsComplete_of_due {prompt : String} (h : answers.length < prompts.length) :
    ¬ PromptsComplete (prompts ++ [prompt]) answers := by
  intro hp
  obtain ⟨answer, ha, -⟩ := hp prompts.length prompt List.getElem?_concat_length answers.length h
  rw [List.getElem?_eq_none (Nat.le_refl _)] at ha
  cases ha

end

/-! ### The run -/

/-- The page, the prompts and the answers fit together. -/
structure Aligned (c : Conversation) : Prop where
  seeds : 2 ≤ c.page.chatHistory.length
  streaming : c.page.currentResponse = c.streaming
  answers : textsAfter "Good Omens:\n" (c.page.chatHistory.drop 2) = c.answers
  questions : (textsAfter "Q:\n" (c.page.chatHistory.drop 2)).length + 1 = c.prompts.length
  ahead : c.answers.length ≤ c.prompts.length
  close : c.prompts.length ≤ c.answers.length + 1
  inOrder : TurnsInOrder c

variable {c c' : Conversation}

theorem send_inv {text : String} (h : c.send text = some c') :
    text ≠ "" ∧ c'.page.chatHistory = c.page.chatHistory ++ ["Q:\n" ++ text] ∧
    c'.page.currentResponse = c.page.currentResponse ∧ c'.answers = c.answers ∧
    c'.streaming = c.streaming ∧
    ∃ inputText, c'.prompts = c.prompts ++ ["\n".intercalate c'.page.chatHistory ++
      "\nMy New Question: " ++ inputText] := by
  unfold Conversation.send at h
  split at h
  · cases h
  · rename_i hne
    obtain rfl := Option.some.inj h
    refine ⟨hne, sendInput_of_ne _ hne, sendInput_currentResponse _, rfl, rfl, ?_⟩
    exact ⟨_, congrArg (fun p => c.prompts ++ [p]) (sendInput_prompt _)⟩

theorem chunk_inv {data : String} (h : c.chunk data = some c') :
    c' = { c with page := c.page.newMessage data, streaming := c.streaming ++ data } := by
  unfold Conversation.chunk at h
  split at h
  · exact (Option.some.inj h).symm
  · cases h

theorem finish_inv (h : c.finish = some c') :
    c.Due ∧ c.streaming ≠ "" ∧ c' = { c with
      page := c.page.endOfResponse
      answers := c.answers ++ [c.streaming]
      streaming := "" } := by
  unfold Conversation.finish at h
  split at h
  · rename_i hd
    exact ⟨hd.1, hd.2, (Option.some.inj h).symm⟩
  · cases h

theorem aligned_opened (quote input : String) (b : Bool) : Aligned (opened quote input b) := by
  have hh : (opened quote input b).page.chatHistory = seeds quote input :=
    firstFrame_chatHistory quote input b
  have hdrop : (opened quote input b).page.chatHistory.drop 2 = [] := by rw [hh]; rfl
  refine ⟨?_, rfl, ?_, ?_, Nat.zero_le _, Nat.le_refl _, ?_, ?_⟩
  · rw [hh]
    exact Nat.le_refl _
  · rw [hdrop]
    rfl
  · rw [hdrop]
    rfl
  · rw [hdrop]
    intro before entry after _ he
    exact absurd he (by simp)
  · intro k prompt hk i hi
    obtain ⟨hlt, -⟩ := List.getElem?_eq_some_iff.mp hk
    have hone : k < 1 := hlt
    omega

theorem aligned_send {text : String} (hi : Aligned c) (hd : ¬ c.Due)
    (h : c.send text = some c') : Aligned c' := by
  obtain ⟨hne, hh, hr, ha, hs, inputText, hp⟩ := send_inv h
  have hdrop : c'.page.chatHistory.drop 2 = c.page.chatHistory.drop 2 ++ ["Q:\n" ++ text] := by
    rw [hh, List.drop_append_of_le_length hi.seeds]
  have hlen : c'.prompts.length = c.prompts.length + 1 := by
    rw [hp, List.length_append, List.length_singleton]
  rw [Conversation.Due] at hd
  have hahead := hi.ahead
  refine ⟨?_, ?_, ?_, ?_, ?_, ?_, ?_, ?_⟩
  · rw [hh, List.length_append]
    exact Nat.le_trans hi.seeds (Nat.le_add_right _ _)
  · rw [hr, hs]
    exact hi.streaming
  · rw [hdrop, ha, textsAfter_concat, (afterLabel_other text).1, hi.answers]
    exact List.append_nil _
  · rw [hdrop, hlen, textsAfter_concat, afterLabel_append, ← hi.questions]
    simp
  · rw [hlen, ha]
    omega
  · rw [hlen, ha]
    omega
  · rw [hdrop, ha]
    exact answersInPlace_question hi.inOrder.answers text
  · rw [hp, ha]
    refine promptsComplete_prompt hi.inOrder.prompts (by omega) ?_
    -- an answer is in an entry, the entry in the history, the history in the prompt
    intro answer hans
    rw [← hi.answers, mem_textsAfter] at hans
    have hentry : "Good Omens:\n" ++ answer ∈ c'.page.chatHistory := by
      rw [hh]
      exact List.mem_append_left _ (List.mem_of_mem_drop hans)
    have hjoin : Contains ("\n".intercalate c'.page.chatHistory) ("Good Omens:\n" ++ answer) :=
      infix_intercalate hentry
    rw [Contains, String.toList_append] at hjoin
    rw [Contains, String.toList_append, String.toList_append]
    exact (List.infix_append_right.trans hjoin).trans
      (List.infix_append_left.trans List.infix_append_left)

theorem aligned_chunk {data : String} (hi : Aligned c) (h : c.chunk data = some c') :
    Aligned c' := by
  obtain rfl := chunk_inv h
  refine ⟨hi.seeds, ?_, hi.answers, hi.questions, hi.ahead, hi.close, hi.inOrder.answers,
    hi.inOrder.prompts⟩
  rw [newMessage_currentResponse, hi.streaming]

theorem aligned_finish (hi : Aligned c) (h : c.finish = some c') : Aligned c' := by
  obtain ⟨hd, hs, rfl⟩ := finish_inv h
  have hne : c.page.currentResponse ≠ "" := by rwa [hi.streaming]
  obtain ⟨hh, hr⟩ := endOfResponse_of_ne c.page hne
  rw [hi.streaming] at hh
  have hdrop : c.page.endOfResponse.chatHistory.drop 2 =
      c.page.chatHistory.drop 2 ++ ["Good Omens:\n" ++ c.streaming] := by
    rw [hh, List.drop_append_of_le_length hi.seeds]
  rw [Conversation.Due] at hd
  have hclose := hi.close
  have hquestions := hi.questions
  refine ⟨?_, hr, ?_, ?_, ?_, ?_, ?_, ?_⟩
  · rw [hh, List.length_append]
    exact Nat.le_trans hi.seeds (Nat.le_add_right _ _)
  · rw [hdrop, textsAfter_concat, afterLabel_append, hi.answers]
    rfl
  · rw [hdrop, textsAfter_concat, (afterLabel_other c.streaming).2]
    simpa using hi.questions
  · rw [List.length_append, List.length_singleton]
    exact hd
  · rw [List.length_append, List.length_singleton]
    exact Nat.le_succ_of_le hclose
  · rw [hdrop]
    exact answersInPlace_answer hi.inOrder.answers hi.answers (by omega) c.streaming
  · exact promptsComplete_answer hi.inOrder.prompts c.streaming

/-- **One step**: the turns are in order after it exactly when it sends nothing
while an answer is due, and then everything still fits. -/
theorem turnsInOrder_step {a : Act} {es : List Empty} (hi : Aligned c)
    (h : conversation.step c a = some (c', es)) :
    (TurnsInOrder c' ↔ SendsAnswered c a) ∧ (SendsAnswered c a → Aligned c') := by
  cases a with
  | send text =>
    obtain ⟨d, hd, he⟩ := Option.map_eq_some_iff.mp h
    cases he
    refine ⟨⟨?_, ?_⟩, fun hg => aligned_send hi (hg text rfl) hd⟩
    · rintro ht _ ⟨⟩ hdue
      obtain ⟨-, -, -, ha, -, inputText, hp⟩ := send_inv hd
      have hprompts := ht.prompts
      rw [hp, ha] at hprompts
      exact not_promptsComplete_of_due hdue hprompts
    · intro hg
      exact (aligned_send hi (hg text rfl) hd).inOrder
  | chunk data =>
    obtain ⟨d, hd, he⟩ := Option.map_eq_some_iff.mp h
    cases he
    have hi' := aligned_chunk hi hd
    have hg : SendsAnswered c (.chunk data) := by rintro _ ⟨⟩
    exact ⟨iff_of_true hi'.inOrder hg, fun _ => hi'⟩
  | finish =>
    obtain ⟨d, hd, he⟩ := Option.map_eq_some_iff.mp h
    cases he
    have hi' := aligned_finish hi hd
    have hg : SendsAnswered c .finish := by rintro _ ⟨⟩
    exact ⟨iff_of_true hi'.inOrder hg, fun _ => hi'⟩

/-- **The turns stay in order along a run exactly when nothing is sent while an
answer is due.** -/
theorem along_turnsInOrder_iff (h : conversation.start c) (as : List Act) :
    conversation.Along (fun _ _ c' _ => TurnsInOrder c') c as ↔
      conversation.Along (Machine.before SendsAnswered) c as := by
  obtain ⟨quote, input, b, rfl⟩ := h
  refine Machine.along_iff Aligned ?_ ?_ as _ (aligned_opened quote input b)
  · intro c a c' es hi hst
    exact (turnsInOrder_step hi hst).1
  · intro c a c' es hi hg hst
    exact (turnsInOrder_step hi hst).2 hg

/-- Two questions with the answers in between. -/
theorem along_turnsInOrder_twice :
    conversation.Along (fun _ _ c' _ => TurnsInOrder c') (opened "v" "q" false)
      [.chunk "a", .finish, .send "r", .chunk "b", .finish] := by
  refine (along_turnsInOrder_iff ⟨"v", "q", false, rfl⟩ _).mpr ?_
  refine (Machine.along_cons rfl _).mpr ⟨by rintro _ ⟨⟩, ?_⟩
  refine (Machine.along_cons rfl _).mpr ⟨by rintro _ ⟨⟩, ?_⟩
  refine (Machine.along_cons rfl _).mpr ⟨fun _ _ => by decide, ?_⟩
  refine (Machine.along_cons rfl _).mpr ⟨by rintro _ ⟨⟩, ?_⟩
  exact (Machine.along_cons rfl _).mpr ⟨by rintro _ ⟨⟩, trivial⟩

/-- A question is sent before the first one is answered: the first answer stands
after the second question. -/
theorem not_along_turnsInOrder :
    ¬ ∀ c, conversation.start c → ∀ as,
      conversation.Along (fun _ _ c' _ => TurnsInOrder c') c as := by
  intro h
  have hrun := h (opened "v" "q" false) ⟨"v", "q", false, rfl⟩
    ([.chunk "a", .send "r"] ++ [.finish])
  have hlast := Machine.Along.last hrun rfl rfl
  have hplace := hlast.answers ["Q:\nr"] "Good Omens:\na" [] "a" (by decide) (by decide)
  exact absurd hplace.2 (by decide)

end GoodOmens.Chat
