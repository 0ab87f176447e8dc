import GoodOmens.Library.Sections
import GoodOmens.Chat.Transcript

/-!
# What a prompt says

`_sendInput` joins the history and the new question with newlines, each part with a
label in front and none of them escaped.  So a text with a label on a line of its
own reads as two entries, and the same prompt is emitted from different histories
(`not_prompt_injective`): the initial question is typed in a field of several lines.

Without such lines the prompt is read back in one way (`prompt_unambiguous`).  The
verse ends at the first line with the label of the initial question, the entries are
the sections under their labels, and what is left is how far the last text goes on
and where the new question starts.  That question is the last one asked, which
stands in the history (`Asks`), and this decides it.
-/

namespace GoodOmens.Chat

/-- A press of send with `text` in the box, after a list of events: the state that
it leaves, and the prompt. -/
def emission (quote input : String) (isSubscribed : Bool) (events : List Event)
    (text : String) : ChatState × String :=
  { (firstFrame quote input isSubscribed).1.run events with inputController := text }.sendInput

/-- The prompt of the first frame is that of a press with an empty box. -/
theorem firstFrame_prompt (quote input : String) (b : Bool) :
    (firstFrame quote input b).2 = (emission quote input b [] "").2 := rfl

/-! ### Lines -/

def lines (s : String) : List (List Char) := s.toList.splitOn '\n'

theorem lines_injective {s t : String} (h : lines s = lines t) : s = t := by
  have hs : ['\n'].intercalate (lines s) = s.toList := List.intercalate_splitOn '\n'
  have ht : ['\n'].intercalate (lines t) = t.toList := List.intercalate_splitOn '\n'
  rw [h] at hs
  exact String.toList_inj.mp (hs.symm.trans ht)

theorem lines_append_newline (s t : String) : lines (s ++ "\n" ++ t) = lines s ++ lines t := by
  have hchars : (s ++ "\n" ++ t).toList = s.toList ++ '\n' :: t.toList := by simp
  rw [lines, hchars, List.splitOn_append_cons_self]
  rfl

theorem lines_intercalate : ∀ parts : List String, parts ≠ [] →
    lines ("\n".intercalate parts) = parts.flatMap lines := by
  intro parts
  induction parts with
  | nil => intro h; exact absurd rfl h
  | cons a parts ih =>
    intro _
    by_cases hp : parts = []
    · subst hp
      rw [String.intercalate_singleton, List.flatMap_singleton]
    · rw [String.intercalate_cons_of_ne_nil hp, lines_append_newline, ih hp, List.flatMap_cons]

/-- A label without a newline stands in front of the first line. -/
theorem splitOn_append_of_not_mem {label : List Char} (h : '\n' ∉ label) (cs : List Char) :
    ∃ l ls, cs.splitOn '\n' = l :: ls ∧ (label ++ cs).splitOn '\n' = (label ++ l) :: ls := by
  induction label with
  | nil =>
    obtain ⟨l, ls, hl⟩ := List.exists_cons_of_ne_nil (List.splitOn_ne_nil '\n' cs)
    exact ⟨l, ls, hl, hl⟩
  | cons c label ih =>
    obtain ⟨l, ls, hl, happ⟩ := ih (fun hm => h (List.mem_cons_of_mem _ hm))
    have hc : (c == '\n') = false := beq_eq_false_iff_ne.mpr (fun hc => h (hc ▸ List.mem_cons_self))
    refine ⟨l, ls, hl, ?_⟩
    rw [List.cons_append, List.splitOn_cons_eq_if_modifyHead, hc, happ]
    rfl

theorem lines_labelled {label : String} (h : '\n' ∉ label.toList) (s : String) :
    ∃ l ls, lines s = l :: ls ∧ lines (label ++ s) = (label.toList ++ l) :: ls := by
  obtain ⟨l, ls, hl, happ⟩ := splitOn_append_of_not_mem h s.toList
  refine ⟨l, ls, hl, ?_⟩
  rw [lines, String.toList_append, happ]

/-! ### The entries as sections -/

/-- The line that an entry of the speaker starts with. -/
def Speaker.heading : Speaker → List Char
  | you => "Q:".toList
  | goodOmens => "Good Omens:".toList

def IsHeading (line : List Char) : Prop := ∃ sp : Speaker, line = sp.heading

theorem isHeading_iff (line : List Char) :
    IsHeading line ↔ line = Speaker.you.heading ∨ line = Speaker.goodOmens.heading := by
  refine ⟨?_, ?_⟩
  · rintro ⟨sp, h⟩
    cases sp with
    | you => exact .inl h
    | goodOmens => exact .inr h
  · rintro (h | h)
    · exact ⟨.you, h⟩
    · exact ⟨.goodOmens, h⟩

instance (line : List Char) : Decidable (IsHeading line) :=
  decidable_of_iff _ (isHeading_iff line).symm

/-- The entry as a heading with its body. -/
def Entry.headed (e : Entry) : List Char × List (List Char) := (e.speaker.heading, lines e.text)

/-- The initial question, and the entries. -/
def sections (input : String) (t : Transcript) : Sections (List Char) :=
  { preface := lines ("My Question: " ++ input)
    rest := t.entries.map Entry.headed }

theorem lines_render (e : Entry) : lines e.render = e.headed.1 :: e.headed.2 := by
  have hlabel : e.render.toList = e.speaker.heading ++ '\n' :: e.text.toList := by
    rw [Entry.render, String.toList_append]
    cases e.speaker <;> rfl
  have hn : '\n' ∉ e.speaker.heading := by cases e.speaker <;> decide
  rw [lines, hlabel, List.splitOn_append_cons_self_of_not_mem hn]
  rfl

theorem toList_sections (input : String) (t : Transcript) :
    (sections input t).toList =
      lines ("My Question: " ++ input) ++ (t.entries.map Entry.render).flatMap lines := by
  rw [Sections.toList, sections, List.flatMap_map, List.flatMap_map]
  simp only [lines_render]

theorem entries_injective {es es' : List Entry} (h : es.map Entry.headed = es'.map Entry.headed) :
    es.map Entry.render = es'.map Entry.render := by
  have hlines : (es.map Entry.render).map lines = (es'.map Entry.render).map lines := by
    have hcons := congrArg (List.map (fun p => p.1 :: p.2)) h
    rw [List.map_map, List.map_map] at hcons ⊢
    simpa only [Function.comp_def, lines_render] using hcons
  exact (List.map_inj_right (fun _ _ => lines_injective)).mp hlines

/-! ### The question that is repeated -/

/-- The last question of a list of entries, or else the initial one. -/
def lastAsked (input : String) (es : List Entry) : String :=
  es.foldl (fun w e => if e.speaker = .you then e.text else w) input

theorem lastAsked_append (input : String) (es : List Entry) (e : Entry) :
    lastAsked input (es ++ [e]) = if e.speaker = .you then e.text else lastAsked input es := by
  rw [lastAsked, List.foldl_append]
  rfl

/-- The page repeats the last question. -/
def Asks (input : String) (s : ChatState) (t : Transcript) : Prop :=
  s.inputText = lastAsked input t.entries

theorem asks_firstFrame (quote input : String) (b : Bool) :
    Asks input (firstFrame quote input b).1 ⟨[], ""⟩ := rfl

theorem asks_sendInput {input : String} {s : ChatState} {t : Transcript} (h : Asks input s t)
    (text : String) :
    Asks input { s with inputController := text }.sendInput.1 (t.ask text) := by
  unfold Asks ChatState.sendInput Transcript.ask
  by_cases ht : text = ""
  · simp only [ht, ne_eq, not_true_eq_false, if_false, dif_pos]
    exact h
  · simp [ht, lastAsked]

theorem asks_handle {input : String} {s : ChatState} {t : Transcript} {quote : String}
    (hs : Shows quote input s t) (h : Asks input s t) (e : Event) :
    Asks input (s.handle e) (t.handle e) := by
  cases e with
  | newMessage data => exact h
  | endOfResponse =>
    show Asks input s.endOfResponse t.close
    have hp := hs.currentResponse
    by_cases he : t.pending = ""
    · rw [close_of_eq he, endOfResponse_of_eq s (hp.trans he)]
      exact h
    · unfold Asks ChatState.endOfResponse Transcript.close
      rw [if_pos (by rwa [hp]), dif_neg he]
      show s.inputText = lastAsked input (t.entries ++ [⟨.goodOmens, t.pending, he⟩])
      rw [lastAsked_append, if_neg (by simp)]
      exact h
  | sendInput text => exact asks_sendInput h text

theorem asks_run {quote input : String} (events : List Event) :
    ∀ {s : ChatState} {t : Transcript}, Shows quote input s t → Asks input s t →
      Asks input (s.run events) (t.run events) := by
  induction events with
  | nil => intro s t _ h; exact h
  | cons e events ih => intro s t hs h; exact ih (shows_handle hs e) (asks_handle hs h e)

/-- The last body under the heading of a question is the last question. -/
theorem length_lastUnder_headed (es : List Entry) : ∀ (xs : List (List Char)) (w : String),
    xs.length = (lines w).length →
    (Sections.lastUnder (fun l => decide (l = Speaker.you.heading)) xs
      (es.map Entry.headed)).length = (lines (lastAsked w es)).length := by
  induction es with
  | nil => intro xs w h; exact h
  | cons e es ih =>
    intro xs w h
    obtain ⟨who, text, hne⟩ := e
    cases who with
    | you => exact ih (lines text) text rfl
    | goodOmens => exact ih xs w h

/-! ### Reading a prompt -/

/-- No line of a text could be taken for the start of another part: in the verse, the
label of the initial question; in a question or an answer, the heading of an entry.
The first lines of the verse and of the initial question stand after a label of their
own. -/
structure Unlabelled (quote input : String) (s : ChatState) : Prop where
  quote : ∀ line ∈ (lines quote).tail, ¬ "My Question: ".toList <+: line
  input : ∀ line ∈ (lines input).tail, ¬ IsHeading line
  texts : ∀ sp : Speaker, ∀ text ∈ textsAfter sp.label (s.chatHistory.drop 2),
    ∀ line ∈ lines text, ¬ IsHeading line

section

variable {quote input : String} {s : ChatState} {t : Transcript}

/-- The lines of a labelled text are no headings if the label is none and the later
lines are none. -/
theorem not_isHeading_labelled {label w : String} {c : Char} {cs : List Char}
    (hlabel : label.toList = c :: cs) (hn : '\n' ∉ label.toList) (hq : c ≠ 'Q') (hg : c ≠ 'G')
    (hw : ∀ line ∈ (lines w).tail, ¬ IsHeading line) :
    ∀ line ∈ lines (label ++ w), ¬ IsHeading line := by
  obtain ⟨l, ls, hl, happ⟩ := lines_labelled hn w
  rw [happ, hlabel]
  intro line hline
  rcases List.mem_cons.mp hline with rfl | hline
  · rw [List.cons_append, isHeading_iff]
    rintro (h | h)
    · exact hq (List.cons.inj h).1
    · exact hg (List.cons.inj h).1
  · exact hw line (by rwa [hl])

theorem length_lines_labelled {label : String} (hn : '\n' ∉ label.toList) (w : String) :
    (lines (label ++ w)).length = (lines w).length := by
  obtain ⟨l, ls, hl, happ⟩ := lines_labelled hn w
  rw [hl, happ]
  rfl

theorem Unlabelled.entries (hu : Unlabelled quote input s) (hs : Shows quote input s t) :
    ∀ e ∈ t.entries, ∀ line ∈ lines e.text, ¬ IsHeading line := by
  intro e he
  have hmem : e.text ∈ t.textsBy e.speaker :=
    List.mem_map_of_mem (List.mem_filter.mpr ⟨he, decide_eq_true rfl⟩)
  rw [← hs.textsAfter e.speaker] at hmem
  exact hu.texts e.speaker e.text hmem

theorem headed_sections (hu : Unlabelled quote input s) (hs : Shows quote input s t) :
    Sections.Headed IsHeading (sections input t) := by
  refine ⟨?_, ?_, ?_⟩
  · exact not_isHeading_labelled (c := 'M') rfl (by decide) (by decide) (by decide) hu.input
  · intro h hh
    obtain ⟨e, -, rfl⟩ := List.mem_map.mp hh
    exact ⟨e.speaker, rfl⟩
  · intro h hh
    obtain ⟨e, he, rfl⟩ := List.mem_map.mp hh
    exact hu.entries hs e he

/-- The last question is the initial one or that of an entry. -/
theorem lastAsked_cases (es : List Entry) : ∀ w : String,
    lastAsked w es = w ∨ ∃ e ∈ es, lastAsked w es = e.text := by
  induction es with
  | nil => intro w; exact .inl rfl
  | cons e es ih =>
    intro w
    rcases ih (if e.speaker = .you then e.text else w) with h | ⟨e', he', h⟩
    · by_cases he : e.speaker = .you
      · rw [if_pos he] at h
        exact .inr ⟨e, List.mem_cons_self, by rw [lastAsked, List.foldl_cons, if_pos he]; exact h⟩
      · rw [if_neg he] at h
        exact .inl (by rw [lastAsked, List.foldl_cons, if_neg he]; exact h)
    · exact .inr ⟨e', List.mem_cons_of_mem _ he', h⟩

theorem not_isHeading_newQuestion (hu : Unlabelled quote input s) (hs : Shows quote input s t)
    (ha : Asks input s t) :
    ∀ line ∈ lines ("My New Question: " ++ s.inputText), ¬ IsHeading line := by
  refine not_isHeading_labelled (c := 'M') rfl (by decide) (by decide) (by decide) ?_
  rw [ha]
  rcases lastAsked_cases t.entries input with h | ⟨e, he, h⟩
  · rw [h]
    exact hu.input
  · rw [h]
    intro line hline
    exact hu.entries hs e he line (List.mem_of_mem_tail hline)

/-- The new question stands in the history, under the last question's heading. -/
theorem repeats_newQuestion (ha : Asks input s t) :
    Sections.Repeats (fun l => decide (l = Speaker.you.heading)) (sections input t)
      (lines ("My New Question: " ++ s.inputText)) := by
  rw [Sections.Repeats, length_lines_labelled (by decide), ha]
  exact (length_lastUnder_headed t.entries _ input (length_lines_labelled (by decide) input)).symm

/-- The prompt in lines: the verse, the sections and the new question. -/
theorem lines_prompt (hs : Shows quote input s t) :
    lines ("\n".intercalate s.chatHistory ++ "\nMy New Question: " ++ s.inputText) =
      lines ("My Verse: " ++ quote) ++ ((sections input t).toList ++
        lines ("My New Question: " ++ s.inputText)) := by
  have hne : s.chatHistory ≠ [] := by
    rw [hs.chatHistory]
    exact List.cons_ne_nil _ _
  have hsep : "\n".intercalate s.chatHistory ++ "\nMy New Question: " ++ s.inputText =
      "\n".intercalate s.chatHistory ++ "\n" ++ ("My New Question: " ++ s.inputText) := by
    rw [show "\nMy New Question: " = "\n" ++ "My New Question: " by decide, ← String.append_assoc,
      String.append_assoc]
  rw [hsep, lines_append_newline, lines_intercalate _ hne, hs.chatHistory, List.flatMap_append,
    toList_sections]
  simp [seeds, List.append_assoc]

/-- The lines of the verse, with its label, are not that of the initial question. -/
theorem Unlabelled.verse (hu : Unlabelled quote input s) :
    ∀ line ∈ lines ("My Verse: " ++ quote), ¬ "My Question: ".toList <+: line := by
  obtain ⟨l, ls, hl, happ⟩ :=
    lines_labelled (show '\n' ∉ "My Verse: ".toList by decide) quote
  rw [happ]
  intro line hline
  rcases List.mem_cons.mp hline with rfl | hline
  · rintro ⟨more, hmore⟩
    simp at hmore
  · exact hu.quote line (by rwa [hl])

/-- The sections start with the line of the initial question. -/
theorem sections_eq_cons (input : String) (t : Transcript) (more : List (List Char)) :
    ∃ l ls, "My Question: ".toList <+: l ∧ (sections input t).toList ++ more = l :: ls := by
  obtain ⟨l, ls, -, happ⟩ :=
    lines_labelled (show '\n' ∉ "My Question: ".toList by decide) input
  refine ⟨"My Question: ".toList ++ l, ls ++ (t.entries.map Entry.render).flatMap lines ++ more,
    List.prefix_append _ l, ?_⟩
  rw [toList_sections, happ, List.cons_append, List.cons_append]

end

/-- The histories and the new questions are those that the prompt says. -/
theorem unambiguous_of_shows {quote quote' input input' : String} {s s' : ChatState}
    {t t' : Transcript} (hs : Shows quote input s t) (hs' : Shows quote' input' s' t')
    (ha : Asks input s t) (ha' : Asks input' s' t') (hu : Unlabelled quote input s)
    (hu' : Unlabelled quote' input' s')
    (h : "\n".intercalate s.chatHistory ++ "\nMy New Question: " ++ s.inputText =
      "\n".intercalate s'.chatHistory ++ "\nMy New Question: " ++ s'.inputText) :
    s.chatHistory = s'.chatHistory ∧ s.inputText = s'.inputText := by
  have hlines := congrArg lines h
  rw [lines_prompt hs, lines_prompt hs'] at hlines
  -- the verse ends at the first line with the label of the initial question
  obtain ⟨l, ls, hl, hcons⟩ :=
    sections_eq_cons input t (lines ("My New Question: " ++ s.inputText))
  obtain ⟨l', ls', hl', hcons'⟩ :=
    sections_eq_cons input' t' (lines ("My New Question: " ++ s'.inputText))
  rw [hcons, hcons'] at hlines
  obtain ⟨hverse, rfl, rfl⟩ := Sections.cut_unique hu.verse hu'.verse hl hl' hlines
  -- the rest is cut at the headings, and the new question is as long as the last one
  obtain ⟨hsections, hnew⟩ := Sections.append_unique (headed_sections hu hs)
    (headed_sections hu' hs') (not_isHeading_newQuestion hu hs ha)
    (not_isHeading_newQuestion hu' hs' ha') (repeats_newQuestion ha) (repeats_newQuestion ha')
    (hcons.trans hcons'.symm)
  obtain ⟨hinput, hentries⟩ := Sections.mk.inj hsections
  refine ⟨?_, String.append_right_inj _ |>.mp (lines_injective hnew)⟩
  rw [hs.chatHistory, hs'.chatHistory, entries_injective hentries, seeds, seeds,
    lines_injective hverse, lines_injective hinput]

/-- **A prompt without labels in its texts says who said what.**  If two presses of
send, on any two pages and after any events, emit the same prompt, then the prompt
was made from the same entries and the same new question. -/
theorem prompt_unambiguous (quote quote' input input' : String) (b b' : Bool)
    (events events' : List Event) (text text' : String) :
    let e := emission quote input b events text
    let e' := emission quote' input' b' events' text'
    Unlabelled quote input e.1 → Unlabelled quote' input' e'.1 → e.2 = e'.2 →
      e.1.chatHistory = e'.1.chatHistory ∧ e.1.inputText = e'.1.inputText := by
  intro e e' hu hu' h
  have hshows : ∀ (q i : String) (b : Bool) (es : List Event),
      Shows q i ((firstFrame q i b).1.run es) ((⟨[], ""⟩ : Transcript).run es) :=
    fun q i b es => shows_run es (shows_firstFrame q i b)
  have hasks : ∀ (q i : String) (b : Bool) (es : List Event),
      Asks i ((firstFrame q i b).1.run es) ((⟨[], ""⟩ : Transcript).run es) :=
    fun q i b es => asks_run es (shows_firstFrame q i b) (asks_firstFrame q i b)
  have hs := shows_sendInput (hshows quote input b events) text
  have hs' := shows_sendInput (hshows quote' input' b' events') text'
  have ha := asks_sendInput (hasks quote input b events) text
  have ha' := asks_sendInput (hasks quote' input' b' events') text'
  exact unambiguous_of_shows hs hs' ha ha' hu hu'
    ((sendInput_prompt _).symm.trans (h.trans (sendInput_prompt _)))

/-- An answer in one chunk and in two, and the same follow-up. -/
theorem prompt_unambiguous_followUp :
    let e := emission "In the beginning" "a\nb" false [.newMessage "cd", .endOfResponse] "q"
    let e' := emission "In the beginning" "a\nb" true
      [.newMessage "c", .newMessage "d", .endOfResponse] "q"
    e.1.chatHistory = e'.1.chatHistory ∧ e.1.inputText = e'.1.inputText := by
  have hu : ∀ s : ChatState, s.chatHistory.drop 2 = ["Good Omens:\ncd", "Q:\nq"] →
      Unlabelled "In the beginning" "a\nb" s := by
    intro s hs
    refine ⟨by decide +kernel, by decide +kernel, ?_⟩
    intro sp
    rw [hs]
    cases sp with
    | you => decide +kernel
    | goodOmens => decide +kernel
  exact prompt_unambiguous "In the beginning" "In the beginning" "a\nb" "a\nb" false true
    [.newMessage "cd", .endOfResponse] [.newMessage "c", .newMessage "d", .endOfResponse] "q" "q"
    (hu _ (by decide +kernel)) (hu _ (by decide +kernel)) (by decide +kernel)

/-- A question of several lines reads as one that was answered. -/
theorem not_prompt_injective :
    ¬ ∀ (quote quote' input input' : String) (b b' : Bool) (events events' : List Event)
        (text text' : String),
      (emission quote input b events text).2 = (emission quote' input' b' events' text').2 →
      (emission quote input b events text).1.chatHistory =
          (emission quote' input' b' events' text').1.chatHistory ∧
        (emission quote input b events text).1.inputText =
          (emission quote' input' b' events' text').1.inputText := by
  intro h
  have hsame := (h "v" "v" "a\nGood Omens:\nb" "a" false false []
    [.newMessage "b", .endOfResponse] "q" "q" (by decide +kernel)).1
  exact absurd hsame (by decide +kernel)

end GoodOmens.Chat
