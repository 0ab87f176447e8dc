import GoodOmens.Services.UserText
import GoodOmens.Cover.Explaination

/-!
# The answers and the request as text

What `fetchVerse` and `generateOutput` exchange with the backend, with the bodies as they
are sent.  However the body of a verse is written, if it decodes to an object the verse
stands on the page field by field, and the request for its explanation, decoded at the other
end, asks for exactly this verse (`verse_reply`); an explanation in two parts is shown in
these two parts (`explanation_reply`).  No text of a verse or an explanation is in the way of
that: quotes, newlines and whatever looks like JSON are escaped and read back.
-/

namespace GoodOmens.Cover

open JsonText

/-- The body of the explain request. -/
def explainBody (future : ExplainFuture) : String :=
  jsonEncode (strings [("id", future.id), ("verse", future.verse), ("input", future.input)])

variable (printDouble : String → String)

/-- What the backend decodes is what was asked. -/
theorem jsonDecode_explainBody (future : ExplainFuture) :
    jsonDecode printDouble (explainBody future) =
      .ok (strings [("id", future.id), ("verse", future.verse), ("input", future.input)]) :=
  jsonDecode_strings printDouble (by simp)

/-- **From the answer to the next request.**  The verse of an answer that decodes is on the
page that is pushed, field by field, and the body of the explain request decodes to the id
and the text of this verse. -/
theorem verse_reply {body : String} {entries : List (String × Json)} {book content : String}
    {s : CoverState} (h : jsonDecode printDouble body = .ok (.obj entries))
    (hbook : Json.field entries "Book" = .str book)
    (hcontent : Json.field entries "Content" = .str content) :
    ∃ page, ((handleGesture (jsonDecode printDouble) (.response 200 body) true).exec s).2.pushed =
        s.pushed ++ [.ok page] ∧
      page.book = book ∧ page.content = content ∧
      page.chapter = (Json.field entries "Chapter").toString ∧
      page.verse = (Json.field entries "Verse").toString ∧
      page.verseId = (Json.field entries "Id").toString ∧
      jsonDecode printDouble (explainBody page.generateOutputFuture) =
        .ok (strings [("id", page.verseId),
          ("verse", book ++ " " ++ page.chapter ++ ":" ++ page.verse ++ " " ++ content),
          ("input", s.input)]) := by
  rw [exec_wellFormed h hbook hcontent]
  refine ⟨_, rfl, rfl, rfl, rfl, rfl, rfl, ?_⟩
  exact jsonDecode_explainBody printDouble _

/-- A verse with a quote and a newline in it. -/
theorem verse_reply_john : ∃ page,
    ((handleGesture (jsonDecode id) (.response 200 (jsonEncode (.obj [("Id", .int 26137),
        ("Chapter", .int 3), ("Verse", .int 16), ("Book", .str "John"),
        ("Content", .str "\"For God\nso loved the world\"")]))) true).exec builtPage.page).2.pushed =
      builtPage.page.pushed ++ [.ok page] ∧ page.book = "John" ∧
    page.content = "\"For God\nso loved the world\"" ∧
    page.chapter = (Json.int 3).toString ∧ page.verse = (Json.int 16).toString ∧
    page.verseId = (Json.int 26137).toString ∧
    jsonDecode id (explainBody page.generateOutputFuture) =
      .ok (strings [("id", page.verseId),
        ("verse", "John" ++ " " ++ page.chapter ++ ":" ++ page.verse ++ " " ++
          "\"For God\nso loved the world\""), ("input", builtPage.page.input)]) :=
  verse_reply id
    (jsonDecode_jsonEncode id ⟨by simp, by simp [WellFormedEntries, WellFormed, InRange]⟩)
    (by simp [Json.field, List.lookup_cons]) (by simp [Json.field, List.lookup_cons])

/-- **An explanation in two parts is shown in two parts**: the first on the explanation
page, the second on the guidance page that it pushes. -/
theorem explanation_reply {body : String} {entries : List (String × Json)}
    {text guidance : String} {c : CoverState} {s : ExplainationState}
    (h : jsonDecode printDouble body = .ok (.obj entries))
    (hexplain : Json.field entries "Explain" = .str (text ++ "&&" ++ guidance))
    (htext : ¬ "&&".toList <:+: text.toList ++ ['&'])
    (hguidance : ¬ "&&".toList <:+: guidance.toList) (hne : text ≠ "") :
    let built := Explaination.build (jsonDecode printDouble) (.response 200 body) true c s
    built.1 = .ok (.explanation text) ∧
      (Explaination.handleGesture built.2).pushed = s.pushed ++ [⟨s.bible, guidance, s.theme⟩] := by
  have htexts : Explaination.explain (jsonDecode printDouble) body =
      .ok (text ++ "&&" ++ guidance) := by
    rw [Explaination.explain, decode_obj h, hexplain]
    rfl
  have hparts : (text ++ "&&" ++ guidance).splitOn "&&" = [text, guidance] :=
    (splitOn_eq_pair_iff (by decide)).mpr ⟨rfl, htext, hguidance⟩
  have hsnapshot := Explaination.snapshot_text (c := c) htexts
  have hbuild : Explaination.build (jsonDecode printDouble) (.response 200 body) true c s =
        (.ok (.explanation text), { s with explanation := text, guidance := guidance }) := by
    rw [Explaination.build, hsnapshot, hparts, Explaination.builder_cons_cons]
    rw [if_neg (by simpa using hne)]
  dsimp only
  rw [hbuild]
  exact ⟨rfl, rfl⟩

/-- An explanation with an ampersand in each part. -/
theorem explanation_reply_short :
    let reply : Json := .obj [("Explain", .str ("Love & light" ++ "&&" ++ "Rest & pray"))]
    let s : ExplainationState := ⟨"John 3:16", 999, "", "", []⟩
    let built := Explaination.build (jsonDecode id) (.response 200 (jsonEncode reply)) true
      builtPage.page s
    built.1 = .ok (.explanation "Love & light") ∧
      (Explaination.handleGesture built.2).pushed =
        s.pushed ++ [⟨s.bible, "Rest & pray", s.theme⟩] := by
  intro reply s
  have hplain : Plain reply := ⟨by simp, trivial, trivial⟩
  have hfield : Json.field [("Explain", .str ("Love & light" ++ "&&" ++ "Rest & pray"))]
      "Explain" = .str ("Love & light" ++ "&&" ++ "Rest & pray") := by
    rw [Json.field, List.lookup_cons, beq_self_eq_true]
    rfl
  have htext : ¬ "&&".toList <:+: "Love & light".toList ++ ['&'] := by
    simp [List.infix_cons_iff]
  have hguidance : ¬ "&&".toList <:+: "Rest & pray".toList := by
    simp [List.infix_cons_iff]
  exact explanation_reply id (jsonDecode_jsonEncode id hplain) hfield htext hguidance (by decide)

end GoodOmens.Cover
