import Mathlib.Data.String.Basic

/-!
# Cutting a text at a separator

`Splits sep s parts` says that cutting `s` at every `sep`, from the left and without
overlaps, gives `parts`: a part ends where `sep` stands for the first time.  No part is
lost, since the parts with `sep` between them are the text again (`Splits.intercalate`),
and the parts are determined by the text (`Splits.unique`).

`splits_splitOn` is for `String.splitOn`, which looks for the separator place by place
and starts again one place further after every mismatch.  In its loop `m` is the part
read so far and `p` the beginning of `sep` that was found behind it; the invariant is
that `sep` starts nowhere in `m` (`StartsNowhere`).
-/

universe u

/-- What cutting at `sep` gives. -/
inductive Splits {α : Type u} (sep : List α) : List α → List (List α) → Prop
  | last {s : List α} : ¬ sep <:+: s → Splits sep s [s]
  | cut {a s : List α} {parts : List (List α)} : ¬ sep <:+: a ++ sep.dropLast →
      Splits sep s parts → Splits sep (a ++ (sep ++ s)) (a :: parts)

namespace Splits

variable {α : Type u} {sep s a b : List α} {parts parts' : List (List α)}

theorem ne_nil (h : Splits sep s parts) : parts ≠ [] := by
  cases h with
  | last _ => exact List.cons_ne_nil _ _
  | cut _ _ => exact List.cons_ne_nil _ _

/-- **Nothing is lost.** -/
theorem intercalate (h : Splits sep s parts) : sep.intercalate parts = s := by
  induction h with
  | last _ => exact List.intercalate_singleton
  | cut _ hs ih => rw [List.intercalate_cons_of_ne_nil hs.ne_nil, ih, List.append_assoc]

/-- Where `sep` stands for the first time there is no earlier place for it. -/
theorem length_le_of_first {s s' a' : List α} (hfirst : ¬ sep <:+: a' ++ sep.dropLast)
    (h : a ++ (sep ++ s) = a' ++ (sep ++ s')) : a'.length ≤ a.length := by
  by_contra hlt
  have hsep : sep ≠ [] := by
    rintro rfl
    exact hfirst List.nil_infix
  have hpos : 0 < sep.length := List.length_pos_iff.mpr hsep
  have hleft : a ++ sep <+: a ++ (sep ++ s) := by
    rw [← List.append_assoc]
    exact List.prefix_append _ _
  have hright : a' ++ sep.dropLast <+: a ++ (sep ++ s) := by
    rw [h, List.prefix_append_right_inj]
    exact (List.dropLast_prefix sep).trans (List.prefix_append _ _)
  have hle : (a ++ sep).length ≤ (a' ++ sep.dropLast).length := by
    simp only [List.length_append, List.length_dropLast]
    omega
  have hprefix : a ++ sep <+: a' ++ sep.dropLast :=
    List.prefix_of_prefix_length_le hleft hright hle
  exact hfirst ((List.suffix_append a sep).isInfix.trans hprefix.isInfix)

/-- **The parts are determined by the text.** -/
theorem unique (h : Splits sep s parts) (h' : Splits sep s parts') : parts = parts' := by
  induction h generalizing parts' with
  | last hs =>
    cases h' with
    | last _ => rfl
    | cut _ _ => exact absurd ⟨_, _, List.append_assoc _ _ _⟩ hs
  | @cut a s parts hfirst _ ih =>
    generalize ht : a ++ (sep ++ s) = t at h'
    cases h' with
    | last hs => exact absurd ⟨a, s, by rw [List.append_assoc, ht]⟩ hs
    | @cut a' s' parts' hfirst' hs' =>
      have hlen : a.length = a'.length :=
        le_antisymm (length_le_of_first hfirst ht.symm) (length_le_of_first hfirst' ht)
      obtain ⟨rfl, hrest⟩ := List.append_inj ht hlen
      obtain rfl := List.append_cancel_left hrest
      rw [ih hs']

/-- There are two parts when `sep` stands in the text once. -/
theorem pair_iff : Splits sep s [a, b] ↔
    s = a ++ sep ++ b ∧ ¬ sep <:+: a ++ sep.dropLast ∧ ¬ sep <:+: b := by
  constructor
  · intro h
    cases h with
    | cut hfirst hs =>
      cases hs with
      | last hb => exact ⟨(List.append_assoc _ _ _).symm, hfirst, hb⟩
      | cut _ hnil => exact absurd rfl hnil.ne_nil
  · rintro ⟨rfl, hfirst, hb⟩
    rw [List.append_assoc]
    exact .cut hfirst (.last hb)

end Splits

namespace StringSplit

open String

variable {sep m p r t : List Char}

/-- `sep` does not start in `m`, with `t` behind it. -/
def StartsNowhere (sep m t : List Char) : Prop :=
  ∀ u v, m = u ++ v → v ≠ [] → ¬ sep <+: v ++ t

theorem startsNowhere_nil : StartsNowhere sep [] t := by
  intro u v h hv
  exact absurd (List.append_eq_nil_iff.mp h.symm).2 hv

theorem startsNowhere_concat {c : Char} (h : StartsNowhere sep m (c :: t))
    (hc : ¬ sep <+: c :: t) : StartsNowhere sep (m ++ [c]) t := by
  intro u v huv hv
  obtain rfl | ⟨v, d, rfl⟩ := List.eq_nil_or_concat v
  · exact absurd rfl hv
  · rw [List.concat_eq_append] at huv ⊢
    rw [← List.append_assoc] at huv
    obtain ⟨hm, hd⟩ := List.append_inj' huv rfl
    obtain rfl := (List.cons.inj hd).1
    rw [List.append_assoc]
    by_cases hnil : v = []
    · subst hnil
      exact hc
    · exact h u v hm hnil

/-- An occurrence of `sep` in `m ++ t` starts in `m`, or it lies in `t`. -/
theorem no_occurrence (h : StartsNowhere sep m (t ++ r)) (ht : t.length < sep.length) :
    ¬ sep <:+: m ++ t := by
  rintro ⟨u, w, huw⟩
  have hlen : u.length + (sep.length + w.length) = m.length + t.length := by
    simpa using congrArg List.length huw
  have hu : u <+: m :=
    List.prefix_of_prefix_length_le ⟨sep ++ w, by rw [← List.append_assoc, huw]⟩
      (List.prefix_append m t) (by omega)
  obtain ⟨v, rfl⟩ := hu
  have hv : v ≠ [] := by
    rintro rfl
    simp only [List.append_nil] at hlen
    omega
  refine h u v rfl hv ?_
  rw [List.append_assoc, List.append_assoc] at huw
  rw [← List.append_assoc, ← List.append_cancel_left huw, List.append_assoc]
  exact List.prefix_append _ _

variable {l q : List Char} {c d : Char} {acc : List String}

/-- The place behind `l`, as `String.splitOnAux` counts it. -/
def place (l : List Char) : Pos.Raw := ⟨utf8Len l⟩

theorem atEnd_place : Pos.Raw.atEnd (ofList (l ++ r)) (place l) ↔ r = [] := atEnd_of_valid l r

theorem next_place : Pos.Raw.next (ofList (l ++ c :: r)) (place l) = place (l ++ [c]) := by
  have hlen : utf8Len (l ++ [c]) = utf8Len l + c.utf8Size := by simp
  rw [place, place, hlen]
  exact next_of_valid l c r

theorem extract_place : Pos.Raw.extract (ofList (l ++ m ++ r)) (place l) (place (l ++ m)) =
    ofList m := by
  rw [place, place, utf8Len_append]
  exact extract_of_valid l m r

theorem unoffsetBy_place : (place (l ++ p)).unoffsetBy (place p) = place l := by
  rw [place, place, place, utf8Len_append, Pos.Raw.unoffsetBy]
  simp only [Nat.add_sub_cancel]

theorem splitOnAux_end (sep : String) (j : Pos.Raw) :
    splitOnAux (ofList (l ++ m)) sep (place l) (place (l ++ m)) j acc =
      acc.reverse ++ [ofList m] := by
  have hend : Pos.Raw.atEnd (ofList (l ++ m)) (place (l ++ m)) := by
    simpa only [List.append_nil] using (@atEnd_place [] (l ++ m)).mpr rfl
  have hextract : Pos.Raw.extract (ofList (l ++ m)) (place l) (place (l ++ m)) = ofList m := by
    simpa only [List.append_nil] using @extract_place m [] l
  rw [splitOnAux, if_pos hend, hextract, List.reverse_cons]

/-- One turn of the loop, at the character `c` of the text and `d` of the separator. -/
theorem splitOnAux_cons (h : t = l ++ m ++ p ++ c :: r) :
    splitOnAux (ofList t) (ofList (p ++ d :: q)) (place l) (place (l ++ m ++ p)) (place p) acc =
      if c = d then
        if q = [] then
          splitOnAux (ofList t) (ofList (p ++ d :: q)) (place (l ++ m ++ p ++ [c]))
            (place (l ++ m ++ p ++ [c])) (place []) (ofList m :: acc)
        else
          splitOnAux (ofList t) (ofList (p ++ d :: q)) (place l) (place (l ++ m ++ p ++ [c]))
            (place (p ++ [c])) acc
      else
        splitOnAux (ofList t) (ofList (p ++ d :: q)) (place l)
          (Pos.Raw.next (ofList t) (place (l ++ m))) (place []) acc := by
  have hend : ¬ Pos.Raw.atEnd (ofList t) (place (l ++ m ++ p)) := by
    rw [h, atEnd_place]
    exact List.cons_ne_nil c r
  have hget : Pos.Raw.get (ofList t) (place (l ++ m ++ p)) = c := by
    rw [h]
    exact get_of_valid (l ++ m ++ p) (c :: r)
  have hgetSep : Pos.Raw.get (ofList (p ++ d :: q)) (place p) = d := get_of_valid p (d :: q)
  have hnext : Pos.Raw.next (ofList t) (place (l ++ m ++ p)) = place (l ++ m ++ p ++ [c]) := by
    rw [h]
    exact next_place
  rw [splitOnAux, if_neg hend, hget, hgetSep, hnext, next_place, unoffsetBy_place]
  by_cases hc : c = d
  · subst hc
    have hatEnd : Pos.Raw.atEnd (ofList (p ++ c :: q)) (place (p ++ [c])) ↔ q = [] := by
      rw [List.append_cons]
      exact atEnd_place
    have hback : (place (l ++ m ++ p ++ [c])).unoffsetBy (place (p ++ [c])) = place (l ++ m) := by
      rw [List.append_assoc (l ++ m)]
      exact unoffsetBy_place
    have hextract : Pos.Raw.extract (ofList t) (place l) (place (l ++ m)) = ofList m := by
      rw [h, List.append_assoc (l ++ m)]
      exact extract_place
    rw [if_pos BEq.rfl, if_pos rfl]
    simp only [hatEnd, hback, hextract]
    rfl
  · rw [if_neg hc, if_neg (fun hbeq => hc (LawfulBEq.eq_of_beq hbeq))]
    rfl

/-- **The loop of `String.splitOn`.**  The induction is on what is left of the text behind
`m`, and for a text of one length on what is left of the separator. -/
theorem splitOnAux_splits {sep : List Char} (hsep : sep ≠ []) (n : Nat) :
    ∀ (q l m p r : List Char) (acc : List String), p.length + r.length = n → sep = p ++ q →
      q ≠ [] → StartsNowhere sep m (p ++ r) → t = l ++ m ++ p ++ r →
      ∃ parts, Splits sep (m ++ (p ++ r)) parts ∧
        splitOnAux (ofList t) (ofList sep) (place l) (place (l ++ m ++ p)) (place p) acc =
          acc.reverse ++ parts.map ofList := by
  induction n using Nat.strong_induction_on with
  | h n ihText =>
    intro q
    induction q with
    | nil =>
      intro l m p r acc _ _ hq
      exact absurd rfl hq
    | cons d q ihSep =>
      intro l m p r acc hn hpq _ hm ht
      have hlen : sep.length = p.length + (q.length + 1) := by simp [hpq]
      cases r with
      | nil =>
        refine ⟨[m ++ p], ?_, ?_⟩
        · rw [List.append_nil]
          exact .last (no_occurrence hm (by omega))
        · rw [ht, List.append_nil, List.append_assoc l]
          exact splitOnAux_end _ _
      | cons c r =>
        rw [hpq, splitOnAux_cons ht, ← hpq]
        by_cases hc : c = d
        · rw [if_pos hc]
          subst hc
          by_cases hq : q = []
          · -- the separator is complete, and the part `m` ends before it
            rw [if_pos hq]
            subst hq
            have hr : r.length < n := by
              simp only [List.length_cons] at hn
              omega
            obtain ⟨parts, hparts, hrest⟩ := ihText r.length hr sep (l ++ m ++ p ++ [c]) [] [] r
              (ofList m :: acc) (by simp) rfl hsep startsNowhere_nil (by simp [ht])
            have hfirst : ¬ sep <:+: m ++ sep.dropLast := by
              rw [hpq, List.dropLast_concat, ← hpq]
              exact no_occurrence hm (by omega)
            refine ⟨m :: parts, ?_, ?_⟩
            · have htext : m ++ (p ++ c :: r) = m ++ (sep ++ r) := by simp [hpq]
              rw [htext]
              exact .cut hfirst hparts
            · simpa using hrest
          · rw [if_neg hq]
            obtain ⟨parts, hparts, hrest⟩ := ihSep l m (p ++ [c]) r acc
              (by simp only [List.length_append, List.length_cons, List.length_nil] at hn ⊢; omega)
              (by simp [hpq]) hq (by simpa using hm) (by simp [ht])
            exact ⟨parts, by simpa using hparts, by simpa using hrest⟩
        · -- the separator does not start behind `m`
          rw [if_neg hc]
          obtain ⟨c', r', hr'⟩ := List.exists_cons_of_ne_nil (l := p ++ c :: r) (by simp)
          have hnext : Pos.Raw.next (ofList t) (place (l ++ m)) = place (l ++ m ++ [c']) := by
            rw [ht, List.append_assoc (l ++ m), hr']
            exact next_place
          have hno : ¬ sep <+: c' :: r' := by
            rw [hpq, ← hr', List.prefix_append_right_inj, List.cons_prefix_cons]
            exact fun h => hc h.1.symm
          have hn' : r'.length + 1 = n := by
            rw [← hn, ← List.length_append, hr', List.length_cons]
          obtain ⟨parts, hparts, hrest⟩ := ihText r'.length (by omega) sep l (m ++ [c']) [] r' acc
            (by simp) rfl hsep (startsNowhere_concat (hr' ▸ hm) hno)
            (by simpa [hr'] using ht)
          refine ⟨parts, ?_, ?_⟩
          · rw [hr']
            simpa using hparts
          · rw [hnext]
            simpa using hrest

end StringSplit

open StringSplit in
/-- **`String.splitOn` cuts the text at its separator.** -/
theorem splits_splitOn (s : String) {sep : String} (h : sep ≠ "") :
    Splits sep.toList s.toList ((s.splitOn sep).map String.toList) := by
  have hsep : sep.toList ≠ [] := by simpa using h
  obtain ⟨parts, hparts, haux⟩ := splitOnAux_splits (t := s.toList) hsep _
    sep.toList [] [] [] s.toList [] rfl rfl hsep startsNowhere_nil rfl
  have hsplit : s.splitOn sep = parts.map String.ofList := by
    rw [String.splitOn, if_neg (by simpa using h)]
    simpa [place] using haux
  rw [hsplit]
  simpa using hparts

/-- The parts with the separator between them are the text. -/
theorem intercalate_splitOn (s : String) {sep : String} (h : sep ≠ "") :
    sep.intercalate (s.splitOn sep) = s := by
  rw [← String.toList_inj, String.toList_intercalate]
  exact (splits_splitOn s h).intercalate

/-- The first two parts with the separator between them are all of it only if there is
no third. -/
theorem intercalate_eq_pair_iff {sep a b : String} {rest : List String} (h : sep ≠ "") :
    sep.intercalate (a :: b :: rest) = a ++ sep ++ b ↔ rest = [] := by
  have hjoin : sep.intercalate (a :: b :: rest) = a ++ sep ++ sep.intercalate (b :: rest) :=
    String.intercalate_cons_cons
  cases rest with
  | nil => simp [hjoin]
  | cons r rest =>
    refine iff_of_false ?_ (List.cons_ne_nil _ _)
    intro he
    rw [hjoin, String.intercalate_cons_cons] at he
    have hlen := congrArg String.length he
    have hpos : sep.length ≠ 0 := by simpa using h
    simp only [String.length_append] at hlen
    omega

theorem splitOn_ne_nil (s : String) {sep : String} (h : sep ≠ "") : s.splitOn sep ≠ [] :=
  fun hnil => (splits_splitOn s h).ne_nil (by rw [hnil]; rfl)

/-- There are two parts when the separator stands in the text once. -/
theorem splitOn_eq_pair_iff {s sep a b : String} (h : sep ≠ "") : s.splitOn sep = [a, b] ↔
    s = a ++ sep ++ b ∧ ¬ sep.toList <:+: a.toList ++ sep.toList.dropLast ∧
      ¬ sep.toList <:+: b.toList := by
  have hpair : s.splitOn sep = [a, b] ↔ Splits sep.toList s.toList [a.toList, b.toList] := by
    constructor
    · intro he
      simpa [he] using splits_splitOn s h
    · intro hs
      have hmap : (s.splitOn sep).map String.toList = [a, b].map String.toList :=
        (splits_splitOn s h).unique hs
      exact List.map_injective_iff.mpr (fun _ _ => String.toList_inj.mp) hmap
  rw [hpair, Splits.pair_iff, ← String.toList_append, ← String.toList_append, String.toList_inj]
