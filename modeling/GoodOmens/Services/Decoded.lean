import GoodOmens.Services.RoundTrip

/-!
# What the decoder gives

Whatever the text, a value that is decoded has integers of 64 bits and no key twice
(`wellFormed_jsonDecode`).  This is an invariant of the state: it is asked of every
container that is open, of those in the mode as of those on the stack (`Clean`), and a
character keeps it (`clean_step`).
-/

namespace GoodOmens.JsonText

variable {printDouble : String → String} {stack : List Frame} {s t : State}

/-! ### Containers -/

theorem wellFormedElements_append {js : List Json} {v : Json} (h : WellFormedElements True js)
    (hv : WellFormed True v) : WellFormedElements True (js ++ [v]) := by
  induction js with
  | nil => exact ⟨hv, trivial⟩
  | cons j js ih => exact ⟨h.1, ih h.2⟩

theorem wellFormedEntries_append {js : List (String × Json)} {key : String} {v : Json}
    (h : WellFormedEntries True js) (hv : WellFormed True v) :
    WellFormedEntries True (js ++ [(key, v)]) := by
  induction js with
  | nil => exact ⟨hv, trivial⟩
  | cons j js ih => exact ⟨h.1, ih h.2⟩

/-- Another value for a key. -/
theorem wellFormedEntries_map {js : List (String × Json)} {key : String} {v : Json}
    (h : WellFormedEntries True js) (hv : WellFormed True v) :
    WellFormedEntries True (js.map (fun e => if e.1 = key then (key, v) else e)) := by
  induction js with
  | nil => exact trivial
  | cons j js ih =>
    refine ⟨?_, ih h.2⟩
    show WellFormed True (if j.1 = key then (key, v) else j).2
    by_cases hk : j.1 = key
    · rw [if_pos hk]
      exact hv
    · rw [if_neg hk]
      exact h.1

/-- The entries of a map that is well formed. -/
def CleanEntries (entries : List (String × Json)) : Prop :=
  (entries.map Prod.fst).Nodup ∧ WellFormedEntries True entries

theorem clean_setEntry {entries : List (String × Json)} {key : String} {v : Json}
    (h : CleanEntries entries) (hv : WellFormed True v) :
    CleanEntries (setEntry entries key v) := by
  unfold setEntry
  split
  · have hkeys : (entries.map (fun e => if e.1 = key then (key, v) else e)).map Prod.fst =
        entries.map Prod.fst := by
      rw [List.map_map]
      refine List.map_congr_left (fun e _ => ?_)
      by_cases hk : e.1 = key
      · simp [hk]
      · simp [hk]
    exact ⟨hkeys.symm ▸ h.1, wellFormedEntries_map h.2 hv⟩
  · rename_i hkey
    refine ⟨?_, wellFormedEntries_append h.2 hv⟩
    rw [List.map_append, List.nodup_append]
    refine ⟨h.1, List.pairwise_singleton _ key, ?_⟩
    rintro k hk k' hk' rfl
    obtain rfl : k = key := List.mem_singleton.mp hk'
    exact hkey hk

/-! ### States -/

def Frame.Clean : Frame → Prop
  | arr elements => WellFormedElements True elements
  | obj entries _ => CleanEntries entries

def Purpose.Clean : Purpose → Prop
  | value => True
  | key entries => CleanEntries entries

def Mode.Clean : Mode → Prop
  | value | firstElement | firstKey | number _ _ => True
  | afterElement elements => WellFormedElements True elements
  | nextKey entries | colon entries _ | afterMember entries => CleanEntries entries
  | ended v | literal _ v => WellFormed True v
  | string purpose _ | escaped purpose _ | unicode purpose _ _ _ _
  | lowSurrogate purpose _ _ _ => purpose.Clean

/-- Everything that is open is well formed. -/
structure Clean (s : State) : Prop where
  stack : ∀ frame ∈ s.stack, frame.Clean
  mode : s.mode.Clean

theorem clean_deliver {v : Json} (hv : WellFormed True v) (h : ∀ frame ∈ stack, frame.Clean) :
    Clean (deliver v stack) := by
  cases stack with
  | nil => exact ⟨fun _ hf => (by cases hf), hv⟩
  | cons frame stack =>
    have hframe := h frame List.mem_cons_self
    have hstack : ∀ f ∈ stack, f.Clean := fun f hf => h f (List.mem_cons_of_mem _ hf)
    cases frame with
    | arr elements => exact ⟨hstack, wellFormedElements_append hframe hv⟩
    | obj entries key => exact ⟨hstack, clean_setEntry hframe hv⟩

theorem clean_finishString {purpose : Purpose} (text : List Char) (hp : purpose.Clean)
    (h : ∀ frame ∈ stack, frame.Clean) : Clean (finishString purpose text stack) := by
  cases purpose with
  | value => exact clean_deliver trivial h
  | key entries => exact ⟨h, hp⟩

theorem wellFormed_numberOf (phase : Phase) (text : List Char) :
    WellFormed True (numberOf printDouble phase text) := by
  unfold numberOf
  split
  · rename_i h
    exact h.2
  · exact trivial

theorem clean_begin {c : Char} (hs : begin c stack = some t) (h : ∀ frame ∈ stack, frame.Clean) :
    Clean t := by
  unfold begin at hs
  repeat' split at hs
  all_goals cases hs <;> exact ⟨h, trivial⟩

theorem clean_push {frame : Frame} (hf : frame.Clean) (h : ∀ frame ∈ stack, frame.Clean) :
    ∀ f ∈ frame :: stack, f.Clean :=
  List.forall_mem_cons.mpr ⟨hf, h⟩

/-- A space changes nothing. -/
theorem clean_space {c : Char} {o : Option State} (hs : (if isSpace c then some s else o) = some t)
    (h : Clean s) (ho : o = some t → Clean t) : Clean t := by
  split at hs
  · cases hs
    exact h
  · exact ho hs

theorem clean_finishUnicode {purpose : Purpose} {text : List Char} {high : Option Nat} {n : Nat}
    {mode : Mode} (hm : finishUnicode purpose text high n = some mode) (hp : purpose.Clean) :
    mode.Clean := by
  unfold finishUnicode at hm
  repeat' split at hm
  all_goals cases hm <;> exact hp

theorem clean_stepOn {c : Char} (h : Clean s) (hs : stepOn s c = some t) : Clean t := by
  obtain ⟨stack, mode⟩ := s
  obtain ⟨hstack, hmode⟩ := h
  cases mode with
  | value => exact clean_space hs ⟨hstack, hmode⟩ (fun ho => clean_begin ho hstack)
  | firstElement =>
    refine clean_space hs ⟨hstack, hmode⟩ (fun ho => ?_)
    split at ho
    · cases ho
      exact clean_deliver trivial hstack
    · exact clean_begin ho (clean_push trivial hstack)
  | afterElement elements =>
    refine clean_space hs ⟨hstack, hmode⟩ (fun ho => ?_)
    split at ho
    · cases ho
      exact ⟨clean_push hmode hstack, trivial⟩
    · split at ho
      · cases ho
        exact clean_deliver hmode hstack
      · cases ho
  | firstKey =>
    refine clean_space hs ⟨hstack, hmode⟩ (fun ho => ?_)
    split at ho
    · cases ho
      exact ⟨hstack, List.nodup_nil, trivial⟩
    · split at ho
      · cases ho
        exact clean_deliver ⟨List.nodup_nil, trivial⟩ hstack
      · cases ho
  | nextKey entries =>
    refine clean_space hs ⟨hstack, hmode⟩ (fun ho => ?_)
    split at ho
    · cases ho
      exact ⟨hstack, hmode⟩
    · cases ho
  | colon entries key =>
    refine clean_space hs ⟨hstack, hmode⟩ (fun ho => ?_)
    split at ho
    · cases ho
      exact ⟨clean_push hmode hstack, trivial⟩
    · cases ho
  | afterMember entries =>
    refine clean_space hs ⟨hstack, hmode⟩ (fun ho => ?_)
    split at ho
    · cases ho
      exact ⟨hstack, hmode⟩
    · split at ho
      · cases ho
        exact clean_deliver hmode hstack
      · cases ho
  | ended v => exact clean_space hs ⟨hstack, hmode⟩ (fun ho => by cases ho)
  | string purpose text =>
    unfold stepOn at hs
    dsimp only at hs
    split at hs
    · cases hs
      exact clean_finishString text hmode hstack
    · repeat' split at hs
      all_goals cases hs <;> exact ⟨hstack, hmode⟩
  | escaped purpose text =>
    unfold stepOn at hs
    dsimp only at hs
    split at hs
    · cases hs
      exact ⟨hstack, hmode⟩
    · obtain ⟨d, -, rfl⟩ := Option.map_eq_some_iff.mp hs
      exact ⟨hstack, hmode⟩
  | unicode purpose text high count value =>
    obtain ⟨d, -, hd⟩ := Option.bind_eq_some_iff.mp hs
    split at hd
    · cases hd
      exact ⟨hstack, hmode⟩
    · obtain ⟨mode, hm, rfl⟩ := Option.map_eq_some_iff.mp hd
      exact ⟨hstack, clean_finishUnicode hm hmode⟩
  | lowSurrogate purpose text high backslash =>
    unfold stepOn at hs
    dsimp only at hs
    repeat' split at hs
    all_goals cases hs <;> exact ⟨hstack, hmode⟩
  | literal rest v =>
    unfold stepOn at hs
    dsimp only at hs
    split at hs
    · cases hs
    · split at hs
      · cases hs
        exact clean_deliver hmode hstack
      · cases hs
    · split at hs
      · cases hs
        exact ⟨hstack, hmode⟩
      · cases hs
  | number phase text => cases hs

/-- **One character keeps everything that is open well formed.** -/
theorem clean_step {c : Char} (h : Clean s) (hs : step printDouble s c = some t) : Clean t := by
  unfold step at hs
  split at hs
  · rename_i phase text hmode
    split at hs
    · cases hs
      exact ⟨h.stack, trivial⟩
    · split at hs
      · exact clean_stepOn (clean_deliver (wellFormed_numberOf phase text) h.stack) hs
      · cases hs
  · exact clean_stepOn h hs

theorem wellFormed_read (cs : List Char) : ∀ (s : State) (v : Json), Clean s →
    read printDouble s cs = some v → WellFormed True v := by
  induction cs with
  | nil =>
    intro s v h hv
    obtain ⟨stack, mode⟩ := s
    unfold read finish at hv
    dsimp only at hv
    split at hv
    · cases hv
      exact h.mode
    · split at hv
      · cases hv
        exact wellFormed_numberOf _ _
      · cases hv
    · cases hv
  | cons c cs ih =>
    intro s v h hv
    obtain ⟨t, ht, hread⟩ := Option.bind_eq_some_iff.mp hv
    exact ih t v (clean_step h ht) hread

/-- **A decoded value is well formed**, whatever the text. -/
theorem wellFormed_jsonDecode {source : String} {v : Json}
    (h : jsonDecode printDouble source = .ok v) : WellFormed True v := by
  unfold jsonDecode at h
  split at h
  · rename_i w hread
    cases h
    exact wellFormed_read _ ⟨[], .value⟩ _ ⟨fun _ hf => (by cases hf), trivial⟩ hread
  · cases h

end GoodOmens.JsonText
