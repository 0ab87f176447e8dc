import GoodOmens.Services.JsonText

/-!
# Reading back what was written

`read_encode` says that the decoder, where a value is due, takes the text of a value for
that value, whatever is open on its stack and whatever follows.  It goes by the structure
of the value; the parts before it do the same for a string, character by character, and
for an integer, digit by digit.  An integer alone needs a condition on what follows, since
its text does not say where it ends (`Stops`).

A value can be read back if it is well formed and has no `double` (`Plain`).  The program
encodes nothing else: maps of strings and of integers that fit in 64 bits.
-/

namespace GoodOmens.JsonText

mutual

/-- The integers fit in 64 bits, and no map has a key twice.  Whether there may be a
`double` is said by `doubles`. -/
def WellFormed (doubles : Prop) : Json → Prop
  | .null | .bool _ | .str _ => True
  | .int n => InRange n
  | .double _ => doubles
  | .arr elements => WellFormedElements doubles elements
  | .obj entries => (entries.map Prod.fst).Nodup ∧ WellFormedEntries doubles entries

def WellFormedElements (doubles : Prop) : List Json → Prop
  | [] => True
  | j :: js => WellFormed doubles j ∧ WellFormedElements doubles js

def WellFormedEntries (doubles : Prop) : List (String × Json) → Prop
  | [] => True
  | (_, j) :: js => WellFormed doubles j ∧ WellFormedEntries doubles js

end

/-- A value that its text stands for. -/
abbrev Plain : Json → Prop := WellFormed False

/-- What follows does not go on with a number. -/
def Stops (cs : List Char) : Prop := ∀ phase : Phase, ∀ c ∈ cs.head?, phase.next c = none

theorem stops_nil : Stops [] := fun _ _ hc => by cases hc

variable {printDouble : String → String} {stack : List Frame} {purpose : Purpose}
  {cs text : List Char}

/-! ### Strings -/

theorem read_cons (s : State) (c : Char) (cs : List Char) :
    read printDouble s (c :: cs) = (step printDouble s c).bind (fun s => read printDouble s cs) := rfl

theorem hexDigit_digitChar : ∀ n < 16, hexDigit n.digitChar = some n := by decide

/-- The escape of a control character. -/
theorem read_escapeUnicode {c : Char} (h : c.toNat < 32) :
    read printDouble ⟨stack, .string purpose text⟩ (escapeUnicode c ++ cs) =
      read printDouble ⟨stack, .string purpose (text ++ [c])⟩ cs := by
  have hzero : hexDigit '0' = some 0 := by decide
  have hhigh := hexDigit_digitChar (c.toNat / 16) (by omega)
  have hlow := hexDigit_digitChar (c.toNat % 16) (by omega)
  have hvalue : 16 * (c.toNat / 16) + c.toNat % 16 = c.toNat := Nat.div_add_mod _ _
  have hfinish : finishUnicode purpose text none c.toNat =
      some (.string purpose (text ++ [c])) := by
    have hno : isHighSurrogate c.toNat = false := by simp [isHighSurrogate]; omega
    have hno' : isLowSurrogate c.toNat = false := by simp [isLowSurrogate]; omega
    rw [finishUnicode]
    simp only [hno, hno', Bool.false_eq_true, if_false, Char.ofNat_toNat]
  simp [escapeUnicode, read_cons, step, stepOn, hzero, hhigh, hlow, hvalue, hfinish]

/-- One character of a string. -/
theorem read_escape (c : Char) : read printDouble ⟨stack, .string purpose text⟩ (escape c ++ cs) =
    read printDouble ⟨stack, .string purpose (text ++ [c])⟩ cs := by
  unfold escape
  by_cases hquote : c = '"'
  · subst hquote
    rfl
  by_cases hbackslash : c = '\\'
  · subst hbackslash
    rfl
  rw [if_neg hquote, if_neg hbackslash]
  by_cases hcontrol : c.toNat < 32
  · rw [if_pos hcontrol]
    split
    · rename_i hc
      obtain rfl : c = Char.ofNat 8 := by rw [← hc, Char.ofNat_toNat]
      rfl
    · split
      · rename_i hc
        subst hc
        rfl
      · split
        · rename_i hc
          subst hc
          rfl
        · split
          · rename_i hc
            obtain rfl : c = Char.ofNat 12 := by rw [← hc, Char.ofNat_toNat]
            rfl
          · split
            · rename_i hc
              subst hc
              rfl
            · exact read_escapeUnicode hcontrol
  · rw [if_neg hcontrol, List.singleton_append, read_cons]
    simp [step, stepOn, hquote, hbackslash, hcontrol]

theorem read_escapes (str : List Char) : ∀ text : List Char,
    read printDouble ⟨stack, .string purpose text⟩ (str.flatMap escape ++ cs) =
      read printDouble ⟨stack, .string purpose (text ++ str)⟩ cs := by
  induction str with
  | nil => intro text; rw [List.append_nil]; rfl
  | cons c str ih =>
    intro text
    rw [List.flatMap_cons, List.append_assoc, read_escape, ih, List.append_assoc]
    rfl

/-- A string, its opening quote read. -/
theorem read_string (s : String) :
    read printDouble ⟨stack, .string purpose []⟩ (s.toList.flatMap escape ++ '"' :: cs) =
      read printDouble (finishString purpose s.toList stack) cs := by
  rw [read_escapes]
  rfl

/-! ### Integers -/

/-- The digits of a positive number start with one that is no zero. -/
theorem toDigits_pos (n : Nat) (h : 0 < n) : ∃ k ds, 0 < k ∧ k < 10 ∧
    Nat.toDigits 10 n = k.digitChar :: ds := by
  induction n using Nat.strongRecOn with
  | ind n ih =>
    by_cases hn : n < 10
    · exact ⟨n, [], h, hn, Nat.toDigits_of_lt_base hn⟩
    · obtain ⟨k, ds, hk, hk', hds⟩ := ih (n / 10) (by omega) (by omega)
      refine ⟨k, ds ++ [Nat.digitChar (n % 10)], hk, hk', ?_⟩
      rw [Nat.toDigits_of_base_le (by decide) (by omega), hds, List.cons_append]

theorem isDigit_of_mem {n : Nat} {c : Char} (h : c ∈ Nat.toDigits 10 n) : c.isDigit :=
  Nat.isDigit_of_mem_toDigits (by decide) (by decide) h

theorem intOf_toDigits (n : Nat) : intOf (Nat.toDigits 10 n) = n := by
  have hvalue : (Nat.ofDigitChars 10 (Nat.toDigits 10 n) 0 : Int) = n := by
    rw [Nat.ofDigitChars_ten_toDigits]
  have hminus : '-' ∉ Nat.toDigits 10 n := fun h => absurd (isDigit_of_mem h) (by decide)
  cases hd : Nat.toDigits 10 n with
  | nil => exact absurd hd Nat.toDigits_ne_nil
  | cons c cs =>
    rw [hd] at hvalue hminus
    unfold intOf
    split
    · rename_i ds heq
      rw [heq] at hminus
      exact (hminus List.mem_cons_self).elim
    · exact hvalue

theorem intOf_minus (n : Nat) : intOf ('-' :: Nat.toDigits 10 n) = -n := by
  rw [intOf, Nat.ofDigitChars_ten_toDigits]

/-- The digits of a number, up to what follows them. -/
theorem read_digits (ds : List Char) (hds : ∀ d ∈ ds, d.isDigit) : ∀ text : List Char,
    read printDouble ⟨stack, .number .digits text⟩ (ds ++ cs) =
      read printDouble ⟨stack, .number .digits (text ++ ds)⟩ cs := by
  induction ds with
  | nil => intro text; rw [List.append_nil]; rfl
  | cons d ds ih =>
    intro text
    have hd : d.isDigit = true := hds d List.mem_cons_self
    have hnext : Phase.digits.next d = some .digits := by simp [Phase.next, hd]
    rw [List.cons_append, read_cons, step]
    simp only [hnext, Option.bind_some]
    rw [ih (fun d h => hds d (List.mem_cons_of_mem _ h)), List.append_assoc]
    rfl

/-- After a value no number is being read. -/
theorem step_deliver (v : Json) (c : Char) :
    step printDouble (deliver v stack) c = stepOn (deliver v stack) c := by
  cases stack with
  | nil => rfl
  | cons frame stack => cases frame <;> rfl

theorem finish_deliver (v : Json) (frame : Frame) :
    finish printDouble (deliver v (frame :: stack)) = none := by
  cases frame <;> rfl

/-- A number ends where its text cannot go on. -/
theorem read_stop {phase : Phase} (hphase : phase.isFinal = true) (hcs : Stops cs) :
    read printDouble ⟨stack, .number phase text⟩ cs =
      read printDouble (deliver (numberOf printDouble phase text) stack) cs := by
  cases cs with
  | nil =>
    cases stack with
    | nil => exact if_pos hphase
    | cons frame stack => exact (finish_deliver _ frame).symm
  | cons c cs =>
    have hnext : phase.next c = none := hcs phase c rfl
    rw [read_cons, read_cons, step_deliver, step]
    simp only [hnext, hphase, if_true]

theorem step_digit : ∀ k, 0 < k → k < 10 → step printDouble ⟨stack, .value⟩ k.digitChar =
    some ⟨stack, .number .digits [k.digitChar]⟩ := by
  intro k hpos hlt
  match k, hlt with
  | 1, _ | 2, _ | 3, _ | 4, _ | 5, _ | 6, _ | 7, _ | 8, _ | 9, _ => rfl

theorem next_minus : ∀ k, 0 < k → k < 10 → Phase.minus.next k.digitChar = some .digits := by
  intro k hpos hlt
  match k, hlt with
  | 1, _ | 2, _ | 3, _ | 4, _ | 5, _ | 6, _ | 7, _ | 8, _ | 9, _ => rfl

/-- The text of an integer, where a value is due. -/
theorem read_int {n : Int} (hn : InRange n) (hcs : Stops cs) :
    read printDouble ⟨stack, .value⟩ (encodeInt n ++ cs) =
      read printDouble (deliver (.int n) stack) cs := by
  have hnumber : ∀ phase ds, phase.isInt = true → phase.isFinal = true → intOf ds = n →
      read printDouble ⟨stack, .number phase ds⟩ cs =
        read printDouble (deliver (.int n) stack) cs := by
    intro phase ds hint hfinal hds
    rw [read_stop hfinal hcs, numberOf, hds, if_pos ⟨hint, hn⟩]
  by_cases hzero : n = 0
  · subst hzero
    exact hnumber .zero ['0'] rfl rfl rfl
  obtain ⟨k, ds, hk, hk', hds⟩ := toDigits_pos n.natAbs (by omega)
  have hall : ∀ d ∈ ds, d.isDigit := by
    intro d hd
    have hmem : d ∈ Nat.toDigits 10 n.natAbs := hds ▸ List.mem_cons_of_mem _ hd
    exact isDigit_of_mem hmem
  by_cases hneg : n < 0
  · have hvalue : intOf (['-', k.digitChar] ++ ds) = n := by
      show intOf ('-' :: k.digitChar :: ds) = n
      rw [← hds, intOf_minus]
      omega
    have hstep : step printDouble ⟨stack, .number .minus ['-']⟩ k.digitChar =
        some ⟨stack, .number .digits ['-', k.digitChar]⟩ := by
      rw [step]
      simp only [next_minus k hk hk']
      rfl
    rw [encodeInt, if_pos hneg, hds]
    show (step printDouble ⟨stack, .number .minus ['-']⟩ k.digitChar).bind
      (fun s => read printDouble s (ds ++ cs)) = _
    rw [hstep, Option.bind_some, read_digits ds hall]
    exact hnumber .digits _ rfl rfl hvalue
  · have hvalue : intOf ([k.digitChar] ++ ds) = n := by
      show intOf (k.digitChar :: ds) = n
      rw [← hds, intOf_toDigits]
      omega
    rw [encodeInt, if_neg hneg, hds, List.nil_append, List.cons_append, read_cons]
    rw [step_digit k hk hk', Option.bind_some, read_digits ds hall]
    exact hnumber .digits _ rfl rfl hvalue

/-! ### Values -/

/-- A comma and the closing brackets end a number. -/
theorem stops_cons {c : Char} (h : c = ',' ∨ c = ']' ∨ c = '\x7d') : Stops (c :: cs) := by
  intro phase d hd
  obtain rfl := Option.some.inj hd
  rcases h with rfl | rfl | rfl <;> cases phase <;> rfl

/-- The text of a value starts with no bracket that closes a list, and with no space. -/
theorem encode_cons {v : Json} (h : Plain v) :
    ∃ c rest, encode v = c :: rest ∧ c ≠ ']' ∧ isSpace c = false := by
  cases v with
  | null => exact ⟨_, _, rfl, by decide, by decide⟩
  | bool b => cases b <;> exact ⟨_, _, rfl, by decide, by decide⟩
  | int n =>
    rw [encode, encodeInt]
    by_cases hneg : n < 0
    · rw [if_pos hneg]
      exact ⟨'-', _, rfl, by decide, by decide⟩
    · rw [if_neg hneg, List.nil_append]
      cases hd : Nat.toDigits 10 n.natAbs with
      | nil => exact absurd hd Nat.toDigits_ne_nil
      | cons c rest =>
        have hc : c.isDigit = true := by
          refine isDigit_of_mem (n := n.natAbs) ?_
          rw [hd]
          exact List.mem_cons_self
        refine ⟨c, rest, rfl, ?_, ?_⟩
        · rintro rfl
          cases hc
        · refine Bool.eq_false_iff.mpr (fun hspace => ?_)
          simp only [isSpace, Bool.or_eq_true, decide_eq_true_eq] at hspace
          rcases hspace with ((rfl | rfl) | rfl) | rfl <;> cases hc
  | double text => exact absurd h id
  | str s => exact ⟨_, _, rfl, by decide, by decide⟩
  | arr js => cases js <;> exact ⟨_, _, rfl, by decide, by decide⟩
  | obj js =>
    cases js with
    | nil => exact ⟨_, _, rfl, by decide, by decide⟩
    | cons e js => exact ⟨_, _, rfl, by decide, by decide⟩

/-- The first element of a list is read as any other value. -/
theorem read_firstElement {v : Json} (h : Plain v) :
    read printDouble ⟨stack, .firstElement⟩ (encode v ++ cs) =
      read printDouble ⟨.arr [] :: stack, .value⟩ (encode v ++ cs) := by
  obtain ⟨c, rest, hv, hclose, hspace⟩ := encode_cons h
  rw [hv, List.cons_append, read_cons, read_cons]
  simp [step, stepOn, hclose, hspace]

theorem stops_elements (js : List Json) : Stops (encodeElements js ++ ']' :: cs) := by
  cases js with
  | nil => exact stops_cons (.inr (.inl rfl))
  | cons j js => exact stops_cons (.inl rfl)

theorem stops_entries (js : List (String × Json)) : Stops (encodeEntries js ++ '\x7d' :: cs) := by
  cases js with
  | nil => exact stops_cons (.inr (.inr rfl))
  | cons e js => exact stops_cons (.inl rfl)

/-- A new key comes after the others. -/
theorem setEntry_of_not_mem {entries : List (String × Json)} {key : String} {v : Json}
    (h : key ∉ entries.map Prod.fst) : setEntry entries key v = entries ++ [(key, v)] := if_neg h

/-- An entry, the opening quote of its key read, when its value is read back. -/
theorem read_member {entries : List (String × Json)} {key : String} {v : Json}
    (hv : ∀ (stack : List Frame) (cs : List Char), Stops cs →
      read printDouble ⟨stack, .value⟩ (encode v ++ cs) = read printDouble (deliver v stack) cs)
    (hkey : key ∉ entries.map Prod.fst) (hcs : Stops cs) :
    read printDouble ⟨stack, .string (.key entries) []⟩
        (key.toList.flatMap escape ++ '"' :: ':' :: (encode v ++ cs)) =
      read printDouble ⟨stack, .afterMember (entries ++ [(key, v)])⟩ cs := by
  rw [read_string, finishString, String.ofList_toList]
  show read printDouble ⟨.obj entries key :: stack, .value⟩ (encode v ++ cs) = _
  rw [hv _ _ hcs, deliver, setEntry_of_not_mem hkey]

mutual

/-- **The text of a value is read as the value**, whatever is open and whatever follows. -/
theorem read_encode : ∀ (v : Json), Plain v → ∀ (stack : List Frame) (cs : List Char), Stops cs →
    read printDouble ⟨stack, .value⟩ (encode v ++ cs) = read printDouble (deliver v stack) cs
  | .null, _, _, _, _ => rfl
  | .bool true, _, _, _, _ => rfl
  | .bool false, _, _, _, _ => rfl
  | .int n, h, _, _, hcs => read_int h hcs
  | .double _, h, _, _, _ => absurd h id
  | .str s, _, stack, cs, _ => by
    have hstring := @read_string printDouble stack .value cs s
    rw [finishString, String.ofList_toList] at hstring
    rw [encode, encodeString, List.cons_append, List.append_assoc]
    exact hstring
  | .arr [], _, _, _, _ => rfl
  | .arr (j :: js), h, stack, cs, _ => by
    have hjs := read_elements js h.2 stack [j] cs
    rw [encode, List.cons_append, List.append_assoc, List.append_assoc]
    show read printDouble ⟨stack, .firstElement⟩ _ = _
    rw [read_firstElement h.1, List.singleton_append, read_encode j h.1 _ _ (stops_elements js)]
    exact hjs
  | .obj [], _, _, _, _ => rfl
  | .obj ((k, j) :: js), h, stack, cs, _ => by
    obtain ⟨hkeys, hj, hjs⟩ := h
    rw [encode, encodeString]
    simp only [List.cons_append, List.append_assoc, List.nil_append]
    show read printDouble ⟨stack, .string (.key []) []⟩ _ = _
    rw [read_member (read_encode j hj) List.not_mem_nil (stops_entries js)]
    exact read_entries js hjs stack [(k, j)] cs hkeys

/-- The rest of a list. -/
theorem read_elements : ∀ (js : List Json), WellFormedElements False js → ∀ (stack : List Frame)
    (elements : List Json) (cs : List Char),
    read printDouble ⟨stack, .afterElement elements⟩ (encodeElements js ++ ']' :: cs) =
      read printDouble (deliver (.arr (elements ++ js)) stack) cs
  | [], _, stack, elements, cs => by
    rw [List.append_nil]
    rfl
  | j :: js, h, stack, elements, cs => by
    have hjs := read_elements js h.2 stack (elements ++ [j]) cs
    rw [List.append_assoc, List.singleton_append] at hjs
    rw [encodeElements, List.cons_append, List.append_assoc]
    show read printDouble ⟨.arr elements :: stack, .value⟩ _ = _
    rw [read_encode j h.1 _ _ (stops_elements js)]
    exact hjs

/-- The rest of a map. -/
theorem read_entries : ∀ (js : List (String × Json)), WellFormedEntries False js → ∀ (stack : List Frame)
    (entries : List (String × Json)) (cs : List Char), ((entries ++ js).map Prod.fst).Nodup →
    read printDouble ⟨stack, .afterMember entries⟩ (encodeEntries js ++ '\x7d' :: cs) =
      read printDouble (deliver (.obj (entries ++ js)) stack) cs
  | [], _, stack, entries, cs, _ => by
    rw [List.append_nil]
    rfl
  | (k, j) :: js, h, stack, entries, cs, hkeys => by
    have hkey : k ∉ entries.map Prod.fst := by
      rw [List.map_append, List.nodup_append] at hkeys
      intro hk
      exact hkeys.2.2 k hk k List.mem_cons_self rfl
    rw [List.append_cons] at hkeys ⊢
    rw [encodeEntries, encodeString]
    simp only [List.cons_append, List.append_assoc, List.nil_append]
    show read printDouble ⟨stack, .string (.key entries) []⟩ _ = _
    rw [read_member (read_encode j h.1) hkey (stops_entries js),
      read_entries js h.2 stack (entries ++ [(k, j)]) cs hkeys, List.append_assoc]
    rfl

end

variable (printDouble) in
/-- **What was encoded is decoded again.** -/
theorem jsonDecode_jsonEncode {v : Json} (h : Plain v) :
    jsonDecode printDouble (jsonEncode v) = .ok v := by
  have hread := @read_encode printDouble v h [] [] stops_nil
  rw [List.append_nil] at hread
  rw [jsonDecode, jsonEncode, String.toList_ofList, hread]
  rfl

end GoodOmens.JsonText
