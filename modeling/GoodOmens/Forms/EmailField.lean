import GoodOmens.Forms.Submitted
import GoodOmens.Library.Machine
import GoodOmens.Library.Pattern

/-!
# The check mark of the email field

`LoginWidget`, `SignUpWidget` and `ForgotPasswordPage` listen to their email field in the same
way: `_onEmailChanged` matches the text against a regular expression and shows a check mark.
The expression is a row of repeated classes (`Library/Pattern.lean`), anchored at both ends.

In every run of the field the check mark stands by an address and by nothing else
(`along_checked_iff`).  An address has no white space, so what a form submits while the check
mark is shown is the very text that is seen (`along_submitsShown`).
-/

namespace GoodOmens.Forms

/-! ### The regular expression -/

/-- `[a-zA-Z]`. -/
def isLetter (c : Char) : Bool := 'a' ≤ c && c ≤ 'z' || 'A' ≤ c && c ≤ 'Z'

/-- `[0-9]`. -/
def isDigit (c : Char) : Bool := '0' ≤ c && c ≤ '9'

/-- `[a-zA-Z0-9.a-zA-Z0-9._%-]`, where some of it stands twice. -/
def isLocal (c : Char) : Bool :=
  isLetter c || isDigit c || c = '.' || c = '_' || c = '%' || c = '-'

/-- `[a-zA-Z0-9.-]`. -/
def isDomain (c : Char) : Bool := isLetter c || isDigit c || c = '.' || c = '-'

/-- The expression of the three listeners, without its anchors. -/
def emailRegex : Pattern Char :=
  [.plus isLocal, .one (· = '@'), .plus isDomain, .one (· = '.'), ⟨isLetter, 2, some 4⟩]

/-- `regex.hasMatch(email)`. -/
def hasMatch (email : String) : Bool := emailRegex.isMatch email.toList

/-! ### The field -/

/-- The text of `emailController`, and `_isEmailChecked`. -/
structure EmailField where
  text : String
  isEmailChecked : Bool
deriving DecidableEq, Repr

/-- `_onEmailChanged`. -/
def EmailField.onEmailChanged (field : EmailField) : EmailField :=
  if hasMatch field.text then { field with isEmailChecked := true }
  else { field with isEmailChecked := false }

/-- The field of a page that is opened. -/
def EmailField.opened : EmailField := ⟨"", false⟩

/-- The field, whose text is set by the user; the controller tells its listener each time. -/
def emailField : Machine EmailField String Unit where
  start field := field = EmailField.opened
  step field text := some ({ field with text := text }.onEmailChanged, [])

/-! ### Addresses -/

/-- A name, an `@`, a domain, a dot and two to four letters. -/
def IsAddress (email : String) : Prop :=
  ∃ name domain top : List Char, email.toList = name ++ '@' :: (domain ++ '.' :: top) ∧
    (name ≠ [] ∧ ∀ c ∈ name, isLocal c) ∧ (domain ≠ [] ∧ ∀ c ∈ domain, isDomain c) ∧
    (∀ c ∈ top, isLetter c) ∧ 2 ≤ top.length ∧ top.length ≤ 4

theorem fits_plus {accepts : Char → Bool} {w : List Char} :
    (Item.plus accepts).Fits w ↔ w ≠ [] ∧ ∀ c ∈ w, accepts c := by
  constructor
  · intro h
    exact ⟨List.length_pos_iff.mp h.least, h.accepts⟩
  · rintro ⟨hne, hw⟩
    exact ⟨hw, List.length_pos_iff.mpr hne, fun m hm => by cases hm⟩

theorem fits_one {d : Char} {w : List Char} :
    (Item.one (· = d)).Fits w ↔ w = [d] := by
  constructor
  · intro h
    obtain ⟨c, rfl⟩ := List.length_eq_one_iff.mp (Nat.le_antisymm (h.most 1 rfl) h.least)
    exact congrArg (fun c => [c]) (of_decide_eq_true (h.accepts c List.mem_cons_self))
  · rintro rfl
    refine ⟨?_, Nat.le_refl _, ?_⟩
    · intro c hc
      exact decide_eq_true (List.mem_singleton.mp hc)
    · intro m hm
      obtain rfl := Option.some.inj hm
      exact Nat.le_refl _

theorem fits_nil_iff {cs : List Char} : Pattern.Fits [] cs ↔ cs = [] := by
  constructor
  · intro h
    cases h
    rfl
  · rintro rfl
    exact .nil

/-- **The expression matches the addresses.** -/
theorem hasMatch_iff {email : String} : hasMatch email = true ↔ IsAddress email := by
  unfold hasMatch emailRegex IsAddress
  rw [Pattern.isMatch_iff]
  constructor
  · intro h
    obtain ⟨name, rest₁, hname, h₁, he⟩ := Pattern.fits_cons_iff.mp h
    obtain ⟨at', rest₂, hat, h₂, rfl⟩ := Pattern.fits_cons_iff.mp h₁
    obtain ⟨domain, rest₃, hdomain, h₃, rfl⟩ := Pattern.fits_cons_iff.mp h₂
    obtain ⟨dot, rest₄, hdot, h₄, rfl⟩ := Pattern.fits_cons_iff.mp h₃
    obtain ⟨top, rest₅, htop, h₅, rfl⟩ := Pattern.fits_cons_iff.mp h₄
    obtain rfl := fits_one.mp hat
    obtain rfl := fits_one.mp hdot
    obtain rfl := fits_nil_iff.mp h₅
    refine ⟨name, domain, top, ?_, fits_plus.mp hname, fits_plus.mp hdomain, htop.accepts,
      htop.least, htop.most 4 rfl⟩
    rw [he, List.append_nil]
    rfl
  · rintro ⟨name, domain, top, he, hname, hdomain, htop, hleast, hmost⟩
    have hitem : (⟨isLetter, 2, some 4⟩ : Item Char).Fits top := by
      refine ⟨htop, hleast, ?_⟩
      intro m hm
      obtain rfl := Option.some.inj hm
      exact hmost
    have hcut : email.toList = name ++ (['@'] ++ (domain ++ (['.'] ++ (top ++ [])))) := by
      rw [he, List.append_nil]
      rfl
    rw [hcut]
    exact .cons (fits_plus.mpr hname) (.cons (fits_one.mpr rfl) (.cons (fits_plus.mpr hdomain)
      (.cons (fits_one.mpr rfl) (.cons hitem .nil))))

/-- A blank at the end spoils it. -/
example : hasMatch "adam@eden.org" = true ∧ hasMatch "adam@eden.org " = false := by decide

/-! ### An address is submitted as it is -/

theorem toNat_of_isLetter {c : Char} (h : isLetter c = true) :
    97 ≤ c.toNat ∧ c.toNat ≤ 122 ∨ 65 ≤ c.toNat ∧ c.toNat ≤ 90 := by
  simpa [isLetter, Char.le_def, UInt32.le_iff_toNat_le] using h

theorem toNat_of_isDigit {c : Char} (h : isDigit c = true) : 48 ≤ c.toNat ∧ c.toNat ≤ 57 := by
  simpa [isDigit, Char.le_def, UInt32.le_iff_toNat_le] using h

/-- A symbol of an address is visible. -/
theorem toNat_of_mem {email : String} (h : IsAddress email) {c : Char} (hc : c ∈ email.toList) :
    33 ≤ c.toNat ∧ c.toNat ≤ 126 := by
  have hclass : isLetter c ∨ isDigit c ∨ c = '.' ∨ c = '_' ∨ c = '%' ∨ c = '-' ∨ c = '@' := by
    obtain ⟨item, hitem, ha⟩ := (Pattern.isMatch_iff.mp (hasMatch_iff.mpr h)).accepted hc
    simp only [emailRegex, List.mem_cons, List.not_mem_nil, or_false] at hitem
    rcases hitem with rfl | rfl | rfl | rfl | rfl
    · simp only [Item.plus, isLocal, Bool.or_eq_true, decide_eq_true_eq] at ha
      grind
    · simp only [Item.one, decide_eq_true_eq] at ha
      grind
    · simp only [Item.plus, isDomain, Bool.or_eq_true, decide_eq_true_eq] at ha
      grind
    · simp only [Item.one, decide_eq_true_eq] at ha
      grind
    · exact .inl ha
  rcases hclass with h | h | rfl | rfl | rfl | rfl | rfl
  · have := toNat_of_isLetter h
    omega
  · have := toNat_of_isDigit h
    omega
  all_goals decide

theorem isWhitespace_of_toNat {c : Char} (h : 33 ≤ c.toNat ∧ c.toNat ≤ 126) :
    isWhitespace c = false := by
  simp [isWhitespace]
  omega

theorem dropWhile_isWhitespace {cs : List Char} (h : ∀ c ∈ cs, isWhitespace c = false) :
    cs.dropWhile isWhitespace = cs := by
  cases cs with
  | nil => rfl
  | cons c cs => rw [List.dropWhile_cons, h c List.mem_cons_self, if_neg Bool.false_ne_true]

/-- There is nothing to take off. -/
theorem trim_of_isAddress {email : String} (h : IsAddress email) : trim email = email := by
  have hvisible : ∀ c ∈ email.toList, isWhitespace c = false :=
    fun c hc => isWhitespace_of_toNat (toNat_of_mem h hc)
  unfold trim
  dsimp only
  rw [dropWhile_isWhitespace hvisible,
    dropWhile_isWhitespace (fun c hc => hvisible c (List.mem_reverse.mp hc)),
    List.reverse_reverse, String.ofList_toList]

/-- An address has one `@`. -/
theorem count_at_of_isAddress {email : String} (h : IsAddress email) :
    email.toList.count '@' = 1 := by
  obtain ⟨name, domain, top, he, hname, hdomain, htop, -⟩ := h
  have hno {p : Char → Bool} {w : List Char} (hw : ∀ c ∈ w, p c) (hat : p '@' = false) :
      w.count '@' = 0 := by
    refine List.count_eq_zero.mpr (fun hmem => ?_)
    have hp := hw _ hmem
    rw [hat] at hp
    cases hp
  rw [he, List.count_append, List.count_cons_self, List.count_append,
    List.count_cons_of_ne (by decide), hno hname.2 (by decide), hno hdomain.2 (by decide),
    hno htop (by decide)]

/-! ### The main results -/

/-- What the listener leaves. -/
theorem checked_iff {field field' : EmailField} {text : String} {es : List Unit}
    (h : emailField.step field text = some (field', es)) :
    field'.isEmailChecked = true ↔ IsAddress field'.text := by
  obtain ⟨rfl, -⟩ := Prod.mk.inj (Option.some.inj h)
  unfold EmailField.onEmailChanged
  rw [← hasMatch_iff]
  split
  · rename_i hm
    exact iff_of_true rfl hm
  · rename_i hm
    exact iff_of_false Bool.false_ne_true hm

/-- **The check mark stands by an address and by nothing else**, whatever is typed. -/
theorem along_checked_iff (texts : List String) :
    emailField.Along (fun _ _ field _ => field.isEmailChecked = true ↔ IsAddress field.text)
      EmailField.opened texts := by
  refine Machine.along_of_keeps (fun _ => True) ?_ texts EmailField.opened trivial
  intro field text field' es _ h
  exact ⟨checked_iff h, trivial⟩

namespace Submission

variable {validate : String → Bool} {fields : TextFields} {p : Submission} {c : FirebaseCall}

/-- Every call passes the trimmed text of the email field. -/
theorem email_of_mem_calls (h : c ∈ p.calls validate fields) : c.email = trim fields.email := by
  cases p with
  | signIn outcome =>
    obtain rfl := List.mem_singleton.mp h
    rfl
  | resetPassword outcome =>
    obtain rfl := List.mem_singleton.mp h
    rfl
  | signUp outcome signInMethods =>
    have hcalls : c ∈ if isValid validate fields then signUpCalls fields outcome else [] := h
    split at hcalls
    · unfold signUpCalls at hcalls
      rcases List.mem_cons.mp hcalls with rfl | hfetch
      · rfl
      · split at hfetch
        · split at hfetch
          · obtain rfl := List.mem_singleton.mp hfetch
            rfl
          · cases hfetch
        · cases hfetch
    · cases hcalls

end Submission

/-- **What is submitted beside the check mark is the text that is seen**, with one `@`. -/
theorem along_submitsShown (texts : List String) :
    emailField.Along (fun _ _ field _ => field.isEmailChecked = true →
      ∀ (validate : String → Bool) (fields : TextFields) (i : Nat) (p : Submission)
        (s : FormState), fields.email = field.text → (s.nav.find i).isSome →
          ∀ c ∈ ((p.run validate fields i).exec s).2.calls.drop s.calls.length,
            c.email = field.text ∧ c.email.toList.count '@' = 1)
      EmailField.opened texts := by
  refine Machine.along_of_keeps (fun _ => True) ?_ texts EmailField.opened trivial
  intro field text field' es _ h
  refine ⟨?_, trivial⟩
  intro hchecked validate fields i p s hemail hi c hc
  have haddress : IsAddress field'.text := (checked_iff h).mp hchecked
  rw [Submission.calls_run hi, List.drop_left] at hc
  rw [Submission.email_of_mem_calls hc, hemail, trim_of_isAddress haddress]
  exact ⟨rfl, count_at_of_isAddress haddress⟩

end GoodOmens.Forms
