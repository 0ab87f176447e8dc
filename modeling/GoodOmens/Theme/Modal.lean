import GoodOmens.Library.Machine
import GoodOmens.Services.User
import GoodOmens.Theme.Background

/-!
# Choosing a theme

The theme modal has a carousel of images.  Which one is chosen stands in two
variables called `_currentIndex`, one of the modal's file (`modalIndex`) and one of
the carousel's (`swiperIndex`).  They belong to no widget: they outlive the modal,
the page and the account, and only a page change of the carousel writes them.

So a modal that was opened and confirmed without a page change saves the image of
an earlier one.  `along_confirmsCentred_iff` says that this is the only way to save
another image than the one in the middle.

`confirm` waits for the backend and then reads `modalIndex` again.  It takes every
result but `"error"` for a success, a `null` too, which is what an exception comes
to.  `along_returnsStored_iff` says when the index that the modal hands back is
still the one that the backend has.
-/

namespace GoodOmens.Theme

/-- An open theme modal: `theme` is the one it was opened with, `centred` the image
in the middle of the carousel, `changed` whether that has ever changed. -/
structure Modal where
  serial : Nat
  theme : Int
  centred : Int
  changed : Bool
deriving DecidableEq, Repr

/-- `PreferenceSettingPage`. -/
structure PreferencePage where
  id : String
  currTheme : Int
deriving DecidableEq, Repr

/-- A request of `updateUserTheme` that is not answered yet, with the modal whose
`confirm` sent it. -/
structure Update where
  modal : Nat
  id : String
  theme : Int
deriving DecidableEq, Repr

/-- One preference page and one modal at a time.  The app can stack a second pair over
the first, since a verse that comes late is pushed over the modal and has a menu;
`Theme/Copies.lean` allows for it.  `leaving` are the modals that were popped and are
still moving out; their contexts are in the tree until they have.  `stored` is the
theme that the backend acknowledged last for a user. -/
structure Picker where
  modalIndex : Int
  swiperIndex : Int
  page : Option PreferencePage
  modal : Option Modal
  leaving : List Nat
  serials : Nat
  updates : List Update
  stored : String → Option Int

/-- The preference page is opened and left; a modal is opened on it; another image
comes to the middle of the carousel; a press of Confirm and of Cancel; the answer to
an update; a modal has moved out. -/
inductive Picker.Act
  | openPreference (id : String) (theme : Int)
  | closePreference
  | openModal
  | pageChanged (index : Nat)
  | confirm
  | cancel
  | updated (u : Update) (outcome : Outcome)
  | movedOut (serial : Nat)
deriving DecidableEq, Repr

/-- What a step sends to the backend, and what the modal hands to its page. -/
inductive Picker.Effect
  | updateUserTheme (id : String) (theme : Int)
  | returned (id : String) (index : Int)
deriving DecidableEq, Repr

namespace Picker

variable (s : Picker)

/-- The app has started. -/
def launched (stored : String → Option Int) : Picker where
  modalIndex := 0
  swiperIndex := 0
  page := none
  modal := none
  leaving := []
  serials := 0
  updates := []
  stored := stored

/-- `initState` of `PreferenceSettingPage`. -/
def openPreference (id : String) (theme : Int) : Option (Picker × List Effect) :=
  if s.page.isNone then some ({ s with page := some ⟨id, theme⟩ }, []) else none

def closePreference : Option (Picker × List Effect) :=
  if s.page.isSome ∧ s.modal.isNone then some ({ s with page := none }, []) else none

/-- `showThemeBottomModal` up to its `await`.  The carousel goes round, so it starts
at the image that `initialPage` comes to. -/
def openModal : Option (Picker × List Effect) :=
  match s.page, s.modal with
  | some p, none => some ({ s with
      modal := some
        { serial := s.serials
          theme := p.currTheme
          centred := p.currTheme % images.length
          changed := false }
      serials := s.serials + 1 }, [])
  | _, _ => none

/-- `onPageChanged`, and `onIndexChanged` which it calls. -/
def pageChanged (index : Nat) : Option (Picker × List Effect) :=
  match s.modal with
  | none => none
  | some m =>
    if index < images.length ∧ (index : Int) ≠ m.centred then
      some ({ s with
        swiperIndex := index
        modalIndex := index
        modal := some { m with centred := index, changed := true } }, [])
    else none

/-- `confirm` up to its `await`. -/
def confirm : Option (Picker × List Effect) :=
  match s.page, s.modal with
  | some p, some m => some (
      { s with updates := s.updates ++ [⟨m.serial, p.id, s.modalIndex⟩] },
      [.updateUserTheme p.id s.modalIndex])
  | _, _ => none

/-- The Cancel button, and the other ways to close the modal without an index. -/
def cancel : Option (Picker × List Effect) :=
  match s.modal with
  | none => none
  | some m => some ({ s with modal := none, leaving := m.serial :: s.leaving }, [])

/-- `Navigator.of(context).pop(_currentIndex)`, and the rest of
`showThemeBottomModal` when it is the modal that is popped.  Without an open modal
it is the page below. -/
def pop : Picker × List Effect :=
  match s.page, s.modal with
  | some p, some m => (
      { s with
        page := some { p with currTheme := s.modalIndex }
        modal := none
        leaving := m.serial :: s.leaving },
      [.returned p.id s.modalIndex])
  | _, _ => ({ s with page := none }, [])

/-- The contexts in the tree are those of the open modal and of those that are
leaving. -/
def Mounted (serial : Nat) : Prop :=
  (∃ m, s.modal = some m ∧ m.serial = serial) ∨ serial ∈ s.leaving

instance (serial : Nat) : Decidable (s.Mounted serial) :=
  match h : s.modal with
  | none => decidable_of_iff (serial ∈ s.leaving) (by simp [Mounted, h])
  | some m => decidable_of_iff (m.serial = serial ∨ serial ∈ s.leaving) (by simp [Mounted, h])

/-- What the backend has after an answer to an update. -/
def acknowledge (u : Update) (o : Outcome) : String → Option Int :=
  if o.Answered 200 then fun id => if id = u.id then some u.theme else s.stored id
  else s.stored

/-- The rest of `confirm`.  Both branches of its callback look something up from the
context, which throws when that is gone. -/
def updated (u : Update) (o : Outcome) : Option (Picker × List Effect) :=
  if u ∈ s.updates then
    let s := { s with updates := s.updates.erase u, stored := s.acknowledge u o }
    let value := UserService.updateUserTheme o
    if s.Mounted u.modal then
      if value = some "error" then some (s, [])
      else some s.pop
    else some (s, [])
  else none

def movedOut (serial : Nat) : Option (Picker × List Effect) :=
  if serial ∈ s.leaving then some ({ s with leaving := s.leaving.erase serial }, []) else none

def step : Picker.Act → Option (Picker × List Effect)
  | .openPreference id theme => s.openPreference id theme
  | .closePreference => s.closePreference
  | .openModal => s.openModal
  | .pageChanged index => s.pageChanged index
  | .confirm => s.confirm
  | .cancel => s.cancel
  | .updated u o => s.updated u o
  | .movedOut serial => s.movedOut serial

end Picker

/-- The theme modals of one run of the app. -/
def picker : Machine Picker Picker.Act Picker.Effect where
  start s := ∃ stored, s = .launched stored
  step := Picker.step

variable {s s' : Picker} {a : Picker.Act} {es : List Picker.Effect}

/-! ### What each handler can do -/

theorem Picker.openPreference_inv {id : String} {theme : Int}
    (h : s.openPreference id theme = some (s', es)) :
    s.page = none ∧ s' = { s with page := some ⟨id, theme⟩ } ∧ es = [] := by
  unfold Picker.openPreference at h
  split at h
  · rename_i hp
    cases h
    exact ⟨by simpa using hp, rfl, rfl⟩
  · cases h

theorem Picker.closePreference_inv (h : s.closePreference = some (s', es)) :
    s.modal = none ∧ s' = { s with page := none } ∧ es = [] := by
  unfold Picker.closePreference at h
  split at h
  · rename_i hc
    cases h
    exact ⟨by simpa using hc.2, rfl, rfl⟩
  · cases h

theorem Picker.openModal_inv (h : s.openModal = some (s', es)) :
    ∃ p, s.page = some p ∧ s.modal = none ∧ es = [] ∧ s' = { s with
      modal := some ⟨s.serials, p.currTheme, p.currTheme % images.length, false⟩
      serials := s.serials + 1 } := by
  unfold Picker.openModal at h
  split at h
  · rename_i p hp hm
    cases h
    exact ⟨p, hp, hm, rfl, rfl⟩
  · cases h

theorem Picker.pageChanged_inv {index : Nat} (h : s.pageChanged index = some (s', es)) :
    ∃ m, s.modal = some m ∧ index < images.length ∧ es = [] ∧ s' = { s with
      swiperIndex := index
      modalIndex := index
      modal := some { m with centred := index, changed := true } } := by
  unfold Picker.pageChanged at h
  split at h
  · cases h
  · rename_i m hm
    split at h
    · rename_i hc
      cases h
      exact ⟨m, hm, hc.1, rfl, rfl⟩
    · cases h

theorem Picker.confirm_inv (h : s.confirm = some (s', es)) :
    ∃ p m, s.page = some p ∧ s.modal = some m ∧
      s' = { s with updates := s.updates ++ [⟨m.serial, p.id, s.modalIndex⟩] } ∧
      es = [.updateUserTheme p.id s.modalIndex] := by
  unfold Picker.confirm at h
  split at h
  · rename_i p m hp hm
    cases h
    exact ⟨p, m, hp, hm, rfl, rfl⟩
  · cases h

theorem Picker.cancel_inv (h : s.cancel = some (s', es)) :
    ∃ m, s.modal = some m ∧ es = [] ∧
      s' = { s with modal := none, leaving := m.serial :: s.leaving } := by
  unfold Picker.cancel at h
  split at h
  · cases h
  · rename_i m hm
    cases h
    exact ⟨m, hm, rfl, rfl⟩

/-- A pop hands the index to the page when a modal is open, and takes the page away
otherwise. -/
theorem Picker.pop_cases (s : Picker) :
    (∃ p m, s.page = some p ∧ s.modal = some m ∧ s.pop = (
      { s with
        page := some { p with currTheme := s.modalIndex }
        modal := none
        leaving := m.serial :: s.leaving },
      [.returned p.id s.modalIndex])) ∨
    (¬ ∃ p m, s.page = some p ∧ s.modal = some m) ∧ s.pop = ({ s with page := none }, []) := by
  unfold Picker.pop
  split
  · rename_i p m hp hm
    exact .inl ⟨p, m, hp, hm, rfl⟩
  · rename_i hno
    refine .inr ⟨?_, rfl⟩
    rintro ⟨p, m, hp, hm⟩
    exact hno p m hp hm

theorem Picker.updated_inv {u : Update} {o : Outcome} (h : s.updated u o = some (s', es)) :
    (¬ (s.Mounted u.modal ∧ UserService.updateUserTheme o ≠ some "error") ∧
      s' = { s with updates := s.updates.erase u, stored := s.acknowledge u o } ∧ es = []) ∨
    (s.Mounted u.modal ∧ UserService.updateUserTheme o ≠ some "error") ∧
      (s', es) =
        { s with updates := s.updates.erase u, stored := s.acknowledge u o }.pop := by
  unfold Picker.updated at h
  split at h
  · dsimp only at h
    split at h
    · rename_i hm
      split at h
      · rename_i he
        cases h
        exact .inl ⟨fun hc => hc.2 he, rfl, rfl⟩
      · rename_i he
        exact .inr ⟨⟨hm, he⟩, (Option.some.inj h).symm⟩
    · rename_i hm
      cases h
      exact .inl ⟨fun hc => hm hc.1, rfl, rfl⟩
  · cases h

theorem Picker.movedOut_inv {serial : Nat} (h : s.movedOut serial = some (s', es)) :
    s' = { s with leaving := s.leaving.erase serial } ∧ es = [] := by
  unfold Picker.movedOut at h
  split at h
  · cases h
    exact ⟨rfl, rfl⟩
  · cases h

/-! ### The index that is saved -/

/-- A press of Confirm saves the image in the middle, which is the one drawn as
selected. -/
def ConfirmsCentred (s : Picker) (a : Picker.Act) (_ : Picker) (es : List Picker.Effect) : Prop :=
  a = .confirm → ∀ p m, s.page = some p → s.modal = some m →
    es = [.updateUserTheme p.id m.centred] ∧
    ∀ (n : Nat) (h : n < images.length),
      gradient s.swiperIndex images[n] = true ↔ (n : Int) = m.centred

/-- Confirm is pressed after a page change, or in a modal opened with the theme that
is in the variable already. -/
def HasChosen (s : Picker) (a : Picker.Act) : Prop :=
  a = .confirm → ∀ m, s.modal = some m →
    m.changed = true ∨ m.theme % images.length = s.modalIndex

/-- The two variables are the same, and they are what the carousel shows once it has
changed. -/
structure Tracks (s : Picker) : Prop where
  indices : s.swiperIndex = s.modalIndex
  changed : ∀ m, s.modal = some m → m.changed = true → m.centred = s.modalIndex
  unchanged : ∀ m, s.modal = some m → m.changed = false → m.centred = m.theme % images.length

theorem tracks_launched (stored : String → Option Int) : Tracks (.launched stored) :=
  ⟨rfl, (fun _ h => by cases h), (fun _ h => by cases h)⟩

/-- A step that leaves the variables alone, and the modal too unless it closes it,
keeps them tracking. -/
theorem tracks_frame (hi : Tracks s) (hm : s'.modalIndex = s.modalIndex)
    (hw : s'.swiperIndex = s.swiperIndex) (hmodal : s'.modal = s.modal ∨ s'.modal = none) :
    Tracks s' := by
  have hsame : ∀ m, s'.modal = some m → s.modal = some m := by
    intro m h
    rcases hmodal with he | he
    · rwa [he] at h
    · rw [he] at h
      cases h
  refine ⟨by rw [hm, hw]; exact hi.indices, ?_, ?_⟩
  · intro m h hc
    rw [hm]
    exact hi.changed m (hsame m h) hc
  · intro m h hc
    exact hi.unchanged m (hsame m h) hc

theorem tracks_pop (hi : Tracks s) (h : (s', es) = s.pop) : Tracks s' := by
  rcases s.pop_cases with ⟨p, m, -, -, he⟩ | ⟨-, he⟩
  · cases h.trans he
    exact tracks_frame hi rfl rfl (.inr rfl)
  · cases h.trans he
    exact tracks_frame hi rfl rfl (.inl rfl)

theorem tracks_step (hi : Tracks s) (h : s.step a = some (s', es)) : Tracks s' := by
  cases a with
  | openPreference id theme =>
    obtain ⟨-, rfl, -⟩ := Picker.openPreference_inv h
    exact tracks_frame hi rfl rfl (.inl rfl)
  | closePreference =>
    obtain ⟨-, rfl, -⟩ := Picker.closePreference_inv h
    exact tracks_frame hi rfl rfl (.inl rfl)
  | openModal =>
    obtain ⟨p, -, -, -, rfl⟩ := Picker.openModal_inv h
    refine ⟨hi.indices, ?_, ?_⟩
    · intro m hm hc
      cases hm
      cases hc
    · intro m hm _
      cases hm
      rfl
  | pageChanged index =>
    obtain ⟨m, -, -, -, rfl⟩ := Picker.pageChanged_inv h
    refine ⟨rfl, ?_, ?_⟩
    · intro m' hm _
      cases hm
      rfl
    · intro m' hm hc
      cases hm
      cases hc
  | confirm =>
    obtain ⟨p, m, -, -, rfl, -⟩ := Picker.confirm_inv h
    exact tracks_frame hi rfl rfl (.inl rfl)
  | cancel =>
    obtain ⟨m, -, -, rfl⟩ := Picker.cancel_inv h
    exact tracks_frame hi rfl rfl (.inr rfl)
  | updated u o =>
    rcases Picker.updated_inv h with ⟨-, rfl, -⟩ | ⟨-, hpop⟩
    · exact tracks_frame hi rfl rfl (.inl rfl)
    · refine tracks_pop ?_ hpop
      exact tracks_frame hi rfl rfl (.inl rfl)
  | movedOut serial =>
    obtain ⟨rfl, -⟩ := Picker.movedOut_inv h
    exact tracks_frame hi rfl rfl (.inl rfl)

/-- What is in the middle is in the variable, if the user has chosen it or it was
there before. -/
theorem centred_eq_modalIndex_iff (hi : Tracks s) {m : Modal} (hm : s.modal = some m) :
    m.centred = s.modalIndex ↔ m.changed = true ∨ m.theme % images.length = s.modalIndex := by
  cases hc : m.changed with
  | true => simp [hi.changed m hm hc]
  | false => simp [hi.unchanged m hm hc]

theorem confirmsCentred_iff (hi : Tracks s) (h : s.step a = some (s', es)) :
    ConfirmsCentred s a s' es ↔ HasChosen s a := by
  refine ⟨?_, ?_⟩
  · rintro hq rfl m hm
    obtain ⟨p, m', hp, hm', -, rfl⟩ := Picker.confirm_inv h
    have hes := (hq rfl p m hp hm).1
    have heq : s.modalIndex = m.centred := by simpa using hes
    exact (centred_eq_modalIndex_iff hi hm).mp heq.symm
  · rintro hg rfl p m hp hm
    obtain ⟨p', m', hp', hm', -, rfl⟩ := Picker.confirm_inv h
    cases hp.symm.trans hp'
    have heq := (centred_eq_modalIndex_iff hi hm).mpr (hg rfl m hm)
    refine ⟨by rw [heq], ?_⟩
    intro n hn
    rw [gradient_getElem, hi.indices, heq]

/-- **Confirm saves the theme the user is looking at, exactly in the runs in which he
has chosen it.** -/
theorem along_confirmsCentred_iff (h : picker.start s) (as : List Picker.Act) :
    picker.Along ConfirmsCentred s as ↔ picker.Along (Machine.before HasChosen) s as := by
  obtain ⟨stored, rfl⟩ := h
  refine Machine.along_iff Tracks ?_ ?_ as _ (tracks_launched stored)
  · intro s a s' es hi hst
    exact confirmsCentred_iff hi hst
  · intro s a s' es hi _ hst
    exact tracks_step hi hst

/-- A swipe and Confirm, and Confirm again in a modal opened with the theme saved. -/
theorem along_confirmsCentred_swiped :
    picker.Along ConfirmsCentred (.launched fun _ => none)
      [.openPreference "u" 3, .openModal, .pageChanged 5, .confirm,
        .updated ⟨0, "u", 5⟩ (.response 200 ""), .openModal, .confirm] := by
  refine (along_confirmsCentred_iff ⟨_, rfl⟩ _).mpr ?_
  have hno : ∀ (s : Picker) (a : Picker.Act), a ≠ .confirm → HasChosen s a :=
    fun s a ha hc => absurd hc ha
  refine (Machine.along_cons rfl _).mpr ⟨hno _ _ (by decide), ?_⟩
  refine (Machine.along_cons rfl _).mpr ⟨hno _ _ (by decide), ?_⟩
  refine (Machine.along_cons rfl _).mpr ⟨hno _ _ (by decide), ?_⟩
  refine (Machine.along_cons rfl _).mpr ⟨?_, ?_⟩
  · rintro - m ⟨⟩
    exact .inl rfl
  refine (Machine.along_cons rfl _).mpr ⟨hno _ _ (by decide), ?_⟩
  refine (Machine.along_cons rfl _).mpr ⟨hno _ _ (by decide), ?_⟩
  refine (Machine.along_cons rfl _).mpr ⟨?_, trivial⟩
  rintro - m ⟨⟩
  exact .inr (by decide)

/-- The modal is opened with theme 3 and confirmed: theme 0 is saved. -/
theorem not_along_confirmsCentred :
    ¬ ∀ s, picker.start s → ∀ as, picker.Along ConfirmsCentred s as := by
  intro h
  have hlast := Machine.Along.last
    (h (.launched fun _ => none) ⟨_, rfl⟩ ([.openPreference "u" 3, .openModal] ++ [.confirm]))
    rfl rfl
  have hes := (hlast rfl ⟨"u", 3⟩ ⟨0, 3, 3, false⟩ rfl (by decide)).1
  exact absurd hes (by decide)

/-! ### The index that is handed back -/

/-- The index that the modal hands to its page is the theme that the backend has, and
the page changes its own theme only to such an index. -/
structure ReturnsStored (s : Picker) (s' : Picker) (es : List Picker.Effect) : Prop where
  stored : ∀ id index, .returned id index ∈ es → s'.stored id = some index
  currTheme : ∀ p p', s.page = some p → s'.page = some p' → p'.currTheme ≠ p.currTheme →
    .returned p'.id p'.currTheme ∈ es

/-- An answer that closes a modal comes from the backend and the user has not gone on
to another image since, or it is an exception and the backend has the image from
before. -/
def HasKept (s : Picker) : Picker.Act → Prop
  | .updated u o => ∀ p m, s.page = some p → s.modal = some m → s.Mounted u.modal →
      UserService.updateUserTheme o ≠ some "error" →
      if o.Answered 200 ∧ p.id = u.id then u.theme = s.modalIndex
      else s.stored p.id = some s.modalIndex
  | _ => True

theorem returnsStored_of_page (hp : s'.page = s.page ∨ s.page = none ∨ s'.page = none)
    (he : ∀ id index, .returned id index ∉ es) : ReturnsStored s s' es := by
  refine ⟨fun id index hmem => absurd hmem (he id index), ?_⟩
  intro p p' h h' hne
  rcases hp with heq | heq | heq
  · rw [heq, h] at h'
    cases h'
    exact absurd rfl hne
  · rw [heq] at h
    cases h
  · rw [heq] at h'
    cases h'

theorem acknowledge_eq_some_iff {u : Update} {o : Outcome} {id : String} {index : Int} :
    s.acknowledge u o id = some index ↔
      if o.Answered 200 ∧ id = u.id then u.theme = index else s.stored id = some index := by
  unfold Picker.acknowledge
  by_cases ho : o.Answered 200
  · by_cases hid : id = u.id
    · simp [ho, hid]
    · simp [ho, hid]
  · simp [ho]

/-- An answer that closes a modal hands back what the variable is now. -/
theorem returnsStored_updated_iff {u : Update} {o : Outcome}
    (h : s.updated u o = some (s', es)) :
    ReturnsStored s s' es ↔ HasKept s (.updated u o) := by
  rcases Picker.updated_inv h with ⟨hno, rfl, rfl⟩ | ⟨hmounted, hpop⟩
  · refine iff_of_true (returnsStored_of_page (.inl rfl) (by simp)) ?_
    intro p m _ _ hm he
    exact absurd ⟨hm, he⟩ hno
  · rcases Picker.pop_cases _ with ⟨p, m, hp, hm, he⟩ | ⟨hno, he⟩
    · cases hpop.trans he
      have hstored : s.acknowledge u o p.id = some s.modalIndex ↔
          HasKept s (.updated u o) := by
        rw [acknowledge_eq_some_iff]
        refine ⟨?_, fun hg => hg p m hp hm hmounted.1 hmounted.2⟩
        intro hs p' m' hp' _ _ _
        cases hp.symm.trans hp'
        exact hs
      rw [← hstored]
      refine ⟨fun hq => hq.stored p.id s.modalIndex List.mem_cons_self, ?_⟩
      intro hs
      refine ⟨?_, ?_⟩
      · intro id index hmem
        cases List.mem_singleton.mp hmem
        exact hs
      · intro q q' _ hq' _
        cases hq'
        exact List.mem_cons_self
    · cases hpop.trans he
      refine iff_of_true (returnsStored_of_page (.inr (.inr rfl)) (by simp)) ?_
      intro p m hp hm
      exact absurd ⟨p, m, hp, hm⟩ hno

theorem returnsStored_iff (h : s.step a = some (s', es)) :
    ReturnsStored s s' es ↔ HasKept s a := by
  cases a with
  | openPreference id theme =>
    obtain ⟨hp, rfl, rfl⟩ := Picker.openPreference_inv h
    exact iff_of_true (returnsStored_of_page (.inr (.inl hp)) (by simp)) trivial
  | closePreference =>
    obtain ⟨-, rfl, rfl⟩ := Picker.closePreference_inv h
    exact iff_of_true (returnsStored_of_page (.inr (.inr rfl)) (by simp)) trivial
  | openModal =>
    obtain ⟨p, -, -, rfl, rfl⟩ := Picker.openModal_inv h
    exact iff_of_true (returnsStored_of_page (.inl rfl) (by simp)) trivial
  | pageChanged index =>
    obtain ⟨m, -, -, rfl, rfl⟩ := Picker.pageChanged_inv h
    exact iff_of_true (returnsStored_of_page (.inl rfl) (by simp)) trivial
  | confirm =>
    obtain ⟨p, m, -, -, rfl, rfl⟩ := Picker.confirm_inv h
    exact iff_of_true (returnsStored_of_page (.inl rfl) (by simp)) trivial
  | cancel =>
    obtain ⟨m, -, rfl, rfl⟩ := Picker.cancel_inv h
    exact iff_of_true (returnsStored_of_page (.inl rfl) (by simp)) trivial
  | updated u o => exact returnsStored_updated_iff h
  | movedOut serial =>
    obtain ⟨rfl, rfl⟩ := Picker.movedOut_inv h
    exact iff_of_true (returnsStored_of_page (.inl rfl) (by simp)) trivial

/-- **The modal hands back what the backend has, exactly in the runs in which every
answer that closes it does.** -/
theorem along_returnsStored_iff (s : Picker) (as : List Picker.Act) :
    picker.Along (fun s _ s' es => ReturnsStored s s' es) s as ↔
      picker.Along (Machine.before HasKept) s as := by
  refine Machine.along_iff (fun _ => True) ?_ (fun _ _ _ _ _ _ _ => trivial) as s trivial
  intro s a s' es _ hst
  exact returnsStored_iff hst

/-- The request throws, and the page shows theme 5. -/
theorem not_along_returnsStored :
    ¬ ∀ s, picker.start s → ∀ as,
      picker.Along (fun s _ s' es => ReturnsStored s s' es) s as := by
  intro h
  have hlast := Machine.Along.last (h (.launched fun _ => none) ⟨_, rfl⟩
    ([.openPreference "u" 3, .openModal, .pageChanged 5, .confirm] ++
      [.updated ⟨0, "u", 5⟩ .exception])) rfl rfl
  have hstored : (none : Option Int) = some 5 :=
    hlast.stored "u" 5 (List.mem_cons_self)
  cases hstored

end GoodOmens.Theme
