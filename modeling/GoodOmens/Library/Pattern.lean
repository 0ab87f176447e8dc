/-!
# Rows of repeated classes

A pattern is a row of items, each a class of symbols with the least and the greatest number of
times that it is repeated.  It fits a word that is cut into pieces, one for each item
(`Pattern.Fits`).

`Pattern.isMatch` finds such a cut by trying: `Item.rests` are the remainders that an item may
leave, and the rest of the row is tried on each.  `isMatch_iff` says that it finds one exactly
if there is one.
-/

universe u

/-- A class of symbols, repeated at least `least` times, and at most `most` times if that is
given. -/
structure Item (α : Type u) where
  accepts : α → Bool
  least : Nat
  most : Option Nat

/-- One symbol of a class. -/
def Item.one {α : Type u} (accepts : α → Bool) : Item α := ⟨accepts, 1, some 1⟩

/-- One or more symbols of a class. -/
def Item.plus {α : Type u} (accepts : α → Bool) : Item α := ⟨accepts, 1, none⟩

abbrev Pattern (α : Type u) := List (Item α)

variable {α : Type u}

namespace Item

/-- The piece is one that the item stands for. -/
structure Fits (item : Item α) (w : List α) : Prop where
  accepts : ∀ c ∈ w, item.accepts c
  least : item.least ≤ w.length
  most : ∀ m ∈ item.most, w.length ≤ m

/-- The item after one symbol. -/
def next (item : Item α) : Item α := ⟨item.accepts, item.least - 1, item.most.map (· - 1)⟩

/-- What may be left behind the item. -/
def rests (item : Item α) : List α → List (List α)
  | [] => if item.least = 0 then [[]] else []
  | c :: cs =>
    (if item.least = 0 then [c :: cs] else []) ++
      if item.accepts c && item.most != some 0 then item.next.rests cs else []

theorem fits_nil (item : Item α) : item.Fits [] ↔ item.least = 0 := by
  refine ⟨fun h => Nat.le_zero.mp h.least, fun h => ⟨?_, ?_, ?_⟩⟩
  · intro c hc
    cases hc
  · exact Nat.le_of_eq h
  · exact fun m _ => Nat.zero_le m

theorem fits_cons (item : Item α) (c : α) (w : List α) :
    item.Fits (c :: w) ↔ (item.accepts c ∧ item.most ≠ some 0) ∧ item.next.Fits w := by
  constructor
  · intro h
    refine ⟨⟨h.accepts c List.mem_cons_self, ?_⟩, ?_, ?_, ?_⟩
    · intro hzero
      exact Nat.not_succ_le_zero _ (h.most 0 hzero)
    · exact fun d hd => h.accepts d (List.mem_cons_of_mem _ hd)
    · exact Nat.sub_le_of_le_add h.least
    · intro m hm
      obtain ⟨k, hk, rfl⟩ := Option.map_eq_some_iff.mp hm
      exact Nat.le_sub_one_of_lt (h.most k hk)
  · rintro ⟨⟨hc, hzero⟩, h⟩
    refine ⟨?_, ?_, ?_⟩
    · intro d hd
      rcases List.mem_cons.mp hd with rfl | hd
      · exact hc
      · exact h.accepts d hd
    · exact Nat.le_add_of_sub_le h.least
    · intro m hm
      have hpos : m ≠ 0 := fun h0 => hzero (h0 ▸ hm)
      have hle : w.length ≤ m - 1 := h.most (m - 1) (Option.map_eq_some_iff.mpr ⟨m, hm, rfl⟩)
      rw [List.length_cons]
      omega

/-- **What is left is what is left behind a piece that fits.** -/
theorem mem_rests_iff {rest : List α} : ∀ {item : Item α} {cs : List α},
    rest ∈ item.rests cs ↔ ∃ w, item.Fits w ∧ cs = w ++ rest := by
  intro item cs
  induction cs generalizing item with
  | nil =>
    rw [rests]
    constructor
    · intro h
      split at h
      · rename_i hzero
        exact ⟨[], (fits_nil item).mpr hzero, (List.mem_singleton.mp h).symm⟩
      · cases h
    · rintro ⟨w, hw, hcs⟩
      obtain ⟨rfl, rfl⟩ := List.append_eq_nil_iff.mp hcs.symm
      rw [if_pos ((fits_nil item).mp hw)]
      exact List.mem_singleton.mpr rfl
  | cons c cs ih =>
    rw [rests, List.mem_append]
    constructor
    · rintro (h | h)
      · split at h
        · rename_i hzero
          exact ⟨[], (fits_nil item).mpr hzero, (List.mem_singleton.mp h).symm⟩
        · cases h
      · split at h
        · rename_i hc
          obtain ⟨w, hw, rfl⟩ := ih.mp h
          exact ⟨c :: w, (fits_cons item c w).mpr ⟨by simpa using hc, hw⟩, rfl⟩
        · cases h
    · rintro ⟨w, hw, hcs⟩
      cases w with
      | nil =>
        left
        rw [if_pos ((fits_nil item).mp hw)]
        exact List.mem_singleton.mpr hcs.symm
      | cons d w =>
        right
        obtain ⟨rfl, rfl⟩ := List.cons.inj hcs
        obtain ⟨hc, hw⟩ := (fits_cons item _ w).mp hw
        rw [if_pos (by simpa using hc)]
        exact ih.mpr ⟨w, hw, rfl⟩

end Item

namespace Pattern

/-- The word is cut into pieces, one for each item. -/
inductive Fits : Pattern α → List α → Prop
  | nil : Fits [] []
  | cons {item : Item α} {items : Pattern α} {w cs : List α} (hw : item.Fits w)
      (hcs : Fits items cs) : Fits (item :: items) (w ++ cs)

/-- The whole word is matched. -/
def isMatch : Pattern α → List α → Bool
  | [], cs => cs.isEmpty
  | item :: items, cs => (item.rests cs).any (fun rest => isMatch items rest)

theorem fits_cons_iff {item : Item α} {items : Pattern α} {cs : List α} :
    Fits (item :: items) cs ↔ ∃ w rest, item.Fits w ∧ Fits items rest ∧ cs = w ++ rest := by
  constructor
  · rintro (_ | ⟨hw, hcs⟩)
    exact ⟨_, _, hw, hcs, rfl⟩
  · rintro ⟨w, rest, hw, hcs, rfl⟩
    exact .cons hw hcs

/-- **A match is found exactly if there is one.** -/
theorem isMatch_iff {p : Pattern α} : ∀ {cs : List α}, p.isMatch cs = true ↔ Fits p cs := by
  induction p with
  | nil =>
    intro cs
    rw [Pattern.isMatch, List.isEmpty_iff]
    constructor
    · rintro rfl
      exact .nil
    · intro h
      cases h
      rfl
  | cons item items ih =>
    intro cs
    rw [Pattern.isMatch, List.any_eq_true, fits_cons_iff]
    constructor
    · rintro ⟨rest, hrest, hm⟩
      obtain ⟨w, hw, rfl⟩ := Item.mem_rests_iff.mp hrest
      exact ⟨w, rest, hw, ih.mp hm, rfl⟩
    · rintro ⟨w, rest, hw, hm, rfl⟩
      exact ⟨rest, Item.mem_rests_iff.mpr ⟨w, hw, rfl⟩, ih.mpr hm⟩

/-- A symbol that no item accepts is in no word of the pattern. -/
theorem Fits.accepted {p : Pattern α} {cs : List α} (h : Fits p cs) {c : α} (hc : c ∈ cs) :
    ∃ item ∈ p, item.accepts c := by
  induction h with
  | nil => cases hc
  | cons hw hcs ih =>
    rcases List.mem_append.mp hc with hc | hc
    · exact ⟨_, List.mem_cons_self, hw.accepts c hc⟩
    · obtain ⟨item, hitem, ha⟩ := ih hc
      exact ⟨item, List.mem_cons_of_mem _ hitem, ha⟩

end Pattern
