/-!
# Lists in sections

Some elements of a list are headings.  A `Sections` is the list cut at them: what
stands before the first heading, and every heading with its body.  As long as no body
holds a heading (`Headed`) the cut is determined by the list (`toList_injective`).

What is added at the end of the list goes into the last body (`extend`), so in general
the sections and the addition cannot be told apart.  They can when the addition is as
long as the last body under one kind of heading (`Repeats`): that body grows with the
addition, or stays as it is (`length_lastUnder_extend`), and so the addition cannot get
shorter by it (`append_unique`).
-/

universe u

/-- What stands before the first heading, and the headings with their bodies. -/
structure Sections (α : Type u) where
  preface : List α
  rest : List (α × List α)

namespace Sections

variable {α : Type u} {p : α → Prop} {s : Sections α}

/-- The list itself. -/
def toList (s : Sections α) : List α := s.preface ++ s.rest.flatMap (fun h => h.1 :: h.2)

/-- The headings are headings, and nothing else is. -/
structure Headed (p : α → Prop) (s : Sections α) : Prop where
  preface : ∀ x ∈ s.preface, ¬ p x
  headings : ∀ h ∈ s.rest, p h.1
  bodies : ∀ h ∈ s.rest, ∀ x ∈ h.2, ¬ p x

/-- The part of the list from the first body on, as sections of its own. -/
theorem Headed.tail {xs : List α} {h : α × List α} {rest : List (α × List α)}
    (hs : Headed p ⟨xs, h :: rest⟩) : Headed p ⟨h.2, rest⟩ where
  preface := hs.bodies h List.mem_cons_self
  headings := fun k hk => hs.headings k (List.mem_cons_of_mem _ hk)
  bodies := fun k hk => hs.bodies k (List.mem_cons_of_mem _ hk)

theorem toList_cons (xs : List α) (h : α × List α) (rest : List (α × List α)) :
    (⟨xs, h :: rest⟩ : Sections α).toList = xs ++ h.1 :: (⟨h.2, rest⟩ : Sections α).toList := by
  simp [toList]

/-- A list is cut at its first heading in one way only. -/
theorem cut_unique : ∀ {xs ys : List α} {a b : α} {zs ws : List α}, (∀ x ∈ xs, ¬ p x) →
    (∀ y ∈ ys, ¬ p y) → p a → p b → xs ++ a :: zs = ys ++ b :: ws →
    xs = ys ∧ a = b ∧ zs = ws := by
  intro xs
  induction xs with
  | nil =>
    intro ys a b zs ws _ hy ha _ h
    cases ys with
    | nil =>
      obtain ⟨hab, hzw⟩ := List.cons.inj h
      exact ⟨rfl, hab, hzw⟩
    | cons y ys =>
      obtain ⟨rfl, -⟩ := List.cons.inj h
      exact absurd ha (hy a List.mem_cons_self)
  | cons x xs ih =>
    intro ys a b zs ws hx hy ha hb h
    cases ys with
    | nil =>
      obtain ⟨rfl, -⟩ := List.cons.inj h
      exact absurd hb (hx x List.mem_cons_self)
    | cons y ys =>
      obtain ⟨rfl, htail⟩ := List.cons.inj h
      obtain ⟨rfl, hab, hzw⟩ := ih (fun z hz => hx z (List.mem_cons_of_mem _ hz))
        (fun z hz => hy z (List.mem_cons_of_mem _ hz)) ha hb htail
      exact ⟨rfl, hab, hzw⟩

/-- A list without a heading is not one with a heading. -/
theorem ne_append_cons {xs ys zs : List α} {a : α} (hx : ∀ x ∈ xs, ¬ p x) (ha : p a) :
    xs ≠ ys ++ a :: zs := by
  rintro rfl
  exact hx a (List.mem_append_right _ List.mem_cons_self) ha

/-- **The list determines its sections.** -/
theorem toList_injective : ∀ {s t : Sections α}, Headed p s → Headed p t →
    s.toList = t.toList → s = t := by
  rintro ⟨xs, rest⟩
  induction rest generalizing xs with
  | nil =>
    rintro ⟨ys, rest'⟩ hs ht h
    cases rest' with
    | nil => simpa [toList] using h
    | cons k rest' =>
      rw [toList_cons, show (⟨xs, []⟩ : Sections α).toList = xs by simp [toList]] at h
      exact absurd h (ne_append_cons hs.preface (ht.headings k List.mem_cons_self))
  | cons h rest ih =>
    rintro ⟨ys, rest'⟩ hs ht heq
    cases rest' with
    | nil =>
      rw [toList_cons, show (⟨ys, []⟩ : Sections α).toList = ys by simp [toList]] at heq
      exact absurd heq.symm (ne_append_cons ht.preface (hs.headings h List.mem_cons_self))
    | cons k rest' =>
      rw [toList_cons, toList_cons] at heq
      obtain ⟨rfl, hhead, htail⟩ := cut_unique hs.preface ht.preface
        (hs.headings h List.mem_cons_self) (ht.headings k List.mem_cons_self) heq
      obtain ⟨hbody, rfl⟩ := Sections.mk.inj (ih h.2 hs.tail ht.tail htail)
      rw [Prod.ext hhead hbody]

/-! ### Adding at the end -/

/-- More lines for the last body. -/
def extendFrom (more : List α) : List α → List (α × List α) → Sections α
  | xs, [] => ⟨xs ++ more, []⟩
  | xs, (a, body) :: rest => ⟨xs, (a, (extendFrom more body rest).preface) ::
      (extendFrom more body rest).rest⟩

def extend (s : Sections α) (more : List α) : Sections α := extendFrom more s.preface s.rest

theorem toList_extendFrom (more : List α) (rest : List (α × List α)) : ∀ xs : List α,
    (extendFrom more xs rest).toList = (⟨xs, rest⟩ : Sections α).toList ++ more := by
  induction rest with
  | nil => intro xs; simp [extendFrom, toList]
  | cons h rest ih =>
    intro xs
    rw [extendFrom, toList_cons, toList_cons]
    show xs ++ h.1 :: (extendFrom more h.2 rest).toList = _
    rw [ih h.2, List.append_assoc, List.cons_append]

theorem headed_extendFrom {more : List α} (hm : ∀ x ∈ more, ¬ p x)
    (rest : List (α × List α)) : ∀ xs : List α, Headed p ⟨xs, rest⟩ →
    Headed p (extendFrom more xs rest) := by
  induction rest with
  | nil =>
    intro xs hs
    refine ⟨?_, (fun _ hk => by cases hk), (fun _ hk => by cases hk)⟩
    intro x hx
    rcases List.mem_append.mp hx with hx | hx
    · exact hs.preface x hx
    · exact hm x hx
  | cons h rest ih =>
    intro xs hs
    have he := ih h.2 hs.tail
    refine ⟨hs.preface, ?_, ?_⟩
    · intro k hk
      rcases List.mem_cons.mp hk with rfl | hk
      · exact hs.headings h List.mem_cons_self
      · exact he.headings k hk
    · intro k hk
      rcases List.mem_cons.mp hk with rfl | hk
      · exact he.preface
      · exact he.bodies k hk

theorem toList_extend (s : Sections α) (more : List α) :
    (s.extend more).toList = s.toList ++ more :=
  toList_extendFrom more s.rest s.preface

theorem headed_extend {more : List α} (hs : Headed p s) (hm : ∀ x ∈ more, ¬ p x) :
    Headed p (s.extend more) :=
  headed_extendFrom hm s.rest s.preface hs

/-- The last body whose heading is of the kind `q`, or else `xs`. -/
def lastUnder (q : α → Bool) : List α → List (α × List α) → List α
  | xs, [] => xs
  | xs, (a, body) :: rest => lastUnder q (if q a then body else xs) rest

/-- Whatever is taken when no heading is of the kind, the last body under it grows by
the lines that are added, or stays as it is. -/
theorem length_lastUnder_extendFrom (q : α → Bool) (more : List α) (rest : List (α × List α)) :
    ∀ xs : List α,
      ((lastUnder q (extendFrom more xs rest).preface (extendFrom more xs rest).rest).length =
          (lastUnder q xs rest).length ∨
        (lastUnder q (extendFrom more xs rest).preface (extendFrom more xs rest).rest).length =
          (lastUnder q xs rest).length + more.length) ∧
      ∀ ys : List α,
        (lastUnder q ys (extendFrom more xs rest).rest).length = (lastUnder q ys rest).length ∨
        (lastUnder q ys (extendFrom more xs rest).rest).length =
          (lastUnder q ys rest).length + more.length := by
  induction rest with
  | nil =>
    intro xs
    refine ⟨.inr ?_, fun ys => .inl rfl⟩
    simp [extendFrom, lastUnder]
  | cons h rest ih =>
    intro xs
    obtain ⟨hown, hother⟩ := ih h.2
    have hall : ∀ ys : List α,
        (lastUnder q ys (extendFrom more xs (h :: rest)).rest).length =
          (lastUnder q ys (h :: rest)).length ∨
        (lastUnder q ys (extendFrom more xs (h :: rest)).rest).length =
          (lastUnder q ys (h :: rest)).length + more.length := by
      intro ys
      simp only [extendFrom, lastUnder]
      cases hq : q h.1 with
      | true => exact hown
      | false => exact hother ys
    exact ⟨hall xs, hall⟩

theorem length_lastUnder_extend (q : α → Bool) (s : Sections α) (more : List α) :
    (lastUnder q (s.extend more).preface (s.extend more).rest).length =
        (lastUnder q s.preface s.rest).length ∨
      (lastUnder q (s.extend more).preface (s.extend more).rest).length =
        (lastUnder q s.preface s.rest).length + more.length :=
  (length_lastUnder_extendFrom q more s.rest s.preface).1

/-- What is added repeats as many elements as the last body under `q` has. -/
def Repeats (q : α → Bool) (s : Sections α) (more : List α) : Prop :=
  more.length = (lastUnder q s.preface s.rest).length

/-- The elements of `more` cannot be taken to be in the list already. -/
theorem append_unique_of_prefix {q : α → Bool} {s t : Sections α} {more more' mid : List α}
    (hs : Headed p s) (ht : Headed p t) (hm : ∀ x ∈ more, ¬ p x) (hr : Repeats q s more)
    (hr' : Repeats q t more') (hlist : t.toList = s.toList ++ mid) (hmore : more = mid ++ more') :
    s = t ∧ more = more' := by
  have hmid : ∀ x ∈ mid, ¬ p x := by
    intro x hx
    exact hm x (hmore ▸ List.mem_append_left _ hx)
  have heq : t = s.extend mid :=
    toList_injective ht (headed_extend hs hmid) (hlist.trans (toList_extend s mid).symm)
  have hlen : more.length = mid.length + more'.length := by rw [hmore, List.length_append]
  have hnil : mid = [] := by
    have hlast := length_lastUnder_extend q s mid
    rw [← heq, ← hr, ← hr'] at hlast
    exact List.eq_nil_of_length_eq_zero (by omega)
  subst hnil
  refine ⟨toList_injective hs ht ?_, hmore⟩
  rw [hlist, List.append_nil]

/-- **With the last body repeated at the end, the list determines the sections and
what is added.** -/
theorem append_unique {q : α → Bool} {s t : Sections α} {more more' : List α}
    (hs : Headed p s) (ht : Headed p t) (hm : ∀ x ∈ more, ¬ p x) (hm' : ∀ x ∈ more', ¬ p x)
    (hr : Repeats q s more) (hr' : Repeats q t more')
    (h : s.toList ++ more = t.toList ++ more') : s = t ∧ more = more' := by
  rcases List.append_eq_append_iff.mp h with ⟨mid, hlist, hmore⟩ | ⟨mid, hlist, hmore⟩
  · exact append_unique_of_prefix hs ht hm hr hr' hlist hmore
  · obtain ⟨hst, hmm⟩ := append_unique_of_prefix ht hs hm' hr' hr hlist hmore
    exact ⟨hst.symm, hmm.symm⟩

end Sections
