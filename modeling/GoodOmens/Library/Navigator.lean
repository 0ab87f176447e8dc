/-!
# A navigator: a stack of routes with identities

A `Navigator P` is a stack of routes, each an identity and a page of type `P`.
The structure carries two facts: every identity is below the one the next route
gets, and identities fall strictly from the top down.  So a route never comes
back, two routes are never confused, and "this route is still on the stack" is
a question about identities alone.

The operations are the usual ones (`push`, `pop`, `pushReplacement`), and
`mapPages`, by which pages change where they stand.  For each there is one
lemma saying which routes the stack holds afterwards, and `Removed` compares two
stacks: `removed_pop` says that popping removes the top route and no other.

`Drops n m k` says that `m` is what is left of `n` without the `k` routes on top, with
new routes over it.  Every operation drops a number of routes, and then a route that
was there is left exactly if it was not one of them (`mem_ids_of_drops`).

`Adds n m Q` looks at the other side: what `m` has and `n` had not are pages with `Q`.

`Linked n R` relates every page to the one right below it.  What is below a route stays
below it until the route itself is taken off, so a link that is there when a page is
pushed is there as long as the page is.

`Lowest n Q` is about the lowest page.  It is another one only where a page comes on an empty
stack, in the place of the only one, or where it changes itself.  A route that is `Above` the
lowest one stays so, and there are two routes as long as it is there.
-/

universe u v

/-- A page with the identity it got when it was pushed. -/
structure Route (P : Type u) where
  id : Nat
  page : P
deriving DecidableEq, Repr

/-- Routes from the top down, the identities falling, all below `next`. -/
structure Navigator (P : Type u) where
  history : List (Route P)
  next : Nat
  lt_next : ∀ r ∈ history, r.id < next
  falling : history.Pairwise (fun r t => t.id < r.id)

namespace Navigator

variable {P : Type u} {n : Navigator P} {r : Route P} {p : P}

/-- A stack of one page. -/
def home (p : P) : Navigator P where
  history := [⟨0, p⟩]
  next := 1
  lt_next := by simp
  falling := by simp

/-- The route on top. -/
def top (n : Navigator P) : Option (Route P) := n.history.head?

/-- The page of the route `i`, if it is on the stack. -/
def find (n : Navigator P) (i : Nat) : Option P :=
  (n.history.find? (fun r => r.id == i)).map Route.page

/-- Put a page on top. -/
def push (n : Navigator P) (p : P) : Navigator P where
  history := ⟨n.next, p⟩ :: n.history
  next := n.next + 1
  lt_next := by
    intro r hr
    rcases List.mem_cons.mp hr with rfl | hr
    · exact Nat.lt_succ_self _
    · exact Nat.lt_succ_of_lt (n.lt_next r hr)
  falling := List.pairwise_cons.mpr ⟨n.lt_next, n.falling⟩

/-- Take the top route off, whichever it is. -/
def pop (n : Navigator P) : Navigator P where
  history := n.history.tail
  next := n.next
  lt_next := fun r hr => n.lt_next r (List.mem_of_mem_tail hr)
  falling := n.falling.sublist (List.tail_sublist _)

/-- Put a page in the place of the top route; an empty stack stays as it is. -/
def pushReplacement (n : Navigator P) (p : P) : Navigator P :=
  match n.history with
  | [] => n
  | _ :: _ => n.pop.push p

/-- Change the pages where they stand. -/
def mapPages (n : Navigator P) (f : Nat → P → P) : Navigator P where
  history := n.history.map (fun r => ⟨r.id, f r.id r.page⟩)
  next := n.next
  lt_next := by
    intro r hr
    obtain ⟨t, ht, rfl⟩ := List.mem_map.mp hr
    exact n.lt_next t ht
  falling := List.pairwise_map.mpr n.falling

/-- Change the page of the route `i`. -/
def setPage (n : Navigator P) (i : Nat) (p : P) : Navigator P :=
  n.mapPages (fun j q => if j = i then p else q)

/-! ### Which routes are there afterwards -/

theorem mem_of_find {i : Nat} (h : n.find i = some p) : ⟨i, p⟩ ∈ n.history := by
  rw [find, Option.map_eq_some_iff] at h
  obtain ⟨r, hr, rfl⟩ := h
  have hi : r.id = i := by simpa using List.find?_some hr
  exact hi ▸ List.mem_of_find?_eq_some hr

theorem mem_of_top (h : n.top = some r) : r ∈ n.history := List.mem_of_head? h

@[simp] theorem mem_push : r ∈ (n.push p).history ↔ r = ⟨n.next, p⟩ ∨ r ∈ n.history :=
  List.mem_cons

@[simp] theorem pop_history : n.pop.history = n.history.tail := rfl

theorem mem_of_mem_pop (h : r ∈ n.pop.history) : r ∈ n.history := List.mem_of_mem_tail h

theorem mem_pushReplacement (h : r ∈ (n.pushReplacement p).history) :
    r.page = p ∧ (n.pushReplacement p).top = some r ∨ r ∈ n.history.tail := by
  rw [pushReplacement] at h ⊢
  split at h
  · rename_i he
    rw [he] at h
    cases h
  · rcases mem_push.mp h with rfl | hr
    · exact .inl ⟨rfl, rfl⟩
    · exact .inr hr

theorem mem_mapPages {f : Nat → P → P} :
    r ∈ (n.mapPages f).history ↔ ∃ t ∈ n.history, r = ⟨t.id, f t.id t.page⟩ := by
  constructor
  · intro h
    obtain ⟨t, ht, rfl⟩ := List.mem_map.mp h
    exact ⟨t, ht, rfl⟩
  · rintro ⟨t, ht, rfl⟩
    exact List.mem_map_of_mem ht

theorem mem_setPage {i : Nat} {q : P} (h : r ∈ (n.setPage i q).history) :
    r = ⟨i, q⟩ ∨ r ∈ n.history := by
  obtain ⟨t, ht, rfl⟩ := mem_mapPages.mp h
  by_cases hi : t.id = i
  · exact .inl (by simp [hi])
  · exact .inr (by simpa [hi] using ht)

/-- The top route is not found again below. -/
theorem not_mem_tail_of_top (h : n.top = some r) : r ∉ n.history.tail := by
  have hf := n.falling
  rw [top] at h
  cases hh : n.history with
  | nil => exact List.not_mem_nil
  | cons t ts =>
    rw [hh] at h hf
    obtain rfl : t = r := by simpa using h
    intro hr
    exact Nat.lt_irrefl _ ((List.pairwise_cons.mp hf).1 t hr)

/-- Routes are told apart by their identities. -/
theorem eq_of_id {t : Route P} (hr : r ∈ n.history) (ht : t ∈ n.history) (h : r.id = t.id) :
    r = t := by
  have hdown : n.history.Pairwise (fun a b => a.id = b.id → a = b) :=
    n.falling.imp (fun hlt heq => absurd heq (Nat.ne_of_gt hlt))
  have hup : n.history.Pairwise (flip (fun a b => a.id = b.id → a = b)) :=
    n.falling.imp (fun hlt heq => absurd heq (Nat.ne_of_lt hlt))
  exact List.Pairwise.forall_of_forall_of_flip (fun _ _ _ => rfl) hdown hup hr ht h

/-- What is found under an identity is what stands on the stack with it. -/
theorem find_eq_some {i : Nat} : n.find i = some p ↔ ⟨i, p⟩ ∈ n.history := by
  constructor
  · exact mem_of_find
  · intro h
    cases hf : n.find i with
    | none =>
      rw [find, Option.map_eq_none_iff, List.find?_eq_none] at hf
      exact absurd (beq_self_eq_true i) (hf _ h)
    | some q => rw [(Route.mk.inj (eq_of_id h (mem_of_find hf) rfl)).2]

theorem isSome_find {i : Nat} (h : ⟨i, p⟩ ∈ n.history) : (n.find i).isSome :=
  Option.isSome_of_eq_some (find_eq_some.mpr h)

theorem find_push {i : Nat} {q : P} (h : n.find i = some q) : (n.push p).find i = some q :=
  find_eq_some.mpr (mem_push.mpr (.inr (find_eq_some.mp h)))

theorem find_setPage {i : Nat} {q : P} (h : n.find i = some q) :
    (n.setPage i p).find i = some p := by
  refine find_eq_some.mpr (mem_mapPages.mpr ⟨⟨i, q⟩, find_eq_some.mp h, ?_⟩)
  rw [if_pos rfl]

/-- A page may be put where it stands. -/
theorem setPage_self {i : Nat} (h : n.find i = some p) : n.setPage i p = n := by
  have hmap : n.history.map (fun r => (⟨r.id, if r.id = i then p else r.page⟩ : Route P)) =
      n.history := by
    refine (List.map_congr_left ?_).trans (List.map_id _)
    intro r hr
    by_cases hid : r.id = i
    · obtain rfl : r = ⟨i, p⟩ := eq_of_id hr (find_eq_some.mp h) hid
      rw [if_pos rfl]
      rfl
    · rw [if_neg hid]
      rfl
  cases n
  simp only [setPage, mapPages, mk.injEq, and_true]
  exact hmap

/-- What is found after a page was changed. -/
theorem find_setPage_inv {i j : Nat} {q : P} (h : (n.setPage j p).find i = some q) :
    i = j ∧ q = p ∨ i ≠ j ∧ n.find i = some q := by
  obtain ⟨t, ht, he⟩ := mem_mapPages.mp (mem_of_find h)
  obtain ⟨rfl, rfl⟩ := Route.mk.inj he
  by_cases hj : t.id = j
  · exact .inl ⟨hj, if_pos hj⟩
  · rw [if_neg hj]
    exact .inr ⟨hj, find_eq_some.mpr ht⟩

theorem top_mapPages {f : Nat → P → P} :
    (n.mapPages f).top = n.top.map (fun t => ⟨t.id, f t.id t.page⟩) := by
  simp [top, mapPages]

theorem top_setPage {i : Nat} {q : P} (h : n.top = some ⟨i, q⟩) :
    (n.setPage i p).top = some ⟨i, p⟩ := by
  rw [setPage, top_mapPages, h, Option.map_some, if_pos rfl]

/-! ### The empty stack -/

theorem push_ne_nil : (n.push p).history ≠ [] := List.cons_ne_nil _ _

theorem pop_ne_nil : n.pop.history ≠ [] ↔ 2 ≤ n.history.length := by
  rw [pop_history, ← List.length_pos_iff, List.length_tail]
  omega

/-- A page comes in the place of another only if there is one. -/
theorem pushReplacement_ne_nil : (n.pushReplacement p).history ≠ [] ↔ n.history ≠ [] := by
  unfold pushReplacement
  split
  · exact Iff.rfl
  · rename_i hh
    rw [hh]
    exact iff_of_true push_ne_nil (List.cons_ne_nil _ _)

theorem pushReplacement_of_nil (h : n.history = []) : n.pushReplacement p = n := by
  unfold pushReplacement
  split
  · rfl
  · rename_i hh
    rw [hh] at h
    cases h

theorem mapPages_ne_nil {f : Nat → P → P} : (n.mapPages f).history ≠ [] ↔ n.history ≠ [] :=
  not_congr List.map_eq_nil_iff

/-! ### Which routes are gone -/

/-- `r` was on the stack `n` and its identity is not on the stack `m`. -/
def Removed (n m : Navigator P) (r : Route P) : Prop :=
  r ∈ n.history ∧ ∀ t ∈ m.history, t.id ≠ r.id

/-- **Popping removes the top route and no other.** -/
theorem removed_pop : Removed n n.pop r ↔ n.top = some r := by
  have hf := n.falling
  rw [Removed, top, pop_history]
  cases hh : n.history with
  | nil => simp
  | cons t ts =>
    rw [hh] at hf
    obtain ⟨ht, -⟩ := List.pairwise_cons.mp hf
    simp only [List.mem_cons, List.tail_cons, List.head?_cons, Option.some.injEq]
    constructor
    · rintro ⟨rfl | hr, hn⟩
      · rfl
      · exact absurd rfl (hn r hr)
    · rintro rfl
      exact ⟨.inl rfl, fun u hu => Nat.ne_of_lt (ht u hu)⟩

theorem not_removed_self : ¬ Removed n n r := fun h => h.2 r h.1 rfl

/-! ### Which identities are left -/

/-- The identities of the routes, from the top down. -/
def ids (n : Navigator P) : List Nat := n.history.map Route.id

@[simp] theorem ids_push : (n.push p).ids = n.next :: n.ids := rfl

@[simp] theorem ids_pop : n.pop.ids = n.ids.drop 1 := by
  rw [ids, pop_history, List.map_tail, List.drop_one]
  rfl

@[simp] theorem ids_mapPages {f : Nat → P → P} : (n.mapPages f).ids = n.ids := by
  simp [ids, mapPages]

theorem lt_next_of_mem {i : Nat} (h : i ∈ n.ids) : i < n.next := by
  obtain ⟨r, hr, rfl⟩ := List.mem_map.mp h
  exact n.lt_next r hr

theorem id_mem_ids (h : r ∈ n.history) : r.id ∈ n.ids := List.mem_map_of_mem h

theorem ids_falling : n.ids.Pairwise (fun i j => j < i) := List.pairwise_map.mpr n.falling

/-- A route is among the first `k`, or it is left when they are gone. -/
theorem mem_take_iff_not_mem_drop {i k : Nat} (h : i ∈ n.ids) :
    i ∈ n.ids.take k ↔ i ∉ n.ids.drop k := by
  have hf := n.ids_falling
  rw [← List.take_append_drop k n.ids] at h hf
  refine ⟨?_, fun hno => (List.mem_append.mp h).resolve_right hno⟩
  intro ht hd
  exact Nat.lt_irrefl i ((List.pairwise_append.mp hf).2.2 i ht i hd)

/-- From `n` to `m` the `k` routes on top are gone, and there may be new ones. -/
def Drops (n m : Navigator P) (k : Nat) : Prop :=
  n.next ≤ m.next ∧ ∃ new : List Nat, m.ids = new ++ n.ids.drop k ∧ ∀ i ∈ new, n.next ≤ i

section

variable {m : Navigator P} {k : Nat}

theorem drops_of_ids (h : m.ids = n.ids) (hn : m.next = n.next) : Drops n m 0 :=
  ⟨Nat.le_of_eq hn.symm, [], by rw [h]; rfl, (fun _ hi => by cases hi)⟩

theorem drops_self : Drops n n 0 := drops_of_ids rfl rfl

theorem drops_mapPages {f : Nat → P → P} : Drops n (n.mapPages f) 0 :=
  drops_of_ids ids_mapPages rfl

theorem drops_setPage {i : Nat} : Drops n (n.setPage i p) 0 := drops_mapPages

theorem drops_push : Drops n (n.push p) 0 := by
  refine ⟨Nat.le_succ _, [n.next], rfl, ?_⟩
  intro i hi
  exact Nat.le_of_eq (List.mem_singleton.mp hi).symm

theorem drops_pop : Drops n n.pop 1 := ⟨Nat.le_refl _, [], ids_pop, (fun _ hi => by cases hi)⟩

/-- Popping first takes one route more. -/
theorem drops_of_pop (h : Drops n.pop m k) : Drops n m (k + 1) := by
  obtain ⟨hle, new, hids, hnew⟩ := h
  refine ⟨hle, new, ?_, hnew⟩
  rw [hids, ids_pop, List.drop_drop, Nat.add_comm]

theorem drops_pushReplacement : Drops n (n.pushReplacement p) 1 := by
  unfold pushReplacement
  split
  · rename_i he
    refine ⟨Nat.le_refl _, [], ?_, (fun _ hi => by cases hi)⟩
    simp [ids, he]
  · exact drops_of_pop drops_push

/-- From an empty stack any number of routes may be taken. -/
theorem drops_of_nil {j : Nat} (hn : n.history = []) (h : Drops n m j) : Drops n m k := by
  obtain ⟨hle, new, hids, hnew⟩ := h
  refine ⟨hle, new, ?_, hnew⟩
  rw [hids, ids, hn]
  simp

theorem drops_of_mapPages {f : Nat → P → P} (h : Drops (n.mapPages f) m k) : Drops n m k := by
  obtain ⟨hle, new, hids, hnew⟩ := h
  exact ⟨hle, new, by rw [hids, ids_mapPages], hnew⟩

theorem drops_ite {c : Prop} [Decidable c] {j : Nat} (hc : c → Drops n m j)
    (hno : ¬ c → Drops n m k) : Drops n m (if c then j else k) := by
  by_cases h : c
  · rw [if_pos h]
    exact hc h
  · rw [if_neg h]
    exact hno h

/-- A route that was there is left exactly if it was not among those on top. -/
theorem mem_ids_of_drops {i : Nat} (h : Drops n m k) (hi : i ∈ n.ids) :
    i ∈ m.ids ↔ i ∉ n.ids.take k := by
  obtain ⟨-, new, hids, hnew⟩ := h
  rw [hids, mem_take_iff_not_mem_drop hi, Classical.not_not, List.mem_append]
  refine ⟨?_, .inr⟩
  rintro (hmem | hmem)
  · exact absurd (hnew i hmem) (Nat.not_le_of_lt (lt_next_of_mem hi))
  · exact hmem

/-- So the routes on top are those that are removed. -/
theorem removed_of_drops (h : Drops n m k) (hr : r ∈ n.history) :
    Removed n m r ↔ r.id ∈ n.ids.take k := by
  have hleft := mem_ids_of_drops h (id_mem_ids hr)
  rw [← Classical.not_not (a := r.id ∈ n.ids.take k), ← hleft]
  refine ⟨?_, ?_⟩
  · rintro ⟨-, hno⟩ hmem
    obtain ⟨t, ht, hid⟩ := List.mem_map.mp hmem
    exact hno t ht hid
  · intro hno
    exact ⟨hr, fun t ht hid => hno (hid ▸ id_mem_ids ht)⟩

/-- Among the routes on top and including `i`: the one on top of all. -/
theorem le_of_mem_take_one {i j : Nat} (hi : i ∈ n.ids) (hj : j ∈ n.ids.take 1) : i ≤ j := by
  have hf := n.ids_falling
  cases hids : n.ids with
  | nil =>
    rw [hids] at hi
    cases hi
  | cons x rest =>
    rw [hids] at hi hj hf
    obtain rfl := List.mem_singleton.mp hj
    rcases List.mem_cons.mp hi with rfl | hi
    · exact Nat.le_refl _
    · exact Nat.le_of_lt ((List.pairwise_cons.mp hf).1 i hi)

/-- And the next one, if `i` is not on top itself. -/
theorem le_of_mem_take_two {i j : Nat} (hi : i ∈ n.ids) (htop : ∃ r, n.top = some r ∧ r.id ≠ i)
    (hj : j ∈ n.ids.take 2) : i ≤ j := by
  obtain ⟨r, hr, hne⟩ := htop
  have hf := n.ids_falling
  have hhead : n.ids.head? = some r.id := by
    rw [ids, List.head?_map, show n.history.head? = some r from hr]
    rfl
  cases hids : n.ids with
  | nil =>
    rw [hids] at hi
    cases hi
  | cons x rest =>
    rw [hids] at hi hj hf hhead
    obtain rfl : x = r.id := Option.some.inj hhead
    have hi' := (List.mem_cons.mp hi).resolve_left (Ne.symm hne)
    rcases List.mem_cons.mp hj with rfl | hj
    · exact Nat.le_of_lt ((List.pairwise_cons.mp hf).1 i hi')
    · cases hrest : rest with
      | nil =>
        rw [hrest] at hi'
        cases hi'
      | cons y rest' =>
        have hf' := (List.pairwise_cons.mp hf).2
        rw [hrest] at hi' hj hf'
        obtain rfl : j = y := List.mem_singleton.mp hj
        rcases List.mem_cons.mp hi' with rfl | hi'
        · exact Nat.le_refl _
        · exact Nat.le_of_lt ((List.pairwise_cons.mp hf').1 i hi')

end

/-! ### Which pages are new -/

/-- Every route of `m` was on `n`, or its page satisfies `Q`. -/
def Adds (n m : Navigator P) (Q : P → Prop) : Prop := ∀ r ∈ m.history, r ∈ n.history ∨ Q r.page

section

variable {m k : Navigator P} {Q : P → Prop}

theorem adds_self : Adds n n Q := fun _ hr => .inl hr

theorem adds_trans (h : Adds n m Q) (h' : Adds m k Q) : Adds n k Q :=
  fun r hr => (h' r hr).elim (h r) .inr

theorem adds_pop : Adds n n.pop Q := fun _ hr => .inl (mem_of_mem_pop hr)

theorem adds_push (h : Q p) : Adds n (n.push p) Q := by
  intro r hr
  rcases mem_push.mp hr with rfl | hr
  · exact .inr h
  · exact .inl hr

theorem adds_pushReplacement (h : Q p) : Adds n (n.pushReplacement p) Q := by
  intro r hr
  rcases mem_pushReplacement hr with ⟨rfl, -⟩ | hr
  · exact .inr h
  · exact .inl (List.mem_of_mem_tail hr)

theorem adds_mapPages {f : Nat → P → P} (h : ∀ i q, f i q = q ∨ Q (f i q)) :
    Adds n (n.mapPages f) Q := by
  intro r hr
  obtain ⟨t, ht, rfl⟩ := mem_mapPages.mp hr
  rcases h t.id t.page with he | hq
  · rw [he]
    exact .inl ht
  · exact .inr hq

theorem adds_setPage {i : Nat} (h : Q p) : Adds n (n.setPage i p) Q := by
  intro r hr
  rcases mem_setPage hr with rfl | hr
  · exact .inr h
  · exact .inl hr

end

/-! ### What stands right below -/

/-- Every page is in the relation `R` to the page right below it, the lowest one to
`none`. -/
def LinkedBy (R : P → Option P → Prop) : List (Route P) → Prop
  | [] => True
  | r :: rest => R r.page (rest.head?.map Route.page) ∧ LinkedBy R rest

/-- The stack is linked by `R`. -/
def Linked (n : Navigator P) (R : P → Option P → Prop) : Prop := LinkedBy R n.history

section

variable {R R' : P → Option P → Prop} {q : P}

theorem LinkedBy.suffix {l rest : List (Route P)} (h : LinkedBy R l) (hs : rest <:+ l) :
    LinkedBy R rest := by
  induction l with
  | nil =>
    obtain rfl := List.suffix_nil.mp hs
    exact h
  | cons r l ih =>
    rcases List.suffix_cons_iff.mp hs with rfl | hs
    · exact h
    · exact ih h.2 hs

theorem linked_home (h : R p none) : (home p).Linked R := ⟨h, trivial⟩

theorem linked_mono (h : n.Linked R) (hR : ∀ p below, R p below → R' p below) : n.Linked R' := by
  unfold Linked at h ⊢
  generalize n.history = l at h ⊢
  induction l with
  | nil => exact trivial
  | cons r rest ih => exact ⟨hR _ _ h.1, ih h.2⟩

/-- What a page is related to, with everything below. -/
theorem suffix_of_linked (h : n.Linked R) (hr : r ∈ n.history) :
    ∃ below, r :: below <:+ n.history ∧ R r.page (below.head?.map Route.page) := by
  obtain ⟨above, below, hh⟩ := List.append_of_mem hr
  have hs : r :: below <:+ n.history := hh ▸ List.suffix_append _ _
  exact ⟨below, hs, (LinkedBy.suffix h hs).1⟩

/-- The same, of the pages alone. -/
theorem linked_of_suffix {below : List P} (h : n.Linked R)
    (hs : p :: below <:+ n.history.map Route.page) : R p below.head? := by
  obtain ⟨rest, hrest, hp⟩ := List.suffix_map_iff.mp hs
  obtain ⟨r, rest, rfl, rfl, rfl⟩ := List.map_eq_cons_iff.mp hp.symm
  rw [List.head?_map]
  exact (LinkedBy.suffix h hrest).1

theorem linked_push (h : n.Linked R) (hp : R p (n.top.map Route.page)) : (n.push p).Linked R :=
  ⟨hp, h⟩

theorem linked_pop (h : n.Linked R) : n.pop.Linked R :=
  LinkedBy.suffix h (List.tail_suffix n.history)

theorem linked_pushReplacement (h : n.Linked R) (hp : ∀ below, R p below) :
    (n.pushReplacement p).Linked R := by
  unfold pushReplacement
  split
  · exact h
  · exact linked_push (linked_pop h) (hp _)

/-- A page may change where it stands, if the new one stands to the pages above and
below as the old one did. -/
theorem linked_setPage {i : Nat} (h : n.Linked R) (hi : n.find i = some p)
    (hdown : ∀ below, R p below → R q below)
    (hup : ∀ above, R above (some p) → R above (some q)) : (n.setPage i q).Linked R := by
  have hp : ∀ r ∈ n.history, r.id = i → r.page = p := by
    intro r hr hid
    have hmem : ⟨i, p⟩ ∈ n.history := find_eq_some.mp hi
    rw [eq_of_id hr hmem hid]
  unfold Linked at h
  show LinkedBy R (n.history.map _)
  generalize n.history = l at h hp
  induction l with
  | nil => exact trivial
  | cons r rest ih =>
    refine ⟨?_, ih h.2 (fun t ht => hp t (List.mem_cons_of_mem _ ht))⟩
    -- first what stands below changes, then the page itself
    have hbelow : R r.page ((rest.map (fun t => (⟨t.id, if t.id = i then q else t.page⟩ :
        Route P))).head?.map Route.page) := by
      cases rest with
      | nil => exact h.1
      | cons t rest =>
        by_cases ht : t.id = i
        · have htp := hp t (List.mem_cons_of_mem _ List.mem_cons_self) ht
          simpa [ht] using hup r.page (htp ▸ h.1)
        · simpa [ht] using h.1
    show R (if r.id = i then q else r.page) _
    by_cases hr : r.id = i
    · rw [if_pos hr]
      exact hdown _ (hp r List.mem_cons_self hr ▸ hbelow)
    · rw [if_neg hr]
      exact hbelow

/-- Nothing stands on the page on top. -/
theorem linked_setPage_top {i : Nat} (h : n.Linked R) (hi : n.top = some ⟨i, p⟩)
    (hdown : ∀ below, R p below → R q below) : (n.setPage i q).Linked R := by
  have hf := n.falling
  rw [top] at hi
  unfold Linked at h
  show LinkedBy R (n.history.map (fun r => ⟨r.id, if r.id = i then q else r.page⟩))
  cases hh : n.history with
  | nil =>
    rw [hh] at hi
    cases hi
  | cons r rest =>
    rw [hh] at hi hf h
    obtain rfl : r = ⟨i, p⟩ := by simpa using hi
    have hrest : rest.map (fun t => (⟨t.id, if t.id = i then q else t.page⟩ : Route P)) = rest := by
      refine (List.map_congr_left ?_).trans (List.map_id rest)
      intro t ht
      have hlt : t.id < i := (List.pairwise_cons.mp hf).1 t ht
      rw [if_neg (Nat.ne_of_lt hlt)]
      rfl
    rw [List.map_cons, hrest, if_pos rfl]
    exact ⟨hdown _ h.1, h.2⟩

end

/-! ### The lowest page -/

/-- The lowest page, if there is any, satisfies `Q`. -/
def Lowest (n : Navigator P) (Q : P → Prop) : Prop :=
  ∀ r, n.history.getLast? = some r → Q r.page

section

variable {m : Navigator P} {Q : P → Prop} {q : P} {i k : Nat}

theorem lowest_home (h : Q p) : (home p).Lowest Q := by
  intro r hr
  obtain rfl := Option.some.inj hr
  exact h

/-- A page that is pushed is lowest only if it is the first one. -/
theorem lowest_push (h : n.Lowest Q) (hp : n.history = [] → Q p) : (n.push p).Lowest Q := by
  intro r hr
  replace hr : (⟨n.next, p⟩ :: n.history).getLast? = some r := hr
  rw [List.getLast?_cons] at hr
  cases hl : n.history.getLast? with
  | none =>
    rw [hl] at hr
    obtain rfl := Option.some.inj hr
    exact hp (List.getLast?_eq_none_iff.mp hl)
  | some t =>
    rw [hl] at hr
    obtain rfl := Option.some.inj hr
    exact h t hl

theorem lowest_pop (h : n.Lowest Q) : n.pop.Lowest Q := by
  intro r hr
  rw [pop_history, List.getLast?_tail] at hr
  split at hr
  · cases hr
  · exact h r hr

/-- The page that is put in the place of the only one is lowest. -/
theorem lowest_pushReplacement (h : n.Lowest Q) (hp : n.history.length ≤ 1 → Q p) :
    (n.pushReplacement p).Lowest Q := by
  unfold pushReplacement
  split
  · exact h
  · rename_i r rest hh
    refine lowest_push (lowest_pop h) ?_
    intro he
    rw [pop_history, hh] at he
    obtain rfl : rest = [] := he
    exact hp (by rw [hh]; exact Nat.le_refl 1)

theorem lowest_mapPages {f : Nat → P → P} (h : n.Lowest Q) (hf : ∀ i q, Q q → Q (f i q)) :
    (n.mapPages f).Lowest Q := by
  intro r hr
  replace hr : (n.history.map _).getLast? = some r := hr
  rw [List.getLast?_map] at hr
  obtain ⟨t, ht, rfl⟩ := Option.map_eq_some_iff.mp hr
  exact hf _ _ (h t ht)

theorem lowest_setPage (h : n.Lowest Q) (hi : n.find i = some q) (hq : Q q → Q p) :
    (n.setPage i p).Lowest Q := by
  intro r hr
  replace hr : (n.history.map _).getLast? = some r := hr
  rw [List.getLast?_map] at hr
  obtain ⟨t, ht, rfl⟩ := Option.map_eq_some_iff.mp hr
  show Q (if t.id = i then p else t.page)
  by_cases hid : t.id = i
  · rw [if_pos hid]
    obtain rfl : t = ⟨i, q⟩ := eq_of_id (List.mem_of_getLast? ht) (find_eq_some.mp hi) hid
    exact hq (h _ ht)
  · rw [if_neg hid]
    exact h t ht

/-- The route `i` is not the lowest one, and will never be. -/
def Above (n : Navigator P) (i : Nat) : Prop := i < n.next ∧ i ∉ n.ids.getLast?

/-- A page that cannot be lowest is above another one. -/
theorem above_of_page (h : n.Lowest Q) (hr : r ∈ n.history) (hq : ¬ Q r.page) : n.Above r.id := by
  refine ⟨n.lt_next r hr, ?_⟩
  rw [ids, List.getLast?_map]
  intro hid
  obtain ⟨t, ht, hid⟩ := Option.map_eq_some_iff.mp hid
  obtain rfl : r = t := eq_of_id hr (List.mem_of_getLast? ht) hid.symm
  exact hq (h r ht)

/-- What was not lowest does not become lowest. -/
theorem above_of_drops (h : n.Above i) (hd : Drops n m k) : m.Above i := by
  obtain ⟨hle, new, hids, hnew⟩ := hd
  refine ⟨Nat.lt_of_lt_of_le h.1 hle, ?_⟩
  intro hi
  rw [hids, List.getLast?_append, List.getLast?_drop] at hi
  split at hi
  · have hnext := hnew i (List.mem_of_getLast? hi)
    exact absurd h.1 (Nat.not_lt_of_le hnext)
  · cases hl : n.ids.getLast? with
    | none =>
      rename_i hlen
      rw [List.getLast?_eq_none_iff] at hl
      exact absurd (by simp [hl]) hlen
    | some j =>
      rw [hl] at hi
      exact h.2 (hl ▸ hi)

/-- While it is on the stack, there is another route. -/
theorem two_le_of_above (h : n.Above i) (hi : (n.find i).isSome) : 2 ≤ n.history.length := by
  obtain ⟨p, hp⟩ := Option.isSome_iff_exists.mp hi
  have hm := find_eq_some.mp hp
  cases hh : n.history with
  | nil =>
    rw [hh] at hm
    cases hm
  | cons t rest =>
    cases rest with
    | nil =>
      rw [hh] at hm
      obtain rfl := List.mem_singleton.mp hm
      exact absurd (by simp [ids, hh]) h.2
    | cons u rest => exact Nat.le_add_left 2 _

end

end Navigator
