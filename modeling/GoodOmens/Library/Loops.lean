import Mathlib.Algebra.BigOperators.Fin
import Mathlib.Data.List.FinRange

/-!
# Loops over a vector

Loops `for (int i = 0; i < n; i++)` that assign to the places of a vector or to running
sums, as folds over `List.finRange n`.

If each turn sets its own place, from what stands there, the turns do not see each
other, and the loop is a map (`foldl_set`).  If all turns add to one place, the loop
sets this place to the sum (`foldl_set_add`).  Two running sums are two sums
(`foldl_add_add`).
-/

universe u v

namespace Loops

variable {α : Type u} {n : Nat}

theorem get_set (v : Vector α n) (i : Fin n) (a : α) : (v.set i a i.isLt).get i = a :=
  Vector.getElem_set_self i.isLt

theorem set_get (v : Vector α n) (i : Fin n) : v.set i (v.get i) i.isLt = v :=
  Vector.set_getElem_self i.isLt

/-- A turn for every index of a list, each at its own place. -/
theorem get_foldl_set (f : Fin n → α → α) (is : List (Fin n)) : ∀ v : Vector α n,
    is.Nodup → ∀ j : Fin n,
      (is.foldl (fun w i => w.set i (f i (w.get i)) i.isLt) v).get j =
        if j ∈ is then f j (v.get j) else v.get j := by
  induction is with
  | nil => intro v _ j; rw [if_neg List.not_mem_nil]; rfl
  | cons i is ih =>
    intro v hn j
    obtain ⟨hi, hn⟩ := List.nodup_cons.mp hn
    rw [List.foldl_cons, ih (v.set i (f i (v.get i)) i.isLt) hn j]
    by_cases hj : j = i
    · subst hj
      rw [if_neg hi, if_pos List.mem_cons_self, get_set]
    · have hset : (v.set i (f i (v.get i)) i.isLt).get j = v.get j :=
        Vector.getElem_set_ne i.isLt j.isLt (fun h => hj (Fin.ext h.symm))
      have hmem : j ∈ i :: is ↔ j ∈ is := by simp [hj]
      rw [hset]
      simp only [hmem]

/-- **A loop in which each turn sets its own place is a map.** -/
theorem foldl_set (f : Fin n → α → α) (v : Vector α n) :
    (List.finRange n).foldl (fun w i => w.set i (f i (w.get i)) i.isLt) v =
      Vector.ofFn (fun i => f i (v.get i)) := by
  refine Vector.ext ?_
  intro j hj
  have h := get_foldl_set f (List.finRange n) v (List.nodup_finRange n) ⟨j, hj⟩
  rw [if_pos (List.mem_finRange _)] at h
  rw [Vector.getElem_ofFn hj]
  exact h

section

variable [AddCommMonoid α]

/-- Turns that add to one place. -/
theorem foldl_set_add_list (i : Fin n) (c : Fin n → Prop) [DecidablePred c] (g : Fin n → α)
    (js : List (Fin n)) : ∀ v : Vector α n,
    js.foldl (fun w j => if c j then w.set i (w.get i + g j) i.isLt else w) v =
      v.set i (v.get i + (js.map (fun j => if c j then g j else 0)).sum) i.isLt := by
  induction js with
  | nil => intro v; simp [set_get]
  | cons j js ih =>
    intro v
    rw [List.foldl_cons, ih, List.map_cons, List.sum_cons]
    by_cases hc : c j
    · rw [if_pos hc, if_pos hc, get_set, Vector.set_set, add_assoc]
    · rw [if_neg hc, if_neg hc, zero_add]

/-- **A loop that clears a place and adds to it sets it to the sum.** -/
theorem foldl_set_add (i : Fin n) (c : Fin n → Prop) [DecidablePred c] (g : Fin n → α)
    (v : Vector α n) :
    (List.finRange n).foldl (fun w j => if c j then w.set i (w.get i + g j) i.isLt else w)
        (v.set i 0 i.isLt) =
      v.set i (∑ j, if c j then g j else 0) i.isLt := by
  rw [foldl_set_add_list, Fin.sum_univ_def, get_set, Vector.set_set, zero_add]

/-- **A loop with two running sums.** -/
theorem foldl_add_add {β : Type v} [AddCommMonoid β] (f : Fin n → α) (g : Fin n → β) :
    (List.finRange n).foldl (fun (s : α × β) i => (s.1 + f i, s.2 + g i)) (0, 0) =
      (∑ i, f i, ∑ i, g i) := by
  have hsums : ∀ (is : List (Fin n)) (s : α × β),
      is.foldl (fun (s : α × β) i => (s.1 + f i, s.2 + g i)) s =
        (s.1 + (is.map f).sum, s.2 + (is.map g).sum) := by
    intro is
    induction is with
    | nil => intro s; simp
    | cons i is ih =>
      intro s
      rw [List.foldl_cons, ih, List.map_cons, List.sum_cons, List.map_cons, List.sum_cons,
        add_assoc, add_assoc]
  rw [hsums, Fin.sum_univ_def, Fin.sum_univ_def, zero_add, zero_add]

end

end Loops
