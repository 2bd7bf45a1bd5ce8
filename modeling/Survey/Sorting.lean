/-!
# Sorting

`sortBy` sorts a list by insertion. It is stable: members of which each may come before the other stay in the order in which they were
written (`sortBy_filter`).
-/

namespace Survey

section Sorting

variable {α : Type} {le : α → α → Bool} {p : α → Bool}

/-- Places a member before the first of a list that does not come before it. -/
def placeBy (le : α → α → Bool) (x : α) : List α → List α
  | [] => [x]
  | y :: rest => if le x y then x :: y :: rest else y :: placeBy le x rest

/-- The members of a list in ascending order. -/
def sortBy (le : α → α → Bool) (xs : List α) : List α := xs.foldr (placeBy le) []

theorem placeBy_perm (x : α) (xs : List α) : (placeBy le x xs).Perm (x :: xs) := by
  induction xs with
  | nil => exact List.Perm.refl _
  | cons y rest ih =>
    rw [placeBy]
    split
    · exact List.Perm.refl _
    · exact (ih.cons y).trans (List.Perm.swap x y rest)

/-- Sorting loses and adds nothing. -/
theorem sortBy_perm (xs : List α) : (sortBy le xs).Perm xs := by
  induction xs with
  | nil => exact List.Perm.refl _
  | cons x rest ih => exact (placeBy_perm x _).trans (ih.cons x)

/-! ## Order -/

theorem placeBy_pairwise (htrans : ∀ a b c, le a b → le b c → le a c) (htotal : ∀ a b, le a b ∨ le b a) {x : α} {xs : List α}
    (h : xs.Pairwise fun a b => le a b) : (placeBy le x xs).Pairwise fun a b => le a b := by
  induction xs with
  | nil => exact List.pairwise_singleton _ _
  | cons y rest ih =>
    obtain ⟨hy, hrest⟩ := List.pairwise_cons.1 h
    rw [placeBy]
    split
    · rename_i hxy
      refine List.pairwise_cons.2 ⟨fun z hz => ?_, h⟩
      rcases List.mem_cons.1 hz with rfl | hz
      · exact hxy
      · exact htrans x y z hxy (hy z hz)
    · rename_i hxy
      refine List.pairwise_cons.2 ⟨fun z hz => ?_, ih hrest⟩
      rcases List.mem_cons.1 ((placeBy_perm x rest).mem_iff.1 hz) with rfl | hz
      · exact (htotal z y).resolve_left hxy
      · exact hy z hz

/-- A sorted list ascends. -/
theorem sortBy_pairwise (htrans : ∀ a b c, le a b → le b c → le a c) (htotal : ∀ a b, le a b ∨ le b a) (xs : List α) :
    (sortBy le xs).Pairwise fun a b => le a b := by
  induction xs with
  | nil => exact List.Pairwise.nil
  | cons x rest ih => exact placeBy_pairwise htrans htotal ih

/-- A list that ascends already stays as it is. -/
theorem sortBy_of_pairwise {xs : List α} (h : xs.Pairwise fun a b => le a b) : sortBy le xs = xs := by
  induction xs with
  | nil => rfl
  | cons x rest ih =>
    obtain ⟨hx, hrest⟩ := List.pairwise_cons.1 h
    have hcons : sortBy le (x :: rest) = placeBy le x (sortBy le rest) := rfl
    rw [hcons, ih hrest]
    cases rest with
    | nil => rfl
    | cons y rest => rw [placeBy, if_pos (hx y List.mem_cons_self)]

/-! ## Stability -/

theorem placeBy_filter (h : ∀ a b, p a → p b → le a b) (x : α) (xs : List α) :
    (placeBy le x xs).filter p = (x :: xs).filter p := by
  induction xs with
  | nil => rfl
  | cons y rest ih =>
    rw [placeBy]
    split
    · rfl
    · rename_i hxy
      -- `x` is put behind `y`, so not both of them are selected
      have hnot : p x → ¬ p y := fun hx hy => hxy (h x y hx hy)
      rw [List.filter_cons, ih]
      simp only [List.filter_cons]
      split <;> split <;> simp_all

/-- Members of which each may come before the other stay in their order. -/
theorem sortBy_filter (h : ∀ a b, p a → p b → le a b) (xs : List α) : (sortBy le xs).filter p = xs.filter p := by
  induction xs with
  | nil => rfl
  | cons x rest ih =>
    have hcons : sortBy le (x :: rest) = placeBy le x (sortBy le rest) := rfl
    rw [hcons, placeBy_filter h, List.filter_cons, List.filter_cons, ih]

/-- So the first of them is the first one that was written. -/
theorem find?_sortBy (h : ∀ a b, p a → p b → le a b) (xs : List α) : (sortBy le xs).find? p = xs.find? p := by
  rw [← List.head?_filter, sortBy_filter h, List.head?_filter]

end Sorting

/-- The members of a list in ascending order of their places, one to a place: of those that share a place, the first that was written. -/
def sortOnce {κ β : Type} [DecidableEq κ] (le : κ → κ → Bool) (placed : List (κ × β)) : List (κ × β) :=
  (sortBy (fun x y => le x.1 y.1) placed).eraseRepsBy fun x y => x.1 = y.1

end Survey
