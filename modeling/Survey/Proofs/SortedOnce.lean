import Mathlib.Data.List.Basic
import Survey.Definition.Lookup
import Survey.Sorting

/-!
# One member to a place

`sortOnce` sorts a list by the places of its members, and leaves out each member that comes right after one of its place. What is left
ascends (`sortOnce_ascending`), and of the members of a place it is the first that was written (`mem_sortOnce_iff`): sorting brings them
together and keeps their order, so the first of them is the one that stays.
-/

namespace Survey

/-! ## Repetitions -/

section Repetitions

variable {α κ : Type}

/-- The loop puts what it keeps behind what was kept before. -/
theorem eraseRepsBy_loop {r : α → α → Bool} (x : α) (xs kept : List α) :
    List.eraseRepsBy.loop r x xs kept = kept.reverse ++ List.eraseRepsBy.loop r x xs [] := by
  induction xs generalizing x kept with
  | nil => simp [List.eraseRepsBy.loop]
  | cons y rest ih =>
    simp only [List.eraseRepsBy.loop]
    cases r x y with
    | true => exact ih x kept
    | false =>
      simp only
      rw [ih y (x :: kept), ih y [x]]
      simp

/-- A member stays, and the next one goes if it repeats it. -/
theorem eraseRepsBy_cons_cons {r : α → α → Bool} (x y : α) (rest : List α) :
    (x :: y :: rest).eraseRepsBy r = if r x y then (x :: rest).eraseRepsBy r else x :: (y :: rest).eraseRepsBy r := by
  simp only [List.eraseRepsBy, List.eraseRepsBy.loop]
  cases r x y with
  | true => rfl
  | false => simp [eraseRepsBy_loop y rest [x]]

theorem eraseRepsBy_sublist {r : α → α → Bool} (xs : List α) : (xs.eraseRepsBy r).Sublist xs := by
  cases xs with
  | nil => exact List.Sublist.slnil
  | cons x rest =>
    induction rest generalizing x with
    | nil => exact List.Sublist.refl _
    | cons y rest ih =>
      rw [eraseRepsBy_cons_cons]
      split
      · exact (ih x).trans ((List.sublist_cons_self y rest).cons_cons x)
      · exact (ih y).cons_cons x

variable [DecidableEq κ] {key : α → κ}

/-- The first member of a key never goes, whatever the order. -/
theorem find?_eraseRepsBy (xs : List α) (k : κ) :
    (xs.eraseRepsBy fun x y => key x = key y).find? (fun x => key x = k) = xs.find? (fun x => key x = k) := by
  cases xs with
  | nil => rfl
  | cons x rest =>
    induction rest generalizing x with
    | nil => rfl
    | cons y rest ih =>
      rw [eraseRepsBy_cons_cons]
      by_cases hxy : key x = key y
      · rw [if_pos (decide_eq_true hxy), ih x]
        by_cases hk : key x = k <;> simp [hk, ← hxy]
      · rw [if_neg (by simpa using hxy), List.find?_cons, List.find?_cons, ih y]

/-- In a list whose keys ascend no key is left twice: members of one key stand side by side. -/
theorem eraseRepsBy_pairwise {le : κ → κ → Bool} (hantisymm : ∀ i j, le i j → le j i → i = j) {xs : List α}
    (h : xs.Pairwise fun x y => le (key x) (key y)) :
    (xs.eraseRepsBy fun x y => key x = key y).Pairwise fun x y => le (key x) (key y) ∧ key x ≠ key y := by
  cases xs with
  | nil => exact List.Pairwise.nil
  | cons x rest =>
    induction rest generalizing x with
    | nil => exact List.pairwise_singleton _ _
    | cons y rest ih =>
      obtain ⟨hx, hrest⟩ := List.pairwise_cons.1 h
      rw [eraseRepsBy_cons_cons]
      by_cases hxy : key x = key y
      · rw [if_pos (decide_eq_true hxy)]
        exact ih x (h.sublist ((List.sublist_cons_self y rest).cons_cons x))
      · rw [if_neg (by simpa using hxy)]
        refine List.pairwise_cons.2 ⟨fun z hz => ?_, ih y hrest⟩
        have hz := (eraseRepsBy_sublist _).subset hz
        refine ⟨hx z hz, fun hxz => hxy ?_⟩
        rcases List.mem_cons.1 hz with rfl | hz
        · exact hxz
        · have hyz := (List.pairwise_cons.1 hrest).1 z hz
          exact hantisymm _ _ (hx y List.mem_cons_self) (hxz ▸ hyz)

end Repetitions

/-! ## Sorting and leaving out -/

/-- Any two places can be compared, and only a place itself stands both before and behind it. -/
structure ComparesPlaces {κ : Type} (le : κ → κ → Bool) : Prop where
  trans : ∀ i j k, le i j → le j k → le i k
  total : ∀ i j, le i j ∨ le j i
  antisymm : ∀ i j, le i j → le j i → i = j

section Sorted

variable {κ β : Type} [DecidableEq κ] {le : κ → κ → Bool}

/-- The places of what is left ascend. -/
theorem sortOnce_ascending (h : ComparesPlaces le) (placed : List (κ × β)) :
    (sortOnce le placed).Pairwise fun x y => le x.1 y.1 ∧ x.1 ≠ y.1 := by
  have hsorted := sortBy_pairwise (fun x y z : κ × β => h.trans x.1 y.1 z.1) (fun x y => h.total x.1 y.1) placed
  exact eraseRepsBy_pairwise h.antisymm hsorted

theorem nodup_places_sortOnce (h : ComparesPlaces le) (placed : List (κ × β)) : ((sortOnce le placed).map (·.1)).Nodup :=
  List.pairwise_map.2 ((sortOnce_ascending h placed).imp And.right)

/-- At each place the first member that was written is found. -/
theorem find?_sortOnce (h : ComparesPlaces le) (placed : List (κ × β)) (k : κ) :
    (sortOnce le placed).find? (fun x => x.1 = k) = placed.find? (fun x => x.1 = k) := by
  have hsame : ∀ x y : κ × β, decide (x.1 = k) → decide (y.1 = k) → le x.1 y.1 := by
    intro x y hx hy
    rw [of_decide_eq_true hx, of_decide_eq_true hy]
    exact (h.total k k).elim id id
  rw [sortOnce, find?_eraseRepsBy, find?_sortBy hsame]

/-- What is left are the first members of the places. -/
theorem mem_sortOnce_iff (h : ComparesPlaces le) {placed : List (κ × β)} {x : κ × β} :
    x ∈ sortOnce le placed ↔ placed.find? (fun y => y.1 = x.1) = some x := by
  rw [← find?_sortOnce h, find?_key_eq_some_iff (nodup_places_sortOnce h placed), and_iff_left rfl]

/-- Where the members of a place are one, nothing is lost. -/
theorem mem_sortOnce_iff_mem (h : ComparesPlaces le) {placed : List (κ × β)} (hone : ∀ x ∈ placed, ∀ y ∈ placed, x.1 = y.1 → x = y)
    {x : κ × β} : x ∈ sortOnce le placed ↔ x ∈ placed := by
  rw [mem_sortOnce_iff h]
  refine ⟨List.mem_of_find?_eq_some, fun hx => ?_⟩
  obtain ⟨y, hfound⟩ : ∃ y, placed.find? (fun y => y.1 = x.1) = some y := by
    rw [← Option.isSome_iff_exists, List.find?_isSome]
    exact ⟨x, hx, by simp⟩
  have hplace : y.1 = x.1 := key_of_find? hfound
  rw [hfound, hone y (List.mem_of_find?_eq_some hfound) x hx hplace]

end Sorted

/-- In a strict order, lists that ascend are determined by their members. -/
theorem eq_of_pairwise_of_mem_iff {α : Type} {R : α → α → Prop} (hasymm : ∀ x y, R x y → ¬ R y x) {xs ys : List α}
    (hx : xs.Pairwise R) (hy : ys.Pairwise R) (h : ∀ x, x ∈ xs ↔ x ∈ ys) : xs = ys := by
  have hnodup : ∀ {zs : List α}, zs.Pairwise R → zs.Nodup := fun hz => hz.imp fun hlt heq => by
    subst heq
    exact hasymm _ _ hlt hlt
  have hperm : xs.Perm ys := (List.perm_ext_iff_of_nodup (hnodup hx) (hnodup hy)).2 h
  exact hperm.eq_of_pairwise (fun x y _ _ hxy hyx => absurd hyx (hasymm x y hxy)) hx hy

end Survey
