/-!
# Repeated members of a list

`firstRepeat?` finds the first member that stands earlier in the list as well. There is none exactly when the members are
pairwise different.
-/

namespace Survey

/-- The first member of a list that is among `seen` or stands earlier in the list. -/
def firstRepeatAfter? {α : Type} [DecidableEq α] (seen : List α) : List α → Option α
  | [] => none
  | x :: rest => if x ∈ seen then some x else firstRepeatAfter? (x :: seen) rest

/-- The first member of a list that stands earlier in the list as well. -/
def firstRepeat? {α : Type} [DecidableEq α] (xs : List α) : Option α := firstRepeatAfter? [] xs

theorem firstRepeatAfter?_eq_none_iff {α : Type} [DecidableEq α] {seen xs : List α} :
    firstRepeatAfter? seen xs = none ↔ xs.Nodup ∧ ∀ x ∈ xs, x ∉ seen := by
  induction xs generalizing seen with
  | nil => simp [firstRepeatAfter?]
  | cons x rest ih =>
    simp only [firstRepeatAfter?]
    split
    · simp_all
    · rename_i h
      rw [ih]
      simp only [List.nodup_cons, List.mem_cons, forall_eq_or_imp, not_or]
      constructor
      · rintro ⟨hn, hs⟩
        exact ⟨⟨fun hx => (hs x hx).1 rfl, hn⟩, h, fun y hy => (hs y hy).2⟩
      · rintro ⟨⟨hx, hn⟩, _, hs⟩
        exact ⟨hn, fun y hy => ⟨fun e => hx (e ▸ hy), hs y hy⟩⟩

/-- Nothing repeats exactly when the members are pairwise different. -/
theorem firstRepeat?_eq_none_iff {α : Type} [DecidableEq α] {xs : List α} : firstRepeat? xs = none ↔ xs.Nodup := by
  simp [firstRepeat?, firstRepeatAfter?_eq_none_iff]

/-- A repeated member stands at two places: once in `seen` or earlier, and once more. -/
theorem firstRepeatAfter?_eq_some {α : Type} [DecidableEq α] {seen xs : List α} {x : α}
    (h : firstRepeatAfter? seen xs = some x) :
    ∃ before after, xs = before ++ x :: after ∧ (x ∈ seen ∨ x ∈ before) := by
  induction xs generalizing seen with
  | nil => simp [firstRepeatAfter?] at h
  | cons y rest ih =>
    simp only [firstRepeatAfter?] at h
    split at h
    · rename_i hy
      cases h
      exact ⟨[], rest, rfl, Or.inl hy⟩
    · obtain ⟨before, after, rfl, hx⟩ := ih h
      refine ⟨y :: before, after, rfl, ?_⟩
      simp only [List.mem_cons] at hx ⊢
      rcases hx with (rfl | hx) | hx <;> simp_all

/-- A repeated member stands at two places of the list. -/
theorem firstRepeat?_eq_some {α : Type} [DecidableEq α] {xs : List α} {x : α} (h : firstRepeat? xs = some x) :
    ∃ before after, xs = before ++ x :: after ∧ x ∈ before := by
  simpa using firstRepeatAfter?_eq_some h

end Survey
