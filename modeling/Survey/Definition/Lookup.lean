/-!
# Looking up by a key

Where the members of a list have pairwise different keys, a look-up by key finds the one member that has it.
-/

namespace Survey

variable {α κ : Type} [DecidableEq κ]

/-- A member is found by its key. -/
theorem find?_key {key : α → κ} {xs : List α} (h : (xs.map key).Nodup) {x : α} (hx : x ∈ xs) :
    xs.find? (fun y => key y = key x) = some x := by
  induction xs with
  | nil => simp at hx
  | cons y rest ih =>
    rw [List.map_cons, List.nodup_cons] at h
    rcases List.mem_cons.1 hx with rfl | hx
    · simp
    · have hne : key y ≠ key x := fun e => h.1 (e ▸ List.mem_map_of_mem hx)
      simp [hne, ih h.2 hx]

/-- What is found by a key has it. -/
theorem key_of_find? {key : α → κ} {xs : List α} {k : κ} {x : α} (h : xs.find? (fun y => key y = k) = some x) : key x = k := by
  simpa using List.find?_some h

/-- What is found by a key is the member that has it. -/
theorem find?_key_eq_some_iff {key : α → κ} {xs : List α} (h : (xs.map key).Nodup) {k : κ} {x : α} :
    xs.find? (fun y => key y = k) = some x ↔ x ∈ xs ∧ key x = k := by
  constructor
  · intro hf
    exact ⟨List.mem_of_find?_eq_some hf, key_of_find? hf⟩
  · rintro ⟨hx, rfl⟩
    exact find?_key h hx

/-- Nothing is found exactly when no member has the key. -/
theorem find?_key_eq_none_iff {key : α → κ} {xs : List α} {k : κ} :
    xs.find? (fun y => key y = k) = none ↔ ∀ x ∈ xs, key x ≠ k := by
  simp [List.find?_eq_none]

/-- What is found by a key does not depend on the order of the members. -/
theorem find?_key_eq_of_perm {key : α → κ} {xs ys : List α} (hperm : xs.Perm ys) (h : (xs.map key).Nodup) (k : κ) :
    xs.find? (fun x => key x = k) = ys.find? (fun x => key x = k) := by
  have h' : (ys.map key).Nodup := (hperm.map key).nodup_iff.1 h
  ext x
  rw [find?_key_eq_some_iff h, find?_key_eq_some_iff h', hperm.mem_iff]

/-- The place at which a key is found is the place of that key. -/
theorem findIdx?_key_eq_some_iff {key : α → κ} {xs : List α} (h : (xs.map key).Nodup) {k : κ} {i : Nat} :
    xs.findIdx? (fun x => key x = k) = some i ↔ (xs.map key)[i]? = some k := by
  rw [List.findIdx?_eq_some_iff_getElem, List.getElem?_eq_some_iff]
  simp only [List.length_map, List.getElem_map, decide_eq_true_eq]
  constructor
  · rintro ⟨hi, hk, -⟩
    exact ⟨hi, hk⟩
  · rintro ⟨hi, hk⟩
    refine ⟨hi, hk, fun j hj hkj => ?_⟩
    have hlt : j < xs.length := Nat.lt_trans hj hi
    have hne := List.pairwise_iff_getElem.1 h j i (by simpa using hlt) (by simpa using hi) hj
    simp [hk, hkj] at hne

/-- Keys found at the same place are the same. -/
theorem findIdx?_key_inj {key : α → κ} {xs : List α} {k l : κ} {i : Nat} (hk : xs.findIdx? (fun x => key x = k) = some i)
    (hl : xs.findIdx? (fun x => key x = l) = some i) : k = l := by
  obtain ⟨_, hk, -⟩ := List.findIdx?_eq_some_iff_getElem.1 hk
  obtain ⟨_, hl, -⟩ := List.findIdx?_eq_some_iff_getElem.1 hl
  exact (of_decide_eq_true hk).symm.trans (of_decide_eq_true hl)

end Survey
