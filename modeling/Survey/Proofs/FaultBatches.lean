import Mathlib.Algebra.BigOperators.Group.List.Lemmas
import Mathlib.Algebra.GroupWithZero.Nat
import Survey.Proofs.Gathering

/-!
# Batches of faults

While answers are checked, faults are noted one by one, and the same fault may be noted again. A batch keeps each of them once, in the order
in which they were first noted, and what can be asked of it agrees: the questions it names, the kinds of fault of each, and their number
(`Faults.each_fault_is_kept_once`).

The views are of one form: `List.eraseDups`, which keeps the first of equal members, of what was noted, or of the questions or the kinds of
that. So most is said of `eraseDups`, by induction from the back, since the last member is kept exactly if it is new.
-/

namespace Survey

/-! ## The first of equal members -/

section Firsts

variable {α β : Type} [DecidableEq α] [DecidableEq β]

/-- The members of a list, each once, in the order in which they first come in it. -/
structure ListsFirsts (firsts xs : List α) : Prop where
  mem_iff : ∀ x, x ∈ firsts ↔ x ∈ xs
  nodup : firsts.Nodup
  ordered : firsts.Pairwise fun x y => xs.idxOf x < xs.idxOf y

/-- A last member is kept if it is new. -/
theorem eraseDups_concat (xs : List α) (x : α) :
    (xs ++ [x]).eraseDups = if x ∈ xs then xs.eraseDups else xs.eraseDups ++ [x] := by
  rw [List.eraseDups_append]
  by_cases h : x ∈ xs <;> simp [List.removeAll, List.eraseDups_cons, h]

/-- A member that was there comes first where it did when one more is added. -/
theorem pairwise_idxOf_concat {xs firsts : List α} (h : firsts.Pairwise fun x y => xs.idxOf x < xs.idxOf y)
    (hmem : ∀ y ∈ firsts, y ∈ xs) (x : α) : firsts.Pairwise fun y z => (xs ++ [x]).idxOf y < (xs ++ [x]).idxOf z := by
  refine h.imp_of_mem fun {y z} hy hz hlt => ?_
  rw [List.idxOf_append_of_mem (hmem y hy), List.idxOf_append_of_mem (hmem z hz)]
  exact hlt

/-- Leaving out repetitions keeps each member once, where it first comes. -/
theorem listsFirsts_eraseDups (xs : List α) : ListsFirsts xs.eraseDups xs := by
  induction xs using List.reverseRecOn with
  | nil => exact ⟨by simp, by simp, by simp⟩
  | append_singleton xs x ih =>
    have hmem : ∀ y ∈ xs.eraseDups, y ∈ xs := fun y hy => (ih.mem_iff y).1 hy
    rw [eraseDups_concat]
    by_cases hx : x ∈ xs
    · rw [if_pos hx]
      refine ⟨fun y => ?_, ih.nodup, pairwise_idxOf_concat ih.ordered hmem x⟩
      rw [ih.mem_iff, List.mem_append, List.mem_singleton]
      exact ⟨Or.inl, fun h => h.elim id fun h => h ▸ hx⟩
    · rw [if_neg hx]
      refine ⟨fun y => ?_, ?_, List.pairwise_append.2 ⟨pairwise_idxOf_concat ih.ordered hmem x, by simp, ?_⟩⟩
      · rw [List.mem_append, List.mem_append, ih.mem_iff]
      · refine List.nodup_append.2 ⟨ih.nodup, by simp, fun y hy z hz hyz => ?_⟩
        rw [List.mem_singleton.1 hz] at hyz
        exact hx (hyz ▸ hmem y hy)
      · intro y hy z hz
        rw [List.mem_singleton.1 hz, List.idxOf_append_of_mem (hmem y hy), List.idxOf_append_of_notMem hx]
        exact Nat.lt_of_lt_of_le (List.idxOf_lt_length_of_mem (hmem y hy)) (Nat.le_add_right _ _)

/-- Leaving out repetitions beforehand makes no difference to the first of equal images. -/
theorem eraseDups_map_eraseDups (f : α → β) (xs : List α) : (xs.eraseDups.map f).eraseDups = (xs.map f).eraseDups := by
  induction xs using List.reverseRecOn with
  | nil => rfl
  | append_singleton xs x ih =>
    have hmem : f x ∈ xs.eraseDups.map f ↔ f x ∈ xs.map f := by simp
    rw [eraseDups_concat, List.map_append, List.map_singleton, eraseDups_concat]
    by_cases hx : x ∈ xs
    · rw [if_pos hx, if_pos (List.mem_map_of_mem hx), ih]
    · rw [if_neg hx, List.map_append, List.map_singleton, eraseDups_concat, ih]
      simp only [hmem]

/-- Nor does it to the members that are selected. -/
theorem eraseDups_filter (p : α → Bool) (xs : List α) : (xs.filter p).eraseDups = xs.eraseDups.filter p := by
  induction xs using List.reverseRecOn with
  | nil => rfl
  | append_singleton xs x ih =>
    rw [eraseDups_concat, List.filter_append]
    cases hp : p x with
    | false => by_cases hx : x ∈ xs <;> simp [hp, hx, ih]
    | true =>
      rw [List.filter_singleton, hp, cond_true, eraseDups_concat, ih]
      by_cases hx : x ∈ xs <;> simp [hp, hx]

/-- Where different members have different images, the first of equal images are the images of the first of equal members. -/
theorem eraseDups_map_of_injOn {f : α → β} {xs : List α} (h : ∀ x ∈ xs, ∀ y ∈ xs, f x = f y → x = y) :
    (xs.map f).eraseDups = xs.eraseDups.map f := by
  induction xs using List.reverseRecOn with
  | nil => rfl
  | append_singleton xs x ih =>
    have ih := ih fun y hy z hz => h y (List.mem_append_left _ hy) z (List.mem_append_left _ hz)
    have hmem : f x ∈ xs.map f ↔ x ∈ xs := by
      refine ⟨fun hfx => ?_, List.mem_map_of_mem⟩
      obtain ⟨y, hy, hyx⟩ := List.mem_map.1 hfx
      exact h y (List.mem_append_left _ hy) x (by simp) hyx ▸ hy
    rw [List.map_append, List.map_singleton, eraseDups_concat, eraseDups_concat, ih]
    by_cases hx : x ∈ xs <;> simp [hmem, hx]

/-- The members of a list are as many as there are of each of its different members together. -/
theorem sum_count_eraseDups (xs : List α) : (xs.eraseDups.map fun x => xs.count x).sum = xs.length := by
  have hperm : xs.eraseDups.Perm xs.dedup :=
    (List.perm_ext_iff_of_nodup (listsFirsts_eraseDups xs).nodup (List.nodup_dedup xs)).2 fun x => by simp
  rw [(hperm.map _).sum_eq, List.sum_map_count_dedup_eq_length]

end Firsts

namespace Faults

/-! ## Views of a batch -/

/-- Nothing is wrong exactly if the number of faults is zero. -/
theorem isEmpty_iff_size {f : Faults} : f.isEmpty = true ↔ f.size = 0 := by
  cases h : f.termsMissing <;> simp [isEmpty, size, h]

theorem questionsAfter_eq (seen : List QuestionId) (faults : List Fault) :
    questionsAfter seen faults = ((faults.map (·.question)).filter (· ∉ seen)).eraseDups := by
  induction faults generalizing seen with
  | nil => rfl
  | cons fault rest ih =>
    rw [questionsAfter]
    by_cases hseen : fault.question ∈ seen
    · simp [hseen, ih]
    · rw [if_neg hseen, ih, List.map_cons, List.filter_cons_of_pos (by simpa using hseen), List.eraseDups_cons, List.filter_filter]
      simp [not_or, beq_eq_decide]

/-- The questions of a batch are those of its faults. -/
theorem questions_eq (f : Faults) : f.questions = (f.entries.map (·.question)).eraseDups := by
  rw [questions, questionsAfter_eq]
  simp

theorem length_kindsOf (f : Faults) (id : QuestionId) : (f.kindsOf id).length = (f.entries.map (·.question)).count id := by
  rw [kindsOf, List.length_map, List.count_eq_countP, List.countP_map, List.countP_eq_length_filter]
  rfl

theorem kindsOf_eq_nil_iff {f : Faults} {id : QuestionId} : f.kindsOf id = [] ↔ id ∉ f.questions := by
  rw [← List.length_eq_zero_iff, length_kindsOf, List.count_eq_zero, questions_eq, List.mem_eraseDups]

/-- The kinds of fault of the questions of a batch are its faults. -/
theorem sum_length_kindsOf (f : Faults) : (f.questions.map fun id => (f.kindsOf id).length).sum = f.entries.length := by
  simp only [length_kindsOf, questions_eq, sum_count_eraseDups, List.length_map]

/-! ## What was noted -/

/-- A call while answers are checked. -/
inductive Note where
  | fault (question : QuestionId) (kind : FaultKind)
  | termsMissing
  deriving DecidableEq, Repr

/-- A batch with one more note. -/
def add (f : Faults) : Note → Faults
  | .fault question kind => f.push question kind
  | .termsMissing => f.flagTerms

/-- The batch of notes, one after another. -/
def noted (notes : List Note) : Faults := notes.foldl add .none

/-- The faults among notes, as often as they are there. -/
def pushed (notes : List Note) : List Fault :=
  notes.filterMap fun
    | .fault question kind => Option.some ⟨question, kind⟩
    | .termsMissing => Option.none

theorem noted_concat (notes : List Note) (note : Note) : noted (notes ++ [note]) = (noted notes).add note := by
  rw [noted, List.foldl_concat, noted]

/-- A batch keeps the first of equal faults. -/
theorem entries_noted (notes : List Note) : (noted notes).entries = (pushed notes).eraseDups := by
  induction notes using List.reverseRecOn with
  | nil => rfl
  | append_singleton notes note ih =>
    rw [noted_concat, pushed, List.filterMap_append, ← pushed]
    cases note with
    | fault question kind =>
      change ((noted notes).push question kind).entries = (pushed notes ++ [(⟨question, kind⟩ : Fault)]).eraseDups
      simp only [entries_push, eraseDups_concat, ih, List.mem_eraseDups]
    | termsMissing =>
      change (noted notes).entries = (pushed notes ++ []).eraseDups
      rw [List.append_nil, ih]

/-- It is marked if the terms were among the notes. -/
theorem termsMissing_noted (notes : List Note) : (noted notes).termsMissing = true ↔ .termsMissing ∈ notes := by
  induction notes using List.reverseRecOn with
  | nil => simp [noted, none]
  | append_singleton notes note ih =>
    rw [noted_concat, List.mem_append, ← ih]
    cases note <;> simp [add, flagTerms]

/-- The kinds of fault of a question are those noted of it. -/
theorem kindsOf_noted (notes : List Note) (id : QuestionId) :
    (noted notes).kindsOf id = (((pushed notes).filter (·.question = id)).map (·.kind)).eraseDups := by
  rw [kindsOf, entries_noted, ← eraseDups_filter, eraseDups_map_of_injOn]
  intro x hx y hy hkind
  have hxid := (List.mem_filter.1 hx).2
  have hyid := (List.mem_filter.1 hy).2
  cases x
  cases y
  simp_all

/-- A batch keeps each fault that is noted once. It lists the faults in the order in which they were first noted, the questions in the order
in which they first had one, and for each question the kinds in the order in which they were first noted of it; these are none exactly for
the other questions, and over the questions they add up to the faults listed. Its size is the number of these, and one more if it was noted
that the terms are missing, and it is empty exactly if its size is zero. -/
theorem each_fault_is_kept_once (notes : List Note) :
    ListsFirsts (noted notes).entries (pushed notes) ∧
    ListsFirsts (noted notes).questions ((pushed notes).map (·.question)) ∧
    (∀ id, ListsFirsts ((noted notes).kindsOf id) (((pushed notes).filter (·.question = id)).map (·.kind)) ∧
      ((noted notes).kindsOf id = [] ↔ id ∉ (noted notes).questions)) ∧
    ((noted notes).questions.map fun id => ((noted notes).kindsOf id).length).sum = (noted notes).entries.length ∧
    ((noted notes).size = (noted notes).entries.length + if .termsMissing ∈ notes then 1 else 0) ∧
    ((noted notes).isEmpty = true ↔ (noted notes).size = 0) := by
  refine ⟨?_, ?_, fun id => ⟨?_, kindsOf_eq_nil_iff⟩, sum_length_kindsOf _, ?_, isEmpty_iff_size⟩
  · rw [entries_noted]
    exact listsFirsts_eraseDups _
  · rw [questions_eq, entries_noted, eraseDups_map_eraseDups]
    exact listsFirsts_eraseDups _
  · rw [kindsOf_noted]
    exact listsFirsts_eraseDups _
  · simp only [size, termsMissing_noted]

end Faults

end Survey
