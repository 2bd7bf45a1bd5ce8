import Survey.Proofs.Precedence
import Survey.Questionnaire.Steps

/-!
# Steps and positions

Cutting at the separators loses no answerable question and keeps their order (`Questionnaire.flatten_steps`). So each of them
belongs to one step, and a question of an earlier step stands before those of a later one (`Questionnaire.step_le_of_position`).
-/

namespace Survey

theorem flatten_consStep (step : List QuestionId) (steps : List (List QuestionId)) :
    (consStep step steps).flatten = step ++ steps.flatten := by
  unfold consStep
  split
  · rename_i h
    rw [List.isEmpty_iff.1 h, List.nil_append]
  · rfl

/-- What stands before the first separator and in the steps after it is every question that is no separator. -/
theorem flatten_cutAtSeparators (questions : List Question) :
    (cutAtSeparators questions).1 ++ (cutAtSeparators questions).2.flatten =
      (questions.filter (fun question => !question.isSeparator)).map (·.id) := by
  induction questions with
  | nil => rfl
  | cons question rest ih =>
    rw [cutAtSeparators]
    cases hs : question.isSeparator with
    | true => simp [hs, flatten_consStep, ih]
    | false => simp [hs, ih]

namespace Questionnaire

variable {q : Questionnaire}

/-- The steps, one after another, are the answerable questions in their order. -/
theorem flatten_steps : q.steps.flatten = q.answerable.map (·.id) := by
  unfold steps answerable
  rw [flatten_consStep, flatten_cutAtSeparators]

/-- The steps, counted up, are the answerable questions in their order. -/
theorem flatMap_step : (List.range q.stepCount).flatMap q.step = q.answerable.map (·.id) := by
  have hsteps : (List.range q.stepCount).map q.step = q.steps := by
    refine List.ext_getElem (by simp [stepCount]) fun k _ hk => ?_
    simp [step, hk]
  rw [← flatten_steps, List.flatMap_def, hsteps]

/-- There are no questions beyond the last step. -/
theorem step_of_le {k : Nat} (h : q.stepCount ≤ k) : q.step k = [] := by
  rw [step, List.getD_eq_getElem?_getD, List.getElem?_eq_none h, Option.getD_none]

/-! ## The step of a question -/

theorem mem_step_iff {id : QuestionId} {k : Nat} : id ∈ q.step k ↔ ∃ _ : k < q.steps.length, id ∈ q.steps[k] := by
  unfold step
  rw [List.getD_eq_getElem?_getD]
  by_cases h : k < q.steps.length <;> simp [h]

/-- The questions of a step can be answered. -/
theorem exists_answerable_of_mem_step {id : QuestionId} {k : Nat} (h : id ∈ q.step k) :
    ∃ question ∈ q.answerable, question.id = id := by
  obtain ⟨hk, hid⟩ := mem_step_iff.1 h
  have hflat : id ∈ q.steps.flatten := List.mem_flatten.2 ⟨_, List.getElem_mem hk, hid⟩
  rw [flatten_steps] at hflat
  exact List.mem_map.1 hflat

/-- Every answerable question belongs to a step. -/
theorem exists_step {question : Question} (h : question ∈ q.answerable) : ∃ k, question.id ∈ q.step k := by
  have hflat : question.id ∈ q.steps.flatten := by
    rw [flatten_steps]
    exact List.mem_map_of_mem h
  obtain ⟨ids, hids, hid⟩ := List.mem_flatten.1 hflat
  obtain ⟨k, hk, rfl⟩ := List.mem_iff_getElem.1 hids
  exact ⟨k, mem_step_iff.2 ⟨hk, hid⟩⟩

/-! ## The order of steps -/

/-- The one identifier names a question that stands before the question the other names. -/
def Precedes (q : Questionnaire) (x y : QuestionId) : Prop :=
  ∀ a b, q.question? x = some a → q.question? y = some b → a.position < b.position

theorem precedes_of_lt {a b : Question} (ha : a ∈ q.answerable) (hb : b ∈ q.answerable) (hlt : a.position < b.position) :
    q.Precedes a.id b.id := by
  intro x y hx hy
  rw [question?_of_answerable ha] at hx
  rw [question?_of_answerable hb] at hy
  cases hx
  cases hy
  exact hlt

/-- In the steps, one after another, each question precedes those after it. -/
theorem steps_pairwise : q.steps.flatten.Pairwise q.Precedes := by
  rw [flatten_steps, List.pairwise_map]
  exact answerable_ascending.imp_of_mem precedes_of_lt

/-- A question that does not stand after another one does not belong to a later step. -/
theorem step_le_of_position {a b : Question} (ha : a ∈ q.answerable) (hb : b ∈ q.answerable) {j k : Nat}
    (hj : a.id ∈ q.step j) (hk : b.id ∈ q.step k) (hab : a.position ≤ b.position) : j ≤ k := by
  obtain ⟨hj', hja⟩ := mem_step_iff.1 hj
  obtain ⟨hk', hkb⟩ := mem_step_iff.1 hk
  refine Nat.le_of_not_lt fun hlt => ?_
  have hsteps := List.pairwise_iff_getElem.1 (List.pairwise_flatten.1 steps_pairwise).2 k j hk' hj' hlt
  have hba := hsteps b.id hkb a.id hja b a (question?_of_answerable hb) (question?_of_answerable ha)
  exact UInt32.not_lt.2 hab hba

/-- A question belongs to one step only. -/
theorem step_unique {id : QuestionId} {j k : Nat} (hj : id ∈ q.step j) (hk : id ∈ q.step k) : j = k := by
  obtain ⟨question, hq, rfl⟩ := exists_answerable_of_mem_step hj
  exact Nat.le_antisymm (step_le_of_position hq hq hj hk (UInt32.le_refl _))
    (step_le_of_position hq hq hk hj (UInt32.le_refl _))

/-- The step of a question is the one that has it. -/
theorem stepOf?_eq_some_iff {id : QuestionId} {k : Nat} : q.stepOf? id = some k ↔ id ∈ q.step k := by
  unfold stepOf?
  rw [List.findIdx?_eq_some_iff_getElem]
  simp only [List.contains_iff_mem]
  constructor
  · rintro ⟨hk, hid, _⟩
    exact mem_step_iff.2 ⟨hk, hid⟩
  · intro h
    obtain ⟨hk, hid⟩ := mem_step_iff.1 h
    refine ⟨hk, hid, fun j hjk hj => ?_⟩
    have := step_unique (mem_step_iff.2 ⟨Nat.lt_trans hjk hk, hj⟩) h
    omega

end Questionnaire

end Survey
