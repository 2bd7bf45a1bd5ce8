import Survey.Proofs.Steps

/-!
# The outline of a questionnaire

The steps, the step of a question and the number shown with it are looked up apart from each other and tell one story
(`Questionnaire.outline_tells_one_story`). The steps cut the answerable questions into parts that are not empty, and they cut exactly at
the separators: two questions are in one step if no separator stands between them.

Cutting is a recursion from the back, so what it does at one separator is said of the questions in front of it and behind it
(`stepsOf_append_separator`), and what it does where there is none of the questions up to the next one.
-/

namespace Survey

/-! ## Cutting at separators -/

/-- The steps into which questions are cut. -/
def stepsOf (questions : List Question) : List (List QuestionId) :=
  consStep (cutAtSeparators questions).1 (cutAtSeparators questions).2

theorem mem_consStep {step other : List QuestionId} {steps : List (List QuestionId)} :
    other ∈ consStep step steps ↔ step ≠ [] ∧ other = step ∨ other ∈ steps := by
  unfold consStep
  cases step <;> simp

theorem consStep_append (step : List QuestionId) (steps later : List (List QuestionId)) :
    consStep step (steps ++ later) = consStep step steps ++ later := by
  unfold consStep
  split <;> simp

/-- A separator ends a step, and if there is none to end, it does nothing. -/
theorem cutAtSeparators_separator {s : Question} {rest : List Question} (hs : s.isSeparator = true) :
    cutAtSeparators (s :: rest) = ([], stepsOf rest) := by
  simp [cutAtSeparators, hs, stepsOf]

/-- A question that can be answered joins the step of what comes next. -/
theorem cutAtSeparators_question {question : Question} {rest : List Question} (hq : question.isSeparator = false) :
    cutAtSeparators (question :: rest) = (question.id :: (cutAtSeparators rest).1, (cutAtSeparators rest).2) := by
  simp [cutAtSeparators, hq]

/-- No step after a separator is empty. -/
theorem ne_nil_of_mem_cutAtSeparators {questions : List Question} :
    ∀ step ∈ (cutAtSeparators questions).2, step ≠ [] := by
  induction questions with
  | nil => simp [cutAtSeparators]
  | cons question rest ih =>
    intro step hstep
    cases hs : question.isSeparator with
    | true =>
      rw [cutAtSeparators_separator hs] at hstep
      rcases mem_consStep.1 hstep with ⟨hne, rfl⟩ | h
      · exact hne
      · exact ih step h
    | false =>
      rw [cutAtSeparators_question hs] at hstep
      exact ih step hstep

/-- And so no step is. -/
theorem ne_nil_of_mem_stepsOf {questions : List Question} {step : List QuestionId} (h : step ∈ stepsOf questions) : step ≠ [] := by
  rcases mem_consStep.1 h with ⟨hne, rfl⟩ | h
  · exact hne
  · exact ne_nil_of_mem_cutAtSeparators step h

theorem cutAtSeparators_append_separator {before after : List Question} {s : Question} (hs : s.isSeparator = true) :
    cutAtSeparators (before ++ s :: after) = ((cutAtSeparators before).1, (cutAtSeparators before).2 ++ stepsOf after) := by
  induction before with
  | nil => exact cutAtSeparators_separator hs
  | cons question rest ih =>
    rw [List.cons_append]
    cases hq : question.isSeparator with
    | true => simp only [cutAtSeparators_separator hq, stepsOf, ih, consStep_append]
    | false => rw [cutAtSeparators_question hq, cutAtSeparators_question hq, ih]

/-- What stands in front of a separator and what stands behind it is cut apart. -/
theorem stepsOf_append_separator {before after : List Question} {s : Question} (hs : s.isSeparator = true) :
    stepsOf (before ++ s :: after) = stepsOf before ++ stepsOf after := by
  simp only [stepsOf, cutAtSeparators_append_separator hs, consStep_append]

/-- Questions without a separator among them stay together, and with what comes next. -/
theorem cutAtSeparators_append {together rest : List Question} (h : ∀ question ∈ together, question.isSeparator = false) :
    cutAtSeparators (together ++ rest) = (together.map (·.id) ++ (cutAtSeparators rest).1, (cutAtSeparators rest).2) := by
  induction together with
  | nil => rfl
  | cons question others ih =>
    have ih := ih fun other hother => h other (List.mem_cons_of_mem _ hother)
    rw [List.cons_append, cutAtSeparators_question (h question List.mem_cons_self), ih, List.map_cons, List.cons_append]

/-- What is not cut stays together, whatever is put in front of it. -/
theorem exists_stepsOf_append (before : List Question) {rest : List Question} {id : QuestionId} (h : id ∈ (cutAtSeparators rest).1) :
    ∃ step ∈ stepsOf (before ++ rest), (cutAtSeparators rest).1 ⊆ step := by
  induction before with
  | nil => exact ⟨_, mem_consStep.2 (Or.inl ⟨List.ne_nil_of_mem h, rfl⟩), List.Subset.refl _⟩
  | cons question others ih =>
    obtain ⟨step, hstep, hsub⟩ := ih
    rw [List.cons_append]
    cases hs : question.isSeparator with
    | true =>
      refine ⟨step, ?_, hsub⟩
      rwa [stepsOf, cutAtSeparators_separator hs]
    | false =>
      rw [stepsOf, cutAtSeparators_question hs]
      rcases mem_consStep.1 hstep with ⟨-, rfl⟩ | hlater
      · exact ⟨_, mem_consStep.2 (Or.inl ⟨nofun, rfl⟩), fun x hx => List.mem_cons_of_mem _ (hsub hx)⟩
      · exact ⟨step, mem_consStep.2 (Or.inr hlater), hsub⟩

namespace Questionnaire

variable {q : Questionnaire} {a b : Question}

/-! ## Steps and separators -/

theorem steps_eq_stepsOf : q.steps = stepsOf q.questions := rfl

theorem step_ne_nil {k : Nat} (h : k < q.stepCount) : q.step k ≠ [] := by
  have hstep : q.step k = q.steps[k] := by
    rw [step, List.getD_eq_getElem?_getD, List.getElem?_eq_getElem h, Option.getD_some]
  rw [hstep]
  exact ne_nil_of_mem_stepsOf (List.getElem_mem h)

/-- A separator stands between two questions. -/
def IsCutBetween (q : Questionnaire) (a b : Question) : Prop :=
  ∃ s ∈ q.questions, s.isSeparator = true ∧ a.position < s.position ∧ s.position < b.position

/-- An answerable question among some is in one of the steps into which these are cut. -/
theorem exists_stepsOf {questions : List Question} (ha : a ∈ questions) (hs : a.isSeparator = false) :
    ∃ i, ∃ hi : i < (stepsOf questions).length, a.id ∈ (stepsOf questions)[i] := by
  have hflat : a.id ∈ (stepsOf questions).flatten := by
    rw [stepsOf, flatten_consStep, flatten_cutAtSeparators]
    exact List.mem_map_of_mem (List.mem_filter.2 ⟨ha, by simp [hs]⟩)
  obtain ⟨step, hstep, hid⟩ := List.mem_flatten.1 hflat
  obtain ⟨i, hi, rfl⟩ := List.mem_iff_getElem.1 hstep
  exact ⟨i, hi, hid⟩

/-- Questions with a separator between them are in different steps, the earlier one in the earlier step. -/
theorem step_lt_of_isCutBetween (ha : a ∈ q.answerable) (hb : b ∈ q.answerable) (h : q.IsCutBetween a b) {j k : Nat}
    (hj : a.id ∈ q.step j) (hk : b.id ∈ q.step k) : j < k := by
  obtain ⟨s, hs, hsep, has, hsb⟩ := h
  obtain ⟨haq, ha⟩ := mem_answerable.1 ha
  obtain ⟨hbq, hb⟩ := mem_answerable.1 hb
  obtain ⟨before, after, hsplit⟩ := List.append_of_mem hs
  have hasc := q.ascending
  rw [show q.definition.questions = before ++ s :: after from hsplit] at hasc
  have hfront : a ∈ before := mem_before_of_lt hasc (hsplit ▸ haq) has
  have hback : b ∈ after := mem_after_of_lt hasc (hsplit ▸ hbq) hsb
  have hsteps : q.steps = stepsOf before ++ stepsOf after := by
    rw [steps_eq_stepsOf, hsplit, stepsOf_append_separator hsep]
  obtain ⟨i, hi, hai⟩ := exists_stepsOf hfront ha
  obtain ⟨i', hi', hbi⟩ := exists_stepsOf hback hb
  have hai : a.id ∈ q.step i := by
    rw [step, hsteps, List.getD_eq_getElem?_getD, List.getElem?_append_left hi]
    simpa [hi] using hai
  have hbi : b.id ∈ q.step ((stepsOf before).length + i') := by
    rw [step, hsteps, List.getD_eq_getElem?_getD, List.getElem?_append_right (Nat.le_add_right _ _)]
    simpa [hi'] using hbi
  rw [step_unique hj hai, step_unique hk hbi]
  omega

/-- Of two questions the earlier one stands in front of the other, and what stands between them comes between their positions. -/
theorem exists_between (ha : a ∈ q.questions) (hb : b ∈ q.questions) (hab : a.position < b.position) :
    ∃ before between after, q.questions = before ++ (a :: between ++ b :: after) ∧
      ∀ question ∈ between, a.position < question.position ∧ question.position < b.position := by
  obtain ⟨before, rest, hsplit⟩ := List.append_of_mem ha
  have hasc := q.ascending
  rw [show q.definition.questions = before ++ a :: rest from hsplit] at hasc
  obtain ⟨between, after, rfl⟩ := List.append_of_mem (mem_after_of_lt hasc (hsplit ▸ hb) hab)
  obtain ⟨hfirst, hrest⟩ := List.pairwise_cons.1 (List.pairwise_append.1 hasc).2.1
  refine ⟨before, between, after, hsplit, fun question hquestion => ⟨hfirst question (by simp [hquestion]), ?_⟩⟩
  exact (List.pairwise_append.1 hrest).2.2 question hquestion b List.mem_cons_self

/-- Questions without a separator between them are in one step. -/
theorem exists_step_of_not_isCutBetween (ha : a ∈ q.answerable) (hb : b ∈ q.answerable) (hab : a.position < b.position)
    (h : ¬ q.IsCutBetween a b) : ∃ k, a.id ∈ q.step k ∧ b.id ∈ q.step k := by
  obtain ⟨haq, ha⟩ := mem_answerable.1 ha
  obtain ⟨hbq, hb⟩ := mem_answerable.1 hb
  obtain ⟨before, between, after, hsplit, hbetween⟩ := exists_between haq hbq hab
  have htogether : ∀ question ∈ a :: between, question.isSeparator = false := by
    intro question hquestion
    rcases List.mem_cons.1 hquestion with rfl | hmem
    · exact ha
    · obtain ⟨hlow, hhigh⟩ := hbetween question hmem
      exact Bool.eq_false_iff.2 fun hsep => h ⟨question, by simp [hsplit, hmem], hsep, hlow, hhigh⟩
  have hcut : cutAtSeparators (a :: between ++ b :: after) = _ := cutAtSeparators_append htogether
  rw [cutAtSeparators_question hb] at hcut
  have hfirst : a.id ∈ (cutAtSeparators (a :: between ++ b :: after)).1 := by
    rw [hcut]
    simp
  have hsecond : b.id ∈ (cutAtSeparators (a :: between ++ b :: after)).1 := by
    rw [hcut]
    simp
  obtain ⟨step, hstep, hsub⟩ := exists_stepsOf_append before hfirst
  rw [← hsplit, ← steps_eq_stepsOf] at hstep
  obtain ⟨k, hk, rfl⟩ := List.mem_iff_getElem.1 hstep
  exact ⟨k, mem_step_iff.2 ⟨hk, hsub hfirst⟩, mem_step_iff.2 ⟨hk, hsub hsecond⟩⟩

/-- Of two questions the earlier one is in an earlier step exactly if a separator stands between them. -/
theorem step_lt_iff_isCutBetween (ha : a ∈ q.answerable) (hb : b ∈ q.answerable) (hab : a.position ≤ b.position) {j k : Nat}
    (hj : a.id ∈ q.step j) (hk : b.id ∈ q.step k) : j < k ↔ q.IsCutBetween a b := by
  refine ⟨fun hlt => Classical.byContradiction fun hcut => ?_, fun h => step_lt_of_isCutBetween ha hb h hj hk⟩
  rcases UInt32.lt_or_eq_of_le hab with hlt' | heq
  · obtain ⟨i, hai, hbi⟩ := exists_step_of_not_isCutBetween ha hb hlt' hcut
    have hji := step_unique hj hai
    have hki := step_unique hk hbi
    omega
  · have hle := step_le_of_position hb ha hk hj (heq ▸ UInt32.le_refl _)
    omega

/-! ## The step and the number of a question -/

/-- A question has no step if it can not be answered. -/
theorem stepOf?_eq_none_iff {id : QuestionId} : q.stepOf? id = none ↔ ∀ question ∈ q.answerable, question.id ≠ id := by
  constructor
  · rintro h question hq rfl
    obtain ⟨k, hk⟩ := exists_step hq
    rw [stepOf?_eq_some_iff.2 hk] at h
    cases h
  · intro h
    cases hk : q.stepOf? id with
    | none => rfl
    | some k =>
      obtain ⟨question, hq, hid⟩ := exists_answerable_of_mem_step (stepOf?_eq_some_iff.1 hk)
      exact absurd hid (h question hq)

/-- A question is numbered by its place among the answerable ones. -/
theorem number?_eq_some_iff {id : QuestionId} {n : Nat} :
    q.number? id = some n ↔ ∃ i, n = i + 1 ∧ (q.answerable.map (·.id))[i]? = some id := by
  unfold number?
  rw [Option.map_eq_some_iff]
  simp only [findIdx?_key_eq_some_iff nodup_answerable_ids]
  constructor
  · rintro ⟨i, hi, rfl⟩
    exact ⟨i, rfl, hi⟩
  · rintro ⟨i, rfl, hi⟩
    exact ⟨i, hi, rfl⟩

/-- The steps, the step of each question and its number tell one story. No step is empty, there is none beyond the last one, and one after
another they are the answerable questions in the order of their positions, each once. The step of a question is the one it is in, and
only answerable questions have one. Of two questions neither is in a step before the one that comes first, and they are in different steps
exactly if a separator stands between them. And a question is numbered by its place in the steps, one after another. -/
theorem outline_tells_one_story (q : Questionnaire) :
    let outline := (List.range q.stepCount).flatMap q.step
    ((∀ k < q.stepCount, q.step k ≠ []) ∧ ∀ k ≥ q.stepCount, q.step k = []) ∧
    (outline = q.answerable.map (·.id) ∧ outline.Nodup ∧ q.answerable.Pairwise (fun a b => a.position < b.position)) ∧
    (∀ id k, q.stepOf? id = some k ↔ id ∈ q.step k) ∧
    (∀ id, q.stepOf? id = none ↔ ∀ question ∈ q.answerable, question.id ≠ id) ∧
    (∀ a ∈ q.answerable, ∀ b ∈ q.answerable, a.position ≤ b.position →
      ∃ j k, q.stepOf? a.id = some j ∧ q.stepOf? b.id = some k ∧ j ≤ k ∧ (j < k ↔ q.IsCutBetween a b)) ∧
    ∀ id n, q.number? id = some n ↔ ∃ i, n = i + 1 ∧ outline[i]? = some id := by
  intro outline
  have houtline : outline = q.answerable.map (·.id) := flatMap_step
  refine ⟨⟨fun _ => step_ne_nil, fun _ => step_of_le⟩, ⟨houtline, houtline ▸ nodup_answerable_ids, answerable_ascending⟩,
    fun _ _ => stepOf?_eq_some_iff, fun _ => stepOf?_eq_none_iff, ?_, fun id n => ?_⟩
  · intro a ha b hb hab
    obtain ⟨j, hj⟩ := exists_step ha
    obtain ⟨k, hk⟩ := exists_step hb
    exact ⟨j, k, stepOf?_eq_some_iff.2 hj, stepOf?_eq_some_iff.2 hk, step_le_of_position ha hb hj hk hab,
      step_lt_iff_isCutBetween ha hb hab hj hk⟩
  · rw [houtline]
    exact number?_eq_some_iff

/-- Two questions of different pages, with separators in front, between them twice, and at the end. -/
def twoPages : Questionnaire where
  definition := {
    id := 1, title := "Two pages", questions := [
      .separator 10 0, { id := 2, position := 1, body := "Name", kind := .shortAnswer }, .separator 11 2, .separator 12 3,
      { id := 1, position := 4, body := "Birds seen", kind := .longAnswer }, .separator 13 5] }
  wellFormed := Definition.problem?_eq_none_iff.1 (by decide)
  ascending := by decide

example : twoPages.steps = [[2], [1]] ∧ twoPages.number? 1 = some 2 ∧ twoPages.number? 11 = none ∧ twoPages.stepOf? 11 = none := by
  decide

end Questionnaire

end Survey
