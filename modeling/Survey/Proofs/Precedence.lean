import Survey.Visibility

/-!
# What a question depends on

The conditions of a question look only at questions that can be answered and stand before it. So whether a question is shown
depends on the values of these alone (`Questionnaire.shows_congr`), and what is to be said of all questions may be proved in the
order of their positions (`Questionnaire.position_induction`).
-/

namespace Survey

section Ascending

variable {α : Type} {R : α → α → Prop} {before after : List α} {x y : α}

/-- In an ascending list, what is smaller than a member stands in front of it. -/
theorem mem_before_of_rel (hasymm : ∀ a b, R a b → ¬ R b a) (hasc : (before ++ x :: after).Pairwise R)
    (hy : y ∈ before ++ x :: after) (hlt : R y x) : y ∈ before := by
  have hafter := List.pairwise_cons.1 (List.pairwise_append.1 hasc).2.1
  rcases List.mem_append.1 hy with h | h
  · exact h
  · rcases List.mem_cons.1 h with rfl | h
    · exact absurd hlt (hasymm _ _ hlt)
    · exact absurd (hafter.1 y h) (hasymm _ _ hlt)

/-- And what is greater stands behind it. -/
theorem mem_after_of_rel (hasymm : ∀ a b, R a b → ¬ R b a) (hasc : (before ++ x :: after).Pairwise R)
    (hy : y ∈ before ++ x :: after) (hlt : R x y) : y ∈ after := by
  have hbefore := (List.pairwise_append.1 hasc).2.2
  rcases List.mem_append.1 hy with h | h
  · exact absurd (hbefore y h x List.mem_cons_self) (hasymm _ _ hlt)
  · rcases List.mem_cons.1 h with rfl | h
    · exact absurd hlt (hasymm _ _ hlt)
    · exact h

end Ascending

namespace Questionnaire

variable {q : Questionnaire}

/-! ## The questions that can be answered -/

theorem mem_answerable {question : Question} :
    question ∈ q.answerable ↔ question ∈ q.questions ∧ question.isSeparator = false := by
  simp [answerable]

/-- The answerable questions ascend in position. -/
theorem answerable_ascending : q.answerable.Pairwise (fun a b => a.position < b.position) := q.ascending.filter _

/-- No two answerable questions share an identifier. -/
theorem nodup_answerable_ids : (q.answerable.map (·.id)).Nodup :=
  List.Nodup.sublist (List.filter_sublist.map _) q.wellFormed.ids

/-- A question of a questionnaire is the one found under its identifier. -/
theorem question?_of_mem {question : Question} (h : question ∈ q.questions) : q.question? question.id = some question :=
  question?_eq_some_iff.2 ⟨h, rfl⟩

/-- An identifier that can be answered finds a question that can be answered. -/
theorem question?_of_answerable {question : Question} (h : question ∈ q.answerable) :
    q.question? question.id = some question :=
  question?_of_mem (mem_answerable.1 h).1

/-- Answerable questions of one identifier are one. -/
theorem eq_of_id_eq {a b : Question} (ha : a ∈ q.answerable) (hb : b ∈ q.answerable) (h : a.id = b.id) : a = b := by
  have hfound := question?_of_answerable ha
  rw [h, question?_of_answerable hb] at hfound
  exact (Option.some.inj hfound).symm

/-! ## What comes before -/

/-- In ascending questions, one that has a smaller position than another stands in front of it. -/
theorem mem_before_of_lt {before after : List Question} {question target : Question}
    (hasc : (before ++ question :: after).Pairwise (fun a b => a.position < b.position))
    (ht : target ∈ before ++ question :: after) (hlt : target.position < question.position) : target ∈ before :=
  mem_before_of_rel (fun _ _ => UInt32.lt_asymm) hasc ht hlt

/-- And one that has a greater position stands behind it. -/
theorem mem_after_of_lt {before after : List Question} {question target : Question}
    (hasc : (before ++ question :: after).Pairwise (fun a b => a.position < b.position))
    (ht : target ∈ before ++ question :: after) (hlt : question.position < target.position) : target ∈ after :=
  mem_after_of_rel (fun _ _ => UInt32.lt_asymm) hasc ht hlt

/-- A condition looks at a question that can be answered and stands before the question shown under it. -/
theorem condition_looks_back {question : Question} (hq : question ∈ q.questions) {c : DisplayCondition}
    (hc : c ∈ question.conditions) :
    ∃ target ∈ q.answerable, target.id = c.question ∧ target.position < question.position := by
  obtain ⟨target, ht, hid, hlt, hs, _⟩ := q.wellFormed.conditions question hq c hc
  exact ⟨target, mem_answerable.2 ⟨ht, hs⟩, hid, hlt⟩

/-- Whether a question is shown depends on the values of the answerable questions before it and on nothing else. -/
theorem shows_congr {question : Question} (hq : question ∈ q.questions) {u v : QuestionId → Option AnswerValue}
    (h : ∀ target ∈ q.answerable, target.position < question.position → u target.id = v target.id) :
    q.shows question u = q.shows question v := by
  unfold Questionnaire.shows
  congr 1
  refine List.map_congr_left fun c hc => ?_
  obtain ⟨target, ht, hid, hlt⟩ := condition_looks_back hq hc
  rw [← hid, h target ht hlt]

/-- What holds of a question as soon as it holds of all answerable questions before it holds of every answerable question. -/
theorem position_induction {P : Question → Prop}
    (h : ∀ question ∈ q.answerable, (∀ earlier ∈ q.answerable, earlier.position < question.position → P earlier) → P question) :
    ∀ question ∈ q.answerable, P question := by
  -- the positions are words, so the induction runs on the numbers they stand for
  intro question hq
  induction hn : question.position.toNat using Nat.strongRecOn generalizing question with
  | ind n ih =>
    refine h question hq fun earlier he hlt => ih earlier.position.toNat ?_ earlier he rfl
    exact hn ▸ UInt32.lt_iff_toNat_lt.1 hlt

end Questionnaire

end Survey
