import Mathlib.Data.Finset.Dedup
import Survey.Proofs.Settled

/-!
# The rule that hides questions

Which questions are hidden can be said without a pass and without an order: a set of answerable questions is hidden by answers if
a question is in it exactly when the answers, with those to the questions of the set taken out, do not reveal the question. The
rule refers to the set it describes, so it could have had no solution or several. It has one, and one pass finds it
(`Questionnaire.hides_iff`).
-/

namespace Survey

/-- The answers to all questions but those of a set. -/
def Answers.without (a : Answers) (ids : Finset QuestionId) : Answers :=
  ⟨a.entries.filter (fun e => e.1 ∉ ids), a.ascending.filter _⟩

theorem Answers.value?_without (a : Answers) (ids : Finset QuestionId) (id : QuestionId) :
    (a.without ids).value? id = if id ∈ ids then none else a.value? id := by
  unfold Answers.value? valueIn? Answers.without
  split
  · rename_i h
    simp only [Option.map_eq_none_iff, List.find?_eq_none, List.mem_filter, decide_eq_true_eq]
    rintro e ⟨_, hne⟩ rfl
    exact hne h
  · rename_i h
    rw [List.find?_filter]
    congr 2
    funext e
    by_cases he : e.1 = id <;> simp [he, h]

/-- A question the rule takes out and a question the pass hides count alike. -/
theorem Answers.value?_without_eq_mask {a : Answers} {ids : Finset QuestionId} {v : Visibility} {id : QuestionId}
    (h : id ∈ ids ↔ v.shows id = false) : (a.without ids).value? id = v.mask a id := by
  rw [Answers.value?_without]
  cases hs : v.shows id with
  | false => rw [if_pos (h.2 hs), Visibility.mask_of_hidden hs]
  | true =>
    have hn : id ∉ ids := fun hm => by rw [h.1 hm] at hs; exact Bool.false_ne_true hs
    rw [if_neg hn, Visibility.mask_of_shows hs]

namespace Questionnaire

variable {q : Questionnaire} {a : Answers} {ids : Finset QuestionId}

/-- The rule: answers hide the questions of a set, all of them answerable, and no others, where the answers to the hidden
questions do not count. -/
structure Hides (q : Questionnaire) (a : Answers) (ids : Finset QuestionId) : Prop where
  answerable : ∀ id ∈ ids, ∃ question ∈ q.answerable, question.id = id
  rule : ∀ question ∈ q.answerable, question.id ∈ ids ↔ q.reveals (a.without ids) question = false

/-- What one pass hides obeys the rule. -/
theorem hides_visibility : q.Hides a (q.visibility a).hidden.toFinset where
  answerable id hid := exists_answerable_of_hidden (List.mem_toFinset.1 hid)
  rule question hq := by
    have hmask : ∀ target ∈ q.answerable, target.position < question.position →
        (a.without (q.visibility a).hidden.toFinset).value? target.id = (q.visibility a).mask a target.id := by
      intro target _ _
      apply Answers.value?_without_eq_mask
      rw [List.mem_toFinset, Visibility.shows_eq_false_iff]
    unfold reveals
    rw [List.mem_toFinset, ← Visibility.shows_eq_false_iff, shows_visibility hq,
      shows_congr (mem_answerable.1 hq).1 hmask]

/-- A set that obeys the rule agrees with the pass about every question: it does so about the questions before one, so their
values count alike, and then the rule and the pass judge that one alike. -/
theorem Hides.mem_iff (h : q.Hides a ids) :
    ∀ question ∈ q.answerable, question.id ∈ ids ↔ (q.visibility a).shows question.id = false := by
  apply position_induction
  intro question hq ih
  have hmask : ∀ target ∈ q.answerable, target.position < question.position →
      (a.without ids).value? target.id = (q.visibility a).mask a target.id :=
    fun target ht hlt => Answers.value?_without_eq_mask (ih target ht hlt)
  rw [h.rule question hq, shows_visibility hq]
  unfold reveals
  rw [shows_congr (mem_answerable.1 hq).1 hmask]

/-- The rule has exactly one solution, and that is what one pass hides. -/
theorem hides_iff (q : Questionnaire) (a : Answers) (ids : Finset QuestionId) :
    q.Hides a ids ↔ ids = (q.visibility a).hidden.toFinset := by
  constructor
  · intro h
    ext id
    rw [List.mem_toFinset, ← Visibility.shows_eq_false_iff]
    constructor
    · intro hid
      obtain ⟨question, hq, rfl⟩ := h.answerable id hid
      exact (h.mem_iff question hq).1 hid
    · intro hid
      obtain ⟨question, hq, rfl⟩ := exists_answerable_of_hidden (Visibility.shows_eq_false_iff.1 hid)
      exact (h.mem_iff question hq).2 hid
  · rintro rfl
    exact hides_visibility

end Questionnaire

end Survey
