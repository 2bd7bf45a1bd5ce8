import Survey.Proofs.Gathering
import Survey.Submission.Compile

/-!
# Values of hidden questions

Whatever a respondent left in questions that are hidden now, it makes no difference: not to what else is hidden, not to what is
wrong with the answers, and not to what is submitted. Two sets of answers need only agree on the questions that are visible by one
of them; then the same questions are visible by the other (`Questionnaire.AgreeOnShown.visibility_eq`), and nothing looks at the
rest.
-/

namespace Survey.Questionnaire

variable {q : Questionnaire} {a b : Answers}

/-- Answers that give the same values as others to the questions visible by these. -/
def AgreeOnShown (q : Questionnaire) (a b : Answers) : Prop :=
  ∀ question ∈ q.answerable, (q.visibility a).shows question.id = true → a.value? question.id = b.value? question.id

instance : Decidable (q.AgreeOnShown a b) := inferInstanceAs (Decidable (∀ question ∈ q.answerable, _ → _))

/-- Every question is judged alike by both. -/
theorem AgreeOnShown.shows_eq (h : q.AgreeOnShown a b) {question : Question} (hq : question ∈ q.answerable) :
    (q.visibility a).shows question.id = (q.visibility b).shows question.id := by
  refine shows_eq_of_agree (P := fun _ => True) ?_ ?_ question hq trivial
  · intro _ _ _ _ _ _
    trivial
  · intro question hq _
    exact h question hq

/-- The same questions are hidden by both. -/
theorem AgreeOnShown.visibility_eq (h : q.AgreeOnShown a b) : q.visibility a = q.visibility b :=
  visibility_ext fun _ hq => h.shows_eq hq

/-- A question has the same faults by both. -/
theorem AgreeOnShown.faultsOf_eq (h : q.AgreeOnShown a b) (settings : SessionSettings) {question : Question}
    (hq : question ∈ q.answerable) :
    q.faultsOf settings a (q.visibility a) question.id = q.faultsOf settings b (q.visibility b) question.id :=
  faultsOf_congr (h.shows_eq hq) (h question hq)

/-- What is submitted depends on the values of the visible questions only. -/
theorem compile_congr {v : Visibility} (respondent : RespondentId)
    (h : ∀ question ∈ q.answerable, v.shows question.id = true → a.value? question.id = b.value? question.id) :
    q.compile respondent a v = q.compile respondent b v := by
  unfold compile
  congr 1
  refine List.filterMap_congr fun question hq => ?_
  obtain ⟨hanswerable, hshown⟩ := List.mem_filter.1 hq
  unfold Question.storeAnswer?
  rw [h question hanswerable hshown]

/-- Values of hidden questions have no influence: answers that agree on what is visible by one of them hide the same questions,
pass or fail every check alike and make the same submission. -/
theorem hidden_values_have_no_influence (q : Questionnaire) (a b : Answers) (h : q.AgreeOnShown a b) :
    q.visibility a = q.visibility b ∧
    (∀ settings k, q.checkStep settings k a (q.visibility a) = q.checkStep settings k b (q.visibility b)) ∧
    (∀ settings terms, q.checkAll settings a (q.visibility a) terms = q.checkAll settings b (q.visibility b) terms) ∧
    (∀ respondent, q.compile respondent a (q.visibility a) = q.compile respondent b (q.visibility b)) := by
  refine ⟨h.visibility_eq, fun settings k => ?_, fun settings terms => ?_, fun respondent => ?_⟩
  · refine checkStep_congr fun id hid => ?_
    obtain ⟨question, hq, rfl⟩ := exists_answerable_of_mem_step hid
    exact h.faultsOf_eq settings hq
  · exact checkAll_congr fun question hq => h.faultsOf_eq settings hq
  · rw [← h.visibility_eq]
    exact compile_congr respondent h

namespace LeftAnswers

/-- Three questions, each but the first shown by an answer to the one before it. -/
def chain : Questionnaire where
  definition := {
    id := 1, title := "Chain", questions := [
      { id := 1, position := 0, body := "Did you see birds?", kind := .singleOption,
        options := [{ id := 10, body := "Yes" }, { id := 11, body := "No" }] },
      { id := 2, position := 1, body := "Which ones?", kind := .shortAnswer, mandatory := true, conditions := [.equal 1 10] },
      { id := 3, position := 2, body := "Where?", kind := .shortAnswer, mandatory := true, conditions := [.answered 2] }] }
  wellFormed := Definition.problem?_eq_none_iff.1 (by decide)
  ascending := by decide

/-- The first question denied by a respondent who had answered the second before, which would reveal the third. -/
def changedMind : Answers := (Answers.empty.set 2 (.text "Parrots")).set 1 (.ofOptions [11])

/-- The first question denied at once. -/
def denied : Answers := Answers.empty.set 1 (.ofOptions [11])

/-- A respondent who answered a question that is hidden now submits what one submits who never did. -/
theorem left_answer_has_no_influence :
    chain.AgreeOnShown changedMind denied ∧ chain.visibility changedMind = chain.visibility denied ∧
    (∀ settings k, chain.checkStep settings k changedMind (chain.visibility changedMind) =
      chain.checkStep settings k denied (chain.visibility denied)) ∧
    (∀ settings terms, chain.checkAll settings changedMind (chain.visibility changedMind) terms =
      chain.checkAll settings denied (chain.visibility denied) terms) ∧
    (∀ respondent, chain.compile respondent changedMind (chain.visibility changedMind) =
      chain.compile respondent denied (chain.visibility denied)) :=
  have agree : chain.AgreeOnShown changedMind denied := by decide
  ⟨agree, hidden_values_have_no_influence chain changedMind denied agree⟩

end LeftAnswers

end Survey.Questionnaire
