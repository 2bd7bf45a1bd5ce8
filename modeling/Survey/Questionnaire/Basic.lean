import Survey.Definition.Problem

/-!
# Questionnaires

A questionnaire is a definition that has been checked: it is well formed and its questions stand in the order of their
positions. `Definition.build` is the only way from a definition to a questionnaire, and it succeeds exactly on the definitions
in which no problem is found.
-/

namespace Survey

/-- A well-formed definition whose questions ascend in position. -/
structure Questionnaire where
  definition : Definition
  wellFormed : definition.WellFormed
  ascending : definition.questions.Pairwise (fun a b => a.position < b.position)
  deriving DecidableEq

/-- Orders the questions of a definition, or says what keeps it from being a questionnaire. -/
def Definition.build (d : Definition) : Except DefinitionError Questionnaire :=
  match h : d.problem? with
  | some problem => .error problem
  | none =>
    have wellFormed := Definition.problem?_eq_none_iff.1 h
    .ok ⟨d.ordered, Definition.wellFormed_ordered_iff.2 wellFormed, wellFormed.ordered_ascending⟩

theorem Definition.build_eq_error_iff {d : Definition} {e : DefinitionError} : d.build = .error e ↔ d.problem? = some e := by
  unfold Definition.build
  split <;> simp_all

namespace Questionnaire

/-- Two questionnaires of one definition are one. -/
theorem ext_definition {q r : Questionnaire} (h : q.definition = r.definition) : q = r := by
  cases q; cases r; simp_all

end Questionnaire

theorem Definition.build_eq_ok_iff {d : Definition} {q : Questionnaire} :
    d.build = .ok q ↔ d.WellFormed ∧ q.definition = d.ordered := by
  rw [← Definition.problem?_eq_none_iff]
  unfold Definition.build
  split
  · simp_all
  · rename_i h
    simp only [Except.ok.injEq, h, true_and]
    exact ⟨fun e => e ▸ rfl, fun e => Questionnaire.ext_definition e.symm⟩

namespace Questionnaire

/-- The identifier of a questionnaire. -/
def id (q : Questionnaire) : QuestionnaireId := q.definition.id

/-- The title shown to respondents. -/
def title (q : Questionnaire) : String := q.definition.title

/-- The text that introduces a questionnaire, if it has one. -/
def description (q : Questionnaire) : Option String := q.definition.description

/-- The terms a respondent may have to accept. -/
def terms (q : Questionnaire) : Option String := q.definition.terms

/-- How often the questions were changed. -/
def revision (q : Questionnaire) : UInt64 := q.definition.revision

/-- The questions in the order of their positions, separators among them. -/
def questions (q : Questionnaire) : List Question := q.definition.questions

/-- The questions that can be answered, in the order of their positions. -/
def answerable (q : Questionnaire) : List Question := q.questions.filter (fun question => !question.isSeparator)

/-- The question of an identifier. -/
def question? (q : Questionnaire) (id : QuestionId) : Option Question := q.questions.find? (·.id = id)

/-- The number shown with a question: its place among the answerable ones, from one. -/
def number? (q : Questionnaire) (id : QuestionId) : Option Nat :=
  (q.answerable.findIdx? (·.id = id)).map (· + 1)

theorem question?_eq_some_iff {q : Questionnaire} {id : QuestionId} {question : Question} :
    q.question? id = some question ↔ question ∈ q.questions ∧ question.id = id :=
  find?_key_eq_some_iff q.wellFormed.ids

end Questionnaire

end Survey
