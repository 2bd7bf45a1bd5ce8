import Mathlib.Data.List.Nodup
import Survey.Proofs.RecordRoundTrip
import Survey.Questionnaire.Steps

/-!
# The order in which questions are written

An author may write the questions of a definition in any order: another order of the same questions builds the same questionnaire, or
none either (`Definition.build_in_any_order`). Questions at different positions can be put in ascending order in one way only, and a
definition is well formed or not whatever the order. What is built is in that order already, so building it once more changes nothing,
and it is read back from its record.

Which error keeps a definition from being built does depend on the order, since the first one found is given.
-/

namespace Survey

/-- Questions at different positions are put in the same order however they were written. -/
theorem inOrder_eq_of_perm {xs ys : List Question} (h : xs.Perm ys) (hn : (xs.map (·.position)).Nodup) :
    inOrder xs = inOrder ys := by
  have hperm : (inOrder xs).Perm (inOrder ys) := (inOrder_perm xs).trans (h.trans (inOrder_perm ys).symm)
  refine hperm.eq_of_pairwise ?_ (inOrder_pairwise xs) (inOrder_pairwise ys)
  intro a b ha hb hab hba
  have ha' : a ∈ xs := (inOrder_perm xs).subset ha
  have hb' : b ∈ xs := h.symm.subset ((inOrder_perm ys).subset hb)
  exact List.inj_on_of_nodup_map hn ha' hb' (UInt32.le_antisymm hab hba)

namespace Definition

variable {d : Definition} {questions : List Question} {q : Questionnaire}

/-- A definition with its questions in another order has the same questions in ascending order. -/
theorem ordered_of_perm (h : questions.Perm d.questions) (hd : d.WellFormed) :
    ({ d with questions } : Definition).ordered = d.ordered := by
  have hinOrder : inOrder questions = inOrder d.questions := (inOrder_eq_of_perm h.symm hd.positions).symm
  simp only [ordered, hinOrder]

/-- A definition with its questions in another order is as well formed. -/
theorem wellFormed_of_perm_iff (h : questions.Perm d.questions) : ({ d with questions } : Definition).WellFormed ↔ d.WellFormed := by
  constructor
  · intro hw
    exact hw.of_perm h
  · intro hw
    exact hw.of_perm h.symm

/-- What is built does not depend on the order of the questions. -/
theorem build_eq_ok_iff_of_perm (h : questions.Perm d.questions) :
    ({ d with questions } : Definition).build = .ok q ↔ d.build = .ok q := by
  rw [build_eq_ok_iff, build_eq_ok_iff, wellFormed_of_perm_iff h]
  refine and_congr_right fun hd => ?_
  rw [ordered_of_perm h hd]

end Definition

namespace Questionnaire

variable (q : Questionnaire)

/-- The questions of a questionnaire are in order. -/
theorem ordered_definition : q.definition.ordered = q.definition := by
  have hascending : q.definition.questions.Pairwise (fun a b => a.position ≤ b.position) :=
    q.ascending.imp fun hlt => UInt32.le_of_lt hlt
  simp only [Definition.ordered, inOrder_of_pairwise hascending]

/-- Building the definition of a questionnaire gives the questionnaire. -/
theorem build_definition : q.definition.build = .ok q :=
  Definition.build_eq_ok_iff.2 ⟨q.wellFormed, q.ordered_definition.symm⟩

/-- A questionnaire is read back from its record. -/
theorem ofJson_toJson : ofJson q.toJson = .ok q := by
  simp only [ofJson, toJson, Definition.ofJson?_toJson, q.build_definition]
  rfl

end Questionnaire

namespace Definition

/-- The order in which questions are written does not matter: in another order they build the same questionnaire, or none either. And
what has been built stays as it is when it is built again, from its definition or from its record. -/
theorem build_in_any_order :
    (∀ (d : Definition) (questions : List Question), questions.Perm d.questions →
      ∀ q, ({ d with questions } : Definition).build = .ok q ↔ d.build = .ok q) ∧
    ∀ q : Questionnaire, q.definition.build = .ok q ∧ Questionnaire.ofJson q.toJson = .ok q := by
  constructor
  · intro d questions h q
    exact build_eq_ok_iff_of_perm h
  · intro q
    exact ⟨q.build_definition, q.ofJson_toJson⟩

namespace Drafts

/-- Three questions, the first of them written last. -/
def draft : Definition where
  id := 1
  title := "Birds"
  revision := 4
  questions := [
    { id := 3, position := 9, body := "How many?", kind := .shortAnswer, conditions := [.answered 1] },
    .separator 2 5,
    { id := 1, position := 3, body := "Which birds did you see?", kind := .longAnswer }]

/-- What the draft makes. -/
def built : Questionnaire where
  definition := { draft with questions := draft.questions.reverse }
  wellFormed := problem?_eq_none_iff.1 (by decide)
  ascending := by decide

/-- The draft with the first question at the position of the separator. -/
def clash : Definition :=
  { draft with questions := draft.questions.map fun question => if question.id = 1 then { question with position := 5 } else question }

/-- The draft and its reverse build one questionnaire, in two steps, which is built again from what they built. Where two questions are
at one position neither order builds any, though the error names the two in the order they were written in. -/
theorem drafts_build_one_questionnaire :
    draft.questions.reverse.Perm draft.questions ∧ draft.build = .ok built ∧
    ({ draft with questions := draft.questions.reverse } : Definition).build = .ok built ∧ built.steps = [[1], [3]] ∧
    built.definition.build = .ok built ∧ Questionnaire.ofJson built.toJson = .ok built ∧
    clash.build = .error (.duplicatePosition 5 2 1) ∧
    ({ clash with questions := clash.questions.reverse } : Definition).build = .error (.duplicatePosition 5 1 2) := by
  have hperm : draft.questions.reverse.Perm draft.questions := List.reverse_perm _
  have hbuilt : draft.build = .ok built := build_eq_ok_iff.2 ⟨problem?_eq_none_iff.1 (by decide), by decide⟩
  obtain ⟨horder, hagain⟩ := build_in_any_order
  obtain ⟨hdefinition, hrecord⟩ := hagain built
  refine ⟨hperm, hbuilt, (horder draft _ hperm built).2 hbuilt, by decide, hdefinition, hrecord, ?_, ?_⟩
  · exact build_eq_error_iff.2 (by decide)
  · exact build_eq_error_iff.2 (by decide)

end Drafts

end Definition

end Survey
