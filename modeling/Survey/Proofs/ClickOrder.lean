import Survey.Proofs.AlikeAnswers
import Survey.Proofs.SessionState

/-!
# The order of clicks

A respondent clicks options one after the other, and takes some back and clicks them again. Answers that hold the same selections, whatever
the order in which they were clicked (`Answers.SameSelection`), show the same questions, pass the same checks and make the same submission
(`Questionnaire.order_of_clicks_does_not_matter`). Among choices only a free option that is chosen twice makes the order tell: the text of
the first of them is the one that is stored.
-/

namespace Survey

namespace Answers

/-- Answers to the same questions by values that hold the same selections. -/
def SameSelection (a b : Answers) : Prop := ∀ id, Option.Rel AnswerValue.SameSelection (a.value? id) (b.value? id)

namespace SameSelection

variable {a b : Answers}

theorem refl (a : Answers) : a.SameSelection a := by
  intro id
  cases a.value? id with
  | none => exact .none
  | some value => exact .some (.refl value)

/-- Answers stay so when one more question is answered by both. -/
theorem set (h : a.SameSelection b) (id : QuestionId) {x y : AnswerValue} (hxy : x.SameSelection y) :
    (a.set id x).SameSelection (b.set id y) := by
  intro j
  rw [value?_set, value?_set]
  split
  · exact .some hxy
  · exact h j

variable (q : Questionnaire)

/-- The values of every question are alike, whatever is shown. -/
theorem alikeIn (h : a.SameSelection b) (settings : SessionSettings) (v : Visibility) : q.AlikeIn settings v a b := by
  intro question _ _
  have hid := h question.id
  -- the relation is between what the look-ups give, so these become variables before it is taken apart
  generalize a.value? question.id = x, b.value? question.id = y at hid ⊢
  cases hid with
  | none => exact .refl question settings none
  | some hxy => exact hxy.alike question settings

/-- Both are consistent with a questionnaire, or neither is. -/
theorem stale?_eq_none_iff (h : a.SameSelection b) : q.stale? a = none ↔ q.stale? b = none := by
  simp only [Questionnaire.stale?_eq_none_iff, Questionnaire.staleEntry?_eq_none_iff, Prod.forall, mem_entries_iff]
  refine forall_congr' fun id => ?_
  have hid := h id
  generalize a.value? id = x, b.value? id = y at hid ⊢
  cases hid with
  | none => rfl
  | some hxy => simp [hxy.misfit?_eq_none_iff]

end SameSelection

end Answers

namespace Questionnaire

/-- The order of clicks does not matter: answers that hold the same selections show the same questions, come out of the check of every
step and of the whole with the same faults in the same order, are both consistent with the questionnaire or neither, and make the same
submission. -/
theorem order_of_clicks_does_not_matter (q : Questionnaire) {a b : Answers} (h : a.SameSelection b) :
    q.visibility a = q.visibility b ∧
    (∀ settings k v, q.checkStep settings k a v = q.checkStep settings k b v) ∧
    (∀ settings v terms, q.checkAll settings a v terms = q.checkAll settings b v terms) ∧
    (q.stale? a = none ↔ q.stale? b = none) ∧
    ∀ respondent v, q.compile respondent a v = q.compile respondent b v := by
  have halike : ∀ settings v, q.AlikeIn settings v a b := h.alikeIn q
  have hshown : q.AlikeOnShown {} a b := halike {} (q.visibility a)
  refine ⟨hshown.visibility_eq, fun settings k v => ?_, fun settings v terms => ?_, h.stale?_eq_none_iff q, fun respondent v => ?_⟩
  · exact (halike settings v).checkStep_eq k
  · exact (halike settings v).checkAll_eq terms
  · exact (halike {} v).compile_eq respondent

namespace Clicks

/-- Birds, how they behaved, and a question for those who saw an owl. -/
def form : Questionnaire where
  definition := {
    id := 1, title := "Birds", questions := [
      { id := 1, position := 0, body := "Which ones did you see?", kind := .multipleOption, maxChoices := some 2,
        options := [{ id := 10, body := "Parrot" }, { id := 11, body := "Other", freeText := true }] },
      { id := 2, position := 1, body := "How did they behave?", kind := .matrixMultiple, mandatory := true,
        rows := [{ id := 30, body := "At dawn" }, { id := 31, body := "At dusk" }],
        options := [{ id := 32, body := "Calm" }, { id := 33, body := "Noisy" }] },
      { id := 3, position := 2, body := "Was it a large one?", kind := .shortAnswer, mandatory := true,
        conditions := [.matching 1 "owl"] }] }
  wellFormed := Definition.problem?_eq_none_iff.1 (by decide)
  ascending := by decide

/-- A parrot and an owl, calm at dawn and noisy at dusk. -/
def direct : Answers :=
  (Answers.empty.set 1 (.choices [⟨10, none⟩, ⟨11, some "Owl"⟩])).set 2 (.matrix [⟨30, 32⟩, ⟨31, 33⟩])

/-- The same, clicked in another order and in part twice. -/
def hesitant : Answers :=
  (Answers.empty.set 1 (.choices [⟨11, some "Owl"⟩, ⟨10, none⟩])).set 2 (.matrix [⟨31, 33⟩, ⟨30, 32⟩, ⟨31, 33⟩])

/-- Both ways to click show the last question, which has no answer yet, and lead to the same faults and the same submission. -/
theorem direct_and_hesitant_come_to_the_same :
    direct ≠ hesitant ∧ direct.SameSelection hesitant ∧
    form.visibility direct = {} ∧ form.visibility hesitant = {} ∧
    (∀ settings k v, form.checkStep settings k direct v = form.checkStep settings k hesitant v) ∧
    (∀ settings v terms, form.checkAll settings direct v terms = form.checkAll settings hesitant v terms) ∧
    form.checkAll {} hesitant {} false = .error ⟨[⟨3, .blank⟩], false⟩ ∧
    form.stale? hesitant = none ∧
    ∀ respondent v, form.compile respondent direct v = form.compile respondent hesitant v := by
  have hcells : ∀ cell : MatrixCell, cell ∈ [⟨30, 32⟩, ⟨31, 33⟩] ↔ cell ∈ [⟨31, 33⟩, ⟨30, 32⟩, ⟨31, 33⟩] := by
    intro cell
    simp only [List.mem_cons, List.not_mem_nil, or_false]
    tauto
  have hsame : direct.SameSelection hesitant :=
    ((Answers.SameSelection.refl .empty).set 1 (.choices (by decide) (by decide))).set 2 (.cells hcells)
  obtain ⟨hvisibility, hstep, hall, hstale, hcompile⟩ := order_of_clicks_does_not_matter form hsame
  have hshown : form.visibility direct = {} := by decide
  refine ⟨by decide, hsame, hshown, hvisibility ▸ hshown, hstep, hall, ?_, hstale.1 (by decide), hcompile⟩
  rw [← hall]
  rfl

/-- Of a free option that is chosen twice the first text is stored: there the order tells. -/
example : form.compile 7 (Answers.empty.set 1 (.choices [⟨11, some "Owl"⟩, ⟨11, some "Wren"⟩])) {} ≠
    form.compile 7 (Answers.empty.set 1 (.choices [⟨11, some "Wren"⟩, ⟨11, some "Owl"⟩])) {} := by
  decide

end Clicks

end Questionnaire

end Survey
