import Survey.Proofs.AcceptedValues
import Survey.Proofs.BlankText
import Survey.Proofs.HiddenValues
import Survey.Proofs.StoredAnswers

/-!
# Answers that come to the same

Different answers may come to the same: a blank value says no more than none, and choices may be reordered and cells repeated. Two values
of a question are alike when no condition that can be put on the question, no check and no record tells them apart (`Question.Alike`).
Values that hold the same selection are (`AnswerValue.SameSelection.alike`). Answers whose values are alike wherever the first of them
shows a question hide the same questions (`Questionnaire.AlikeOnShown.visibility_eq`), fail or pass alike and make the same submission.
-/

namespace Survey

/-! ## Values -/

namespace Question

variable {q : Question} {settings : SessionSettings} {x y : AnswerValue}

/-- Two values of a question, or the lack of one, that are told apart by no condition on the question, no check and no record. -/
structure Alike (q : Question) (settings : SessionSettings) (x y : Option AnswerValue) : Prop where
  holds : ∀ c : DisplayCondition, c.Fits q → c.holds q x = c.holds q y
  check : q.check settings x = q.check settings y
  stored : (x.filter fun value => !value.isBlank).map q.store = (y.filter fun value => !value.isBlank).map q.store

theorem Alike.refl (q : Question) (settings : SessionSettings) (x : Option AnswerValue) : q.Alike settings x x :=
  ⟨fun _ _ => rfl, rfl, rfl⟩

/-- Text to match is not blank, so it does not occur in a value that is. -/
theorem matchesText_of_isBlank {needle : String} (hneedle : Text.isBlank needle = false) (hx : x.isBlank = true) :
    x.matchesText needle q = false := by
  cases x with
  | text body => exact Text.matchesIn_of_isBlank hneedle hx
  | choices chosen =>
    rw [List.isEmpty_iff.1 hx]
    rfl
  | sorting order => rfl
  | matrix cells => rfl

/-- A blank value and none are alike. -/
theorem alike_none_of_isBlank (hx : x.isBlank = true) : q.Alike settings (some x) none where
  holds c hc := by
    unfold DisplayCondition.holds
    cases ht : c.type with
    | matching =>
      obtain ⟨needle, hneedle, hblank⟩ := hc.text ht
      simp [hneedle, matchesText_of_isBlank hblank hx]
    | _ => simp [hx]
  check := by simp [check, hx]
  stored := by simp [hx]

/-- Two blank values are alike. -/
theorem alike_of_isBlank (hx : x.isBlank = true) (hy : y.isBlank = true) : q.Alike settings (some x) (some y) :=
  have hx : q.Alike settings (some x) none := alike_none_of_isBlank hx
  have hy : q.Alike settings (some y) none := alike_none_of_isBlank hy
  ⟨fun c hc => (hx.holds c hc).trans (hy.holds c hc).symm, hx.check.trans hy.check.symm, hx.stored.trans hy.stored.symm⟩

/-- Two values that both say something are alike if they select the same options, hold the same text to match, and are checked and
stored alike. -/
theorem alike_of_given (hx : x.isBlank = false) (hy : y.isBlank = false)
    (hselected : ∀ option, option ∈ x.selected ↔ option ∈ y.selected)
    (hmatches : ∀ needle, x.matchesText needle q = y.matchesText needle q)
    (hcheck : q.checkGiven settings x = q.checkGiven settings y) (hstore : q.store x = q.store y) :
    q.Alike settings (some x) (some y) where
  holds c _ := by
    have hselects : c.selects x = c.selects y := by
      unfold DisplayCondition.selects
      cases c.option with
      | none => rfl
      | some option => simp [hselected]
    unfold DisplayCondition.holds
    simp only [Option.any_some, hx, hy, hselects]
    cases c.type with
    | matching => cases c.text <;> simp only [hmatches]
    | _ => rfl
  check := by simp [Question.check, hx, hy, hcheck]
  stored := by simp [Option.filter_some, hx, hy, hstore]

/-! ### Cells -/

/-- Cells that are the same but for order and repetitions are checked alike. -/
theorem checkGiven_matrix_congr {xs ys : List MatrixCell} (h : ∀ cell, cell ∈ xs ↔ cell ∈ ys) :
    q.checkGiven settings (.matrix xs) = q.checkGiven settings (.matrix ys) := by
  have hrow : ∀ row, countDistinct (rowOptions xs row) = countDistinct (rowOptions ys row) := by
    intro row
    refine countDistinct_congr fun id => ?_
    simp only [rowOptions, List.mem_map, List.mem_filter, h]
  have hcovers : q.coversRows xs = q.coversRows ys := by
    unfold coversRows
    congr 1
    funext row
    rw [Bool.eq_iff_iff, List.any_eq_true, List.any_eq_true]
    simp only [h]
  simp only [checkGiven, exceedsRowLimit, hrow, hcovers]

end Question

/-! ## The same selection -/

namespace AnswerValue

/-- Values that hold the same selection: the same one, or the same choices in any order if no option is chosen twice, or the same cells
in any order and number. -/
inductive SameSelection : AnswerValue → AnswerValue → Prop where
  | refl (value : AnswerValue) : SameSelection value value
  | choices {xs ys : List Choice} (once : (xs.map (·.option)).Nodup) (perm : xs.Perm ys) : SameSelection (.choices xs) (.choices ys)
  | cells {xs ys : List MatrixCell} (same : ∀ cell, cell ∈ xs ↔ cell ∈ ys) : SameSelection (.matrix xs) (.matrix ys)

namespace SameSelection

variable {x y : AnswerValue}

/-- The shape is the same. -/
theorem shape_eq (h : x.SameSelection y) : x.shape = y.shape := by
  cases h <;> rfl

/-- Both say something, or neither does. -/
theorem isBlank_eq (h : x.SameSelection y) : x.isBlank = y.isBlank := by
  cases h with
  | refl => rfl
  | choices _ perm => exact perm.isEmpty_eq
  | cells same =>
    rw [Bool.eq_iff_iff]
    simp only [isBlank, List.isEmpty_iff, List.eq_nil_iff_forall_not_mem, same]

/-- The same options are named. -/
theorem mem_selected_iff (h : x.SameSelection y) (option : OptionId) : option ∈ x.selected ↔ option ∈ y.selected := by
  cases h with
  | refl => rfl
  | choices _ perm => exact (perm.map _).mem_iff
  | cells same => simp only [selected, List.mem_map, same]

/-- The same rows are named. -/
theorem mem_rows_iff (h : x.SameSelection y) (row : RowId) : row ∈ x.rows ↔ row ∈ y.rows := by
  cases h with
  | cells same => simp only [rows, List.mem_map, same]
  | _ => rfl

/-- The same text occurs in both. -/
theorem matchesText_eq (h : x.SameSelection y) (needle : String) (q : Question) : x.matchesText needle q = y.matchesText needle q := by
  cases h with
  | choices _ perm => exact perm.any_eq
  | _ => rfl

/-- Both suit a question, or neither does. -/
theorem misfit?_eq_none_iff (h : x.SameSelection y) (q : Question) : q.misfit? x = none ↔ q.misfit? y = none := by
  rw [Question.misfit?_eq_none_iff, Question.misfit?_eq_none_iff, h.shape_eq]
  simp only [h.mem_selected_iff, h.mem_rows_iff]

/-- Both have the same faults, if they say something. -/
theorem checkGiven_eq (h : x.SameSelection y) (q : Question) (settings : SessionSettings) :
    q.checkGiven settings x = q.checkGiven settings y := by
  cases h with
  | refl => rfl
  | @choices xs ys _ perm =>
    have hcount := countDistinct_congr fun option => (perm.map (·.option)).mem_iff (a := option)
    have hlacks : xs.any q.lacksCustomText = ys.any q.lacksCustomText := perm.any_eq
    simp only [Question.checkGiven, hcount, hlacks]
  | cells same => exact Question.checkGiven_matrix_congr same

/-- Both are stored alike: where no option is chosen twice, the first choice of an option is the only one. -/
theorem store_eq (h : x.SameSelection y) (q : Question) : q.store x = q.store y := by
  cases h with
  | refl => rfl
  | choices once perm => rw [Question.store, Question.store, Question.storeChoices_congr (find?_key_eq_of_perm perm once)]
  | cells same => rw [Question.store, Question.store, Question.storeCells_congr same]

/-- Values that hold the same selection are alike. -/
theorem alike (h : x.SameSelection y) (q : Question) (settings : SessionSettings) : q.Alike settings (some x) (some y) := by
  have hblank := h.isBlank_eq
  cases hx : x.isBlank with
  | true => exact Question.alike_of_isBlank hx (hblank ▸ hx)
  | false =>
    exact Question.alike_of_given hx (hblank ▸ hx) h.mem_selected_iff (h.matchesText_eq · q) (h.checkGiven_eq q settings) (h.store_eq q)

end SameSelection

end AnswerValue

/-! ## Answers -/

namespace Questionnaire

variable {q : Questionnaire} {settings : SessionSettings} {a b : Answers} {v : Visibility} {question : Question}

/-- Whether a question is shown depends on how the values of the answerable questions before it stand to the conditions that can be put
on these. -/
theorem shows_congr_holds (hq : question ∈ q.questions) {u v : QuestionId → Option AnswerValue}
    (h : ∀ target ∈ q.answerable, target.position < question.position → ∀ c : DisplayCondition, c.Fits target →
      c.holds target (u target.id) = c.holds target (v target.id)) : q.shows question u = q.shows question v := by
  unfold Questionnaire.shows
  congr 1
  refine List.map_congr_left fun c hc => ?_
  obtain ⟨target, ht, hid, hlt, hs, hfits⟩ := q.wellFormed.conditions question hq c hc
  rw [← hid, question?_of_mem ht, Option.any_some, Option.any_some, h target (mem_answerable.2 ⟨ht, hs⟩) hlt c hfits]

/-! ### With the same questions shown -/

/-- Answers whose values are alike those of others in the questions shown. -/
def AlikeIn (q : Questionnaire) (settings : SessionSettings) (v : Visibility) (a b : Answers) : Prop :=
  ∀ question ∈ q.answerable, v.shows question.id = true →
    question.Alike settings (a.value? question.id) (b.value? question.id)

/-- A question has the same faults by both. -/
theorem AlikeIn.faultsOf_eq (h : q.AlikeIn settings v a b) (hq : question ∈ q.answerable) :
    q.faultsOf settings a v question.id = q.faultsOf settings b v question.id := by
  cases hs : v.shows question.id with
  | false => rw [faultsOf_of_hidden hs, faultsOf_of_hidden hs]
  | true => rw [faultsOf_of_shows hq hs, faultsOf_of_shows hq hs, (h question hq hs).check]

/-- The check of a step comes out alike for both. -/
theorem AlikeIn.checkStep_eq (h : q.AlikeIn settings v a b) (k : Nat) :
    q.checkStep settings k a v = q.checkStep settings k b v := by
  refine checkStep_congr fun id hid => ?_
  obtain ⟨question, hq, rfl⟩ := exists_answerable_of_mem_step hid
  exact h.faultsOf_eq hq

/-- The check of the whole comes out alike for both. -/
theorem AlikeIn.checkAll_eq (h : q.AlikeIn settings v a b) (terms : Bool) :
    q.checkAll settings a v terms = q.checkAll settings b v terms :=
  checkAll_congr fun _ hq => h.faultsOf_eq hq

/-- Both make the same submission. -/
theorem AlikeIn.compile_eq (h : q.AlikeIn settings v a b) (respondent : RespondentId) :
    q.compile respondent a v = q.compile respondent b v := by
  unfold compile
  congr 1
  refine List.filterMap_congr fun question hq => ?_
  obtain ⟨hanswerable, hs⟩ := List.mem_filter.1 hq
  exact (h question hanswerable hs).stored

/-! ### With what each of them shows -/

/-- Answers whose values are alike those of others in the questions visible by these. -/
def AlikeOnShown (q : Questionnaire) (settings : SessionSettings) (a b : Answers) : Prop :=
  ∀ question ∈ q.answerable, (q.visibility a).shows question.id = true →
    question.Alike settings (a.value? question.id) (b.value? question.id)

theorem AlikeOnShown.alikeIn (h : q.AlikeOnShown settings a b) : q.AlikeIn settings (q.visibility a) a b := h

/-- Every question is judged alike by both: the values before it that count stand alike to its conditions. -/
theorem AlikeOnShown.shows_eq (h : q.AlikeOnShown settings a b) :
    ∀ question ∈ q.answerable, (q.visibility a).shows question.id = (q.visibility b).shows question.id := by
  apply position_induction
  intro question hq ih
  rw [shows_visibility hq, shows_visibility hq]
  refine shows_congr_holds (mem_answerable.1 hq).1 fun target ht hlt c hc => ?_
  have hsame := ih target ht hlt
  cases hs : (q.visibility a).shows target.id with
  | false => rw [Visibility.mask_of_hidden hs, Visibility.mask_of_hidden (hsame ▸ hs)]
  | true =>
    rw [Visibility.mask_of_shows hs, Visibility.mask_of_shows (hsame ▸ hs)]
    exact (h target ht hs).holds c hc

/-- The same questions are hidden by both. -/
theorem AlikeOnShown.visibility_eq (h : q.AlikeOnShown settings a b) : q.visibility a = q.visibility b :=
  visibility_ext h.shows_eq

/-- The check of the whole comes out alike for both. -/
theorem AlikeOnShown.checkAll_eq (h : q.AlikeOnShown settings a b) (terms : Bool) :
    q.checkAll settings a (q.visibility a) terms = q.checkAll settings b (q.visibility b) terms := by
  rw [← h.visibility_eq]
  exact h.alikeIn.checkAll_eq terms

/-- Both make the same submission. -/
theorem AlikeOnShown.compile_eq (h : q.AlikeOnShown settings a b) (respondent : RespondentId) :
    q.compile respondent a (q.visibility a) = q.compile respondent b (q.visibility b) := by
  rw [← h.visibility_eq]
  exact h.alikeIn.compile_eq respondent

end Questionnaire

end Survey
