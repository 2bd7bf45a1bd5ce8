import Survey.Proofs.AlikeAnswers

/-!
# Conditions on unanswered questions

A question is unanswered when it is hidden, has no value or has a blank one. Of the conditions on it none is fulfilled then but that it is
not answered; and once it is answered, a comparison with an option and its opposite have opposite outcomes
(`Questionnaire.unanswered_fulfils_only_notAnswered`). Matching needs a reason for that, since it does not ask whether there is an answer:
text to match says something, blank text has nothing but white space, and lower case makes no white space into anything else nor
anything else into white space.
-/

namespace Survey

namespace DisplayCondition

variable {c d : DisplayCondition} {target : Question} {value : AnswerValue}

/-- Of a question without a value nothing holds but that it is not answered. -/
theorem holds_none_iff : c.holds target none = true ↔ c.type = .notAnswered := by
  unfold holds
  cases c.type <;> simp

/-- Of a blank value no more holds than of none. -/
theorem Fits.holds_blank_iff (hc : c.Fits target) (hvalue : value.isBlank = true) :
    c.holds target (some value) = true ↔ c.type = .notAnswered := by
  have halike : target.Alike {} (some value) none := Question.alike_none_of_isBlank hvalue
  rw [halike.holds c hc, holds_none_iff]

/-- A value that says something answers its question. -/
theorem holds_answered (hvalue : value.isBlank = false) (htype : c.type = .answered) : c.holds target (some value) = true := by
  simp [holds, htype, hvalue]

theorem holds_notAnswered (hvalue : value.isBlank = false) (htype : c.type = .notAnswered) : c.holds target (some value) = false := by
  simp [holds, htype, hvalue]

/-- Of a value that says something, a comparison with an option holds if its opposite does not. -/
theorem holds_notEqual (hvalue : value.isBlank = false) (hequal : c.type = .equal) (hnotEqual : d.type = .notEqual)
    (hoption : d.option = c.option) : d.holds target (some value) = !c.holds target (some value) := by
  simp [holds, hequal, hnotEqual, hvalue, selects, hoption]

end DisplayCondition

namespace Questionnaire

variable {q : Questionnaire} {a : Answers} {question : Question} {c : DisplayCondition}

/-- Whether a condition of a question is fulfilled when the pass comes to that question: by the value, as it counts then, of the question
it looks at. -/
def fulfils (q : Questionnaire) (a : Answers) (question : Question) (c : DisplayCondition) : Bool :=
  (q.question? c.question).any fun target => c.holds target ((q.visibilityBefore a question).mask a c.question)

/-- The pass shows a question by which of its conditions are fulfilled. -/
theorem shows_eq_verdict_fulfils (hq : question ∈ q.answerable) :
    (q.visibility a).shows question.id = verdict (question.conditions.map fun c => (c.mandatory, q.fulfils a question c)) :=
  shows_eq_shows_before hq

/-- A question with conditions can be answered. -/
theorem mem_answerable_of_mem_conditions (hq : question ∈ q.questions) (hc : c ∈ question.conditions) : question ∈ q.answerable := by
  refine mem_answerable.2 ⟨hq, ?_⟩
  cases hs : question.isSeparator with
  | false => rfl
  | true =>
    rw [q.wellFormed.separators question hq hs] at hc
    exact absurd hc List.not_mem_nil

/-- A condition is fulfilled if it holds of the value that the question it looks at has in the end, hidden or not. -/
theorem fulfils_eq_holds (hq : question ∈ q.questions) (hc : c ∈ question.conditions) :
    ∃ target ∈ q.answerable, target.id = c.question ∧ c.Fits target ∧
      q.fulfils a question c = c.holds target ((q.visibility a).mask a c.question) := by
  obtain ⟨target, ht, hid, hlt, hs, hfits⟩ := q.wellFormed.conditions question hq c hc
  have htarget : target ∈ q.answerable := mem_answerable.2 ⟨ht, hs⟩
  refine ⟨target, htarget, hid, hfits, ?_⟩
  have hmask := mask_visibilityBefore (a := a) (mem_answerable_of_mem_conditions hq hc) htarget hlt
  unfold fulfils
  rw [← hid, question?_of_answerable htarget, Option.any_some, hmask]

/-- Of an unanswered question a condition is fulfilled only if it asks for no answer. -/
theorem fulfils_iff_of_unanswered (hq : question ∈ q.questions) (hc : c ∈ question.conditions)
    (hunanswered : (q.visibility a).shows c.question = false ∨ a.hasValue c.question = false) :
    q.fulfils a question c = true ↔ c.type = .notAnswered := by
  obtain ⟨target, _, _, hfits, hfulfils⟩ := fulfils_eq_holds (a := a) hq hc
  rw [hfulfils]
  cases hs : (q.visibility a).shows c.question with
  | false => rw [Visibility.mask_of_hidden hs, DisplayCondition.holds_none_iff]
  | true =>
    have hnone : a.hasValue c.question = false := hunanswered.resolve_left (by simp [hs])
    rw [Visibility.mask_of_shows hs]
    unfold Answers.hasValue at hnone
    cases hv : a.value? c.question with
    | none => exact DisplayCondition.holds_none_iff
    | some value => exact hfits.holds_blank_iff (by simpa [hv] using hnone)

/-- An answered question has a value that counts and says something. -/
theorem exists_answer_of_shows (hs : (q.visibility a).shows c.question = true) (hvalue : a.hasValue c.question = true) :
    ∃ value, (q.visibility a).mask a c.question = some value ∧ value.isBlank = false := by
  rw [Visibility.mask_of_shows hs]
  simpa [Answers.hasValue, Option.any_eq_true] using hvalue

/-- Conditions on an answered question, whichever questions they belong to, are opposite if one compares with an option and the other
asks for the opposite. -/
theorem fulfils_notEqual {other : Question} {d : DisplayCondition} (hq : question ∈ q.questions) (hc : c ∈ question.conditions)
    (hother : other ∈ q.questions) (hd : d ∈ other.conditions) (hequal : c.type = .equal) (hnotEqual : d.type = .notEqual)
    (hquestion : d.question = c.question) (hoption : d.option = c.option)
    (hs : (q.visibility a).shows c.question = true) (hvalue : a.hasValue c.question = true) :
    q.fulfils a other d = !q.fulfils a question c := by
  obtain ⟨target, htarget, hid, _, hfulfils⟩ := fulfils_eq_holds (a := a) hq hc
  obtain ⟨target', htarget', hid', _, hfulfils'⟩ := fulfils_eq_holds (a := a) hother hd
  obtain rfl : target' = target := eq_of_id_eq htarget' htarget (by rw [hid', hid, hquestion])
  obtain ⟨value, hmask, hblank⟩ := exists_answer_of_shows hs hvalue
  rw [hfulfils, hfulfils', hquestion, hmask]
  exact DisplayCondition.holds_notEqual hblank hequal hnotEqual hoption

/-- How a condition of a question is judged in the pass that decides what is shown. As long as the question it looks at is hidden or has
no answer, it is fulfilled exactly if it asks for no answer. Once that question is shown and answered, conditions that ask for an answer
are fulfilled and those that ask for none are not, and of two that compare with the same option, one with `equal` and the other with
`not_equal`, exactly one is fulfilled. -/
theorem unanswered_fulfils_only_notAnswered (hq : question ∈ q.questions) (hc : c ∈ question.conditions) :
    (q.visibility a).shows question.id = verdict (question.conditions.map fun c => (c.mandatory, q.fulfils a question c)) ∧
    ((q.visibility a).shows c.question = false ∨ a.hasValue c.question = false →
      (q.fulfils a question c = true ↔ c.type = .notAnswered)) ∧
    ((q.visibility a).shows c.question = true → a.hasValue c.question = true →
      (c.type = .answered → q.fulfils a question c = true) ∧
      (c.type = .notAnswered → q.fulfils a question c = false) ∧
      ∀ other ∈ q.questions, ∀ d ∈ other.conditions, c.type = .equal → d.type = .notEqual →
        d.question = c.question → d.option = c.option → q.fulfils a other d = !q.fulfils a question c) := by
  refine ⟨shows_eq_verdict_fulfils (mem_answerable_of_mem_conditions hq hc), fulfils_iff_of_unanswered hq hc, ?_⟩
  intro hs hvalue
  obtain ⟨target, _, _, _, hfulfils⟩ := fulfils_eq_holds (a := a) hq hc
  obtain ⟨value, hmask, hblank⟩ := exists_answer_of_shows hs hvalue
  rw [hmask] at hfulfils
  refine ⟨?_, ?_, ?_⟩
  · intro htype
    rw [hfulfils]
    exact DisplayCondition.holds_answered hblank htype
  · intro htype
    rw [hfulfils]
    exact DisplayCondition.holds_notAnswered hblank htype
  · intro other hother d hd hequal hnotEqual hquestion hoption
    exact fulfils_notEqual hq hc hother hd hequal hnotEqual hquestion hoption hs hvalue

namespace Reception

/-- Shown to the Adas. -/
def surname : Question := { id := 2, position := 1, body := "Ada who?", kind := .shortAnswer, conditions := [.matching 1 "ada"] }

/-- Shown to those who gave no name. -/
def stay : Question where
  id := 3
  position := 2
  body := "Do you want to stay unnamed?"
  kind := .singleOption
  options := [{ id := 10, body := "Yes" }, { id := 11, body := "No" }]
  conditions := [.notAnswered 1]

/-- Shown to those who want to stay unnamed. -/
def badge : Question := { id := 4, position := 3, body := "What may we call you?", kind := .shortAnswer, conditions := [.equal 3 10] }

/-- Shown to those who do not. -/
def name : Question := { id := 5, position := 4, body := "So, your name?", kind := .shortAnswer, conditions := [.notEqual 3 10] }

/-- A questionnaire that asks for a name. -/
def form : Questionnaire where
  definition := {
    id := 1, title := "Reception", questions := [
      { id := 1, position := 0, body := "Your name?", kind := .shortAnswer }, surname, stay, badge, name] }
  wellFormed := Definition.problem?_eq_none_iff.1 (by decide)
  ascending := by decide

/-- White space for a name, and the wish to stay unnamed. -/
def unnamed : Answers := (Answers.empty.set 1 (.text " \t")).set 3 (.ofOptions [10])

/-- A name that was given after all. -/
def named : Answers := unnamed.set 1 (.text "Ada")

/-- White space is no name to match. With the name, the wish is hidden, and neither it nor its opposite counts. -/
theorem white_space_is_no_name :
    (surname ∈ form.questions ∧ stay ∈ form.questions ∧ badge ∈ form.questions ∧ name ∈ form.questions) ∧
    (unnamed.hasValue 1 = false ∧ form.fulfils unnamed surname (.matching 1 "ada") = false ∧
      form.fulfils unnamed stay (.notAnswered 1) = true) ∧
    ((form.visibility unnamed).shows 3 = true ∧ unnamed.hasValue 3 = true ∧
      form.fulfils unnamed name (.notEqual 3 10) = !form.fulfils unnamed badge (.equal 3 10)) ∧
    ((form.visibility named).shows 3 = false ∧ named.hasValue 3 = true ∧ form.fulfils named badge (.equal 3 10) = false ∧
      form.fulfils named name (.notEqual 3 10) = false) := by
  have hsurname : surname ∈ form.questions := by decide
  have hstay : stay ∈ form.questions := by decide
  have hbadge : badge ∈ form.questions := by decide
  have hname : name ∈ form.questions := by decide
  have hblank : unnamed.hasValue 1 = false := by decide
  have hshown : (form.visibility unnamed).shows 3 = true := by decide
  have hhidden : (form.visibility named).shows 3 = false := by decide
  obtain ⟨-, hmatching, -⟩ := unanswered_fulfils_only_notAnswered (a := unnamed) hsurname (List.mem_singleton_self _)
  obtain ⟨-, hasked, -⟩ := unanswered_fulfils_only_notAnswered (a := unnamed) hstay (List.mem_singleton_self _)
  obtain ⟨-, -, hopposite⟩ := unanswered_fulfils_only_notAnswered (a := unnamed) hbadge (List.mem_singleton_self _)
  obtain ⟨-, hequal, -⟩ := unanswered_fulfils_only_notAnswered (a := named) hbadge (List.mem_singleton_self _)
  obtain ⟨-, hnotEqual, -⟩ := unanswered_fulfils_only_notAnswered (a := named) hname (List.mem_singleton_self _)
  refine ⟨⟨hsurname, hstay, hbadge, hname⟩, ⟨hblank, ?_, (hasked (Or.inr hblank)).2 rfl⟩, ⟨hshown, by decide, ?_⟩,
    ⟨hhidden, by decide, ?_, ?_⟩⟩
  · exact Bool.eq_false_iff.2 fun h => nomatch (hmatching (Or.inr hblank)).1 h
  · exact (hopposite hshown (by decide)).2.2 name hname _ (List.mem_singleton_self _) rfl rfl rfl rfl
  · exact Bool.eq_false_iff.2 fun h => nomatch (hequal (Or.inl hhidden)).1 h
  · exact Bool.eq_false_iff.2 fun h => nomatch (hnotEqual (Or.inl hhidden)).1 h

end Reception

end Questionnaire

end Survey
