import Survey.Proofs.EchoedValues

/-!
# Answers read back from a submission

A stored answer can be read back as a value of the kind of its question, and a submission as answers. What is read back is not what was
given, since hidden and blank values are gone and the others are tidied up. But a submission speaks for itself: the answers read back from
it show the same questions, pass the same checks and make the same submission (`Session.submission_speaks_for_itself`).

There is one exception. A free option may be chosen twice, with different texts. Both texts count as long as the session lasts, and only
the first is stored, so a question shown by the second can not be explained by the submission (`Session.TwoTexts.second_text_is_lost`).
-/

namespace Survey

/-! ## Reading back -/

/-- The value that a stored answer to a question is read back as. -/
def Question.readBack? (q : Question) (stored : StoredAnswer) : Option AnswerValue :=
  match q.kind with
  | .shortAnswer | .longAnswer => stored.body.map .text
  | .singleOption | .multipleOption => some (.choices (stored.choices.map (·.toChoice)))
  | .sorting => some (.sorting (stored.choices.map (·.option)))
  | .matrixSingle | .matrixMultiple => some (.matrix (stored.choices.filterMap (·.toCell?)))
  | .separator => none

/-- A value of the kind of the question is read back as what is left of it. -/
theorem Question.readBack?_store {q : Question} {value : AnswerValue} (hkind : q.kind.takes value.shape = true) :
    q.readBack? (q.store value) = some (q.echo value) := by
  unfold readBack?
  -- a value of another shape than the kind asks for is none of the kind
  cases value <;> cases hk : q.kind <;> rw [hk] at hkind <;> first | rfl | cases hkind

namespace Questionnaire

variable {q : Questionnaire} {settings : SessionSettings} {respondent : RespondentId} {a : Answers} {v : Visibility}
  {question : Question} {terms : Bool}

/-- The value that a stored answer is read back as, by the question it names. -/
def readValue? (q : Questionnaire) (stored : StoredAnswer) : Option AnswerValue :=
  (q.question? stored.question).bind (·.readBack? stored)

/-- The answers that stored answers are read back as. -/
def readAnswers (q : Questionnaire) : List StoredAnswer → Answers
  | [] => .empty
  | stored :: rest =>
    match q.readValue? stored with
    | some value => (q.readAnswers rest).set stored.question value
    | none => q.readAnswers rest

/-- The answers that a submission is read back as. -/
def readBack (q : Questionnaire) (s : Submission) : Answers := q.readAnswers s.answers

/-- The value of a question is read back from the first answer stored for it that can be read. -/
theorem value?_readAnswers (q : Questionnaire) (answers : List StoredAnswer) (id : QuestionId) :
    (q.readAnswers answers).value? id =
      answers.findSome? fun stored => if stored.question = id then q.readValue? stored else none := by
  induction answers with
  | nil => rfl
  | cons stored rest ih =>
    rw [readAnswers, List.findSome?_cons]
    cases hv : q.readValue? stored with
    | none => simp [ih]
    | some value =>
      rw [Answers.value?_set]
      by_cases hid : id = stored.question
      · simp [hid]
      · simp [hid, Ne.symm hid, ih]

/-- Where one answer to a question is stored, its value is the one read back from that. -/
theorem value?_readBack_of_mem {s : Submission} {stored : StoredAnswer} (hstored : stored ∈ s.answers)
    (honly : ∀ other ∈ s.answers, other.question = stored.question → other = stored) :
    (q.readBack s).value? stored.question = q.readValue? stored := by
  rw [readBack, value?_readAnswers]
  cases hfound : s.answers.findSome? fun other => if other.question = stored.question then q.readValue? other else none with
  | none =>
    have hnone := List.findSome?_eq_none_iff.1 hfound stored hstored
    rw [if_pos rfl] at hnone
    exact hnone.symm
  | some value =>
    obtain ⟨other, hother, hv⟩ := List.exists_of_findSome?_eq_some hfound
    split at hv
    · rename_i hid
      rw [honly other hother hid] at hv
      exact hv.symm
    · cases hv

/-- Where no answer to a question is stored, none is read back. -/
theorem value?_readBack_of_not_mem {s : Submission} {id : QuestionId} (h : id ∉ s.answers.map (·.question)) :
    (q.readBack s).value? id = none := by
  rw [readBack, value?_readAnswers, List.findSome?_eq_none_iff]
  intro stored hstored
  exact if_neg fun hid => h (List.mem_map.2 ⟨stored, hstored, hid⟩)

/-! ## Reading back what answers make -/

/-- A submission that answers make holds one answer to a question at most. -/
theorem eq_of_mem_compile {x y : StoredAnswer} (hx : x ∈ (q.compile respondent a v).answers)
    (hy : y ∈ (q.compile respondent a v).answers) (hid : x.question = y.question) : x = y := by
  obtain ⟨first, hfirst, _, value, hv, _, rfl⟩ := mem_compile.1 hx
  obtain ⟨second, hsecond, _, other, ho, _, rfl⟩ := mem_compile.1 hy
  rw [Question.store_question, Question.store_question] at hid
  have heq : first = second := by
    have hfound := question?_of_answerable hfirst
    rw [hid, question?_of_answerable hsecond] at hfound
    exact (Option.some.inj hfound).symm
  subst heq
  rw [hv] at ho
  cases ho
  rfl

/-- A visible value that says something is read back as what is left of it. -/
theorem value?_readBack_compile (hq : question ∈ q.answerable) (hs : v.shows question.id = true) {value : AnswerValue}
    (hv : a.value? question.id = some value) (hgiven : value.isBlank = false)
    (hkind : question.kind.takes value.shape = true) :
    (q.readBack (q.compile respondent a v)).value? question.id = some (question.echo value) := by
  have hstored : question.store value ∈ (q.compile respondent a v).answers :=
    mem_compile.2 ⟨question, hq, hs, value, hv, hgiven, rfl⟩
  have hread := value?_readBack_of_mem (q := q) hstored fun other hother hid => eq_of_mem_compile hother hstored hid
  rw [Question.store_question] at hread
  rw [hread, readValue?, Question.store_question, question?_of_answerable hq]
  exact Question.readBack?_store hkind

/-- In no visible question a free option is chosen twice with different texts. -/
def Unambiguous (q : Questionnaire) (a : Answers) : Prop :=
  ∀ question ∈ q.answerable, (q.visibility a).shows question.id = true → ∀ value ∈ a.value? question.id,
    question.Unambiguous value

instance : Decidable (q.Unambiguous a) := inferInstanceAs (Decidable (∀ question ∈ q.answerable, _ → ∀ value ∈ _, _))

/-- The answers read back from what answers in order make are alike these in all visible questions. -/
theorem InOrder.alike_readBack (h : q.InOrder settings a terms) (hone : q.Unambiguous a) (respondent : RespondentId) :
    q.AlikeOnShown settings a (q.readBack (q.compile respondent a (q.visibility a))) := by
  intro question hq hs
  have hnothing : a.hasValue question.id = false →
      (q.readBack (q.compile respondent a (q.visibility a))).value? question.id = none := by
    intro hno
    refine value?_readBack_of_not_mem fun hmem => ?_
    obtain ⟨_, _, _, _, hvalue⟩ := mem_questions_compile.1 hmem
    rw [hno] at hvalue
    cases hvalue
  cases hv : a.value? question.id with
  | none =>
    rw [hnothing (by simp [Answers.hasValue, hv])]
    exact .refl question settings none
  | some value =>
    cases hb : value.isBlank with
    | true =>
      rw [hnothing (by simp [Answers.hasValue, hv, hb])]
      exact Question.alike_none_of_isBlank hb
    | false =>
      have haccepts := h.accepts hq hs hv hb
      obtain ⟨hkind, _⟩ := Question.misfit?_eq_none_iff.1 haccepts.suits
      rw [value?_readBack_compile hq hs hv hb hkind]
      exact haccepts.alike_echo (q.wellFormed.options question (mem_answerable.1 hq).1) (hone question hq hs value hv)

end Questionnaire

namespace Session

/-- A submission speaks for itself: the answers read back from it hide the questions that the answers of the session hide, pass the check
of the whole and make the same submission. This takes that no visible question has a free option chosen twice with different texts. -/
theorem submission_speaks_for_itself {q : Questionnaire} {respondent : RespondentId} {settings : SessionSettings}
    {allowed : Session → Call → Prop} {s : Session} {σ ε : Type} {keeper : Keeper σ ε} {store : σ} {submission : Submission}
    (h : Reaches allowed (fresh q respondent settings) s) (hr : (s.submit keeper store).result = .ok submission)
    (hone : q.Unambiguous s.answers) :
    q.visibility (q.readBack submission) = q.visibility s.answers ∧
    q.checkAll settings (q.readBack submission) (q.visibility (q.readBack submission)) s.termsAccepted = .ok () ∧
    q.compile respondent (q.readBack submission) (q.visibility (q.readBack submission)) = submission := by
  obtain ⟨horder, rfl⟩ := h.submitted hr
  have halike := horder.alike_readBack hone respondent
  refine ⟨halike.visibility_eq.symm, ?_, (halike.compile_eq respondent).symm⟩
  rw [← halike.checkAll_eq s.termsAccepted]
  exact horder.checked

namespace TwoTexts

/-- Birds to choose from, one of them the respondent's own, and a question for those who saw a cockatoo. -/
def form : Questionnaire where
  definition := {
    id := 2, title := "Two texts", questions := [
      { id := 1, position := 0, body := "Which birds did you see?", kind := .multipleOption, mandatory := true,
        options := [{ id := 10, body := "Other", freeText := true }, { id := 11, body := "Parrot" }] },
      { id := 2, position := 1, body := "How many cockatoos?", kind := .shortAnswer, mandatory := true,
        conditions := [(DisplayCondition.matching 1 "cacatua").asMandatory] }] }
  wellFormed := Definition.problem?_eq_none_iff.1 (by decide)
  ascending := by decide

/-- The session in which some birds are chosen and two cockatoos were seen. -/
def counted (chosen : List Choice) : Session :=
  (Call.move (.answer 1 (.choices chosen))).run <| (Call.move (.answer 2 (.text "Two"))).run (fresh form 7 {})

theorem reaches_counted (chosen : List Choice) : Reaches (fun _ _ => True) (fresh form 7 {}) (counted chosen) :=
  .call _ (.call _ .first trivial) trivial

/-- A keeper that saves whatever it is given. -/
def saving : Keeper Unit Unit := Script.keeper ⟨.error (), .ok false, .ok .saved⟩

/-- A parrot, chosen with a text that is not stored, and a cockatoo, chosen twice with one text. -/
def sameText : List Choice := [⟨11, some "Polly"⟩, ⟨10, some "Cacatua"⟩, ⟨10, some "Cacatua"⟩]

/-- What is submitted of them. -/
def submitted : Submission where
  questionnaire := 2
  revision := 0
  respondent := 7
  answers := [
    { question := 1, choices := [{ option := 10, body := "Other", customBody := some "Cacatua" }, { option := 11, body := "Parrot" }] },
    { question := 2, body := some "Two" }]

/-- The submission of a cockatoo that was chosen twice speaks for itself. -/
theorem same_text_speaks_for_itself :
    Reaches (fun _ _ => True) (fresh form 7 {}) (counted sameText) ∧
    ((counted sameText).submit saving ()).result = .ok submitted ∧ form.Unambiguous (counted sameText).answers ∧
    form.visibility (form.readBack submitted) = form.visibility (counted sameText).answers ∧
    form.checkAll {} (form.readBack submitted) (form.visibility (form.readBack submitted)) (counted sameText).termsAccepted = .ok () ∧
    form.compile 7 (form.readBack submitted) (form.visibility (form.readBack submitted)) = submitted := by
  have hreaches := reaches_counted sameText
  have hresult : ((counted sameText).submit saving ()).result = .ok submitted := by decide +kernel
  have hone : form.Unambiguous (counted sameText).answers := by decide +kernel
  exact ⟨hreaches, hresult, hone, submission_speaks_for_itself hreaches hresult hone⟩

/-- A crow and a cockatoo under one free option: the second shows the next question, the first is stored. -/
def twoTexts : List Choice := [⟨10, some "Crow"⟩, ⟨10, some "Cacatua"⟩]

/-- Not every submission speaks for itself: the text that showed a question may be lost. -/
theorem second_text_is_lost :
    ¬ ∀ (q : Questionnaire) (respondent : RespondentId) (settings : SessionSettings) (s : Session) (keeper : Keeper Unit Unit)
      (submission : Submission), Reaches (fun _ _ => True) (fresh q respondent settings) s →
      (s.submit keeper ()).result = .ok submission →
      q.visibility (q.readBack submission) = q.visibility s.answers ∧
      q.checkAll settings (q.readBack submission) (q.visibility (q.readBack submission)) s.termsAccepted = .ok () ∧
      q.compile respondent (q.readBack submission) (q.visibility (q.readBack submission)) = submission := by
  intro h
  have hresult : ((counted twoTexts).submit saving ()).result = .ok (counted twoTexts).submission := by decide +kernel
  obtain ⟨hvisibility, _⟩ := h form 7 {} (counted twoTexts) saving _ (reaches_counted twoTexts) hresult
  revert hvisibility
  decide +kernel

end TwoTexts

end Session

end Survey
