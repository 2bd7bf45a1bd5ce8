import Survey.Proofs.AcceptedAnswers
import Survey.Store.Scripted

/-!
# What a session keeps

A session can be called in any order, and many calls are refused. Through all of them its answers belong to questions that can be
answered and suit these, it is on a step that there is, and it changes the step only by moving on or back, by one
(`Session.sound_in_every_run`). A refused move leaves nothing behind but the faults it was refused for, and a session that is done
takes no more than a change of mind about the terms (`Session.Reaches.of_completed`).
-/

namespace Survey

/-! ## Answers of a questionnaire -/

/-- A separator takes no shape of value. -/
theorem Question.misfit?_of_isSeparator {question : Question} (h : question.isSeparator = true) (value : AnswerValue) :
    question.misfit? value = some (.wrongShape .separator value.shape) := by
  have hkind : question.kind = .separator := by simpa [isSeparator, QuestionKind.isSeparator] using h
  have htakes : QuestionKind.separator.takes value.shape = false := by cases value <;> rfl
  simp [misfit?, hkind, htakes]

/-- So no value suits a separator. -/
theorem Question.isSeparator_of_misfit? {question : Question} {value : AnswerValue} (h : question.misfit? value = none) :
    question.isSeparator = false := by
  cases hs : question.isSeparator with
  | false => rfl
  | true =>
    rw [misfit?_of_isSeparator hs] at h
    cases h

namespace Questionnaire

variable {q : Questionnaire}

/-- An answer is consistent exactly if its question can be answered and the value suits it. -/
theorem staleEntry?_eq_none_iff {entry : AnswerEntry} :
    q.staleEntry? entry = none ↔ ∃ question ∈ q.answerable, question.id = entry.1 ∧ question.misfit? entry.2 = none := by
  rw [staleEntry?_eq_none_iff_suits]
  constructor
  · rintro ⟨question, hq, hfit⟩
    obtain ⟨hmem, hid⟩ := question?_eq_some_iff.1 hq
    exact ⟨question, mem_answerable.2 ⟨hmem, Question.isSeparator_of_misfit? hfit⟩, hid, hfit⟩
  · rintro ⟨question, hq, hid, hfit⟩
    exact ⟨question, hid ▸ question?_of_answerable hq, hfit⟩

end Questionnaire

/-- What a call is refused for, if it is. -/
def Reply.refusal? {σ ε α : Type} (r : Reply σ ε α) : Option ε :=
  match r.result with
  | .error e => some e
  | .ok _ => none

namespace Session

variable {s : Session}

/-! ## Steps -/

/-- A session is on the last step if none comes after the one it is on. -/
theorem isOnLastStep_iff : s.isOnLastStep = true ↔ ∃ step, s.state = .answering step ∧ s.questionnaire.stepCount ≤ step + 1 := by
  simp [isOnLastStep, Option.any_eq_true, currentStep?_eq_some_iff]

/-- The step a session is on is one of the questionnaire's, or zero if it has none. -/
def StepInRange (s : Session) : Prop :=
  ∀ step, s.state = .answering step → step < s.questionnaire.stepCount ∨ s.questionnaire.stepCount = 0 ∧ step = 0

theorem fresh_stepInRange (q : Questionnaire) (respondent : RespondentId) (settings : SessionSettings) :
    (fresh q respondent settings).StepInRange := by
  intro step hstep
  cases hstep
  show 0 < q.stepCount ∨ q.stepCount = 0 ∧ 0 = 0
  omega

/-- What a call makes of where the session is: nothing, the next step by moving on, the previous one by moving back, or the end by
submitting. -/
theorem Call.state_cases (c : Call) (s : Session) :
    (c.run s).state = s.state ∨
    (∃ step, s.state = .answering step ∧ c = .move .advance ∧ step + 1 < s.questionnaire.stepCount ∧
      s.advance.result = .ok (step + 1) ∧ (c.run s).state = .answering (step + 1)) ∨
    (∃ step, s.state = .answering (step + 1) ∧ c = .move .goBack ∧ s.goBack.result = .ok step ∧
      (c.run s).state = .answering step) ∨
    (∃ (σ ε : Type) (k : Keeper σ ε) (store : σ), c = .submit k store) ∧ (c.run s).state = .completed := by
  cases c with
  | move m =>
    cases m with
    | answer id value =>
      rcases answer_cases s id value with ⟨_, h⟩ | ⟨_, _, _, _, h⟩ <;> exact Or.inl (by rw [run, Move.run, h])
    | withdraw id =>
      rcases withdraw_cases s id with ⟨_, h⟩ | ⟨_, _, _, h⟩ <;> exact Or.inl (by rw [run, Move.run, h])
    | acceptTerms accepted => exact Or.inl rfl
    | advance =>
      rcases advance_cases s with ⟨_, _, h⟩ | ⟨step, hstep, hlt, _, hr, h⟩
      · exact Or.inl (by rw [run, Move.run, h])
      · exact Or.inr (Or.inl ⟨step, hstep, rfl, hlt, hr, by rw [run, Move.run, h]; rfl⟩)
    | goBack =>
      rcases goBack_cases s with ⟨_, h⟩ | ⟨step, hstep, hr, h⟩
      · exact Or.inl (by rw [run, Move.run, h])
      · exact Or.inr (Or.inr (Or.inl ⟨step, hstep, rfl, hr, by rw [run, Move.run, h]; rfl⟩))
  | submit k store =>
    obtain ⟨state, faults, h, hstate⟩ := submit_session k s store
    rcases hstate with rfl | rfl
    · exact Or.inl (by rw [run, h])
    · exact Or.inr (Or.inr (Or.inr ⟨⟨_, _, k, store, rfl⟩, by rw [run, h]⟩))

theorem StepInRange.call (h : s.StepInRange) (c : Call) : (c.run s).StepInRange := by
  intro step hstep
  rw [(c.sameForm s).questionnaire]
  rcases c.state_cases s with hs | ⟨_, _, _, hlt, _, hs⟩ | ⟨before, hbefore, _, _, hs⟩ | ⟨_, hs⟩ <;> rw [hs] at hstep
  · exact h step hstep
  · cases hstep
    exact Or.inl hlt
  · cases hstep
    rcases h (step + 1) hbefore with hlt | ⟨_, hzero⟩
    · left
      omega
    · omega
  · cases hstep

/-- In every run the session is on a step there is. -/
theorem Reaches.stepInRange {allowed : Session → Call → Prop} {q : Questionnaire} {respondent : RespondentId}
    {settings : SessionSettings} (h : Reaches allowed (fresh q respondent settings) s) : s.StepInRange :=
  h.invariant (fresh_stepInRange q respondent settings) fun _ c hs _ => hs.call c

/-- Where the step is one there is, it is the last exactly if it is the one of that number. -/
theorem StepInRange.isOnLastStep_iff_state (h : s.StepInRange) :
    s.isOnLastStep = true ↔ s.state = .answering (s.questionnaire.stepCount - 1) := by
  rw [isOnLastStep_iff]
  constructor
  · rintro ⟨step, hstep, hle⟩
    have heq : step = s.questionnaire.stepCount - 1 := by
      rcases h step hstep with hlt | ⟨hnone, hzero⟩ <;> omega
    rw [hstep, heq]
  · intro hstep
    exact ⟨_, hstep, by omega⟩

/-- A call changes the step by one if at all, and only by moving on or back. -/
theorem Call.changes_step_iff {c : Call} {step step' : Nat} (hstep : s.state = .answering step) :
    (c.run s).state = .answering step' ∧ step' ≠ step ↔
      (c = .move .advance ∧ s.advance.result = .ok step' ∧ step' = step + 1) ∨
      (c = .move .goBack ∧ s.goBack.result = .ok step' ∧ step = step' + 1) := by
  constructor
  · rintro ⟨hrun, hne⟩
    rcases c.state_cases s with hs | ⟨k, hk, hc, _, hr, hs⟩ | ⟨k, hk, hc, hr, hs⟩ | ⟨_, hs⟩ <;> rw [hs] at hrun
    · rw [hstep] at hrun
      cases hrun
      exact absurd rfl hne
    · cases hrun
      rw [hstep] at hk
      cases hk
      exact Or.inl ⟨hc, hr, rfl⟩
    · cases hrun
      rw [hstep] at hk
      cases hk
      exact Or.inr ⟨hc, hr, rfl⟩
    · cases hrun
  · rintro (⟨rfl, hr, rfl⟩ | ⟨rfl, hr, rfl⟩)
    · rcases advance_cases s with ⟨⟨e, he⟩, _⟩ | ⟨k, hk, _, _, hr', hs⟩
      · rw [hr] at he
        cases he
      · rw [hr'] at hr
        cases hr
        exact ⟨by rw [run, Move.run, hs]; rfl, by omega⟩
    · rcases goBack_cases s with ⟨⟨e, he⟩, _⟩ | ⟨k, hk, hr', hs⟩
      · rw [hr] at he
        cases he
      · rw [hr'] at hr
        cases hr
        exact ⟨by rw [run, Move.run, hs]; rfl, by omega⟩

/-! ## Refusals -/

/-- What a move is refused for, if it is. Whether the terms are accepted can be noted at any time. -/
def Move.refusal? : Move → Session → Option SessionError
  | .answer id value, s => (s.answer id value).refusal?
  | .withdraw id, s => (s.withdraw id).refusal?
  | .acceptTerms _, _ => none
  | .advance, s => s.advance.refusal?
  | .goBack, s => s.goBack.refusal?

/-- A refused move changes nothing but the faults shown. -/
theorem Move.run_of_refusal? {m : Move} {e : SessionError} (h : m.refusal? s = some e) : ∃ faults, m.run s = { s with faults } := by
  cases m with
  | answer id value =>
    rcases answer_cases s id value with ⟨_, hs⟩ | ⟨_, _, _, hr, _⟩
    · exact ⟨s.faults, hs⟩
    · simp [refusal?, Reply.refusal?, hr] at h
  | withdraw id =>
    rcases withdraw_cases s id with ⟨_, hs⟩ | ⟨_, _, hr, _⟩
    · exact ⟨s.faults, hs⟩
    · simp [refusal?, Reply.refusal?, hr] at h
  | acceptTerms accepted => cases h
  | advance =>
    rcases advance_cases s with ⟨_, faults, hs⟩ | ⟨_, _, _, _, hr, _⟩
    · exact ⟨faults, hs⟩
    · simp [refusal?, Reply.refusal?, hr] at h
  | goBack =>
    rcases goBack_cases s with ⟨_, hs⟩ | ⟨_, _, hr, _⟩
    · exact ⟨s.faults, hs⟩
    · simp [refusal?, Reply.refusal?, hr] at h

/-! ## The end -/

theorem isOnLastStep_of_completed (h : s.state = .completed) : s.isOnLastStep = false := by
  cases hlast : s.isOnLastStep with
  | false => rfl
  | true =>
    obtain ⟨step, hstep, _⟩ := isOnLastStep_iff.1 hlast
    rw [h] at hstep
    cases hstep

theorem not_open_of_completed (h : s.state = .completed) {id : QuestionId} {question : Question} :
    s.openQuestion id ≠ .ok question := by
  intro hopen
  have hnot := (openQuestion_eq_ok_iff.1 hopen).1
  simp [isCompleted, h] at hnot

/-- A call of a session that is done can do no more than note whether the terms are accepted. -/
theorem Call.run_of_completed (h : s.state = .completed) (c : Call) :
    ∃ termsAccepted, c.run s = { s with termsAccepted } := by
  cases c with
  | move m =>
    cases m with
    | answer id value =>
      rcases answer_cases s id value with ⟨_, hs⟩ | ⟨_, hopen, _⟩
      · exact ⟨s.termsAccepted, hs⟩
      · exact absurd hopen (not_open_of_completed h)
    | withdraw id =>
      rcases withdraw_cases s id with ⟨_, hs⟩ | ⟨_, hopen, _⟩
      · exact ⟨s.termsAccepted, hs⟩
      · exact absurd hopen (not_open_of_completed h)
    | acceptTerms accepted => exact ⟨accepted, rfl⟩
    | advance => exact ⟨s.termsAccepted, by simp [run, Move.run, advance, currentStep?_eq_none_iff.2 h, refuse]⟩
    | goBack => exact ⟨s.termsAccepted, by simp [run, Move.run, goBack, currentStep?_eq_none_iff.2 h, refuse]⟩
  | submit k store =>
    have hlast := isOnLastStep_of_completed h
    rcases submit_cases k s store with ⟨_, _, hs⟩ | ⟨hlast', _⟩ | ⟨hlast', _⟩
    · exact ⟨s.termsAccepted, by rw [run, hs]⟩
    · rw [hlast] at hlast'
      cases hlast'
    · rw [hlast] at hlast'
      cases hlast'

/-- A session that is done stays as it is in every run, up to whether the terms are accepted. -/
theorem Reaches.of_completed {allowed : Session → Call → Prop} {t : Session} (h : Reaches allowed s t) (hs : s.state = .completed) :
    ∃ termsAccepted, t = { s with termsAccepted } := by
  refine h.invariant (P := fun t => ∃ termsAccepted, t = { s with termsAccepted }) ⟨s.termsAccepted, rfl⟩ ?_
  rintro t c ⟨before, rfl⟩ _
  obtain ⟨after, hrun⟩ := c.run_of_completed (s := { s with termsAccepted := before }) hs
  exact ⟨after, hrun⟩

/-! ## In every run -/

/-- What every run of a session keeps. Each answer is a value that suits a question that can be answered, so the answers are consistent
with the questionnaire. The step is one there is, or zero where there is none; a call changes it, if at all, to the next one by moving
on or to the previous one by moving back. A refused move changes neither answers nor agreement nor step. And a session that is done is
done, with the same answers, whatever is called after that. -/
theorem sound_in_every_run {q : Questionnaire} {respondent : RespondentId} {settings : SessionSettings}
    {allowed : Session → Call → Prop} (h : Reaches allowed (fresh q respondent settings) s) :
    (∀ entry ∈ s.answers.entries, ∃ question ∈ q.answerable, question.id = entry.1 ∧ question.misfit? entry.2 = none) ∧
    q.stale? s.answers = none ∧
    (∀ step, s.state = .answering step → step < q.stepCount ∨ q.stepCount = 0 ∧ step = 0) ∧
    (∀ (c : Call) (step step' : Nat), s.state = .answering step →
      ((c.run s).state = .answering step' ∧ step' ≠ step ↔
        (c = .move .advance ∧ s.advance.result = .ok step' ∧ step' = step + 1) ∨
        (c = .move .goBack ∧ s.goBack.result = .ok step' ∧ step = step' + 1))) ∧
    (∀ (m : Move) (e : SessionError), m.refusal? s = some e →
      (m.run s).answers = s.answers ∧ (m.run s).termsAccepted = s.termsAccepted ∧ (m.run s).state = s.state) ∧
    (s.state = .completed → ∀ (later : Session → Call → Prop) (t : Session), Reaches later s t →
      t.state = .completed ∧ t.answers = s.answers) := by
  have hsuited : s.Suited := h.suited
  have hstep : s.StepInRange := h.stepInRange
  obtain ⟨rfl, -, -⟩ := h.begunWith
  refine ⟨?_, hsuited, hstep, ?_, ?_, ?_⟩
  · intro entry hentry
    exact Questionnaire.staleEntry?_eq_none_iff.1 (Questionnaire.stale?_eq_none_iff.1 hsuited entry hentry)
  · intro c step step' hs
    exact Call.changes_step_iff hs
  · intro m e hrefused
    obtain ⟨faults, hrun⟩ := Move.run_of_refusal? hrefused
    rw [hrun]
    exact ⟨rfl, rfl, rfl⟩
  · intro hdone later t ht
    obtain ⟨termsAccepted, rfl⟩ := ht.of_completed hdone
    exact ⟨hdone, rfl⟩

namespace TwoPages

/-- A name, and on the next page which birds were seen. -/
def form : Questionnaire where
  definition := {
    id := 1, title := "Birds", terms := some "Be honest.", questions := [
      { id := 1, position := 0, body := "Name?", kind := .shortAnswer },
      .separator 2 1,
      { id := 3, position := 2, body := "Which birds did you see?", kind := .multipleOption,
        options := [{ id := 10, body := "Parrot" }, { id := 11, body := "Crow" }] }] }
  wellFormed := Definition.problem?_eq_none_iff.1 (by decide)
  ascending := by decide

/-- The session in which a bird was given that is not among the options, and then a parrot, and the second page was entered twice. -/
def answered : Session :=
  (Call.move .advance).run <| (Call.move .goBack).run <| (Call.move (.acceptTerms true)).run <|
    (Call.move (.answer 3 (.ofOptions [10]))).run <| (Call.move (.answer 3 (.ofOptions [12]))).run <|
      (Call.move .advance).run (fresh form 7 {})

theorem reaches_answered : Reaches (fun _ _ => True) (fresh form 7 {}) answered :=
  .call _ (.call _ (.call _ (.call _ (.call _ (.call _ .first trivial) trivial) trivial) trivial) trivial) trivial

/-- The session once it was submitted. -/
def submitted : Session := (Call.submit (Script.keeper (ε := Unit) ⟨.error (), .ok false, .ok .saved⟩) ()).run answered

theorem reaches_submitted : Reaches (fun _ _ => True) (fresh form 7 {}) submitted := .call _ reaches_answered trivial

/-- The bird that is no option is not taken and the parrot is, the session is on the second of two pages, from which it moves back but
no further on, and once it is submitted the parrot stays. -/
theorem parrot_stays :
    Reaches (fun _ _ => True) (fresh form 7 {}) answered ∧ Reaches (fun _ _ => True) (fresh form 7 {}) submitted ∧
    answered.answers.entries = [(3, .ofOptions [10])] ∧ form.stale? answered.answers = none ∧
    answered.state = .answering 1 ∧ form.stepCount = 2 ∧
    ((Call.move .goBack).run answered).state = .answering 0 ∧
    Move.refusal? .advance answered = some .noNextStep ∧ (Move.run .advance answered).state = .answering 1 ∧
    Move.refusal? (.answer 3 (.ofOptions [12])) answered = some (.invalidValue 3 (.unknownOption 12)) ∧
    (Move.run (.answer 3 (.ofOptions [12])) answered).answers = answered.answers ∧
    submitted.state = .completed ∧
    ∀ t, Reaches (fun _ _ => True) submitted t → t.state = .completed ∧ t.answers.entries = [(3, .ofOptions [10])] := by
  obtain ⟨-, hstale, -, hchange, hrefused, -⟩ := sound_in_every_run reaches_answered
  obtain ⟨-, -, -, -, -, hdone⟩ := sound_in_every_run reaches_submitted
  have hstep : answered.state = .answering 1 := by decide
  have hback := (hchange (.move .goBack) 1 0 hstep).2 (Or.inr ⟨rfl, by decide, rfl⟩)
  have hentries : submitted.answers.entries = [(3, .ofOptions [10])] := by decide
  have hlast : Move.refusal? .advance answered = some .noNextStep := by decide
  have hforeign : Move.refusal? (.answer 3 (.ofOptions [12])) answered = some (.invalidValue 3 (.unknownOption 12)) := by decide
  refine ⟨reaches_answered, reaches_submitted, by decide, hstale, hstep, by decide, hback.1, hlast, ?_, hforeign, ?_, by decide, ?_⟩
  · exact (hrefused _ _ hlast).2.2.trans hstep
  · exact (hrefused _ _ hforeign).1
  · intro t ht
    obtain ⟨hstate, hanswers⟩ := hdone (by decide) _ t ht
    exact ⟨hstate, hanswers ▸ hentries⟩

end TwoPages

end Session

end Survey
