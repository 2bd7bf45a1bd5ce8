import Survey.Session.Submit

/-!
# Runs of a session

A session runs by calls: a respondent gives and withdraws values, accepts the terms, moves through the steps, and submits, to a
keeper that may be another one each time. Here is what each call can do to a session, said once, and what follows of every run: a
property that the first session has and every call keeps is had by every session reached (`Session.Reaches.invariant`).
-/

namespace Survey

namespace Session

/-! ## What each call does -/

/-- A question is open while the session is not done and the question can be answered. -/
theorem openQuestion_eq_ok_iff {s : Session} {id : QuestionId} {question : Question} :
    s.openQuestion id = .ok question ↔
      s.isCompleted = false ∧ s.questionnaire.question? id = some question ∧ question.isSeparator = false := by
  unfold openQuestion
  cases s.isCompleted with
  | true => simp
  | false =>
    cases s.questionnaire.question? id with
    | none => simp
    | some found =>
      simp only [Bool.false_eq_true, if_false, true_and, Option.some.injEq]
      cases hs : found.isSeparator with
      | true =>
        simp only [if_true, reduceCtorEq, false_iff]
        rintro ⟨rfl, h⟩
        rw [hs] at h
        cases h
      | false =>
        simp only [Bool.false_eq_true, if_false, Except.ok.injEq]
        constructor
        · rintro rfl
          exact ⟨rfl, hs⟩
        · exact And.left

/-- Giving a value is refused, or puts it among the answers if it suits an open question. -/
theorem answer_cases (s : Session) (id : QuestionId) (value : AnswerValue) :
    (∃ e, (s.answer id value).result = .error e) ∧ (s.answer id value).state = s ∨
      ∃ question, s.openQuestion id = .ok question ∧ question.misfit? value = none ∧
        (s.answer id value).result = .ok () ∧ (s.answer id value).state = { s with answers := s.answers.set id value } := by
  unfold answer
  cases hq : s.openQuestion id with
  | error e => exact Or.inl ⟨⟨e, rfl⟩, rfl⟩
  | ok question =>
    cases hm : question.misfit? value with
    | some problem => exact Or.inl ⟨⟨_, by simp only [hm]; rfl⟩, by simp only [hm]; rfl⟩
    | none => exact Or.inr ⟨question, rfl, hm, by simp only [hm], by simp only [hm]⟩

/-- Withdrawing a value is refused, or takes the value of an open question away. -/
theorem withdraw_cases (s : Session) (id : QuestionId) :
    (∃ e, (s.withdraw id).result = .error e) ∧ (s.withdraw id).state = s ∨
      ∃ question, s.openQuestion id = .ok question ∧
        (s.withdraw id).result = .ok () ∧ (s.withdraw id).state = { s with answers := s.answers.erase id } := by
  unfold withdraw
  cases hq : s.openQuestion id with
  | error e => exact Or.inl ⟨⟨e, rfl⟩, rfl⟩
  | ok question => exact Or.inr ⟨question, rfl, rfl, rfl⟩

theorem currentStep?_eq_some_iff {s : Session} {step : Nat} : s.currentStep? = some step ↔ s.state = .answering step := by
  unfold currentStep?
  cases s.state <;> simp

theorem currentStep?_eq_none_iff {s : Session} : s.currentStep? = none ↔ s.state = .completed := by
  unfold currentStep?
  cases s.state <;> simp

/-- Moving on is refused, with the faults noted if there are any, or leads from a step in order to the next one. -/
theorem advance_cases (s : Session) :
    (∃ e, s.advance.result = .error e) ∧ (∃ faults, s.advance.state = { s with faults }) ∨
      ∃ step, s.state = .answering step ∧ step + 1 < s.questionnaire.stepCount ∧
        s.questionnaire.checkStep s.settings step s.answers s.visibility = .ok () ∧
        s.advance.result = .ok (step + 1) ∧ s.advance.state = s.onStep (step + 1) := by
  unfold advance
  cases hs : s.currentStep? with
  | none => exact Or.inl ⟨⟨_, rfl⟩, s.faults, rfl⟩
  | some step =>
    simp only
    split
    · exact Or.inl ⟨⟨_, rfl⟩, s.faults, rfl⟩
    · rename_i hlast
      cases hc : s.questionnaire.checkStep s.settings step s.answers s.visibility with
      | error faults => exact Or.inl ⟨⟨_, rfl⟩, faults, rfl⟩
      | ok _ => exact Or.inr ⟨step, currentStep?_eq_some_iff.1 hs, by omega, hc, rfl, rfl⟩

/-- Moving back is refused, or leads to the previous step. -/
theorem goBack_cases (s : Session) :
    (∃ e, s.goBack.result = .error e) ∧ s.goBack.state = s ∨
      ∃ step, s.state = .answering (step + 1) ∧ s.goBack.result = .ok step ∧ s.goBack.state = s.onStep step := by
  unfold goBack
  cases hs : s.currentStep? with
  | none => exact Or.inl ⟨⟨_, rfl⟩, rfl⟩
  | some step =>
    cases step with
    | zero => exact Or.inl ⟨⟨_, rfl⟩, rfl⟩
    | succ step => exact Or.inr ⟨step, currentStep?_eq_some_iff.1 hs, rfl, rfl⟩

section Submitting

variable {σ ε : Type}

/-- What the keeper makes of a submission: the session is done if it was saved or another one is kept, and stays as it is if it
came too late or the keeper failed. -/
theorem handOver_cases (k : Keeper σ ε) (s : Session) (store : σ) :
    (∃ e, (k.save s.submission store).1 = .error e ∧ (s.handOver k store).result = .error (.store e) ∧
      (s.handOver k store).state = (s, (k.save s.submission store).2)) ∨
    ((k.save s.submission store).1 = .ok .saved ∧ (s.handOver k store).result = .ok s.submission ∧
      (s.handOver k store).state = ({ s with state := .completed, faults := .none }, (k.save s.submission store).2)) ∨
    (∃ current, (k.save s.submission store).1 = .ok (.stale current) ∧
      (s.handOver k store).result = .error (s.staleReason k current (k.save s.submission store).2).1 ∧
      (s.handOver k store).state = (s, (s.staleReason k current (k.save s.submission store).2).2)) ∨
    ((k.save s.submission store).1 = .ok .alreadyAnswered ∧ (s.handOver k store).result = .error .alreadyAnswered ∧
      (s.handOver k store).state = ({ s with state := .completed }, (k.save s.submission store).2)) := by
  simp only [handOver]
  rcases k.save s.submission store with ⟨result, store'⟩
  cases result with
  | error e => exact Or.inl ⟨e, rfl, rfl, rfl⟩
  | ok outcome =>
    cases outcome with
    | saved => exact Or.inr (Or.inl ⟨rfl, rfl, rfl⟩)
    | stale current => exact Or.inr (Or.inr (Or.inl ⟨current, rfl, rfl, rfl⟩))
    | alreadyAnswered => exact Or.inr (Or.inr (Or.inr ⟨rfl, rfl, rfl⟩))

/-- The reason given for a submission that came too late is no fault of the answers. -/
theorem staleReason_ne_invalid {k : Keeper σ ε} {s : Session} {current : UInt64} {store : σ} {faults : Faults} :
    (s.staleReason k current store).1 ≠ .invalid faults := by
  unfold staleReason
  split <;> exact nofun

/-- A submission is refused for where the session is, or on the last step for the faults in the answers, or the answers are in
order and handed over. Only in the last case the keeper hears of it. -/
theorem submit_cases (k : Keeper σ ε) (s : Session) (store : σ) :
    (s.isOnLastStep = false ∧ ((s.submit k store).result = .error .alreadyAnswered ∨
      (s.submit k store).result = .error (.session .notOnLastStep)) ∧ (s.submit k store).state = (s, store)) ∨
    (s.isOnLastStep = true ∧ ∃ faults, s.validate = .error faults ∧ (s.submit k store).result = .error (.invalid faults) ∧
      (s.submit k store).state = ({ s with faults }, store)) ∨
    (s.isOnLastStep = true ∧ s.validate = .ok () ∧ s.submit k store = s.handOver k store) := by
  unfold submit
  split
  · rename_i hdone
    have hstate : s.state = .completed := by simpa [isCompleted] using hdone
    have hlast : s.isOnLastStep = false := by simp [isOnLastStep, currentStep?_eq_none_iff.2 hstate]
    exact Or.inl ⟨hlast, Or.inl rfl, rfl⟩
  · split
    · rename_i hlast
      exact Or.inl ⟨by simpa using hlast, Or.inr rfl, rfl⟩
    · rename_i hlast
      have hlast : s.isOnLastStep = true := by simpa using hlast
      cases hv : s.validate with
      | error faults => exact Or.inr (Or.inl ⟨hlast, faults, rfl, rfl, rfl⟩)
      | ok _ => exact Or.inr (Or.inr ⟨hlast, rfl, rfl⟩)

/-- Submitting changes where the session is, to done or not at all, and which faults it shows. -/
theorem submit_session (k : Keeper σ ε) (s : Session) (store : σ) :
    ∃ state faults, (s.submit k store).state.1 = { s with state, faults } ∧ (state = s.state ∨ state = .completed) := by
  rcases submit_cases k s store with ⟨_, _, h⟩ | ⟨_, faults, _, _, h⟩ | ⟨_, _, h⟩
  · exact ⟨s.state, s.faults, by rw [h], Or.inl rfl⟩
  · exact ⟨s.state, faults, by rw [h], Or.inl rfl⟩
  · rw [h]
    rcases handOver_cases k s store with ⟨_, _, _, hs⟩ | ⟨_, _, hs⟩ | ⟨_, _, _, hs⟩ | ⟨_, _, hs⟩
    · exact ⟨s.state, s.faults, by rw [hs], Or.inl rfl⟩
    · exact ⟨.completed, .none, by rw [hs], Or.inr rfl⟩
    · exact ⟨s.state, s.faults, by rw [hs], Or.inl rfl⟩
    · exact ⟨.completed, s.faults, by rw [hs], Or.inr rfl⟩

/-- A submission refused for its faults was made on the last step, and the faults are those of the check of the whole. -/
theorem submit_invalid {k : Keeper σ ε} {s : Session} {store : σ} {faults : Faults}
    (h : (s.submit k store).result = .error (.invalid faults)) : s.isOnLastStep = true ∧ s.validate = .error faults := by
  rcases submit_cases k s store with ⟨_, hr | hr, _⟩ | ⟨hlast, found, hv, hr, _⟩ | ⟨_, _, heq⟩
  · rw [hr] at h
    cases h
  · rw [hr] at h
    cases h
  · rw [hr] at h
    cases h
    exact ⟨hlast, hv⟩
  · rw [heq] at h
    exfalso
    rcases handOver_cases k s store with ⟨_, _, hr, _⟩ | ⟨_, hr, _⟩ | ⟨_, _, hr, _⟩ | ⟨_, hr, _⟩ <;> rw [hr] at h
    · cases h
    · cases h
    · exact staleReason_ne_invalid (Except.error.inj h)
    · cases h

end Submitting

/-! ## Runs -/

/-- A session as it begins. -/
def fresh (questionnaire : Questionnaire) (respondent : RespondentId) (settings : SessionSettings) : Session :=
  { questionnaire, respondent, settings }

/-- What a respondent can do to a session short of submitting it. -/
inductive Move where
  | answer (id : QuestionId) (value : AnswerValue)
  | withdraw (id : QuestionId)
  | acceptTerms (accepted : Bool)
  | advance
  | goBack

/-- The session after a move. -/
def Move.run : Move → Session → Session
  | .answer id value, s => (s.answer id value).state
  | .withdraw id, s => (s.withdraw id).state
  | .acceptTerms accepted, s => s.acceptTerms accepted
  | .advance, s => s.advance.state
  | .goBack, s => s.goBack.state

/-- A call of a session: a move, or a submission to some keeper in some state. -/
inductive Call : Type 1 where
  | move (m : Move)
  | submit {σ ε : Type} (k : Keeper σ ε) (store : σ)

/-- The session after a call. -/
def Call.run : Call → Session → Session
  | .move m, s => m.run s
  | .submit k store, s => (s.submit k store).state.1

/-- The sessions reached from a first one by calls, each of which is allowed in the session it is made in. -/
inductive Reaches (allowed : Session → Call → Prop) (first : Session) : Session → Prop where
  | first : Reaches allowed first first
  | call {s : Session} (c : Call) : Reaches allowed first s → allowed s c → Reaches allowed first (c.run s)

/-- What the first session has and each allowed call keeps is had by every session reached. -/
theorem Reaches.invariant {allowed : Session → Call → Prop} {first s : Session} {P : Session → Prop}
    (h : Reaches allowed first s) (hfirst : P first) (hcall : ∀ s c, P s → allowed s c → P (c.run s)) : P s := by
  induction h with
  | first => exact hfirst
  | call c _ hc ih => exact hcall _ c ih hc

/-! ## What no call changes -/

/-- A session has the questionnaire, the respondent and the settings of another. -/
structure SameForm (s t : Session) : Prop where
  questionnaire : s.questionnaire = t.questionnaire
  respondent : s.respondent = t.respondent
  settings : s.settings = t.settings

theorem SameForm.trans {s t u : Session} (h : SameForm s t) (h' : SameForm t u) : SameForm s u :=
  ⟨h.questionnaire.trans h'.questionnaire, h.respondent.trans h'.respondent, h.settings.trans h'.settings⟩

theorem Move.sameForm (m : Move) (s : Session) : SameForm (m.run s) s := by
  cases m with
  | answer id value =>
    rcases answer_cases s id value with ⟨_, h⟩ | ⟨_, _, _, _, h⟩ <;> simp only [Move.run, h] <;> exact ⟨rfl, rfl, rfl⟩
  | withdraw id =>
    rcases withdraw_cases s id with ⟨_, h⟩ | ⟨_, _, _, h⟩ <;> simp only [Move.run, h] <;> exact ⟨rfl, rfl, rfl⟩
  | acceptTerms accepted => exact ⟨rfl, rfl, rfl⟩
  | advance =>
    rcases advance_cases s with ⟨_, _, h⟩ | ⟨_, _, _, _, _, h⟩ <;> simp only [Move.run, h] <;> exact ⟨rfl, rfl, rfl⟩
  | goBack =>
    rcases goBack_cases s with ⟨_, h⟩ | ⟨_, _, _, h⟩ <;> simp only [Move.run, h] <;> exact ⟨rfl, rfl, rfl⟩

theorem Call.sameForm (c : Call) (s : Session) : SameForm (c.run s) s := by
  cases c with
  | move m => exact m.sameForm s
  | submit k store =>
    obtain ⟨_, _, h, _⟩ := submit_session k s store
    simp only [Call.run, h]
    exact ⟨rfl, rfl, rfl⟩

/-- Every session of a run has the questionnaire, the respondent and the settings of the first. -/
theorem Reaches.sameForm {allowed : Session → Call → Prop} {first s : Session} (h : Reaches allowed first s) :
    SameForm s first :=
  h.invariant ⟨rfl, rfl, rfl⟩ fun s c hs _ => (c.sameForm s).trans hs

/-- A session reached from a fresh one has what that was begun with. -/
theorem Reaches.begunWith {allowed : Session → Call → Prop} {q : Questionnaire} {respondent : RespondentId}
    {settings : SessionSettings} {s : Session} (h : Reaches allowed (fresh q respondent settings) s) :
    s.questionnaire = q ∧ s.respondent = respondent ∧ s.settings = settings :=
  ⟨h.sameForm.questionnaire, h.sameForm.respondent, h.sameForm.settings⟩

end Session

end Survey
