import Survey.Proofs.Gathering
import Survey.Proofs.SessionRuns
import Survey.Store.Scripted

/-!
# Steps left behind

A session leaves a step only when its answers are in order. They stay in order as long as answers are changed on the current step
and ahead of it: whether a step is in order depends on the answers of that step and of those before it, since conditions look back
and a step that comes later holds questions that stand later (`Questionnaire.checkStep_of_agree`). So what a submission is refused
for is always on the last step.
-/

namespace Survey

namespace Questionnaire

variable {q : Questionnaire} {a b : Answers} {j : Nat}

/-- Answers that give the same values to the questions of the steps up to one. -/
def AgreeUpTo (q : Questionnaire) (j : Nat) (a b : Answers) : Prop :=
  ∀ i ≤ j, ∀ id ∈ q.step i, a.value? id = b.value? id

/-- The questions of the steps up to one are judged alike: what stands before one of them belongs to these steps too. -/
theorem AgreeUpTo.shows_eq (h : q.AgreeUpTo j a b) {question : Question} (hq : question ∈ q.answerable) {i : Nat} (hij : i ≤ j)
    (hi : question.id ∈ q.step i) : (q.visibility a).shows question.id = (q.visibility b).shows question.id := by
  refine shows_eq_of_agree (P := fun question => ∃ i ≤ j, question.id ∈ q.step i) ?_ ?_ question hq ⟨i, hij, hi⟩
  · rintro question hq ⟨i, hij, hi⟩ target ht hlt
    obtain ⟨i', hi'⟩ := exists_step ht
    have hle : i' ≤ i := step_le_of_position ht hq hi' hi (UInt32.le_of_lt hlt)
    exact ⟨i', Nat.le_trans hle hij, hi'⟩
  · rintro question _ ⟨i, hij, hi⟩ _
    exact h i hij question.id hi

/-- Whether a step is in order depends on the answers of the steps up to it. -/
theorem checkStep_of_agree (settings : SessionSettings) (h : q.AgreeUpTo j a b) :
    q.checkStep settings j a (q.visibility a) = q.checkStep settings j b (q.visibility b) := by
  refine checkStep_congr fun id hid => ?_
  obtain ⟨question, hq, rfl⟩ := exists_answerable_of_mem_step hid
  exact faultsOf_congr (h.shows_eq hq (Nat.le_refl j) hid) fun _ => h j (Nat.le_refl j) question.id hid

end Questionnaire

namespace Session

/-- A call that neither gives nor withdraws a value of a step before the current one. -/
def SparesStepsBehind (s : Session) : Call → Prop
  | .move (.answer id _) | .move (.withdraw id) => ∀ k ∈ s.currentStep?, ∀ j ∈ s.questionnaire.stepOf? id, k ≤ j
  | _ => True

instance (s : Session) : (c : Call) → Decidable (s.SparesStepsBehind c)
  | .move (.answer id _) | .move (.withdraw id) =>
    inferInstanceAs (Decidable (∀ k ∈ s.currentStep?, ∀ j ∈ s.questionnaire.stepOf? id, k ≤ j))
  | .move (.acceptTerms _) | .move .advance | .move .goBack | .submit .. => inferInstanceAs (Decidable True)

/-- The steps before the current one are in order. -/
def BehindInOrder (s : Session) : Prop :=
  ∀ k, s.state = .answering k → ∀ j < k, s.questionnaire.checkStep s.settings j s.answers s.visibility = .ok ()

/-- Changed answers leave the steps behind in order if they are the same there. -/
theorem BehindInOrder.with_answers {s : Session} (h : s.BehindInOrder) {answers : Answers}
    (hsame : ∀ k, s.state = .answering k → ∀ i < k, ∀ id ∈ s.questionnaire.step i, answers.value? id = s.answers.value? id) :
    ({ s with answers } : Session).BehindInOrder := by
  intro k hk j hj
  have hagree : s.questionnaire.AgreeUpTo j answers s.answers :=
    fun i hi => hsame k hk i (Nat.lt_of_le_of_lt hi hj)
  calc s.questionnaire.checkStep s.settings j answers (s.questionnaire.visibility answers)
      = s.questionnaire.checkStep s.settings j s.answers s.visibility := Questionnaire.checkStep_of_agree s.settings hagree
    _ = .ok () := h k hk j hj

/-- A question whose value may be changed without touching the steps behind is in none of them. -/
theorem ne_of_mem_step_behind {s : Session} {id other : QuestionId} {i k : Nat}
    (hspared : ∀ k ∈ s.currentStep?, ∀ j ∈ s.questionnaire.stepOf? id, k ≤ j) (hk : s.state = .answering k) (hi : i < k)
    (hother : other ∈ s.questionnaire.step i) : other ≠ id := by
  rintro rfl
  have hle := hspared k (currentStep?_eq_some_iff.2 hk) i (Questionnaire.stepOf?_eq_some_iff.2 hother)
  omega

/-- A session on another step is in order behind it if it was on a step at least as late. -/
theorem BehindInOrder.onStep {s : Session} {step : Nat}
    (h : ∀ j < step, s.questionnaire.checkStep s.settings j s.answers s.visibility = .ok ()) :
    (s.onStep step).BehindInOrder := by
  intro k hk j hj
  cases hk
  exact h j hj

theorem BehindInOrder.move {s : Session} {m : Move} (h : s.BehindInOrder) (hm : s.SparesStepsBehind (.move m)) :
    (m.run s).BehindInOrder := by
  cases m with
  | answer id value =>
    rcases answer_cases s id value with ⟨_, hs⟩ | ⟨_, _, _, _, hs⟩ <;> rw [Move.run, hs]
    · exact h
    · refine h.with_answers fun k hk i hi other hother => ?_
      rw [Answers.value?_set, if_neg (ne_of_mem_step_behind hm hk hi hother)]
  | withdraw id =>
    rcases withdraw_cases s id with ⟨_, hs⟩ | ⟨_, _, _, hs⟩ <;> rw [Move.run, hs]
    · exact h
    · refine h.with_answers fun k hk i hi other hother => ?_
      rw [Answers.value?_erase, if_neg (ne_of_mem_step_behind hm hk hi hother)]
  | acceptTerms accepted => exact h
  | advance =>
    rcases advance_cases s with ⟨_, faults, hs⟩ | ⟨step, hstep, _, hcheck, _, hs⟩ <;> rw [Move.run, hs]
    · exact h
    · refine BehindInOrder.onStep fun j hj => ?_
      rcases Nat.lt_succ_iff_lt_or_eq.1 hj with hj | rfl
      · exact h step hstep j hj
      · exact hcheck
  | goBack =>
    rcases goBack_cases s with ⟨_, hs⟩ | ⟨step, hstep, _, hs⟩ <;> rw [Move.run, hs]
    · exact h
    · exact BehindInOrder.onStep fun j hj => h (step + 1) hstep j (Nat.lt_succ_of_lt hj)

theorem BehindInOrder.call {s : Session} {c : Call} (h : s.BehindInOrder) (hc : s.SparesStepsBehind c) :
    (c.run s).BehindInOrder := by
  cases c with
  | move m => exact h.move hc
  | submit k store =>
    obtain ⟨state, faults, hs, hstate⟩ := submit_session k s store
    rw [Call.run, hs]
    rcases hstate with rfl | rfl
    · exact h
    · intro k hk
      cases hk

/-- In a run that changes no answer behind the current step, the steps behind it are in order. -/
theorem Reaches.behindInOrder {q : Questionnaire} {respondent : RespondentId} {settings : SessionSettings} {s : Session}
    (h : Reaches SparesStepsBehind (fresh q respondent settings) s) : s.BehindInOrder := by
  refine h.invariant ?_ fun _ _ hs hc => hs.call hc
  intro k hk j hj
  cases hk
  exact absurd hj (Nat.not_lt_zero j)

/-- Where the steps behind are in order, a submission is refused for faults on the last step only: no step comes after it, and
there are none before. -/
theorem BehindInOrder.fault_on_last_step {σ ε : Type} {k : Keeper σ ε} {s : Session} {store : σ} {faults : Faults}
    (h : s.BehindInOrder) (hr : (s.submit k store).result = .error (.invalid faults)) {fault : Fault}
    (hf : fault ∈ faults.entries) : s.questionnaire.stepOf? fault.question = some (s.questionnaire.stepCount - 1) := by
  obtain ⟨hlast, hv⟩ := submit_invalid hr
  obtain ⟨⟨question, hq, hid⟩, hkind⟩ := Questionnaire.mem_checkAll hv hf
  obtain ⟨i, hi⟩ := Questionnaire.exists_step hq
  rw [hid] at hi
  obtain ⟨step, hstep, hcount⟩ : ∃ step, s.state = .answering step ∧ s.questionnaire.stepCount ≤ step + 1 := by
    simpa [isOnLastStep, Option.any_eq_true, currentStep?_eq_some_iff] using hlast
  have hnotbehind : step ≤ i := by
    refine Nat.le_of_not_lt fun hlt => ?_
    have hnone := Questionnaire.checkStep_eq_ok_iff.1 (h step hstep i hlt) fault.question hi
    rw [hnone] at hkind
    exact List.not_mem_nil hkind
  have hlt : i < s.questionnaire.stepCount := (Questionnaire.mem_step_iff.1 hi).1
  have heq : i = s.questionnaire.stepCount - 1 := by omega
  rw [Questionnaire.stepOf?_eq_some_iff, ← heq]
  exact hi

/-- Steps left behind stay in order. In every session reached from a fresh one without changing an answer of a step before the
current one, the steps before it are in order, and the faults a submission is refused for are on the last step. And whether a step
is in order is the same for any two sets of answers that agree on the steps up to it. -/
theorem steps_behind_stay_in_order (q : Questionnaire) (respondent : RespondentId) (settings : SessionSettings) :
    (∀ s, Reaches SparesStepsBehind (fresh q respondent settings) s →
      (∀ k, s.state = .answering k → ∀ j < k, q.checkStep settings j s.answers (q.visibility s.answers) = .ok ()) ∧
      ∀ {σ ε : Type} (keeper : Keeper σ ε) (store : σ) (faults : Faults),
        (s.submit keeper store).result = .error (.invalid faults) →
        ∀ fault ∈ faults.entries, q.stepOf? fault.question = some (q.stepCount - 1)) ∧
    ∀ j a b, (∀ i ≤ j, ∀ id ∈ q.step i, a.value? id = b.value? id) →
      q.checkStep settings j a (q.visibility a) = q.checkStep settings j b (q.visibility b) := by
  refine ⟨fun s h => ?_, fun j a b hagree => Questionnaire.checkStep_of_agree settings hagree⟩
  have hform := h.sameForm
  have hquestionnaire : s.questionnaire = q := hform.questionnaire
  have hsettings : s.settings = settings := hform.settings
  constructor
  · intro k hk j hj
    rw [← hquestionnaire, ← hsettings]
    exact h.behindInOrder k hk j hj
  · intro σ ε keeper store faults hr fault hf
    rw [← hquestionnaire]
    exact h.behindInOrder.fault_on_last_step hr hf

namespace TwoSteps

/-- A name, and on a second step a question for those who gave one. -/
def form : Questionnaire where
  definition := {
    id := 1, title := "Two steps", questions := [
      { id := 1, position := 0, body := "Name", kind := .shortAnswer, mandatory := true },
      .separator 2 1,
      { id := 3, position := 2, body := "Why?", kind := .shortAnswer, mandatory := true, conditions := [.answered 1] }] }
  wellFormed := Definition.problem?_eq_none_iff.1 (by decide)
  ascending := by decide

/-- The session in which a name was given, the second step looked at, the name changed and the second step entered again. -/
def secondVisit : Session :=
  (Call.move .advance).run <| (Call.move (.answer 1 (.text "Ada"))).run <| (Call.move .goBack).run <|
    (Call.move .advance).run <| (Call.move (.answer 1 (.text "Anna"))).run (fresh form 7 {})

theorem reaches_secondVisit : Reaches SparesStepsBehind (fresh form 7 {}) secondVisit :=
  .call _ (.call _ (.call _ (.call _ (.call _ .first (by decide)) trivial) trivial) (by decide)) trivial

/-- The name given on the first step stays in order behind the second one, and what the submission is refused for, the question
that was not answered, is on the second. -/
theorem second_visit_in_order :
    Reaches SparesStepsBehind (fresh form 7 {}) secondVisit ∧ secondVisit.state = .answering 1 ∧
    form.checkStep {} 0 secondVisit.answers (form.visibility secondVisit.answers) = .ok () ∧
    (secondVisit.submit (Script.keeper (ε := Unit) ⟨.error (), .ok false, .ok .saved⟩) ()).result =
      .error (.invalid { entries := [⟨3, .blank⟩] }) ∧
    form.stepOf? 3 = some (form.stepCount - 1) ∧
    form.checkStep {} 0 secondVisit.answers (form.visibility secondVisit.answers) =
      form.checkStep {} 0 (secondVisit.answers.set 3 (.text "!")) (form.visibility (secondVisit.answers.set 3 (.text "!"))) := by
  have hreaches := reaches_secondVisit
  have hstate : secondVisit.state = .answering 1 := by decide
  have hresult : (secondVisit.submit (Script.keeper (ε := Unit) ⟨.error (), .ok false, .ok .saved⟩) ()).result =
    .error (.invalid { entries := [⟨3, .blank⟩] }) := by decide
  obtain ⟨hrun, hagree⟩ := steps_behind_stay_in_order form 7 {}
  obtain ⟨hbehind, hfaults⟩ := hrun secondVisit hreaches
  refine ⟨hreaches, hstate, hbehind 1 hstate 0 (by decide), hresult, ?_, ?_⟩
  · exact hfaults _ _ _ hresult ⟨3, .blank⟩ (List.mem_singleton_self _)
  · exact hagree 0 _ _ (by decide)

end TwoSteps

end Session

end Survey
