import Survey.Proofs.AcceptedValues
import Survey.Proofs.Gathering
import Survey.Proofs.Suitability

/-!
# Answers in order

Answers are in order when they suit their questionnaire and pass the check of the whole. Then a visible question accepts the value it
has, if that says something (`Questionnaire.InOrder.accepts`), and it has one that does if it is mandatory
(`Questionnaire.InOrder.hasValue_of_mandatory`). A session submits nothing but what answers in order make
(`Session.Reaches.submitted`).
-/

namespace Survey

theorem Answers.hasValue_iff {a : Answers} {id : QuestionId} :
    a.hasValue id = true ↔ ∃ value, a.value? id = some value ∧ value.isBlank = false := by
  simp [hasValue, Option.any_eq_true]

namespace Questionnaire

variable {q : Questionnaire} {settings : SessionSettings} {a : Answers} {v : Visibility} {question : Question} {terms : Bool}

/-- The check of the whole passes exactly if no question has a fault and the terms are accepted where they must be. -/
theorem checkAll_eq_ok_iff :
    q.checkAll settings a v terms = .ok () ↔
      (∀ question ∈ q.answerable, q.faultsOf settings a v question.id = []) ∧ (q.requiresTerms settings = true → terms = true) := by
  have hgather : (q.gather settings a v (q.answerable.map (·.id))).isEmpty = true ↔
      ∀ question ∈ q.answerable, q.faultsOf settings a v question.id = [] := by
    rw [gather_isEmpty_iff, List.forall_mem_map]
  unfold checkAll
  rw [Faults.toExcept_eq_ok_iff, ← hgather]
  cases q.requiresTerms settings <;> cases terms <;> simp [Faults.isEmpty_iff, Faults.flagTerms]

/-- Answers that suit a questionnaire and pass the check of the whole. -/
structure InOrder (q : Questionnaire) (settings : SessionSettings) (a : Answers) (terms : Bool) : Prop where
  suited : q.stale? a = none
  checked : q.checkAll settings a (q.visibility a) terms = .ok ()

/-- The value of a visible question has no fault. -/
theorem InOrder.check_eq_nil (h : q.InOrder settings a terms) (hq : question ∈ q.answerable)
    (hs : (q.visibility a).shows question.id = true) : question.check settings (a.value? question.id) = [] := by
  rw [← faultsOf_of_shows hq hs]
  exact (checkAll_eq_ok_iff.1 h.checked).1 question hq

/-- The value of a question suits it. -/
theorem InOrder.misfit?_eq_none (h : q.InOrder settings a terms) (hq : question ∈ q.answerable) {value : AnswerValue}
    (hv : a.value? question.id = some value) : question.misfit? value = none := by
  have hstale := stale?_eq_none_iff.1 h.suited _ (Answers.mem_entries_iff.2 hv)
  unfold staleEntry? at hstale
  rw [question?_of_answerable hq] at hstale
  simpa using hstale

/-- A visible question accepts a value that says something. -/
theorem InOrder.accepts (h : q.InOrder settings a terms) (hq : question ∈ q.answerable)
    (hs : (q.visibility a).shows question.id = true) {value : AnswerValue} (hv : a.value? question.id = some value)
    (hgiven : value.isBlank = false) : question.Accepts settings value where
  suits := h.misfit?_eq_none hq hv
  given := hgiven
  faultless := by
    have hcheck := h.check_eq_nil hq hs
    rw [hv, Question.check, hgiven] at hcheck
    exact hcheck

/-- A visible question that is mandatory has a value that says something. -/
theorem InOrder.hasValue_of_mandatory (h : q.InOrder settings a terms) (hq : question ∈ q.answerable)
    (hs : (q.visibility a).shows question.id = true) (hm : question.mandatory = true) : a.hasValue question.id = true := by
  have hcheck := h.check_eq_nil hq hs
  have hblank : question.checkBlank ≠ [] := by
    have hseparator := (mem_answerable.1 hq).2
    simp [Question.checkBlank, faultIf, hm, hseparator]
  unfold Answers.hasValue
  cases hv : a.value? question.id with
  | none =>
    rw [hv] at hcheck
    exact absurd hcheck hblank
  | some value =>
    cases hb : value.isBlank with
    | false => simp [hb]
    | true =>
      rw [hv, Question.check, hb] at hcheck
      exact absurd hcheck hblank

end Questionnaire

namespace Session

variable {q : Questionnaire} {respondent : RespondentId} {settings : SessionSettings} {allowed : Session → Call → Prop} {s : Session}

/-- A submission that is accepted passed the check of the whole, and is what the answers make. -/
theorem submit_eq_ok {σ ε : Type} {k : Keeper σ ε} {store : σ} {submission : Submission}
    (h : (s.submit k store).result = .ok submission) : s.validate = .ok () ∧ submission = s.submission := by
  rcases submit_cases k s store with ⟨_, hr | hr, _⟩ | ⟨_, _, _, hr, _⟩ | ⟨_, hv, heq⟩
  · rw [hr] at h
    cases h
  · rw [hr] at h
    cases h
  · rw [hr] at h
    cases h
  · rw [heq] at h
    rcases handOver_cases k s store with ⟨_, _, hr, _⟩ | ⟨_, hr, _⟩ | ⟨_, _, hr, _⟩ | ⟨_, hr, _⟩ <;> rw [hr] at h
    · cases h
    · exact ⟨hv, (Except.ok.inj h).symm⟩
    · cases h
    · cases h

/-- Every call leaves the answers consistent. -/
theorem Suited.call (h : s.Suited) (c : Call) : (c.run s).Suited := by
  cases c with
  | move m => exact h.move m
  | submit k store => exact h.submit k store

/-- In every run the answers are consistent. -/
theorem Reaches.suited (h : Reaches allowed (fresh q respondent settings) s) : s.Suited :=
  h.invariant (fresh_suited q respondent settings) fun _ c hs _ => hs.call c

/-- What a session submits is made of answers in order, by what is visible by them. -/
theorem Reaches.submitted (h : Reaches allowed (fresh q respondent settings) s) {σ ε : Type} {k : Keeper σ ε} {store : σ}
    {submission : Submission} (hr : (s.submit k store).result = .ok submission) :
    q.InOrder settings s.answers s.termsAccepted ∧ submission = q.compile respondent s.answers (q.visibility s.answers) := by
  obtain ⟨hv, rfl⟩ := submit_eq_ok hr
  have hsuited : s.Suited := h.suited
  obtain ⟨rfl, rfl, rfl⟩ := h.begunWith
  exact ⟨⟨hsuited, hv⟩, rfl⟩

end Session

end Survey
