import Survey.Proofs.SessionRuns

/-!
# Answers that suit their questionnaire

A session takes a value only for a question of its questionnaire that the value suits. So its answers are consistent with its own
questionnaire from the start (`Session.fresh_suited`) and stay so, whatever the respondent tries (`Session.Suited.move`).
-/

namespace Survey

/-- The entries of answers are the values they give. -/
theorem Answers.mem_entries_iff {a : Answers} {id : QuestionId} {value : AnswerValue} :
    (id, value) ∈ a.entries ↔ a.value? id = some value := by
  have hn : (a.entries.map (·.1)).Nodup := List.pairwise_map.2 (a.ascending.imp fun hlt => Ident.ne_of_lt hlt)
  have hfound : ∀ e, a.entries.find? (·.1 = id) = some e ↔ e ∈ a.entries ∧ e.1 = id := fun _ => find?_key_eq_some_iff hn
  unfold Answers.value? valueIn?
  rw [Option.map_eq_some_iff]
  constructor
  · intro h
    exact ⟨(id, value), (hfound _).2 ⟨h, rfl⟩, rfl⟩
  · rintro ⟨e, he, rfl⟩
    obtain ⟨hmem, rfl⟩ := (hfound e).1 he
    exact hmem

namespace Questionnaire

variable {q : Questionnaire}

/-- A questionnaire takes a value for a question: it has the question, and the value suits it. -/
def Suits (q : Questionnaire) (id : QuestionId) (value : AnswerValue) : Prop :=
  ∃ question, q.question? id = some question ∧ question.misfit? value = none

theorem staleEntry?_eq_none_iff_suits {e : AnswerEntry} : q.staleEntry? e = none ↔ q.Suits e.1 e.2 := by
  unfold staleEntry? Suits
  cases q.question? e.1 <;> simp

theorem stale?_eq_none_iff {a : Answers} : q.stale? a = none ↔ ∀ e ∈ a.entries, q.staleEntry? e = none := by
  simp [stale?]

end Questionnaire

namespace Session

/-- The answers of a session are consistent with its questionnaire. -/
def Suited (s : Session) : Prop := s.questionnaire.stale? s.answers = none

theorem fresh_suited (q : Questionnaire) (respondent : RespondentId) (settings : SessionSettings) :
    (fresh q respondent settings).Suited := rfl

/-- A value that suits the question it is given to leaves the answers consistent. -/
theorem Suited.set {s : Session} (h : s.Suited) {id : QuestionId} {value : AnswerValue} {question : Question}
    (hq : s.questionnaire.question? id = some question) (hm : question.misfit? value = none) :
    ({ s with answers := s.answers.set id value } : Session).Suited := by
  refine Questionnaire.stale?_eq_none_iff.2 fun e he => ?_
  rcases mem_putEntry he with rfl | he
  · exact Questionnaire.staleEntry?_eq_none_iff_suits.2 ⟨question, hq, hm⟩
  · exact Questionnaire.stale?_eq_none_iff.1 h e he

theorem Suited.erase {s : Session} (h : s.Suited) (id : QuestionId) :
    ({ s with answers := s.answers.erase id } : Session).Suited := by
  refine Questionnaire.stale?_eq_none_iff.2 fun e he => ?_
  exact Questionnaire.stale?_eq_none_iff.1 h e (List.mem_filter.1 he).1

/-- Every move leaves the answers consistent. -/
theorem Suited.move {s : Session} (h : s.Suited) (m : Move) : (m.run s).Suited := by
  cases m with
  | answer id value =>
    rcases answer_cases s id value with ⟨_, hs⟩ | ⟨question, hopen, hm, _, hs⟩ <;> rw [Move.run, hs]
    · exact h
    · exact h.set (openQuestion_eq_ok_iff.1 hopen).2.1 hm
  | withdraw id =>
    rcases withdraw_cases s id with ⟨_, hs⟩ | ⟨_, _, _, hs⟩ <;> rw [Move.run, hs]
    · exact h
    · exact h.erase id
  | acceptTerms accepted => exact h
  | advance => rcases advance_cases s with ⟨_, _, hs⟩ | ⟨_, _, _, _, _, hs⟩ <;> rw [Move.run, hs] <;> exact h
  | goBack => rcases goBack_cases s with ⟨_, hs⟩ | ⟨_, _, _, hs⟩ <;> rw [Move.run, hs] <;> exact h

/-- Submitting leaves the answers as they are. -/
theorem Suited.submit {s : Session} (h : s.Suited) {σ ε : Type} (k : Keeper σ ε) (store : σ) :
    (s.submit k store).state.1.Suited := by
  obtain ⟨_, _, hs, _⟩ := submit_session k s store
  rw [hs]
  exact h

end Session

end Survey
