import Survey.Proofs.AcceptedAnswers
import Survey.Proofs.Bookkeeping
import Survey.Proofs.Satisfiable

/-!
# No dead ends

A respondent can not get stuck. If every mandatory question is satisfiable, then from every session that is not done, whatever was
entered before, there are moves forward after which the submission is saved (`Session.no_dead_ends`): the terms are accepted, every
mandatory question is given its specimen and the value of every other one is taken away. Then no question has a fault whether it is
shown or not, so it does not matter which of them the new values show, and the session moves on from step to step. In the other
direction a mandatory question without conditions that is not satisfiable is always shown and never answered, so nothing is ever
submitted.
-/

namespace Survey

/-! ## Values in order whatever is shown -/

namespace Question

variable {question : Question} {settings : SessionSettings}

/-- The value of a question when all is mended: the specimen if there must be one, else none. -/
def mended? (question : Question) : Option AnswerValue := if question.mandatory then some question.specimen else none

/-- A mandatory question can be given a value it accepts. -/
def CanBeMended (question : Question) : Prop := question.mandatory = true → question.isSatisfiable = true

theorem check_mended (hn : (question.options.map (·.id)).Nodup) (h : question.CanBeMended) :
    question.check settings question.mended? = [] := by
  unfold mended?
  cases hm : question.mandatory with
  | true =>
    have haccepts : question.Accepts settings question.specimen := accepts_specimen hn (h hm)
    simpa [check, haccepts.given] using haccepts.faultless
  | false => simp [check, checkBlank, hm, faultIf]

end Question

namespace Questionnaire

variable {q : Questionnaire} {settings : SessionSettings} {a : Answers}

/-- Every answerable question has its value when all is mended. -/
def Mended (q : Questionnaire) (a : Answers) : Prop := ∀ question ∈ q.answerable, a.value? question.id = question.mended?

/-- No question has a fault, whatever is shown. -/
theorem Mended.faultsOf_eq_nil (h : q.Mended a) (hq : ∀ question ∈ q.answerable, question.CanBeMended) (v : Visibility)
    {question : Question} (hquestion : question ∈ q.answerable) : q.faultsOf settings a v question.id = [] := by
  cases hs : v.shows question.id with
  | false => exact faultsOf_of_hidden hs
  | true =>
    have hn := q.wellFormed.options question (mem_answerable.1 hquestion).1
    rw [faultsOf_of_shows hquestion hs, h question hquestion]
    exact Question.check_mended hn (hq question hquestion)

theorem Mended.checkStep (h : q.Mended a) (hq : ∀ question ∈ q.answerable, question.CanBeMended) (v : Visibility) (k : Nat) :
    q.checkStep settings k a v = .ok () := by
  refine checkStep_eq_ok_iff.2 fun id hid => ?_
  obtain ⟨question, hquestion, rfl⟩ := exists_answerable_of_mem_step hid
  exact h.faultsOf_eq_nil hq v hquestion

theorem Mended.checkAll (h : q.Mended a) (hq : ∀ question ∈ q.answerable, question.CanBeMended) (v : Visibility) :
    q.checkAll settings a v true = .ok () :=
  checkAll_eq_ok_iff.2 ⟨fun _ hquestion => h.faultsOf_eq_nil hq v hquestion, fun _ => rfl⟩

end Questionnaire

namespace Session

/-! ## Mending the answers -/

/-- The session after moves, one after another. -/
def after (s : Session) (moves : List Move) : Session := moves.foldl (fun s m => m.run s) s

theorem after_cons (s : Session) (m : Move) (moves : List Move) : s.after (m :: moves) = (m.run s).after moves := rfl

theorem after_append (s : Session) (moves more : List Move) : s.after (moves ++ more) = (s.after moves).after more :=
  List.foldl_append

/-- The move that gives a question its value when all is mended. -/
def mend (question : Question) : Move :=
  if question.mandatory then .answer question.id question.specimen else .withdraw question.id

variable {s : Session}

/-- Mending a question of an open session gives it its value and leaves everything else. -/
theorem run_mend (hopen : s.isCompleted = false) {question : Question} (hquestion : question ∈ s.questionnaire.answerable)
    (hmend : question.CanBeMended) :
    ∃ answers, (mend question).run s = { s with answers } ∧
      ∀ id, answers.value? id = if id = question.id then question.mended? else s.answers.value? id := by
  obtain ⟨hmem, hseparator⟩ := Questionnaire.mem_answerable.1 hquestion
  have hopenQuestion : s.openQuestion question.id = .ok question :=
    openQuestion_eq_ok_iff.2 ⟨hopen, Questionnaire.question?_of_answerable hquestion, hseparator⟩
  unfold mend Question.mended?
  cases hm : question.mandatory with
  | true =>
    have hn := s.questionnaire.wellFormed.options question hmem
    have haccepts : question.Accepts s.settings question.specimen := Question.accepts_specimen hn (hmend hm)
    refine ⟨s.answers.set question.id question.specimen, ?_, fun id => Answers.value?_set _ _ _ _⟩
    simp [Move.run, answer, hopenQuestion, haccepts.suits]
  | false =>
    refine ⟨s.answers.erase question.id, ?_, fun id => Answers.value?_erase _ _ _⟩
    simp [Move.run, withdraw, hopenQuestion]

/-- Mending questions one after another gives each its value and takes none away from those that have theirs. -/
theorem after_mend (hopen : s.isCompleted = false) (hall : ∀ question ∈ s.questionnaire.answerable, question.CanBeMended)
    {questions : List Question} (hquestions : ∀ question ∈ questions, question ∈ s.questionnaire.answerable) :
    ∃ answers, s.after (questions.map mend) = { s with answers } ∧
      ∀ question ∈ s.questionnaire.answerable,
        question ∈ questions ∨ s.answers.value? question.id = question.mended? → answers.value? question.id = question.mended? := by
  induction questions generalizing s with
  | nil => exact ⟨s.answers, rfl, fun _ _ h => h.resolve_left List.not_mem_nil⟩
  | cons first rest ih =>
    have hfirst := hquestions first List.mem_cons_self
    obtain ⟨answers, hrun, hvalue⟩ := run_mend hopen hfirst (hall first hfirst)
    obtain ⟨answers', hrest, hvalue'⟩ := ih (s := { s with answers }) hopen hall
      fun question h => hquestions question (List.mem_cons_of_mem _ h)
    refine ⟨answers', ?_, fun question hquestion h => hvalue' question hquestion ?_⟩
    · rw [List.map_cons, after_cons, hrun]
      exact hrest
    · by_cases hid : question.id = first.id
      · exact Or.inr (by rw [hvalue, if_pos hid, Questionnaire.eq_of_id_eq hquestion hfirst hid])
      · rcases h with hmem | hhas
        · exact Or.inl ((List.mem_cons.1 hmem).resolve_left fun heq => hid (heq ▸ rfl))
        · exact Or.inr (by rw [hvalue, if_neg hid, hhas])

/-! ## Moving to the last step -/

/-- Where a step is in order and not the last the session moves on. -/
theorem run_advance {k : Nat} (hs : s.state = .answering k) (hlast : k + 1 < s.questionnaire.stepCount)
    (hcheck : s.questionnaire.checkStep s.settings k s.answers s.visibility = .ok ()) : Move.advance.run s = s.onStep (k + 1) := by
  simp [Move.run, advance, currentStep?_eq_some_iff.2 hs, hcheck, Nat.not_le.2 hlast]

/-- Where every step is in order the session moves on as far as there are steps. -/
theorem after_advance (hcheck : ∀ k, s.questionnaire.checkStep s.settings k s.answers s.visibility = .ok ()) {k n : Nat}
    (hs : s.state = .answering k) (hn : n = 0 ∨ k + n < s.questionnaire.stepCount) :
    ∃ faults, s.after (List.replicate n .advance) = { s with state := .answering (k + n), faults } := by
  induction n generalizing s k with
  | zero => exact ⟨s.faults, by rw [Nat.add_zero, ← hs]; rfl⟩
  | succ n ih =>
    have hlt : k + 1 + n < s.questionnaire.stepCount := by omega
    -- the session on the next step has the same answers, so its steps are in order too
    obtain ⟨faults, hrest⟩ := ih (s := s.onStep (k + 1)) hcheck rfl (Or.inr hlt)
    refine ⟨faults, ?_⟩
    rw [List.replicate_succ, after_cons, run_advance hs (by omega) (hcheck k), hrest, Nat.add_right_comm k 1 n]
    rfl

end Session

/-! ## The store takes the submission -/

/-- A submission to the questionnaire as it is kept is saved if it is the first of its respondent. -/
theorem Store.save_of_first {st : Store} {s : Submission} {kept : Questionnaire} (hfetch : st.fetch s.questionnaire = .ok kept)
    (hrevision : s.revision = kept.revision) (hfirst : st.submissionOf s.questionnaire s.respondent = .ok none) :
    (st.save s).result = .ok .saved := by
  obtain ⟨hworking, r, hr, rfl⟩ := fetch_eq_ok_iff.1 hfetch
  have hnone : r.submissions.any (·.respondent = s.respondent) = false := by
    simpa [submissionOf, look, hworking, kept_of_record? hr, List.find?_eq_none] using hfirst
  simp [save, withRecord, guarded, hworking, hr, hrevision, hnone]

namespace Session

variable {s : Session}

theorem submit_of_first {st : Store} {kept : Questionnaire} (hlast : s.isOnLastStep = true) (hvalid : s.validate = .ok ())
    (hfetch : st.fetch s.questionnaire.id = .ok kept) (hrevision : s.questionnaire.revision = kept.revision)
    (hfirst : st.submissionOf s.questionnaire.id s.respondent = .ok none) :
    (s.submit Store.keeper st).result = .ok s.submission := by
  have hsave : Store.keeper.save s.submission st = (.ok .saved, (st.save s.submission).state) :=
    Prod.ext (Store.save_of_first (s := s.submission) hfetch hrevision hfirst) rfl
  rcases submit_cases Store.keeper s st with ⟨hnot, _⟩ | ⟨_, faults, hfaults, _⟩ | ⟨_, _, h⟩
  · rw [hlast] at hnot
    cases hnot
  · rw [hvalid] at hfaults
    cases hfaults
  · rw [h]
    simp [handOver, hsave]

/-! ## Both directions -/

/-- The moves that lead from a step to a submission: accept the terms, mend every answer, move on to the last step. -/
def wayOut (q : Questionnaire) (step : Nat) : List Move :=
  .acceptTerms true :: (q.answerable.map mend ++ List.replicate (q.stepCount - 1 - step) .advance)

theorem ne_goBack_of_mem_wayOut {q : Questionnaire} {step : Nat} {m : Move} (h : m ∈ wayOut q step) : m ≠ .goBack := by
  rcases List.mem_cons.1 h with rfl | h
  · exact nofun
  · rcases List.mem_append.1 h with h | h
    · obtain ⟨question, _, rfl⟩ := List.mem_map.1 h
      unfold mend
      split <;> exact nofun
    · rw [List.eq_of_mem_replicate h]
      exact nofun

/-- The way out leads to the last step, with all answers in order. -/
theorem after_wayOut {k : Nat} (hs : s.state = .answering k) (hall : ∀ question ∈ s.questionnaire.answerable, question.CanBeMended) :
    (s.after (wayOut s.questionnaire k)).SameForm s ∧ (s.after (wayOut s.questionnaire k)).isOnLastStep = true ∧
      (s.after (wayOut s.questionnaire k)).validate = .ok () := by
  have hopen : s.isCompleted = false := by simp [isCompleted, hs]
  have heach : ∀ question ∈ s.questionnaire.answerable, question ∈ s.questionnaire.answerable := fun _ h => h
  obtain ⟨answers, hmend, hvalue⟩ := after_mend (s := s.acceptTerms true) hopen hall heach
  have hmended : s.questionnaire.Mended answers := fun question h => hvalue question h (Or.inl h)
  generalize hn : s.questionnaire.stepCount - 1 - k = n
  have hsteps : n = 0 ∨ k + n < s.questionnaire.stepCount := by omega
  obtain ⟨faults, hmove⟩ := after_advance (s := { s with answers, termsAccepted := true })
    (fun j => hmended.checkStep hall _ j) hs hsteps
  have hway : s.after (wayOut s.questionnaire k) =
      { s with answers, termsAccepted := true, state := .answering (k + n), faults } := by
    have haccept : (Move.acceptTerms true).run s = s.acceptTerms true := rfl
    rw [wayOut, hn, after_cons, haccept, after_append, hmend]
    exact hmove
  rw [hway]
  refine ⟨⟨rfl, rfl, rfl⟩, ?_, hmended.checkAll hall _⟩
  simp only [isOnLastStep, currentStep?, Option.any_some, decide_eq_true_eq]
  omega

variable {q : Questionnaire} {respondent : RespondentId} {settings : SessionSettings} {allowed : Session → Call → Prop}

/-- A mandatory question without conditions is shown in any case, so what is submitted has a value it accepts. -/
theorem Reaches.isSatisfiable_of_submitted (h : Reaches allowed (fresh q respondent settings) s) {question : Question}
    (hq : question ∈ q.answerable) (hm : question.mandatory = true) (hc : question.conditions = []) {σ ε : Type} {k : Keeper σ ε}
    {store : σ} {submission : Submission} (hr : (s.submit k store).result = .ok submission) : question.isSatisfiable = true := by
  obtain ⟨horder, _⟩ := h.submitted hr
  have hshown : (q.visibility s.answers).shows question.id = true := by
    rw [Questionnaire.shows_visibility hq, Questionnaire.shows, hc]
    rfl
  obtain ⟨value, hv, hgiven⟩ := Answers.hasValue_iff.1 (horder.hasValue_of_mandatory hq hshown hm)
  have haccepts : question.Accepts settings value := horder.accepts hq hshown hv hgiven
  exact haccepts.isSatisfiable (q.wellFormed.options question (Questionnaire.mem_answerable.1 hq).1)

/-- A respondent can not get stuck. If every mandatory question is satisfiable, then from every session that is reached and not done
there are moves, none of them back, after which the store saves the submission, if it keeps the questionnaire at the session's
revision and nothing of the respondent. If a mandatory question without conditions is not satisfiable, no session reached submits
anything. -/
theorem no_dead_ends (q : Questionnaire) (respondent : RespondentId) (settings : SessionSettings)
    (allowed : Session → Call → Prop) :
    ((∀ question ∈ q.answerable, question.mandatory = true → question.isSatisfiable = true) →
      ∀ s, Reaches allowed (fresh q respondent settings) s → s.isCompleted = false →
      ∀ (st : Store) (kept : Questionnaire), st.fetch q.id = .ok kept → kept.revision = q.revision →
        st.submissionOf q.id respondent = .ok none →
        ∃ moves : List Move, (∀ m ∈ moves, m ≠ .goBack) ∧
          ((s.after moves).submit Store.keeper st).result = .ok (s.after moves).submission) ∧
    ((∃ question ∈ q.answerable,
        question.mandatory = true ∧ question.conditions = [] ∧ question.isSatisfiable = false) →
      ∀ s, Reaches allowed (fresh q respondent settings) s → ∀ {σ ε : Type} (k : Keeper σ ε) (store : σ) (submission : Submission),
        (s.submit k store).result ≠ .ok submission) := by
  constructor
  · intro hall s h hopen st kept hfetch hrevision hfirst
    obtain ⟨rfl, rfl, rfl⟩ := h.begunWith
    obtain ⟨step, hstep⟩ : ∃ step, s.state = .answering step := by
      cases hs : s.state with
      | answering step => exact ⟨step, rfl⟩
      | completed => simp [isCompleted, hs] at hopen
    obtain ⟨hform, hlast, hvalid⟩ := after_wayOut hstep hall
    refine ⟨wayOut s.questionnaire step, fun m hm => ne_goBack_of_mem_wayOut hm, ?_⟩
    rw [← hform.questionnaire] at hfetch hrevision hfirst
    rw [← hform.respondent] at hfirst
    exact submit_of_first hlast hvalid hfetch hrevision.symm hfirst
  · rintro ⟨question, hq, hm, hc, hnot⟩ s h σ ε k store submission hr
    rw [h.isSatisfiable_of_submitted hq hm hc hr] at hnot
    cases hnot

namespace NarrowForm

/-- One bird of two is to be named, and those who name one rate it once, on the next step, under terms. -/
def form : Questionnaire where
  definition := {
    id := 1, title := "Birds", terms := some "We keep your answers.", questions := [
      { id := 1, position := 0, body := "Which bird?", kind := .multipleOption, mandatory := true, maxChoices := some 1,
        options := [⟨10, "Another one", true⟩, ⟨11, "Cockatoo", false⟩] },
      .separator 2 1,
      { id := 3, position := 2, body := "How was it?", kind := .matrixMultiple, mandatory := true, maxChoices := some 1,
        options := [⟨12, "Fine", false⟩, ⟨13, "Loud", false⟩], rows := [⟨20, "Song"⟩, ⟨21, "Dance"⟩],
        conditions := [.answered 1] }] }
  wellFormed := Definition.problem?_eq_none_iff.1 (by decide)
  ascending := by decide

/-- The session in which both birds were chosen, one of them without the text it asks for, and one row was ticked twice. -/
def tangled : Session :=
  (Call.move .advance).run <| (Call.move (.answer 3 (.matrix [⟨20, 12⟩, ⟨20, 13⟩]))).run <|
    (Call.move (.answer 1 (.ofOptions [10, 11]))).run (fresh form 7 {})

theorem reaches_tangled : Reaches (fun _ _ => True) (fresh form 7 {}) tangled :=
  .call _ (.call _ (.call _ .first trivial) trivial) trivial

/-- The same question with no room for any choice. -/
def shut : Questionnaire where
  definition := {
    id := 2, title := "No birds", questions := [
      { id := 1, position := 0, body := "Which bird?", kind := .multipleOption, mandatory := true, maxChoices := some 0,
        options := [⟨11, "Cockatoo", false⟩] }] }
  wellFormed := Definition.problem?_eq_none_iff.1 (by decide)
  ascending := by decide

/-- From the tangled session, which can not even move on, there is a way to a submission that is saved; where there is no room for a
choice there is none, with one chosen or without. -/
theorem tangled_session_gets_out :
    Reaches (fun _ _ => True) (fresh form 7 {}) tangled ∧ tangled.state = .answering 0 ∧
    tangled.faults = { entries := [⟨1, .tooManyChoices⟩, ⟨1, .missingCustomText⟩] } ∧
    (∃ moves : List Move, (∀ m ∈ moves, m ≠ .goBack) ∧
      ((tangled.after moves).submit Store.keeper (Store.empty.insert form).state).result = .ok (tangled.after moves).submission) ∧
    ∀ s, Reaches (fun _ _ => True) (fresh shut 7 {}) s → ∀ submission,
      (s.submit Store.keeper (Store.empty.insert shut).state).result ≠ .ok submission := by
  have hreaches := reaches_tangled
  have hall : ∀ question ∈ form.answerable, question.mandatory = true → question.isSatisfiable = true := by decide
  have hshut : ∃ question ∈ shut.answerable,
      question.mandatory = true ∧ question.conditions = [] ∧ question.isSatisfiable = false := by decide
  refine ⟨hreaches, by decide, by decide, ?_, ?_⟩
  · exact (no_dead_ends form 7 {} _).1 hall tangled hreaches (by decide) (Store.empty.insert form).state form rfl rfl rfl
  · intro s hs submission
    exact (no_dead_ends shut 7 {} _).2 hshut s hs Store.keeper (Store.empty.insert shut).state submission

end NarrowForm

end Session

end Survey
