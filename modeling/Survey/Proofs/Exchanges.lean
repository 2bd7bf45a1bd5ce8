import Survey.Proofs.Bookkeeping
import Survey.Proofs.SessionState

/-!
# What a keeper hears of a submission

To see what submitting asks of a keeper, the keeper is given a log in which it notes every request with the answer it gave
(`Keeper.noting`). The log has no influence (`Session.submit_noting`), and it holds at most one submission: the one that was handed over,
on the last step, with the answers in order. Everything else follows from what the keeper answered to that. The submission is accepted if
it was saved, and the session is done if it was saved or another one is kept; otherwise both are as they were, apart from the faults the
session shows (`Session.submit_completes_or_changes_nothing`).
-/

namespace Survey

/-- A request made of a keeper, with the answer that was given. -/
inductive Exchange (ε : Type) where
  | fetched (id : QuestionnaireId) (answer : Except ε Questionnaire)
  | asked (id : QuestionnaireId) (respondent : RespondentId) (answer : Except ε Bool)
  | handedOver (submission : Submission) (answer : Except ε SaveOutcome)

namespace Exchange

variable {ε : Type}

/-- The submission handed over in an exchange, with the answer to it. -/
def handedOver? : Exchange ε → Option (Submission × Except ε SaveOutcome)
  | .handedOver submission answer => some (submission, answer)
  | _ => none

end Exchange

variable {σ ε : Type}

/-- A keeper that notes all exchanges, in order, beside its state. -/
def Keeper.noting (k : Keeper σ ε) : Keeper (σ × List (Exchange ε)) ε where
  fetch id st :=
    let (answer, store) := k.fetch id st.1
    (answer, store, st.2 ++ [.fetched id answer])
  isAnsweredBy id respondent st :=
    let (answer, store) := k.isAnsweredBy id respondent st.1
    (answer, store, st.2 ++ [.asked id respondent answer])
  save submission st :=
    let (answer, store) := k.save submission st.1
    (answer, store, st.2 ++ [.handedOver submission answer])

namespace Session

variable {s : Session} (k : Keeper σ ε) (store : σ)

/-! ## The exchanges of a submission -/

/-- The exchanges in which a submission is handed over: if it came too late, the questionnaire is fetched to see why. -/
def handOverExchanges (s : Session) : List (Exchange ε) :=
  let reply := k.save s.submission store
  .handedOver s.submission reply.1 ::
    match reply.1 with
    | .ok (.stale _) => [.fetched s.questionnaire.id (k.fetch s.questionnaire.id reply.2).1]
    | _ => []

/-- The exchanges of a session that is submitted. -/
def exchanges (s : Session) : List (Exchange ε) := (s.submit k.noting (store, [])).state.2.2

theorem staleReason_noting (s : Session) (current : UInt64) (log : List (Exchange ε)) :
    s.staleReason k.noting current (store, log) =
      ((s.staleReason k current store).1, (s.staleReason k current store).2,
        log ++ [.fetched s.questionnaire.id (k.fetch s.questionnaire.id store).1]) := by
  have hfetch : k.noting.fetch s.questionnaire.id (store, log) =
      ((k.fetch s.questionnaire.id store).1, (k.fetch s.questionnaire.id store).2,
        log ++ [.fetched s.questionnaire.id (k.fetch s.questionnaire.id store).1]) := rfl
  simp only [staleReason, hfetch]
  rcases k.fetch s.questionnaire.id store with ⟨answer, store'⟩
  cases answer <;> rfl

theorem handOver_noting (s : Session) (log : List (Exchange ε)) :
    s.handOver k.noting (store, log) =
      { s.handOver k store with
        state := ((s.handOver k store).state.1, (s.handOver k store).state.2, log ++ s.handOverExchanges k store) } := by
  have hsave : k.noting.save s.submission (store, log) =
      ((k.save s.submission store).1, (k.save s.submission store).2,
        log ++ [.handedOver s.submission (k.save s.submission store).1]) := rfl
  simp only [handOver, handOverExchanges, hsave]
  rcases k.save s.submission store with ⟨answer, store'⟩
  cases answer with
  | error e => rfl
  | ok outcome =>
    cases outcome with
    | saved => rfl
    | alreadyAnswered => rfl
    | stale current => simp only [staleReason_noting, List.append_assoc, List.singleton_append]

/-- A session that is submitted to a keeper with a log does what it does without, and so does the keeper. -/
theorem submit_noting (s : Session) :
    s.submit k.noting (store, []) =
      { s.submit k store with
        state := ((s.submit k store).state.1, (s.submit k store).state.2, s.exchanges k store) } := by
  unfold exchanges submit
  split
  · rfl
  split
  · rfl
  cases s.validate with
  | error faults => rfl
  | ok _ => rw [handOver_noting]

/-- On the last step with the answers in order a submission is handed over, and otherwise nothing is asked of the keeper. -/
theorem exchanges_eq (s : Session) :
    s.exchanges k store = if s.isOnLastStep = true ∧ s.validate = .ok () then s.handOverExchanges k store else [] := by
  unfold exchanges
  rcases submit_cases k.noting s (store, []) with ⟨hlast, _, hs⟩ | ⟨_, faults, hv, _, hs⟩ | ⟨hlast, hv, hs⟩
  · rw [hs, if_neg (by simp [hlast])]
  · rw [hs, if_neg (by simp [hv])]
  · rw [hs, if_pos ⟨hlast, hv⟩, handOver_noting, List.nil_append]

/-! ## What became of it -/

/-- The submissions a session hands over when it is submitted, with the answers to them. -/
def handedOver (s : Session) : List (Submission × Except ε SaveOutcome) := (s.exchanges k store).filterMap Exchange.handedOver?

/-- A submission is handed over at most once: on the last step with the answers in order. -/
theorem handedOver_eq (s : Session) :
    s.handedOver k store =
      if s.isOnLastStep = true ∧ s.validate = .ok () then [(s.submission, (k.save s.submission store).1)] else [] := by
  unfold handedOver
  rw [exchanges_eq]
  split
  · simp only [handOverExchanges, List.filterMap_cons, Exchange.handedOver?]
    split <;> rfl
  · rfl

/-- The keeper keeps a submission of the respondent: the one handed over, or another one. -/
def IsKept (answer : Except ε SaveOutcome) : Prop := answer = .ok .saved ∨ answer = .ok .alreadyAnswered

/-- What comes of submitting, by the answer to the submission handed over. Where none was handed over or the answer was another one, the
session is refused and stays where it is. -/
theorem submit_outcome (s : Session) :
    (∃ e, (s.submit k store).result = .error e) ∧ (s.submit k store).state.1.state = s.state ∧
      (∀ entry ∈ s.handedOver k store, ¬ IsKept entry.2) ∨
    s.isOnLastStep = true ∧ (s.submit k store).state.1.state = .completed ∧
      ((s.submit k store).result = .ok s.submission ∧ s.handedOver k store = [(s.submission, .ok .saved)] ∨
        (∃ e, (s.submit k store).result = .error e) ∧ s.handedOver k store = [(s.submission, .ok .alreadyAnswered)]) := by
  have hhanded := handedOver_eq k store s
  rcases submit_cases k s store with ⟨hlast, hr, hs⟩ | ⟨_, faults, hv, hr, hs⟩ | ⟨hlast, hv, heq⟩
  · rw [if_neg (by simp [hlast])] at hhanded
    refine Or.inl ⟨?_, by rw [hs], by simp [hhanded]⟩
    rcases hr with hr | hr <;> exact ⟨_, hr⟩
  · rw [if_neg (by simp [hv])] at hhanded
    exact Or.inl ⟨⟨_, hr⟩, by rw [hs], by simp [hhanded]⟩
  · rw [if_pos ⟨hlast, hv⟩] at hhanded
    rw [heq]
    rcases handOver_cases k s store with ⟨e, ha, hr, hs⟩ | ⟨ha, hr, hs⟩ | ⟨current, ha, hr, hs⟩ | ⟨ha, hr, hs⟩ <;>
      rw [ha] at hhanded
    · exact Or.inl ⟨⟨_, hr⟩, by rw [hs], by simp [hhanded, IsKept]⟩
    · exact Or.inr ⟨hlast, by rw [hs], Or.inl ⟨hr, hhanded⟩⟩
    · exact Or.inl ⟨⟨_, hr⟩, by rw [hs], by simp [hhanded, IsKept]⟩
    · exact Or.inr ⟨hlast, by rw [hs], Or.inr ⟨⟨_, hr⟩, hhanded⟩⟩

/-- A submission is accepted exactly if it was handed over and saved. -/
theorem submit_eq_ok_iff {submission : Submission} :
    (s.submit k store).result = .ok submission ↔ (submission, .ok .saved) ∈ s.handedOver k store := by
  rcases submit_outcome k store s with ⟨⟨e, hr⟩, _, hnot⟩ | ⟨_, _, ⟨hr, hhanded⟩ | ⟨⟨e, hr⟩, hhanded⟩⟩
  · rw [hr]
    constructor
    · intro h
      cases h
    · intro h
      exact absurd (Or.inl rfl) (hnot _ h)
  · simp [hr, hhanded, eq_comm]
  · simp [hr, hhanded]

/-- A session gets done exactly if the keeper keeps a submission of the respondent. -/
theorem submit_completes_iff :
    s.state ≠ .completed ∧ (s.submit k store).state.1.state = .completed ↔
      ∃ entry ∈ s.handedOver k store, IsKept entry.2 := by
  rcases submit_outcome k store s with ⟨_, hs, hnot⟩ | ⟨hlast, hs, hhanded⟩
  · rw [hs]
    constructor
    · rintro ⟨hne, h⟩
      exact absurd h hne
    · rintro ⟨entry, hentry, hkept⟩
      exact absurd hkept (hnot entry hentry)
  · have hne : s.state ≠ .completed := by
      intro h
      rw [isOnLastStep_of_completed h] at hlast
      cases hlast
    rcases hhanded with ⟨_, hhanded⟩ | ⟨_, hhanded⟩ <;> simp [hs, hne, hhanded, IsKept]

/-- A session stays where it is unless the keeper keeps a submission of the respondent. -/
theorem submit_stays (hnot : ¬ ∃ entry ∈ s.handedOver k store, IsKept entry.2) : (s.submit k store).state.1.state = s.state := by
  rcases submit_outcome k store s with ⟨_, hs, _⟩ | ⟨_, _, hhanded⟩
  · exact hs
  · rcases hhanded with ⟨_, hhanded⟩ | ⟨_, hhanded⟩ <;> simp [hhanded, IsKept] at hnot

/-- A submission either completes or changes nothing that matters, in every session that is reached and whatever the keeper does. The
log a keeper is given has no influence. Answers, agreement and form stay. What the answers make is handed over once if the session is on
its last step and all of it is in order, and never else. It is accepted exactly if it was saved, and the session gets done exactly if it
was saved or another one is kept, and is where it was if not. And the store is as it was after every submission that was refused. -/
theorem submit_completes_or_changes_nothing {q : Questionnaire} {respondent : RespondentId} {settings : SessionSettings}
    {allowed : Session → Call → Prop} (h : Reaches allowed (fresh q respondent settings) s) :
    (∀ {σ ε : Type} (k : Keeper σ ε) (store : σ),
      s.submit k.noting (store, []) =
        { s.submit k store with
          state := ((s.submit k store).state.1, (s.submit k store).state.2, s.exchanges k store) } ∧
      (s.submit k store).state.1.answers = s.answers ∧ (s.submit k store).state.1.termsAccepted = s.termsAccepted ∧
      SameForm (s.submit k store).state.1 s ∧
      s.handedOver k store =
        (if s.state = .answering (q.stepCount - 1) ∧
            q.checkAll settings s.answers (q.visibility s.answers) s.termsAccepted = .ok () then
          [(q.compile respondent s.answers (q.visibility s.answers),
            (k.save (q.compile respondent s.answers (q.visibility s.answers)) store).1)]
        else []) ∧
      (∀ submission, (s.submit k store).result = .ok submission ↔ (submission, .ok .saved) ∈ s.handedOver k store) ∧
      (s.state ≠ .completed ∧ (s.submit k store).state.1.state = .completed ↔
        ∃ entry ∈ s.handedOver k store, entry.2 = .ok .saved ∨ entry.2 = .ok .alreadyAnswered) ∧
      ((¬ ∃ entry ∈ s.handedOver k store, entry.2 = .ok .saved ∨ entry.2 = .ok .alreadyAnswered) →
        (s.submit k store).state.1.state = s.state)) ∧
    ∀ (st : Store) (e : SubmissionError StoreError), (s.submit Store.keeper st).result = .error e →
      (s.submit Store.keeper st).state.2 = st := by
  have hrange : s.StepInRange := h.stepInRange
  obtain ⟨rfl, rfl, rfl⟩ := h.begunWith
  constructor
  · intro σ ε k store
    obtain ⟨_, _, hs, _⟩ := submit_session k s store
    refine ⟨submit_noting k store s, by rw [hs], by rw [hs], Call.sameForm (.submit k store) s, ?_,
      fun _ => submit_eq_ok_iff k store, submit_completes_iff k store, submit_stays k store⟩
    rw [handedOver_eq]
    exact if_congr (and_congr_left' hrange.isOnLastStep_iff_state) rfl rfl
  · intro st e hr
    rcases Store.submit_saves_or_leaves s st with ⟨_, hst⟩ | ⟨hr', _⟩
    · exact hst
    · rw [hr'] at hr
      cases hr

namespace LostConnection

/-- A name that has to be given, and on the next page a question that need not be answered. -/
def form : Questionnaire where
  definition := {
    id := 1, title := "Birds", questions := [
      { id := 1, position := 0, body := "Name?", kind := .shortAnswer, mandatory := true },
      .separator 2 1,
      { id := 3, position := 2, body := "Which birds did you see?", kind := .longAnswer }] }
  wellFormed := Definition.problem?_eq_none_iff.1 (by decide)
  ascending := by decide

/-- The session on its last page. -/
def onLastPage : Session := (Call.move .advance).run <| (Call.move (.answer 1 (.text "Ada"))).run (fresh form 7 {})

theorem reaches_onLastPage : Reaches (fun _ _ => True) (fresh form 7 {}) onLastPage :=
  .call _ (.call _ .first trivial) trivial

/-- The session once the name was withdrawn. -/
def nameless : Session := (Call.move (.withdraw 1)).run onLastPage

theorem reaches_nameless : Reaches (fun _ _ => True) (fresh form 7 {}) nameless := .call _ reaches_onLastPage trivial

/-- A keeper of a later revision that does not answer when it is asked for it. -/
def lost : Keeper Unit String := Script.keeper ⟨.error "connection lost", .ok false, .ok (.stale 3)⟩

/-- A keeper that saves every submission. -/
def saving : Keeper Unit String := Script.keeper ⟨.error "connection lost", .ok false, .ok .saved⟩

/-- What the name makes. -/
def submission : Submission :=
  { questionnaire := 1, revision := 0, respondent := 7, answers := [{ question := 1, body := some "Ada" }] }

/-- The submission that came too late was handed over once and leaves the session on its last page, from where it can be saved. Without
the name nothing is handed over, and a store without the questionnaire refuses the submission and stays empty. -/
theorem late_submission_can_be_made_again :
    Reaches (fun _ _ => True) (fresh form 7 {}) onLastPage ∧
    onLastPage.handedOver lost () = [(submission, .ok (.stale 3))] ∧
    (onLastPage.submit lost ()).result = .error (.store "connection lost") ∧
    (onLastPage.submit lost ()).state.1.state = .answering 1 ∧
    (onLastPage.submit saving ()).result = .ok submission ∧ (onLastPage.submit saving ()).state.1.state = .completed ∧
    (onLastPage.submit saving ()).state.1.answers = onLastPage.answers ∧
    Reaches (fun _ _ => True) (fresh form 7 {}) nameless ∧ nameless.handedOver saving () = [] ∧
    (onLastPage.submit Store.keeper .empty).result = .error (.store (.notFound 1)) ∧
    (onLastPage.submit Store.keeper .empty).state.2 = .empty := by
  obtain ⟨hany, hstore⟩ := submit_completes_or_changes_nothing reaches_onLastPage
  obtain ⟨-, -, -, -, hlate, -, -, hstays⟩ := hany lost ()
  obtain ⟨-, hanswers, -, -, hsaved, haccepted, hdone, -⟩ := hany saving ()
  obtain ⟨hnameless, -⟩ := submit_completes_or_changes_nothing reaches_nameless
  obtain ⟨-, -, -, -, hnone, -⟩ := hnameless saving ()
  rw [if_pos (by decide)] at hlate hsaved
  rw [if_neg (by decide)] at hnone
  have hcompiled : form.compile 7 onLastPage.answers (form.visibility onLastPage.answers) = submission := by decide
  rw [hcompiled] at hlate hsaved
  have hmem : (submission, .ok .saved) ∈ onLastPage.handedOver saving () := by
    rw [hsaved]
    exact List.mem_singleton_self _
  have hrefused : (onLastPage.submit Store.keeper .empty).result = .error (.store (.notFound 1)) := by decide
  refine ⟨reaches_onLastPage, hlate, by decide, ?_, (haccepted _).2 hmem, (hdone.2 ⟨_, hmem, Or.inl rfl⟩).2, hanswers,
    reaches_nameless, hnone, hrefused, hstore _ _ hrefused⟩
  refine (hstays ?_).trans (by decide)
  rw [hlate]
  simp [lost, Script.keeper]

end LostConnection

end Session

end Survey
