import Survey.Proofs.Bookkeeping
import Survey.Proofs.StaleWrites

/-!
# Submitted once, kept until cleared

Whatever editors and respondents do in whatever order, no respondent has two submissions to a questionnaire, and the store accounts
for every submission it said it saved: it keeps it or reported it as deleted. A session's submission stays until the questions are
changed or the questionnaire is published with a clean-up. Until then its respondent gets it back, starts no other session on the
questionnaire, and submits none that was started before.

Sessions may be opened on a questionnaire that does not come from the store. Opening one is no act of the world, so a run may begin
with any sessions at hand, and only its store has to be empty.
-/

namespace Survey

/-- No questionnaire is at the last revision when its questions are changed; that would break the store. -/
def Act.LeavesNextRevision (w : World) : Act → Prop
  | .revise id _ => ∀ r ∈ w.store.record? id, r.questionnaire.revision < Store.lastRevision
  | _ => True

instance (w : World) : (x : Act) → Decidable (x.LeavesNextRevision w)
  | .revise id _ => inferInstanceAs (Decidable (∀ r ∈ w.store.record? id, r.questionnaire.revision < Store.lastRevision))
  | .insert _ | .publish .. | .save _ | .start .. | .move .. | .submit _ => inferInstanceAs (Decidable True)

namespace Store

variable {st : Store} {id : QuestionnaireId} {s : Submission}

theorem submissions_of_working (h : st.poisoned = false) (id : QuestionnaireId) : st.submissions id = .ok (st.kept id) := by
  simp [submissions, look, h]

/-- A submission that is kept is the one its respondent gets back. -/
theorem submissionOf_of_mem (h : st.poisoned = false) (hn : ((st.kept id).map (·.respondent)).Nodup) (hs : s ∈ st.kept id) :
    st.submissionOf id s.respondent = .ok (some s) := by
  simp [submissionOf, look, h, find?_key hn hs]

/-- A respondent who has a submission starts no other session. -/
theorem start_of_submissionOf {respondent : RespondentId} (h : st.submissionOf id respondent = .ok (some s))
    (settings : SessionSettings) : (Session.start keeper id respondent settings st).result = .ok .alreadyAnswered := by
  have hanswered : st.isAnsweredBy id respondent = .ok true := by
    rw [isAnsweredBy, h]
    rfl
  simp [Session.start, keeper, hanswered]

/-- A respondent who has a submission submits no other. -/
theorem submit_ne_ok_of_mem (hs : s ∈ st.kept id) {t : Session} (hr : t.respondent = s.respondent)
    (hid : t.questionnaire.id = id) (s' : Submission) : (t.submit keeper st).result ≠ .ok s' := by
  intro hok
  rcases submit_saves_or_leaves t st with ⟨⟨e, herror⟩, _⟩ | ⟨_, hsaved, _⟩
  · rw [herror] at hok
    cases hok
  · rcases kept_save st t.submission id with ⟨_, _, hfirst, _⟩ | ⟨hnot, _⟩
    · exact hfirst s hs hr.symm
    · exact hnot ⟨hid, hsaved⟩

theorem save_poisoned (st : Store) (s : Submission) : (st.save s).state.poisoned = st.poisoned := by
  rcases save_cases st s with ⟨_, heq⟩ | ⟨r, _, _, _, heq⟩ <;> rw [heq]
  rfl

end Store

/-- A store goes on working through every act that leaves a next revision. -/
theorem Act.LeavesNextRevision.working {w : World} {x : Act} (hx : x.LeavesNextRevision w) (h : w.store.poisoned = false) :
    (x.run w).store.poisoned = false := by
  cases x with
  | insert q =>
    rw [run, Store.insert_of_working h]
    simp only [Store.hold]
    split <;> exact h
  | revise id questions =>
    rcases Store.revise_cases w.store id questions with ⟨e, heq⟩ | ⟨r, hr, hlast, _⟩ | ⟨r, q, _, _, _, heq⟩
    · rw [run, heq]
      exact h
    · have hlt := hx r hr
      rw [hlast] at hlt
      exact absurd hlt (UInt64.lt_irrefl _)
    · rw [run, heq]
      exact h
  | publish id clean =>
    rcases Store.publish_cases w.store id clean with ⟨e, heq⟩ | ⟨r, _, heq⟩ <;> rw [run, heq] <;> exact h
  | save s => exact (Store.save_poisoned w.store s).trans h
  | start name id settings =>
    rcases World.start_cases w name id settings with heq | ⟨_, _, heq⟩ <;> rw [run, heq] <;> exact h
  | move name m => cases hs : w.sessions name <;> simp only [run, hs] <;> exact h
  | submit name =>
    cases hs : w.sessions name with
    | none =>
      simp only [run, hs]
      exact h
    | some t =>
      rw [run_submit_store hs]
      rcases Store.submit_saves_or_leaves t w.store with ⟨_, heq⟩ | ⟨_, _, heq⟩ <;> rw [heq]
      · exact h
      · exact (Store.save_poisoned w.store t.submission).trans h

namespace World

theorem working_run {w : World} (h : w.store.poisoned = false) {acts : List Act}
    (hacts : w.Allows Act.LeavesNextRevision acts) : (w.run acts).store.poisoned = false := by
  induction acts generalizing w with
  | nil => exact h
  | cons x rest ih => exact ih (hacts.1.working h) hacts.2

/-- A submission that a session got back as saved is among those kept, as long as nothing clears them away. -/
theorem submitted_mem_kept {w : World} {before after : List Act} {name : SessionName} {t : Session} {s : Submission}
    (ht : (w.run before).sessions name = some t) (hs : (t.submit Store.keeper (w.run before).store).result = .ok s)
    (hafter : (w.run (before ++ [.submit name])).Spares t.questionnaire.id after) :
    s = t.submission ∧ s ∈ (w.run (before ++ .submit name :: after)).store.kept t.questionnaire.id := by
  have hsubmission : s = t.submission := by
    rcases Store.submit_saves_or_leaves t (w.run before).store with ⟨⟨e, herror⟩, _⟩ | ⟨hok, _, _⟩
    · rw [herror] at hs
      cases hs
    · rw [hok] at hs
      exact (Except.ok.inj hs).symm
  have hsaved : (Act.submit name).saved? t.questionnaire.id (w.run before) = some s := by
    have hid : s.questionnaire = t.questionnaire.id := by
      rw [hsubmission]
      rfl
    simp [Act.saved?, ht, hs, hid, Except.toOption]
  exact ⟨hsubmission, mem_kept_run_iff.2 (Or.inr ⟨before, .submit name, after, rfl, hsaved, hafter⟩)⟩

/-- Submitted once, kept until cleared. In every world reached from an empty store, the submissions to a questionnaire are of
different respondents, and with those reported as deleted they are as many as those reported as saved. And once a session's submission
was accepted, until the questions are changed or the questionnaire is published with a clean-up, its respondent gets it back, is told
to have answered already when starting a session, and submits no session on the questionnaire. -/
theorem submitted_once_kept_until_cleared {w : World} (hw : w.store = .empty) {acts : List Act}
    (hacts : w.Allows Act.LeavesNextRevision acts) (id : QuestionnaireId) :
    (∃ kept, (w.run acts).store.submissions id = .ok kept ∧ (kept.map (·.respondent)).Nodup ∧
      kept.length + w.deleted id acts = (w.saved id acts).length) ∧
    ∀ before name after t s, acts = before ++ .submit name :: after → (w.run before).sessions name = some t →
      t.questionnaire.id = id → (t.submit Store.keeper (w.run before).store).result = .ok s →
      (w.run (before ++ [.submit name])).Spares id after →
      (w.run acts).store.submissionOf id t.respondent = .ok (some s) ∧
      (∀ settings, (Session.start Store.keeper id t.respondent settings (w.run acts).store).result = .ok .alreadyAnswered) ∧
      ∀ u : Session, u.respondent = t.respondent → u.questionnaire.id = id →
        ∀ s', (u.submit Store.keeper (w.run acts).store).result ≠ .ok s' := by
  have hnone : w.store.kept id = [] := by
    rw [hw]
    rfl
  have hworking : (w.run acts).store.poisoned = false := by
    refine working_run ?_ hacts
    rw [hw]
    rfl
  have hnodup : (((w.run acts).store.kept id).map (·.respondent)).Nodup := by
    refine nodup_kept_run acts ?_
    rw [hnone]
    exact List.nodup_nil
  refine ⟨⟨_, Store.submissions_of_working hworking id, hnodup, ?_⟩, ?_⟩
  · have hbooks := kept_run_length id w acts
    rw [hnone] at hbooks
    simpa using hbooks
  · rintro before name after t s rfl ht rfl hs hafter
    obtain ⟨rfl, hkept⟩ := submitted_mem_kept ht hs hafter
    have hback := Store.submissionOf_of_mem hworking hnodup hkept
    refine ⟨hback, Store.start_of_submissionOf hback, ?_⟩
    intro u hr hid s'
    exact Store.submit_ne_ok_of_mem hkept hr hid s'

namespace TwoSessions

open EditedPoll (poll)

/-- A respondent opens the poll twice and answers in both sessions. -/
def before : List Act :=
  [.insert poll, .start ⟨7, 0⟩ 1 {}, .start ⟨7, 1⟩ 1 {}, .move ⟨7, 0⟩ (.answer 1 (.text "Crows")),
    .move ⟨7, 1⟩ (.answer 1 (.text "Parrots"))]

/-- After the first session was submitted, the poll is published and replaced, and the second session is submitted. -/
def after : List Act := [.publish 1 false, .insert poll, .submit ⟨7, 1⟩]

/-- All of it. -/
def acts : List Act := before ++ .submit ⟨7, 0⟩ :: after

/-- The session in which a text was given. -/
def session (text : String) : Session := { Session.fresh poll 7 {} with answers := Answers.empty.set 1 (.text text) }

/-- Of two sessions of one respondent the first is submitted. Its submission is the only one, and it stays; the second session is
refused. -/
theorem second_session_is_refused :
    ({} : World).store = .empty ∧ ({} : World).Allows Act.LeavesNextRevision acts ∧
    (∃ kept, (run {} acts).store.submissions 1 = .ok kept ∧ (kept.map (·.respondent)).Nodup ∧
      kept.length + ({} : World).deleted 1 acts = (({} : World).saved 1 acts).length) ∧
    ((session "Crows").submit Store.keeper (run {} before).store).result = .ok (session "Crows").submission ∧
    (run {} acts).store.submissionOf 1 7 = .ok (some (session "Crows").submission) ∧
    (∀ settings, (Session.start Store.keeper 1 7 settings (run {} acts).store).result = .ok .alreadyAnswered) ∧
    ∀ s, ((session "Parrots").submit Store.keeper (run {} acts).store).result ≠ .ok s := by
  have hempty : ({} : World).store = .empty := rfl
  have hallowed : ({} : World).Allows Act.LeavesNextRevision acts := by decide
  have hfirst : (run {} before).sessions ⟨7, 0⟩ = some (session "Crows") := rfl
  have hsubmitted : ((session "Crows").submit Store.keeper (run {} before).store).result = .ok (session "Crows").submission := rfl
  obtain ⟨hbooks, hstays⟩ := submitted_once_kept_until_cleared hempty hallowed 1
  obtain ⟨hback, hstart, hrefused⟩ := hstays before ⟨7, 0⟩ after _ _ rfl hfirst rfl hsubmitted (by decide)
  exact ⟨hempty, hallowed, hbooks, hsubmitted, hback, hstart, hrefused (session "Parrots") rfl rfl⟩

end TwoSessions

end World

end Survey
