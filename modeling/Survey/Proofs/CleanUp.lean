import Survey.Proofs.Bookkeeping
import Survey.Proofs.StaleWrites

/-!
# Cleaning up on publication

A questionnaire may be tried out before it is published, and publishing it with a clean-up is meant to delete what was submitted in
the trial. It deletes whatever is there. So it deletes submissions of the trial only when the questionnaire was not published yet
(`World.clean_up_deletes_trial_submissions`): being published is for ever, so what is kept of an unpublished questionnaire was all
saved before. Once more on a published questionnaire, it deletes what respondents submitted since (`World.Trial.second_clean_up_deletes`).
-/

namespace Survey

namespace Store

variable {st : Store} {id : QuestionnaireId}

/-- Whether a store, broken or not, has a questionnaire noted as published. -/
def published (st : Store) (id : QuestionnaireId) : Bool := (st.record? id).any (·.published)

theorem isPublished_eq_ok_iff {b : Bool} : st.isPublished id = .ok b ↔ st.poisoned = false ∧ st.published id = b := by
  unfold isPublished look published
  cases st.poisoned <;> simp

theorem published_put (st : Store) (r : StoreRecord) (id : QuestionnaireId) :
    (st.put r).published id = if id = r.id then r.published else st.published id := by
  unfold published
  rw [record?_put]
  split <;> simp

/-- A record put in the place of the one of its identifier, published if that one was, leaves all published that were. -/
theorem published_put_of_record? {key : QuestionnaireId} {r r' : StoreRecord} (hr : st.record? key = some r)
    (hkey : r'.id = key) (hlater : r.published = true → r'.published = true) (h : st.published id = true) :
    (st.put r').published id = true := by
  rw [published_put]
  split
  · rename_i hid
    apply hlater
    rw [published, hid, hkey, hr] at h
    simpa using h
  · exact h

theorem published_hold (q : Questionnaire) (h : st.published id = true) : (st.hold q).published id = true := by
  unfold hold
  cases hr : st.record? q.id with
  | none =>
    rw [published_put]
    split
    · rename_i hid
      have hid : id = q.id := hid
      rw [published, hid, hr] at h
      simp at h
    · exact h
  | some r => exact published_put_of_record? hr rfl (fun hp => hp) h

theorem published_save (s : Submission) (h : st.published id = true) : (st.save s).state.published id = true := by
  rcases save_cases st s with ⟨_, heq⟩ | ⟨r, hr, _, _, heq⟩ <;> rw [heq]
  · exact h
  · have hid : r.id = s.questionnaire := id_of_record? hr
    exact published_put_of_record? hr hid (fun hp => hp) h

end Store

namespace Act

variable {id : QuestionnaireId} {w : World}

/-- A published questionnaire stays published. -/
theorem published_run (x : Act) (h : w.store.published id = true) : (x.run w).store.published id = true := by
  cases x with
  | insert q =>
    rw [run, Store.insert, Store.guarded]
    split
    · exact h
    · exact Store.published_hold q h
  | revise revised questions =>
    rcases Store.revise_cases w.store revised questions with ⟨e, heq⟩ | ⟨r, _, _, heq⟩ | ⟨r, q, hr, _, hbuild, heq⟩ <;> rw [run, heq]
    · exact h
    · exact h
    · have hid : q.id = revised := (Store.build_revised hbuild).1.trans (Store.id_of_record? hr)
      exact Store.published_put_of_record? hr hid (fun hp => hp) h
  | publish published clean =>
    rcases Store.publish_cases w.store published clean with ⟨e, heq⟩ | ⟨r, hr, heq⟩ <;> rw [run, heq]
    · exact h
    · have hid : r.id = published := Store.id_of_record? hr
      exact Store.published_put_of_record? hr hid (fun _ => rfl) h
  | save s => exact Store.published_save s h
  | start name started settings =>
    rcases World.start_cases w name started settings with heq | ⟨_, _, heq⟩ <;> rw [run, heq] <;> exact h
  | move name m => cases hs : w.sessions name <;> simp only [run, hs] <;> exact h
  | submit name =>
    cases hs : w.sessions name with
    | none =>
      simp only [run, hs]
      exact h
    | some t =>
      rw [run_submit_store hs]
      rcases Store.submit_saves_or_leaves t w.store with ⟨_, heq⟩ | ⟨_, _, heq⟩ <;> rw [heq]
      · exact h
      · exact Store.published_save t.submission h

/-- An act that cleans up publishes a questionnaire that was not published before. -/
def CleansUnpublished (w : World) : Act → Prop
  | .publish id true => w.store.isPublished id ≠ .ok true
  | _ => True

instance (w : World) : (x : Act) → Decidable (x.CleansUnpublished w)
  | .publish id true => inferInstanceAs (Decidable (w.store.isPublished id ≠ .ok true))
  | .publish _ false | .insert _ | .revise .. | .save _ | .start .. | .move .. | .submit _ => inferInstanceAs (Decidable True)

/-- A store that published a questionnaire worked. -/
theorem CleansUp.working {x : Act} (h : x.CleansUp id w) : w.store.poisoned = false := by
  cases x with
  | publish published clean =>
    obtain ⟨_, _, hok⟩ := h
    cases hp : w.store.poisoned with
    | false => rfl
    | true => simp [Store.publish, Store.withRecord, Store.guarded, hp, Store.refuse, Except.isOk, Except.toBool] at hok
  | _ => exact h.elim

/-- No published questionnaire is cleaned up where only unpublished ones are. -/
theorem CleansUnpublished.spares {x : Act} (hx : x.CleansUnpublished w) (h : w.store.published id = true) :
    ¬ x.CleansUp id w := by
  intro hclean
  have hworking := hclean.working
  cases x with
  | publish published clean =>
    obtain ⟨rfl, rfl, _⟩ := hclean
    exact hx (Store.isPublished_eq_ok_iff.2 ⟨hworking, h⟩)
  | _ => exact hclean

end Act

namespace World

variable {id : QuestionnaireId} {w : World}

theorem published_run (acts : List Act) (h : w.store.published id = true) : (w.run acts).store.published id = true := by
  induction acts generalizing w with
  | nil => exact h
  | cons x rest ih => exact ih (x.published_run h)

/-- Once a questionnaire is published, nothing but a change of its questions clears its submissions away, where only unpublished ones
are cleaned up. -/
theorem spares_of_published {acts : List Act} (h : w.store.published id = true) (hclean : w.Allows Act.CleansUnpublished acts)
    (hrevise : w.Allows (fun w x => ¬ x.Revises id w) acts) : w.Spares id acts := by
  induction acts generalizing w with
  | nil => trivial
  | cons x rest ih =>
    refine ⟨?_, ih (x.published_run h) hclean.2 hrevise.2⟩
    rintro (hrevises | hcleans)
    · exact hrevise.1 hrevises
    · exact hclean.1.spares h hcleans

/-- An act under whose identifier a submission was saved found the store working. -/
theorem working_of_saved? {x : Act} {s : Submission} (h : x.saved? id w = some s) : w.store.poisoned = false := by
  rcases x.effect id w with ⟨hs, _, _, _⟩ | ⟨t, _, _, _, hworking, _, _⟩ | ⟨hs, _, _, _⟩
  · rw [hs] at h
    cases h
  · exact hworking
  · rw [hs] at h
    cases h

/-- Where clean-ups are asked for only with the first publication, they delete submissions of the trial and no others: a submission
saved while the questionnaire was published is kept until the questions are changed; and a clean-up takes all submissions away that
there are, each of which was saved while the questionnaire was not published. -/
theorem clean_up_deletes_trial_submissions (hw : w.store = .empty) {acts : List Act} (hacts : w.Allows Act.CleansUnpublished acts)
    (id : QuestionnaireId) :
    (∀ before x after s, acts = before ++ x :: after → x.saved? id (w.run before) = some s →
      (w.run before).store.isPublished id = .ok true →
      (w.run (before ++ [x])).Allows (fun w x => ¬ x.Revises id w) after → s ∈ (w.run acts).store.kept id) ∧
    ∀ before x after, acts = before ++ x :: after → x.CleansUp id (w.run before) →
      (w.run (before ++ [x])).store.kept id = [] ∧
      ∀ s ∈ (w.run before).store.kept id, ∃ earlier y later, before = earlier ++ y :: later ∧
        y.saved? id (w.run earlier) = some s ∧ (w.run earlier).store.isPublished id = .ok false := by
  constructor
  · rintro before x after s rfl hs hpublished hrevise
    have hp : (w.run before).store.published id = true := (Store.isPublished_eq_ok_iff.1 hpublished).2
    have hp' : (w.run (before ++ [x])).store.published id = true := by
      rw [run_append]
      exact x.published_run hp
    have hclean : (w.run (before ++ [x])).Allows Act.CleansUnpublished after := by
      have hsplit : before ++ x :: after = (before ++ [x]) ++ after := by simp
      rw [hsplit] at hacts
      exact (allows_append.1 hacts).2
    exact mem_kept_run_iff.2 (Or.inr ⟨before, x, after, rfl, hs, spares_of_published hp' hclean hrevise⟩)
  · rintro before x after rfl hcleans
    constructor
    · rw [run_append]
      rcases x.effect id (w.run before) with ⟨_, _, hspared, _⟩ | ⟨_, _, _, hspared, _, _, _⟩ | ⟨_, _, _, hk⟩
      · exact absurd (Or.inr hcleans) hspared
      · exact absurd (Or.inr hcleans) hspared
      · exact hk
    · intro s hs
      rcases mem_kept_run_iff.1 hs with ⟨hnone, _⟩ | ⟨earlier, y, later, rfl, hsaved, _⟩
      · rw [hw] at hnone
        exact absurd hnone List.not_mem_nil
      · refine ⟨earlier, y, later, rfl, hsaved, Store.isPublished_eq_ok_iff.2 ⟨working_of_saved? hsaved, ?_⟩⟩
        -- had it been published by then, it would be published still, and nobody would clean up
        cases hp : (w.run earlier).store.published id with
        | false => rfl
        | true =>
          have hstill : (w.run (earlier ++ y :: later)).store.published id = true := by
            rw [run_append]
            exact published_run _ hp
          exact absurd hcleans ((allows_append.1 hacts).2.1.spares hstill)

namespace Trial

open EditedPoll (poll)

/-- A submission to the poll. -/
def given (respondent : RespondentId) : Submission := { questionnaire := 1, revision := 0, respondent, answers := [] }

/-- The poll is tried out, published with a clean-up, and answered. -/
def acts : List Act := [.insert poll, .save (given 7), .publish 1 true, .save (given 8), .publish 1 false]

/-- The submission of the trial is deleted with publication, the one after it is kept. -/
theorem trial_submission_deleted :
    ({} : World).store = .empty ∧ ({} : World).Allows Act.CleansUnpublished acts ∧
    given 8 ∈ (run {} acts).store.kept 1 ∧
    (run {} (acts.take 3)).store.kept 1 = [] ∧
    ∀ s ∈ (run {} (acts.take 2)).store.kept 1, ∃ earlier y later, acts.take 2 = earlier ++ y :: later ∧
      y.saved? 1 (run {} earlier) = some s ∧ (run {} earlier).store.isPublished 1 = .ok false := by
  have hempty : ({} : World).store = .empty := rfl
  have hallowed : ({} : World).Allows Act.CleansUnpublished acts := by decide
  obtain ⟨hkept, hdeleted⟩ := clean_up_deletes_trial_submissions hempty hallowed 1
  refine ⟨hempty, hallowed, ?_, ?_⟩
  · exact hkept (acts.take 3) (.save (given 8)) [.publish 1 false] (given 8) rfl (by decide) (by decide) (by decide)
  · exact hdeleted (acts.take 2) (.publish 1 true) [.save (given 8), .publish 1 false] rfl (by decide)

/-- A submission saved while the questionnaire is published need not be kept: publishing once more with a clean-up deletes it. -/
theorem second_clean_up_deletes :
    ¬ ∀ (id : QuestionnaireId) (before : List Act) (x : Act) (after : List Act) (s : Submission),
      x.saved? id (run {} before) = some s → (run {} before).store.isPublished id = .ok true →
      (run {} (before ++ [x])).Allows (fun w x => ¬ x.Revises id w) after →
      s ∈ (run {} (before ++ x :: after)).store.kept id := by
  intro h
  have hkept := h 1 [.insert poll, .publish 1 false] (.save (given 8)) [.publish 1 true] (given 8) (by decide) (by decide) (by decide)
  revert hkept
  decide

end Trial

end World

end Survey
