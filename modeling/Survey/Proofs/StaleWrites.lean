import Survey.Proofs.Suitability
import Survey.Proofs.World

/-!
# No stale write

Whatever editors and respondents do in whatever order, every submission a store keeps was given against the questionnaire the store
keeps, and not against an earlier state of it. A session works on a copy, so the invariant ties each copy to the record: the store
keeps that very questionnaire, or a later revision of it (`Store.Knows`). A submission that answers the revision kept therefore
answers the questionnaire kept.
-/

namespace Survey

/-- A submission was given against a questionnaire: it holds answers that suit the questionnaire and pass its checks. -/
def Submission.GivenAgainst (s : Submission) (q : Questionnaire) : Prop :=
  ∃ answers settings termsAccepted, q.stale? answers = none ∧
    q.checkAll settings answers (q.visibility answers) termsAccepted = .ok () ∧
    s = q.compile s.respondent answers (q.visibility answers)

theorem Submission.GivenAgainst.questionnaire_revision {s : Submission} {q : Questionnaire} (h : s.GivenAgainst q) :
    s.questionnaire = q.id ∧ s.revision = q.revision := by
  obtain ⟨_, _, _, _, _, hcompiled⟩ := h
  rw [hcompiled]
  exact ⟨rfl, rfl⟩

/-- What a session hands over was given against its questionnaire. -/
theorem Session.Suited.submission_givenAgainst {s : Session} (h : s.Suited) (hv : s.validate = .ok ()) :
    s.submission.GivenAgainst s.questionnaire :=
  ⟨s.answers, s.settings, s.termsAccepted, h, hv, rfl⟩

namespace Store

/-! ## The questionnaires a store knows -/

/-- A store keeps a questionnaire, or a later revision of it. -/
def Knows (st : Store) (q : Questionnaire) : Prop :=
  ∃ r, st.record? q.id = some r ∧ (r.questionnaire = q ∨ q.revision < r.questionnaire.revision)

theorem knows_of_fetch {st : Store} {id : QuestionnaireId} {q : Questionnaire} (h : st.fetch id = .ok q) : st.Knows q := by
  obtain ⟨_, r, hr, rfl⟩ := fetch_eq_ok_iff.1 h
  have hid : r.questionnaire.id = id := id_of_record? hr
  exact ⟨r, hid ▸ hr, Or.inl rfl⟩

/-- A questionnaire known at the revision kept is the one kept. -/
theorem Knows.eq_of_revision {st : Store} {q : Questionnaire} {r : StoreRecord} (h : st.Knows q)
    (hr : st.record? q.id = some r) (hrevision : q.revision = r.questionnaire.revision) : r.questionnaire = q := by
  obtain ⟨r', hr', hcase⟩ := h
  rw [hr] at hr'
  cases hr'
  rcases hcase with heq | hlt
  · exact heq
  · rw [hrevision] at hlt
    exact absurd hlt (UInt64.lt_irrefl _)

/-- A store goes on knowing questionnaires when a record is replaced by one of the same questionnaire or of a later revision. -/
theorem Knows.put {st : Store} {q : Questionnaire} {r' : StoreRecord} (h : st.Knows q)
    (hlater : ∀ r, st.record? r'.id = some r →
      r'.questionnaire = r.questionnaire ∨ r.questionnaire.revision < r'.questionnaire.revision) :
    (st.put r').Knows q := by
  obtain ⟨r, hr, hcase⟩ := h
  by_cases hid : q.id = r'.id
  · refine ⟨r', by rw [record?_put, if_pos hid], ?_⟩
    rcases hlater r (hid ▸ hr) with heq | hlt
    · rw [heq]
      exact hcase
    · rcases hcase with rfl | hlt'
      · exact Or.inr hlt
      · exact Or.inr (UInt64.lt_trans hlt' hlt)
  · exact ⟨r, by rw [record?_put, if_neg hid]; exact hr, hcase⟩

/-! ## Stores whose submissions answer their questionnaires -/

/-- A store works, and every submission it keeps was given against the questionnaire it is kept with. -/
structure Faithful (st : Store) : Prop where
  working : st.poisoned = false
  given : ∀ id r, st.record? id = some r → ∀ s ∈ r.submissions, s.GivenAgainst r.questionnaire

theorem Faithful.put {st : Store} (h : st.Faithful) {r : StoreRecord}
    (hr : ∀ s ∈ r.submissions, s.GivenAgainst r.questionnaire) : (st.put r).Faithful where
  working := h.working
  given id found hfound := by
    rw [record?_put] at hfound
    split at hfound
    · cases hfound
      exact hr
    · exact h.given id found hfound

/-- How a store may move on: its submissions stay faithful and no questionnaire it knows is forgotten. -/
def Advances (st st' : Store) : Prop := st'.Faithful ∧ ∀ q, st.Knows q → st'.Knows q

theorem Faithful.advances_self {st : Store} (h : st.Faithful) : st.Advances st := ⟨h, fun _ hq => hq⟩

/-- Putting a record in the place of one of the same questionnaire or of an earlier revision, with faithful submissions. -/
theorem Faithful.advances_put {st : Store} (h : st.Faithful) {id : QuestionnaireId} {r r' : StoreRecord}
    (hr : st.record? id = some r) (hid : r'.id = r.id) (hgiven : ∀ s ∈ r'.submissions, s.GivenAgainst r'.questionnaire)
    (hlater : r'.questionnaire = r.questionnaire ∨ r.questionnaire.revision < r'.questionnaire.revision) :
    st.Advances (st.put r') := by
  refine ⟨h.put hgiven, fun q hq => hq.put fun old hold => ?_⟩
  rw [hid, id_of_record? hr, hr] at hold
  cases hold
  exact hlater

theorem Faithful.insert {st : Store} (h : st.Faithful) {q : Questionnaire} (hq : st.record? q.id = none) :
    st.Advances (st.insert q).state := by
  rw [insert_of_working h.working, hold_of_fresh hq]
  refine ⟨h.put fun s hs => absurd hs List.not_mem_nil, fun known hknown => hknown.put fun r hr => ?_⟩
  rw [StoreRecord.id, hq] at hr
  cases hr

theorem Faithful.revise {st : Store} (h : st.Faithful) {id : QuestionnaireId} {questions : List Question}
    (hid : ∀ r ∈ st.record? id, r.questionnaire.revision < lastRevision) :
    st.Advances (st.revise id questions).state := by
  rcases revise_cases st id questions with ⟨e, heq⟩ | ⟨r, hr, hlast, _⟩ | ⟨r, q, hr, hnext, hbuild, heq⟩
  · rw [heq]
    exact h.advances_self
  · have hlt := hid r hr
    rw [hlast] at hlt
    exact absurd hlt (UInt64.lt_irrefl _)
  · rw [heq]
    obtain ⟨hqid, hqrevision⟩ := build_revised hbuild
    have hlt : r.questionnaire.revision < q.revision := by
      rw [hqrevision]
      exact lt_next_revision hnext
    exact h.advances_put hr hqid (fun s hs => absurd hs List.not_mem_nil) (Or.inr hlt)

theorem Faithful.publish {st : Store} (h : st.Faithful) (id : QuestionnaireId) (clean : Bool) :
    st.Advances (st.publish id clean).state := by
  rcases publish_cases st id clean with ⟨e, heq⟩ | ⟨r, hr, heq⟩ <;> rw [heq]
  · exact h.advances_self
  · refine h.advances_put hr rfl (fun s hs => ?_) (Or.inl rfl)
    cases clean with
    | true => exact absurd hs List.not_mem_nil
    | false => exact h.given id r hr s hs

/-- A submission given against a questionnaire the store knows is saved only if the store keeps just that questionnaire. -/
theorem Faithful.save {st : Store} (h : st.Faithful) {q : Questionnaire} (hq : st.Knows q) {s : Submission}
    (hs : s.GivenAgainst q) : st.Advances (st.save s).state := by
  rcases save_cases st s with ⟨_, heq⟩ | ⟨r, hr, hrevision, _, heq⟩ <;> rw [heq]
  · exact h.advances_self
  · obtain ⟨hid, hrev⟩ := hs.questionnaire_revision
    have hkept : r.questionnaire = q := hq.eq_of_revision (hid ▸ hr) (hrev ▸ hrevision)
    refine h.advances_put hr rfl (fun t ht => ?_) (Or.inl rfl)
    rcases List.mem_append.1 ht with ht | ht
    · exact h.given _ r hr t ht
    · rw [List.mem_singleton.1 ht, hkept]
      exact hs

end Store

/-! ## Worlds without stale writes -/

/-- The acts this is about: a questionnaire is inserted only where none of its identifier is kept, no questionnaire is at the last
revision when it is revised, and submissions come from sessions only. -/
def Act.Orderly (w : World) : Act → Prop
  | .insert q => w.store.record? q.id = none
  | .revise id _ => ∀ r ∈ w.store.record? id, r.questionnaire.revision < Store.lastRevision
  | .save _ => False
  | .publish .. | .start .. | .move .. | .submit .. => True

instance (w : World) : (x : Act) → Decidable (x.Orderly w)
  | .insert q => inferInstanceAs (Decidable (w.store.record? q.id = none))
  | .revise id _ => inferInstanceAs (Decidable (∀ r ∈ w.store.record? id, r.questionnaire.revision < Store.lastRevision))
  | .save _ => inferInstanceAs (Decidable False)
  | .publish .. | .start .. | .move .. | .submit .. => inferInstanceAs (Decidable True)

namespace World

/-- The store is faithful and knows the questionnaire of every session, and the answers of every session suit its questionnaire. -/
structure UpToDate (w : World) : Prop where
  faithful : w.store.Faithful
  known : ∀ name s, w.sessions name = some s → w.store.Knows s.questionnaire
  suited : ∀ name s, w.sessions name = some s → s.Suited

theorem empty_upToDate : ({} : World).UpToDate where
  faithful := ⟨rfl, fun _ _ hr => by cases hr⟩
  known _ _ hs := by cases hs
  suited _ _ hs := by cases hs

/-- A store that advances does not outdate a world. -/
theorem UpToDate.with_store {w : World} (h : w.UpToDate) {st : Store} (hst : w.store.Advances st) :
    ({ w with store := st } : World).UpToDate where
  faithful := hst.1
  known name s hs := hst.2 _ (h.known name s hs)
  suited := h.suited

theorem UpToDate.withSession {w : World} (h : w.UpToDate) {s : Session} (hknown : w.store.Knows s.questionnaire)
    (hsuited : s.Suited) (name : SessionName) : (w.withSession name s).UpToDate where
  faithful := h.faithful
  known other t ht := by
    rcases withSession_sessions ht with rfl | ht
    · exact hknown
    · exact h.known other t ht
  suited other t ht := by
    rcases withSession_sessions ht with rfl | ht
    · exact hsuited
    · exact h.suited other t ht

theorem UpToDate.submit {w : World} (h : w.UpToDate) {name : SessionName} {s : Session} (hs : w.sessions name = some s) :
    (w.submit name s).UpToDate := by
  have hknown := h.known name s hs
  have hsuited := h.suited name s hs
  have hadvances : w.store.Advances (s.submit Store.keeper w.store).state.2 := by
    rcases submit_store s w.store with heq | ⟨hv, heq⟩ <;> rw [heq]
    · exact h.faithful.advances_self
    · exact h.faithful.save hknown (hsuited.submission_givenAgainst hv)
  refine (h.with_store hadvances).withSession ?_ (hsuited.submit _ _) name
  obtain ⟨_, _, hsession, _⟩ := Session.submit_session Store.keeper s w.store
  rw [hsession]
  exact hadvances.2 _ hknown

/-- Every orderly act keeps a world up to date. -/
theorem UpToDate.act {w : World} (h : w.UpToDate) {x : Act} (hx : x.Orderly w) : (x.run w).UpToDate := by
  cases x with
  | insert q => exact h.with_store (h.faithful.insert hx)
  | revise id questions => exact h.with_store (h.faithful.revise hx)
  | publish id clean => exact h.with_store (h.faithful.publish id clean)
  | save s => exact hx.elim
  | start name id settings =>
    rcases start_cases w name id settings with heq | ⟨q, hq, heq⟩ <;> rw [Act.run, heq]
    · exact h
    · exact h.withSession (Store.knows_of_fetch hq) (Session.fresh_suited _ _ _) name
  | move name m =>
    cases hs : w.sessions name with
    | none => simpa only [Act.run, hs] using h
    | some s =>
      have hform := (m.sameForm s).questionnaire
      simp only [Act.run, hs]
      exact h.withSession (hform ▸ h.known name s hs) ((h.suited name s hs).move m) name
  | submit name =>
    cases hs : w.sessions name with
    | none => simpa only [Act.run, hs] using h
    | some s =>
      simp only [Act.run, hs]
      exact h.submit hs

/-- No stale write: in every world reached by orderly acts, in whatever order they came, each submission kept under an identifier
was given against the questionnaire kept there. -/
theorem no_stale_write {w : World} (h : Reached Act.Orderly w) (id : QuestionnaireId) :
    ∃ kept, w.store.submissions id = .ok kept ∧
      ∀ s ∈ kept, ∃ q, w.store.fetch id = .ok q ∧ s.questionnaire = id ∧ s.revision = q.revision ∧ s.GivenAgainst q := by
  have hw : w.UpToDate := h.invariant empty_upToDate fun _ _ hw hx => hw.act hx
  have hworking := hw.faithful.working
  refine ⟨w.store.kept id, by simp [Store.submissions, Store.look, hworking], fun s hs => ?_⟩
  unfold Store.kept at hs
  cases hr : w.store.record? id with
  | none => simp [hr] at hs
  | some r =>
    simp only [hr, Option.map_some, Option.getD_some] at hs
    have hgiven := hw.faithful.given id r hr s hs
    obtain ⟨hid, hrevision⟩ := hgiven.questionnaire_revision
    have hkey : r.questionnaire.id = id := Store.id_of_record? hr
    exact ⟨r.questionnaire, Store.fetch_eq_ok_iff.2 ⟨hworking, r, hr, rfl⟩, hid.trans hkey, hrevision, hgiven⟩

namespace EditedPoll

/-- A question in text. -/
def question (body : String) : Question := { id := 1, position := 0, body, kind := .shortAnswer, mandatory := true }

/-- A poll of one question. -/
def poll : Questionnaire where
  definition := { id := 1, title := "Poll", questions := [question "Which birds did you see?"] }
  wellFormed := Definition.problem?_eq_none_iff.1 (by decide)
  ascending := by decide

/-- Two respondents open the poll, one submits, the question is changed, the other submits too late, opens the poll again and
submits in time. -/
def acts : List Act :=
  [.insert poll, .start ⟨7, 0⟩ 1 {}, .start ⟨8, 0⟩ 1 {}, .move ⟨7, 0⟩ (.answer 1 (.text "Crows")), .submit ⟨7, 0⟩,
    .move ⟨8, 0⟩ (.answer 1 (.text "Parrots")), .revise 1 [question "Which parrots did you see?"], .submit ⟨8, 0⟩,
    .start ⟨8, 1⟩ 1 {}, .move ⟨8, 1⟩ (.answer 1 (.text "Cockatoos")), .submit ⟨8, 1⟩]

/-- The submission that is kept in the end. -/
def kept : Submission :=
  { questionnaire := 1, revision := 1, respondent := 8, answers := [{ question := 1, body := some "Cockatoos" }] }

/-- Of the three submissions the one to the changed question is kept, and it was given against the questionnaire kept. -/
theorem edited_poll_keeps_no_stale_submission :
    Reached Act.Orderly (run {} acts) ∧ (run {} acts).store.submissions 1 = .ok [kept] ∧
      ∃ q, (run {} acts).store.fetch 1 = .ok q ∧ kept.questionnaire = 1 ∧ kept.revision = q.revision ∧ kept.GivenAgainst q := by
  have hreached : Reached Act.Orderly (run {} acts) := Reached.empty.run (by decide)
  have hkept : (run {} acts).store.submissions 1 = .ok [kept] := rfl
  obtain ⟨found, hfound, hgiven⟩ := no_stale_write hreached 1
  rw [hkept] at hfound
  cases hfound
  exact ⟨hreached, hkept, hgiven kept (List.mem_singleton_self _)⟩

end EditedPoll

end World

end Survey
