import Survey.Proofs.Bookkeeping

/-!
# Stores that are alike for a respondent

Two stores are alike for a respondent when they keep the same questionnaires, with the same submissions of this respondent; they may
differ in the submissions of everybody else. Whatever is done to both leaves them alike, and what the respondent does gives the same
with both. What another respondent does to one of them leaves it alike to what it was.
-/

namespace Survey

/-- A record as a respondent sees it: of the submissions there are only theirs. -/
def StoreRecord.seenBy (r : RespondentId) (record : StoreRecord) : StoreRecord :=
  { record with submissions := record.submissions.filter (·.respondent = r) }

/-- Two records seen alike have the same questionnaire and the same submissions of the respondent. -/
theorem StoreRecord.seenBy_eq_iff {r : RespondentId} {a b : StoreRecord} :
    a.seenBy r = b.seenBy r ↔ a.questionnaire = b.questionnaire ∧ a.published = b.published ∧
      a.submissions.filter (·.respondent = r) = b.submissions.filter (·.respondent = r) := by
  simp [seenBy]

/-- Whether a respondent is among those of the submissions is seen in their own. -/
theorem StoreRecord.any_seenBy {r : RespondentId} (a : StoreRecord) :
    a.submissions.any (·.respondent = r) = (a.seenBy r).submissions.any (·.respondent = r) := by
  simp [seenBy, List.any_filter]

namespace Store

/-- Two stores differ in nothing but the submissions of other respondents. -/
structure AlikeFor (r : RespondentId) (st st' : Store) : Prop where
  poisoned : st.poisoned = st'.poisoned
  records : ∀ id, (st.record? id).map (·.seenBy r) = (st'.record? id).map (·.seenBy r)

namespace AlikeFor

variable {r : RespondentId} {st st' st'' : Store}

theorem refl (r : RespondentId) (st : Store) : st.AlikeFor r st := ⟨rfl, fun _ => rfl⟩

theorem symm (h : st.AlikeFor r st') : st'.AlikeFor r st := ⟨h.poisoned.symm, fun id => (h.records id).symm⟩

theorem trans (h : st.AlikeFor r st') (h' : st'.AlikeFor r st'') : st.AlikeFor r st'' :=
  ⟨h.poisoned.trans h'.poisoned, fun id => (h.records id).trans (h'.records id)⟩

/-- Under an identifier either both keep nothing or both keep records seen alike. -/
theorem record?_cases (h : st.AlikeFor r st') (id : QuestionnaireId) :
    st.record? id = none ∧ st'.record? id = none ∨
      ∃ a b, st.record? id = some a ∧ st'.record? id = some b ∧ a.seenBy r = b.seenBy r := by
  have hseen := h.records id
  cases ha : st.record? id <;> cases hb : st'.record? id <;> simp_all

/-! ## Keeping a record -/

/-- Records seen alike are put in the places of two that may differ. -/
theorem put (h : st.AlikeFor r st') {a b : StoreRecord} (hab : a.seenBy r = b.seenBy r) :
    (st.put a).AlikeFor r (st'.put b) where
  poisoned := h.poisoned
  records id := by
    have hid : a.id = b.id := congrArg Questionnaire.id (StoreRecord.seenBy_eq_iff.1 hab).1
    rw [record?_put, record?_put, hid]
    split
    · exact congrArg some hab
    · exact h.records id

/-- A record put in the place of one that is seen alike. -/
theorem of_put {a b : StoreRecord} (hb : st.record? a.id = some b) (hab : a.seenBy r = b.seenBy r) : (st.put a).AlikeFor r st where
  poisoned := rfl
  records id := by
    rw [record?_put]
    split
    · rename_i hid
      rw [hid, hb]
      exact congrArg some hab
    · rfl

theorem hold (h : st.AlikeFor r st') (q : Questionnaire) : (st.hold q).AlikeFor r (st'.hold q) := by
  unfold Store.hold
  rcases h.record?_cases q.id with ⟨ha, hb⟩ | ⟨a, b, ha, hb, hab⟩ <;> rw [ha, hb]
  · exact h.put rfl
  · obtain ⟨_, hpublished, hown⟩ := StoreRecord.seenBy_eq_iff.1 hab
    exact h.put (StoreRecord.seenBy_eq_iff.2 ⟨rfl, hpublished, hown⟩)

/-! ## Operations on a record -/

/-- What is so for refusals and for records seen alike is so for operations on the records of a questionnaire. -/
theorem withRecord {α : Type} {R : Reply Store StoreError α → Reply Store StoreError α → Prop} (h : st.AlikeFor r st')
    (id : QuestionnaireId) {run run' : StoreRecord → Reply Store StoreError α} (hrefuse : ∀ e, R (st.refuse e) (st'.refuse e))
    (hrun : ∀ a b, a.seenBy r = b.seenBy r → R (run a) (run' b)) : R (st.withRecord id run) (st'.withRecord id run') := by
  unfold Store.withRecord guarded
  rw [h.poisoned]
  split
  · exact hrefuse _
  · rcases h.record?_cases id with ⟨ha, hb⟩ | ⟨a, b, ha, hb, hab⟩ <;> rw [ha, hb]
    · exact hrefuse _
    · exact hrun a b hab

theorem insert (h : st.AlikeFor r st') (q : Questionnaire) : (st.insert q).state.AlikeFor r (st'.insert q).state := by
  unfold Store.insert guarded
  rw [h.poisoned]
  split
  · exact h
  · exact h.hold q

theorem revise (h : st.AlikeFor r st') (id : QuestionnaireId) (questions : List Question) :
    (st.revise id questions).state.AlikeFor r (st'.revise id questions).state := by
  refine h.withRecord (R := fun x y => x.state.AlikeFor r y.state) id (fun _ => h) fun a b hab => ?_
  obtain ⟨hquestionnaire, hpublished, _⟩ := StoreRecord.seenBy_eq_iff.1 hab
  simp only [hquestionnaire]
  split
  · exact ⟨rfl, h.records⟩
  · cases (revised b.questionnaire.definition questions).build with
    | error problem => exact h
    | ok q => exact h.put (StoreRecord.seenBy_eq_iff.2 ⟨rfl, hpublished, rfl⟩)

theorem publish (h : st.AlikeFor r st') (id : QuestionnaireId) (clean : Bool) :
    (st.publish id clean).state.AlikeFor r (st'.publish id clean).state := by
  refine h.withRecord (R := fun x y => x.state.AlikeFor r y.state) id (fun _ => h) fun a b hab => ?_
  obtain ⟨hquestionnaire, _, hown⟩ := StoreRecord.seenBy_eq_iff.1 hab
  refine h.put (StoreRecord.seenBy_eq_iff.2 ⟨hquestionnaire, rfl, ?_⟩)
  cases clean with
  | false => exact hown
  | true => rfl

/-- A respondent's submission fares alike with both stores. -/
theorem save_own (h : st.AlikeFor r st') {s : Submission} (hs : s.respondent = r) :
    (st.save s).result = (st'.save s).result ∧ (st.save s).state.AlikeFor r (st'.save s).state := by
  refine h.withRecord (R := fun x y => x.result = y.result ∧ x.state.AlikeFor r y.state) s.questionnaire (fun _ => ⟨rfl, h⟩)
    fun a b hab => ?_
  obtain ⟨hquestionnaire, hpublished, hown⟩ := StoreRecord.seenBy_eq_iff.1 hab
  have hany : a.submissions.any (·.respondent = s.respondent) = b.submissions.any (·.respondent = s.respondent) := by
    rw [hs, a.any_seenBy, hab, ← b.any_seenBy]
  rw [hquestionnaire, hany]
  split
  · exact ⟨rfl, h⟩
  · split
    · exact ⟨rfl, h⟩
    · refine ⟨rfl, h.put (StoreRecord.seenBy_eq_iff.2 ⟨rfl, hpublished, ?_⟩)⟩
      rw [List.filter_append, List.filter_append, hown]

end AlikeFor

/-- What another respondent submits is not seen. -/
theorem save_other (st : Store) {r : RespondentId} {s : Submission} (hs : s.respondent ≠ r) : (st.save s).state.AlikeFor r st := by
  rcases save_cases st s with ⟨_, h⟩ | ⟨record, hrecord, _, _, h⟩
  · rw [h]
    exact .refl r st
  · rw [h]
    have hid := id_of_record? hrecord
    refine .of_put (b := record) (by rw [← hid] at hrecord; exact hrecord) (StoreRecord.seenBy_eq_iff.2 ⟨rfl, rfl, ?_⟩)
    simp [List.filter_append, hs]

namespace AlikeFor

variable {r : RespondentId} {st st' : Store}

/-- Whatever is handed over to both stores, by whomever, leaves them alike. -/
theorem save (h : st.AlikeFor r st') (s : Submission) : (st.save s).state.AlikeFor r (st'.save s).state := by
  by_cases hs : s.respondent = r
  · exact (h.save_own hs).2
  · exact (st.save_other hs).trans (h.trans (st'.save_other hs).symm)

/-! ## What a respondent sees -/

theorem fetch (h : st.AlikeFor r st') (id : QuestionnaireId) : st.fetch id = st'.fetch id := by
  unfold Store.fetch look
  rw [h.poisoned]
  rcases h.record?_cases id with ⟨ha, hb⟩ | ⟨a, b, ha, hb, hab⟩ <;> rw [ha, hb]
  simp only [(StoreRecord.seenBy_eq_iff.1 hab).1]

/-- A respondent's submissions are kept in both. -/
theorem kept_own (h : st.AlikeFor r st') (id : QuestionnaireId) :
    (st.kept id).filter (·.respondent = r) = (st'.kept id).filter (·.respondent = r) := by
  have hkept (st : Store) : (st.kept id).filter (·.respondent = r) =
      (((st.record? id).map (·.seenBy r)).map (·.submissions)).getD [] := by
    unfold kept
    cases st.record? id <;> rfl
  rw [hkept, hkept, h.records]

/-- A respondent finds the same submission of theirs in both. -/
theorem submissionOf (h : st.AlikeFor r st') (id : QuestionnaireId) : st.submissionOf id r = st'.submissionOf id r := by
  unfold Store.submissionOf look
  rw [h.poisoned, ← List.head?_filter, ← List.head?_filter, h.kept_own]

theorem isAnsweredBy (h : st.AlikeFor r st') (id : QuestionnaireId) : st.isAnsweredBy id r = st'.isAnsweredBy id r := by
  unfold Store.isAnsweredBy
  rw [h.submissionOf]

/-! ## Sessions of a respondent -/

/-- A session is started from what the respondent sees. -/
theorem start (h : st.AlikeFor r st') (id : QuestionnaireId) (settings : SessionSettings) :
    (Session.start keeper id r settings st).result = (Session.start keeper id r settings st').result := by
  simp only [Session.start, keeper, h.isAnsweredBy]
  cases st'.isAnsweredBy id r with
  | error e => rfl
  | ok answered =>
    cases answered with
    | true => rfl
    | false =>
      simp only [h.fetch]
      cases st'.fetch id <;> rfl

theorem staleReason (h : st.AlikeFor r st') (s : Session) (current : UInt64) :
    (s.staleReason keeper current st).1 = (s.staleReason keeper current st').1 := by
  simp only [Session.staleReason, keeper, h.fetch]
  cases st'.fetch s.questionnaire.id <;> rfl

/-- A submission of the respondent comes to the same with both stores. -/
theorem submit (h : st.AlikeFor r st') {s : Session} (hs : s.respondent = r) :
    (s.submit keeper st).result = (s.submit keeper st').result ∧ (s.submit keeper st).state.1 = (s.submit keeper st').state.1 ∧
      (s.submit keeper st).state.2.AlikeFor r (s.submit keeper st').state.2 := by
  obtain ⟨hresult, hstate⟩ := h.save_own (s := s.submission) hs
  have hsave (st : Store) : keeper.save s.submission st = ((st.save s.submission).result, (st.save s.submission).state) := rfl
  unfold Session.submit
  split
  · exact ⟨rfl, rfl, h⟩
  · split
    · exact ⟨rfl, rfl, h⟩
    · cases s.validate with
      | error faults => exact ⟨rfl, rfl, h⟩
      | ok _ =>
        simp only [Session.handOver, hsave, hresult]
        cases (st'.save s.submission).result with
        | error e => exact ⟨rfl, rfl, hstate⟩
        | ok outcome =>
          cases outcome with
          | saved => exact ⟨rfl, rfl, hstate⟩
          | alreadyAnswered => exact ⟨rfl, rfl, hstate⟩
          | stale current =>
            refine ⟨congrArg Except.error (hstate.staleReason s current), rfl, ?_⟩
            simp only [World.staleReason_store]
            exact hstate

end AlikeFor

/-- What another respondent's session submits is not seen. -/
theorem submit_other (st : Store) {r : RespondentId} {s : Session} (hs : s.respondent ≠ r) :
    (s.submit keeper st).state.2.AlikeFor r st := by
  rcases submit_saves_or_leaves s st with ⟨_, h⟩ | ⟨_, _, h⟩ <;> rw [h]
  · exact .refl r st
  · exact st.save_other hs

end Store

end Survey
