import Survey.Store.Memory

/-!
# What each operation does to a store

Every operation refuses and leaves the store as it was, or puts one record in the place of the one of its identifier. Said once for
each operation, with all it gives, so that what is said of stores later need not look into them.
-/

namespace Survey.Store

/-- A record is kept under its own identifier. -/
theorem id_of_record? {st : Store} {id : QuestionnaireId} {r : StoreRecord} (h : st.record? id = some r) : r.id = id := by
  simpa using List.find?_some h

/-- A working store keeps a questionnaire it is given. -/
theorem insert_of_working {st : Store} (h : st.poisoned = false) (q : Questionnaire) :
    st.insert q = { result := .ok (), state := st.hold q, events := [.questionnaireStored q.id] } := by
  simp [insert, guarded, h]

theorem hold_of_fresh {st : Store} {q : Questionnaire} (h : st.record? q.id = none) :
    st.hold q = st.put { questionnaire := q } := by
  simp [hold, h]

/-- What an operation on the record of a questionnaire gives comes of that record, or is a refusal. -/
theorem withRecord_cases {α : Type} (st : Store) (id : QuestionnaireId) (run : StoreRecord → Reply Store StoreError α) :
    (∃ e, st.withRecord id run = st.refuse e) ∨
      ∃ r, st.poisoned = false ∧ st.record? id = some r ∧ st.withRecord id run = run r := by
  unfold withRecord guarded
  split
  · exact Or.inl ⟨_, rfl⟩
  · rename_i hp
    cases hr : st.record? id with
    | none => exact Or.inl ⟨_, rfl⟩
    | some r => exact Or.inr ⟨r, by simpa using hp, rfl, rfl⟩

/-- Revising refuses, breaks the store at the last revision, or puts the questionnaire with the other questions, at the next
revision and without submissions, in the place of the old one. -/
theorem revise_cases (st : Store) (id : QuestionnaireId) (questions : List Question) :
    (∃ e, st.revise id questions = st.refuse e) ∨
    (∃ r, st.record? id = some r ∧ r.questionnaire.revision = lastRevision ∧
      st.revise id questions = { result := .error (.revisionsExhausted id), state := { st with poisoned := true } }) ∨
    ∃ r q, st.record? id = some r ∧ r.questionnaire.revision ≠ lastRevision ∧
      (revised r.questionnaire.definition questions).build = .ok q ∧
      st.revise id questions =
        { result := .ok q.revision, state := st.put { r with questionnaire := q, submissions := [] },
          events := [.questionsChanged id q.revision r.submissions.length] } := by
  unfold revise
  rcases withRecord_cases st id _ with ⟨e, h⟩ | ⟨r, _, hr, h⟩
  · exact Or.inl ⟨e, h⟩
  · rw [h]
    split
    · rename_i hlast
      exact Or.inr (Or.inl ⟨r, hr, hlast, rfl⟩)
    · rename_i hlast
      cases hb : (revised r.questionnaire.definition questions).build with
      | error problem => exact Or.inl ⟨_, rfl⟩
      | ok q => exact Or.inr (Or.inr ⟨r, q, hr, hlast, hb, rfl⟩)

/-- A questionnaire with its questions changed keeps its identifier and moves to the next revision. -/
theorem build_revised {d : Definition} {questions : List Question} {q : Questionnaire}
    (h : (revised d questions).build = .ok q) : q.id = d.id ∧ q.revision = d.revision + 1 := by
  have hd := (Definition.build_eq_ok_iff.1 h).2
  unfold Questionnaire.id Questionnaire.revision
  rw [hd]
  exact ⟨rfl, rfl⟩

/-- Every revision but the last has a later one. -/
theorem lt_next_revision {revision : UInt64} (h : revision ≠ lastRevision) : revision < revision + 1 := by
  have hlt : revision.toNat < 2 ^ 64 := revision.toNat_lt
  have hne : revision.toNat ≠ 2 ^ 64 - 1 := fun e => h (UInt64.toNat_inj.1 e)
  rw [UInt64.lt_iff_toNat_lt, UInt64.toNat_add]
  have hone : (1 : UInt64).toNat = 1 := rfl
  omega

/-- Publishing refuses, or marks the record published and, if asked to, takes its submissions away. -/
theorem publish_cases (st : Store) (id : QuestionnaireId) (clean : Bool) :
    (∃ e, st.publish id clean = st.refuse e) ∨
    ∃ r, st.record? id = some r ∧
      st.publish id clean =
        { result := .ok (if clean then r.submissions.length else 0),
          state := st.put { r with published := true, submissions := if clean then [] else r.submissions },
          events := [.questionnairePublished id (if clean then r.submissions.length else 0)] } := by
  unfold publish
  rcases withRecord_cases st id _ with ⟨e, h⟩ | ⟨r, _, hr, h⟩
  · exact Or.inl ⟨e, h⟩
  · exact Or.inr ⟨r, hr, h⟩

/-- Saving a submission leaves the store as it is, unless the submission answers the revision kept and is the first of its
respondent; then it joins the others. -/
theorem save_cases (st : Store) (s : Submission) :
    ((st.save s).result ≠ .ok .saved ∧ (st.save s).state = st) ∨
    ∃ r, st.record? s.questionnaire = some r ∧ s.revision = r.questionnaire.revision ∧
      (∀ other ∈ r.submissions, other.respondent ≠ s.respondent) ∧
      st.save s = { result := .ok .saved, state := st.put { r with submissions := r.submissions ++ [s] } } := by
  unfold save
  rcases withRecord_cases st s.questionnaire _ with ⟨e, h⟩ | ⟨r, _, hr, h⟩
  · exact Or.inl ⟨by rw [h]; exact nofun, by rw [h]; rfl⟩
  · rw [h]
    split
    · exact Or.inl ⟨nofun, rfl⟩
    · rename_i hrevision
      split
      · exact Or.inl ⟨nofun, rfl⟩
      · rename_i hfirst
        refine Or.inr ⟨r, hr, by simpa using hrevision, fun other hother => ?_, rfl⟩
        simp only [List.any_eq_true, decide_eq_true_eq, not_exists, not_and] at hfirst
        exact hfirst other hother

/-- What is fetched is the questionnaire of a record. -/
theorem fetch_eq_ok_iff {st : Store} {id : QuestionnaireId} {q : Questionnaire} :
    st.fetch id = .ok q ↔ st.poisoned = false ∧ ∃ r, st.record? id = some r ∧ r.questionnaire = q := by
  unfold fetch look
  cases st.poisoned with
  | true => simp
  | false => cases st.record? id <;> simp

end Survey.Store
