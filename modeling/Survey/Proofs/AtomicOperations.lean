import Survey.Proofs.StoreOperations

/-!
# What an operation leaves alone

An operation on a store is about one questionnaire. If it does not do what is asked, for whatever reason, nothing that can be seen of the
store is different afterwards; if it does, nothing that can be seen of another questionnaire is. This comes of how an operation changes a
store: not at all, or by one record, put in the place of the one of its identifier when all else is decided (`Store.Operation.run_cases`).
What can be seen of a questionnaire is in its record.

Changing the questions is the operation with most to decide, so it is said in full what it does when it succeeds and when it fails.
-/

namespace Survey.Store

/-! ## Operations -/

/-- What a store can be asked to do that may change it. -/
inductive Operation where
  | insert (q : Questionnaire)
  | revise (id : QuestionnaireId) (questions : List Question)
  | publish (id : QuestionnaireId) (clean : Bool)
  | save (s : Submission)

namespace Operation

/-- The questionnaire an operation is about. -/
def id : Operation → QuestionnaireId
  | .insert q => q.id
  | .revise id _ | .publish id _ => id
  | .save s => s.questionnaire

/-- The store after an operation. -/
def run : Operation → Store → Store
  | .insert q, st => (st.insert q).state
  | .revise id questions, st => (st.revise id questions).state
  | .publish id clean, st => (st.publish id clean).state
  | .save s, st => (st.save s).state

/-- An operation does what is asked: it gives no error, and a submission is neither stale nor the second of its respondent. -/
def Succeeds (st : Store) : Operation → Prop
  | .insert q => (st.insert q).result = .ok ()
  | .revise id questions => ∃ revision, (st.revise id questions).result = .ok revision
  | .publish id clean => ∃ deleted, (st.publish id clean).result = .ok deleted
  | .save s => (st.save s).result = .ok .saved

/-- A questionnaire whose questions are to be changed is not at the last revision. -/
def LeavesNextRevision (st : Store) : Operation → Prop
  | .revise id _ => ∀ r ∈ st.record? id, r.questionnaire.revision < lastRevision
  | _ => True

instance (st : Store) : (x : Operation) → Decidable (x.LeavesNextRevision st)
  | .revise id _ => inferInstanceAs (Decidable (∀ r ∈ st.record? id, r.questionnaire.revision < lastRevision))
  | .insert _ | .publish .. | .save _ => inferInstanceAs (Decidable True)

/-- An operation on a working store does not do what is asked and leaves the store as it is, or it does and puts one record, of the
questionnaire it is about. -/
theorem run_cases {st : Store} (hworking : st.poisoned = false) (x : Operation) (hnext : x.LeavesNextRevision st) :
    ¬ x.Succeeds st ∧ x.run st = st ∨ x.Succeeds st ∧ ∃ r : StoreRecord, r.id = x.id ∧ x.run st = st.put r := by
  cases x with
  | insert q =>
    refine Or.inr ⟨by rw [Succeeds, insert_of_working hworking], ?_⟩
    rw [run, insert_of_working hworking]
    unfold hold
    split
    · exact ⟨_, rfl, rfl⟩
    · exact ⟨_, rfl, rfl⟩
  | revise id questions =>
    rcases revise_cases st id questions with ⟨e, heq⟩ | ⟨r, hr, hlast, _⟩ | ⟨r, q, hr, _, hbuild, heq⟩
    · refine Or.inl ⟨?_, by rw [run, heq]; rfl⟩
      rintro ⟨_, hok⟩
      rw [heq] at hok
      cases hok
    · -- at the last revision there is no next one: that is ruled out
      have hlt := hnext r hr
      rw [hlast] at hlt
      exact absurd hlt (UInt64.lt_irrefl _)
    · refine Or.inr ⟨⟨_, by rw [heq]⟩, _, ?_, by rw [run, heq]⟩
      exact (build_revised hbuild).1.trans (id_of_record? hr)
  | publish id clean =>
    rcases publish_cases st id clean with ⟨e, heq⟩ | ⟨r, hr, heq⟩
    · refine Or.inl ⟨?_, by rw [run, heq]; rfl⟩
      rintro ⟨_, hok⟩
      rw [heq] at hok
      cases hok
    · have hid : r.id = id := id_of_record? hr
      refine Or.inr ⟨⟨_, by rw [heq]⟩, _, ?_, by rw [run, heq]⟩
      exact hid
  | save s =>
    rcases save_cases st s with ⟨hne, hstate⟩ | ⟨r, hr, _, _, heq⟩
    · exact Or.inl ⟨hne, hstate⟩
    · have hid : r.id = s.questionnaire := id_of_record? hr
      refine Or.inr ⟨by rw [Succeeds, heq], _, ?_, by rw [run, heq]⟩
      exact hid

end Operation

/-! ## What can be seen of a questionnaire -/

/-- All that can be seen of a questionnaire is the same in two stores. -/
structure SameOf (id : QuestionnaireId) (st st' : Store) : Prop where
  fetch : st'.fetch id = st.fetch id
  isPublished : st'.isPublished id = st.isPublished id
  submissions : st'.submissions id = st.submissions id
  submissionOf : ∀ respondent, st'.submissionOf id respondent = st.submissionOf id respondent
  isAnsweredBy : ∀ respondent, st'.isAnsweredBy id respondent = st.isAnsweredBy id respondent

variable {st : Store} {id : QuestionnaireId}

theorem SameOf.refl (id : QuestionnaireId) (st : Store) : SameOf id st st :=
  ⟨rfl, rfl, rfl, fun _ => rfl, fun _ => rfl⟩

/-- What can be seen of a questionnaire depends on its record and on whether the store works. -/
theorem SameOf.of_record? {st' : Store} (hpoisoned : st'.poisoned = st.poisoned) (hrecord : st'.record? id = st.record? id) :
    SameOf id st st' := by
  have hkept : st'.kept id = st.kept id := by rw [kept, kept, hrecord]
  have hof : ∀ respondent, st'.submissionOf id respondent = st.submissionOf id respondent := fun respondent => by
    simp only [Store.submissionOf, look, hpoisoned, hkept]
  refine ⟨?_, ?_, ?_, hof, fun respondent => ?_⟩
  · simp only [Store.fetch, look, hpoisoned, hrecord]
  · simp only [Store.isPublished, look, hpoisoned, hrecord]
  · simp only [Store.submissions, look, hpoisoned, hkept]
  · rw [Store.isAnsweredBy, Store.isAnsweredBy, hof]

/-- A record that is put is seen under its own identifier only. -/
theorem SameOf.put {r : StoreRecord} (h : id ≠ r.id) : SameOf id st (st.put r) :=
  .of_record? rfl (by rw [record?_put, if_neg h])

section Record

variable {r : StoreRecord} (hworking : st.poisoned = false) (h : st.record? id = some r)
include hworking h

theorem fetch_of_record? : st.fetch id = .ok r.questionnaire := by simp [Store.fetch, look, hworking, h]

theorem isPublished_of_record? : st.isPublished id = .ok r.published := by simp [Store.isPublished, look, hworking, h]

theorem submissions_of_record? : st.submissions id = .ok r.submissions := by simp [Store.submissions, look, kept, hworking, h]

end Record

/-- A working store that has no record of a questionnaire does not find it. -/
theorem fetch_of_unknown (hworking : st.poisoned = false) (h : st.record? id = none) : st.fetch id = .error (.notFound id) := by
  simp [fetch, look, hworking, h]

/-! ## Changing the questions -/

/-- The revision after one that is not the last is the next number. -/
theorem toNat_next_revision {revision : UInt64} (h : revision < lastRevision) : (revision + 1).toNat = revision.toNat + 1 := by
  have hlt : revision.toNat < lastRevision.toNat := UInt64.lt_iff_toNat_lt.1 h
  have hlast : lastRevision.toNat = 2 ^ 64 - 1 := rfl
  rw [UInt64.toNat_add, UInt64.toNat_one]
  omega

/-- Changing the questions of a questionnaire that the store does not have fails. -/
theorem revise_of_unknown (hworking : st.poisoned = false) (h : st.record? id = none) (questions : List Question) :
    st.revise id questions = st.refuse (.notFound id) := by
  simp [revise, withRecord, guarded, hworking, h]

section Revise

variable {r : StoreRecord} {questions : List Question} (hworking : st.poisoned = false) (h : st.record? id = some r)
  (hnext : r.questionnaire.revision < lastRevision)
include hworking h hnext

/-- Other questions that do not make a questionnaire are refused for what is wrong with them. -/
theorem revise_of_problem {problem : DefinitionError} (hbuild : (revised r.questionnaire.definition questions).build = .error problem) :
    st.revise id questions = st.refuse (.definition problem) := by
  simp [revise, withRecord, guarded, hworking, h, UInt64.ne_of_lt hnext, hbuild]

/-- Other questions that make a questionnaire take the place of the old ones, and there are no submissions to them. -/
theorem revise_of_build {q : Questionnaire} (hbuild : (revised r.questionnaire.definition questions).build = .ok q) :
    st.revise id questions =
      { result := .ok q.revision, state := st.put { r with questionnaire := q, submissions := [] },
        events := [.questionsChanged id q.revision r.submissions.length] } := by
  simp [revise, withRecord, guarded, hworking, h, UInt64.ne_of_lt hnext, hbuild]

end Revise

variable {questions : List Question}

/-- Changing the questions of a questionnaire gives the next revision of it: what the old definition with these questions and this
revision builds is there afterwards, without submissions, and published if the old one was. -/
theorem revise_eq_ok (hworking : st.poisoned = false) (hnext : (Operation.revise id questions).LeavesNextRevision st)
    {revision : UInt64} (h : (st.revise id questions).result = .ok revision) :
    ∃ old q, st.fetch id = .ok old ∧ revision.toNat = old.revision.toNat + 1 ∧
      ({ old.definition with questions, revision } : Definition).build = .ok q ∧
      (st.revise id questions).state.fetch id = .ok q ∧ (st.revise id questions).state.submissions id = .ok [] ∧
      (st.revise id questions).state.isPublished id = st.isPublished id := by
  rcases revise_cases st id questions with ⟨e, heq⟩ | ⟨r, _, _, heq⟩ | ⟨r, q, hr, _, hbuild, heq⟩ <;> rw [heq] at h
  · cases h
  · cases h
  · obtain rfl : q.revision = revision := Except.ok.inj h
    obtain ⟨hid, hrevision⟩ := build_revised hbuild
    have hkey : id = q.id := (id_of_record? hr).symm.trans hid.symm
    have hput : (st.put { r with questionnaire := q, submissions := [] }).record? id =
        some { r with questionnaire := q, submissions := [] } := by
      rw [record?_put]
      exact if_pos hkey
    have hstill : (st.put { r with questionnaire := q, submissions := [] }).poisoned = false := hworking
    refine ⟨r.questionnaire, q, fetch_of_record? hworking hr, ?_, ?_, ?_, ?_, ?_⟩
    · rw [hrevision]
      exact toNat_next_revision (hnext r hr)
    · rw [hrevision]
      exact hbuild
    · rw [heq]
      exact fetch_of_record? hstill hput
    · rw [heq]
      exact submissions_of_record? hstill hput
    · have hpublished := isPublished_of_record? hstill hput
      rw [heq, isPublished_of_record? hworking hr]
      exact hpublished

/-- Changing the questions fails exactly if there is no questionnaire or the other questions do not make one. -/
theorem revise_eq_error_iff (hworking : st.poisoned = false) (hnext : (Operation.revise id questions).LeavesNextRevision st)
    {e : StoreError} :
    (st.revise id questions).result = .error e ↔
      st.fetch id = .error (.notFound id) ∧ e = .notFound id ∨
      ∃ old problem, st.fetch id = .ok old ∧
        ({ old.definition with questions, revision := old.revision + 1 } : Definition).build = .error problem ∧
        e = .definition problem := by
  cases hr : st.record? id with
  | none =>
    rw [revise_of_unknown hworking hr, fetch_of_unknown hworking hr]
    constructor
    · intro h
      exact Or.inl ⟨rfl, (Except.error.inj h).symm⟩
    · rintro (⟨_, rfl⟩ | ⟨_, _, hfound, _⟩)
      · rfl
      · cases hfound
  | some r =>
    rw [fetch_of_record? hworking hr]
    cases hbuild : (revised r.questionnaire.definition questions).build with
    | error problem =>
      rw [revise_of_problem hworking hr (hnext r hr) hbuild]
      constructor
      · intro h
        exact Or.inr ⟨r.questionnaire, problem, rfl, hbuild, (Except.error.inj h).symm⟩
      · rintro (⟨hmissing, _⟩ | ⟨old, other, hfound, hother, rfl⟩)
        · cases hmissing
        · cases hfound
          obtain rfl : problem = other := Except.error.inj (hbuild.symm.trans hother)
          rfl
    | ok q =>
      rw [revise_of_build hworking hr (hnext r hr) hbuild]
      constructor
      · intro h
        cases h
      · rintro (⟨hmissing, _⟩ | ⟨old, _, hfound, hother, _⟩)
        · cases hmissing
        · cases hfound
          cases hbuild.symm.trans hother

/-- The operations of a working store are atomic and local. One that gives an error, or finds a submission stale or second, leaves all that
can be seen of any questionnaire as it was; one that does what is asked leaves all that can be seen of the other questionnaires. Changing the
questions gives the next revision, at which the old definition with the other questions is there, without submissions and as published as it
was; it fails exactly if there is no such questionnaire, or if that definition does not build one, and then for what is wrong with it. -/
theorem operations_are_atomic_and_local {st : Store} (hworking : st.poisoned = false) :
    (∀ x : Operation, x.LeavesNextRevision st →
      (¬ x.Succeeds st → ∀ id, SameOf id st (x.run st)) ∧ (x.Succeeds st → ∀ id, id ≠ x.id → SameOf id st (x.run st))) ∧
    ∀ id questions, (Operation.revise id questions).LeavesNextRevision st →
      (∀ revision, (st.revise id questions).result = .ok revision →
        ∃ old q, st.fetch id = .ok old ∧ revision.toNat = old.revision.toNat + 1 ∧
          ({ old.definition with questions, revision } : Definition).build = .ok q ∧
          (st.revise id questions).state.fetch id = .ok q ∧ (st.revise id questions).state.submissions id = .ok [] ∧
          (st.revise id questions).state.isPublished id = st.isPublished id) ∧
      ∀ e, (st.revise id questions).result = .error e ↔
        st.fetch id = .error (.notFound id) ∧ e = .notFound id ∨
        ∃ old problem, st.fetch id = .ok old ∧
          ({ old.definition with questions, revision := old.revision + 1 } : Definition).build = .error problem ∧
          e = .definition problem := by
  refine ⟨fun x hnext => ?_, fun id questions hnext => ?_⟩
  · rcases Operation.run_cases hworking x hnext with ⟨hfails, heq⟩ | ⟨hsucceeds, r, hid, heq⟩ <;> rw [heq]
    · exact ⟨fun _ id => .refl id st, fun hsucceeds => absurd hsucceeds hfails⟩
    · exact ⟨fun hfails => absurd hsucceeds hfails, fun _ id hne => .put (hid ▸ hne)⟩
  · exact ⟨fun _ => revise_eq_ok hworking hnext, fun _ => revise_eq_error_iff hworking hnext⟩

namespace TwoForms

/-- A question of a text. -/
def question (id : QuestionId) (body : String) : Question := { id, position := 0, body, kind := .shortAnswer }

/-- A form that asks for a name. -/
def names : Questionnaire where
  definition := { id := 1, title := "Names", questions := [question 1 "Name?"] }
  wellFormed := Definition.problem?_eq_none_iff.1 (by decide)
  ascending := by decide

/-- A form that asks for a bird. -/
def birds : Questionnaire where
  definition := { id := 2, title := "Birds", questions := [question 1 "Bird?"] }
  wellFormed := Definition.problem?_eq_none_iff.1 (by decide)
  ascending := by decide

/-- A store of both forms, each with a submission. -/
def store : Store where
  records := [
    { questionnaire := names, published := true, submissions := [{ questionnaire := 1, revision := 0, respondent := 7, answers := [] }] },
    { questionnaire := birds, submissions := [{ questionnaire := 2, revision := 0, respondent := 8, answers := [] }] }]

/-- Two questions at one position. -/
def clash : List Question := [question 1 "Name?", question 2 "Nickname?"]

/-- Questions that clash leave both forms as they are; other ones replace those of one form, clear its submissions and leave the other. -/
theorem clash_changes_nothing_and_revision_one_form :
    store.poisoned = false ∧ (Operation.revise 1 clash).LeavesNextRevision store ∧
    (Operation.revise 1 [question 1 "Nickname?"]).LeavesNextRevision store ∧
    (store.revise 1 clash).result = .error (.definition (.duplicatePosition 0 1 2)) ∧
    (∀ id, SameOf id store (store.revise 1 clash).state) ∧
    (store.revise 1 [question 1 "Nickname?"]).result = .ok 1 ∧
    SameOf 2 store (store.revise 1 [question 1 "Nickname?"]).state ∧
    (store.revise 1 [question 1 "Nickname?"]).state.submissions 1 = .ok [] ∧
    (store.revise 1 [question 1 "Nickname?"]).state.isPublished 1 = store.isPublished 1 := by
  have hworking : store.poisoned = false := rfl
  have hclash : (Operation.revise 1 clash).LeavesNextRevision store := by decide
  have hnext : (Operation.revise 1 [question 1 "Nickname?"]).LeavesNextRevision store := by decide
  have hrefused : (store.revise 1 clash).result = .error (.definition (.duplicatePosition 0 1 2)) := rfl
  have hrevised : (store.revise 1 [question 1 "Nickname?"]).result = .ok 1 := rfl
  obtain ⟨hoperations, hrevise⟩ := operations_are_atomic_and_local hworking
  obtain ⟨_, _, _, _, _, _, hcleared, hpublished⟩ := (hrevise 1 _ hnext).1 1 hrevised
  refine ⟨hworking, hclash, hnext, hrefused, ?_, hrevised, ?_, hcleared, hpublished⟩
  · refine (hoperations (.revise 1 clash) hclash).1 ?_
    rintro ⟨_, hok⟩
    rw [hrefused] at hok
    cases hok
  · exact (hoperations (.revise 1 [question 1 "Nickname?"]) hnext).2 ⟨1, hrevised⟩ 2 (by decide)

end TwoForms

end Survey.Store
