import Survey.Journal
import Survey.Store.Keeper

/-!
# The store

Keeps questionnaires, whether they are published, and the submissions to them. Checking a submission and keeping it is one
operation, so a submission is kept only if it answers the questionnaire as it stands and its respondent has none there yet.

Changing the questions of a questionnaire moves it to the next revision and deletes its submissions. A revision that has no next
one breaks the store: from then on it refuses everything but to be given questionnaires, and these it can not hand out.
-/

namespace Survey

/-- What a store keeps of a questionnaire. -/
structure StoreRecord where
  questionnaire : Questionnaire
  published : Bool := false
  submissions : List Submission := []
  deriving DecidableEq

/-- The identifier a record is kept under. -/
def StoreRecord.id (r : StoreRecord) : QuestionnaireId := r.questionnaire.id

/-- The records of questionnaires, and whether the store broke. -/
structure Store where
  records : List StoreRecord := []
  poisoned : Bool := false
  deriving DecidableEq

/-- Why a store refuses. -/
inductive StoreError where
  | notFound (questionnaire : QuestionnaireId)
  | definition (problem : DefinitionError)
  | poisoned
  | revisionsExhausted (questionnaire : QuestionnaireId)
  deriving DecidableEq, Repr

/-- An error in words. -/
def StoreError.message : StoreError → String
  | .notFound questionnaire => s!"{questionnaire} does not exist"
  | .definition problem => s!"Invalid questionnaire: {problem.message}"
  | .poisoned => "Store lock poisoned"
  | .revisionsExhausted questionnaire => s!"{questionnaire} has no next revision"

namespace Store

/-- A store that keeps nothing yet. -/
def empty : Store := {}

/-- What is kept under an identifier. -/
def record? (st : Store) (id : QuestionnaireId) : Option StoreRecord := st.records.find? (·.id = id)

/-- Keeps a record in the place of the one that was kept under its identifier. -/
def put (st : Store) (r : StoreRecord) : Store := { st with records := r :: st.records.filter (·.id ≠ r.id) }

theorem record?_put (st : Store) (r : StoreRecord) (id : QuestionnaireId) :
    (st.put r).record? id = if id = r.id then some r else st.record? id := by
  unfold record? put
  by_cases h : id = r.id
  · simp [h]
  · simp only [Ne.symm h, not_false_eq_true, decide_false, Bool.false_eq_true, List.find?_cons_of_neg, h, if_false,
      List.find?_filter]
    congr 1
    funext x
    by_cases hx : x.id = id <;> simp [hx, h]

/-- Refuses and stays as it is. -/
def refuse {α : Type} (st : Store) (e : StoreError) : Reply Store StoreError α := { result := .error e, state := st }

/-- Does something unless the store is broken. -/
def guarded {α : Type} (st : Store) (run : Reply Store StoreError α) : Reply Store StoreError α :=
  if st.poisoned then st.refuse .poisoned else run

/-- Does something with the record of a questionnaire, unless the store is broken or does not have it. -/
def withRecord {α : Type} (st : Store) (id : QuestionnaireId) (run : StoreRecord → Reply Store StoreError α) :
    Reply Store StoreError α :=
  st.guarded <|
    match st.record? id with
    | none => st.refuse (.notFound id)
    | some r => run r

/-- Keeps a questionnaire in the place of the one of its identifier, whose submissions stay. This works on a broken store too. -/
def hold (st : Store) (q : Questionnaire) : Store :=
  match st.record? q.id with
  | none => st.put { questionnaire := q }
  | some r => st.put { r with questionnaire := q }

/-- Keeps a questionnaire in the place of the one of its identifier, whose submissions stay. -/
def insert (st : Store) (q : Questionnaire) : Reply Store StoreError Unit :=
  st.guarded { result := .ok (), state := st.hold q, events := [.questionnaireStored q.id] }

/-- The last revision there is. -/
def lastRevision : UInt64 := 0xFFFFFFFFFFFFFFFF

/-- The definition with other questions, at the next revision. -/
def revised (d : Definition) (questions : List Question) : Definition :=
  { d with questions, revision := d.revision + 1 }

/-- Replaces the questions of a questionnaire and deletes the submissions to the old ones. Gives the new revision. -/
def revise (st : Store) (id : QuestionnaireId) (questions : List Question) : Reply Store StoreError UInt64 :=
  st.withRecord id fun r =>
    if r.questionnaire.revision = lastRevision then
      { result := .error (.revisionsExhausted id), state := { st with poisoned := true } }
    else
      match (revised r.questionnaire.definition questions).build with
      | .error problem => st.refuse (.definition problem)
      | .ok q =>
        { result := .ok q.revision, state := st.put { r with questionnaire := q, submissions := [] },
          events := [.questionsChanged id q.revision r.submissions.length] }

/-- Publishes a questionnaire and, if asked to, deletes the submissions made so far. Gives the number deleted. -/
def publish (st : Store) (id : QuestionnaireId) (clean : Bool) : Reply Store StoreError Nat :=
  st.withRecord id fun r =>
    let deleted := if clean then r.submissions.length else 0
    { result := .ok deleted,
      state := st.put { r with published := true, submissions := if clean then [] else r.submissions },
      events := [.questionnairePublished id deleted] }

/-- Keeps a submission to the questionnaire as it stands, if it is the first of its respondent. -/
def save (st : Store) (s : Submission) : Reply Store StoreError SaveOutcome :=
  st.withRecord s.questionnaire fun r =>
    if s.revision ≠ r.questionnaire.revision then { result := .ok (.stale r.questionnaire.revision), state := st }
    else if r.submissions.any (·.respondent = s.respondent) then { result := .ok .alreadyAnswered, state := st }
    else { result := .ok .saved, state := st.put { r with submissions := r.submissions ++ [s] } }

/-! ## Looking into a store -/

/-- Looks something up unless the store is broken. -/
def look {α : Type} (st : Store) (x : Except StoreError α) : Except StoreError α :=
  if st.poisoned then .error .poisoned else x

/-- The questionnaire of an identifier. -/
def fetch (st : Store) (id : QuestionnaireId) : Except StoreError Questionnaire :=
  st.look <|
    match st.record? id with
    | none => .error (.notFound id)
    | some r => .ok r.questionnaire

/-- The submissions kept under an identifier, oldest first. -/
def kept (st : Store) (id : QuestionnaireId) : List Submission := ((st.record? id).map (·.submissions)).getD []

/-- Whether a questionnaire is published; one that is not there is not. -/
def isPublished (st : Store) (id : QuestionnaireId) : Except StoreError Bool :=
  st.look (.ok ((st.record? id).any (·.published)))

/-- The submissions to a questionnaire, oldest first; none where there is no questionnaire. -/
def submissions (st : Store) (id : QuestionnaireId) : Except StoreError (List Submission) := st.look (.ok (st.kept id))

/-- The submission of a respondent. -/
def submissionOf (st : Store) (id : QuestionnaireId) (respondent : RespondentId) : Except StoreError (Option Submission) :=
  st.look (.ok ((st.kept id).find? (·.respondent = respondent)))

/-- Whether a respondent has a submission to a questionnaire. -/
def isAnsweredBy (st : Store) (id : QuestionnaireId) (respondent : RespondentId) : Except StoreError Bool :=
  (st.submissionOf id respondent).map (·.isSome)

/-- A store as sessions see it. -/
def keeper : Keeper Store StoreError where
  fetch id st := (st.fetch id, st)
  isAnsweredBy id respondent st := (st.isAnsweredBy id respondent, st)
  save s st := ((st.save s).result, (st.save s).state)

end Store

end Survey
