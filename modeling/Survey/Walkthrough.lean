import Survey.Json.Writer
import Survey.Record.Settings
import Survey.Record.Submission
import Survey.Sample.BirdWatching
import Survey.Session.Submit
import Survey.Store.Memory

/-!
# A walkthrough of the bird watching questionnaire

Two scripted respondents on one store. Alice answers both steps, forgets the terms, accepts them and submits; then she may not
start again. Bob chooses too many birds and does not get past the first step. What is shown is written line by line; the first
failure that the script does not expect ends it.
-/

namespace Survey

/-- What a walkthrough has written, and why it ended early if it did. -/
structure Transcript where
  lines : List String
  failure : Option String
  deriving DecidableEq, Repr

/-- Where a walkthrough stands: the store, the session under way and the lines written so far. -/
structure WalkState where
  store : Store
  session : Session
  lines : List String

/-- A part of a walkthrough, which may end it with a message. -/
abbrev Walk (α : Type) := ExceptT String (StateM WalkState) α

namespace Walk

/-- Writes a line. -/
def say (line : String) : Walk Unit := modify fun w => { w with lines := w.lines ++ [line] }

/-- Writes lines. -/
def sayAll (lines : List String) : Walk Unit := modify fun w => { w with lines := w.lines ++ lines }

/-- Does something with the session, and gives what came of it. -/
def attempt {ε α : Type} (act : Session → Reply Session ε α) : Walk (Except ε α) := do
  let reply := act (← get).session
  modify fun w => { w with session := reply.state }
  return reply.result

/-- Submits the session, and gives what came of it. -/
def attemptSubmit : Walk (Except (SubmissionError StoreError) Submission) := do
  let w ← get
  let reply := w.session.submit Store.keeper w.store
  set { w with session := reply.state.1, store := reply.state.2 }
  return reply.result

/-- What was meant to succeed, or the end of the walkthrough. -/
def expect {ε α : Type} (describe : ε → String) (result : Except ε α) : Walk α :=
  match result with
  | .ok x => return x
  | .error e => throw (describe e)

/-- Describes a submission that failed. -/
def describeSubmission (e : SubmissionError StoreError) : String := e.message StoreError.message

/-- Gives a value to a question. -/
def give (id : QuestionId) (value : AnswerValue) : Walk Unit := do
  expect SessionError.message (← attempt (·.answer id value))

/-- Starts a session of a respondent. -/
def start (respondent : RespondentId) (settings : SessionSettings) : Walk SessionStart := do
  let reply := Session.start Store.keeper Sample.birdWatching.id respondent settings (← get).store
  modify fun w => { w with store := reply.state }
  expect describeSubmission reply.result

/-- Puts a session under way, or ends the walkthrough. -/
def enter (session : Session) : Walk Unit := modify fun w => { w with session }

end Walk

/-- The line of a question that is shown. -/
def Session.questionLine (s : Session) (question : Question) : String :=
  let number := (s.questionnaire.number? question.id).getD 0
  s!"  {number}. " ++ question.body ++ if question.mandatory then " *" else ""

/-- The lines of the step a session is on. -/
def Session.stepLines (s : Session) : List String :=
  match s.progress? with
  | none => []
  | some (step, count) =>
    let terms := if s.asksForTerms then s.questionnaire.terms.toList else []
    [s!"Step {step} of {count}"] ++ s.shownQuestions.map s.questionLine ++ terms.map ("  [ ] " ++ ·)

/-- The lines about a submission that failed. -/
def SubmissionError.reportLines (e : SubmissionError StoreError) : List String :=
  let details := match e.faults? with
    | none => []
    | some faults =>
      faults.entries.map (fun fault => s!"  {fault.question}: " ++ fault.kind.wordingKey) ++
        if faults.termsMissing then ["  terms: must be accepted"] else []
  Walk.describeSubmission e :: details

namespace Walkthrough

open Walk

/-- Alice answers both steps and submits. -/
def alice (settings : SessionSettings) : Walk Unit := do
  match ← start 1 settings with
  | .alreadyAnswered => throw "You have already answered this form"
  | .noQuestions => throw "This questionnaire has no questions"
  | .answerable session => enter session
  say (← get).session.questionnaire.title
  give 1 (.ofOptions [10])
  give 2 (.choices [{ option := 20 }, { option := 23, customBody := some "Cacatua" }])
  sayAll (← get).session.stepLines
  let _ ← expect SessionError.message (← attempt (·.advance))
  sayAll (← get).session.stepLines
  give 5 (.text "In the botanical garden")
  if let some left := (← get).session.remainingCharacters? 5 then say s!"  {left} characters left"
  give 6 (.matrix [{ row := 100, option := 61 }])
  if let .error e ← attemptSubmit then sayAll e.reportLines
  enter ((← get).session.acceptTerms true)
  let submission ← expect describeSubmission (← attemptSubmit)
  sayAll (submission.toJson.pretty.splitOn "\n")
  match ← start 1 settings with
  | .alreadyAnswered => say "Alice cannot answer twice"
  | _ => throw "Alice was allowed to answer twice"

/-- Bob chooses too many birds. -/
def bob (settings : SessionSettings) : Walk Unit := do
  match ← start 2 settings with
  | .answerable session => enter session
  | _ => throw "Bob should be able to answer"
  give 1 (.ofOptions [10])
  give 2 (.ofOptions [20, 21, 22, 23])
  sayAll (((← get).session.warnings 2).map ("  warning: " ++ ·.wordingKey))
  if let .error e ← attempt (·.advance) then
    let step := ((← get).session.progress?.map (·.1)).getD 0
    say (s!"Bob stays on step {step}: " ++ e.message)

/-- The whole script. -/
def script (settings : SessionSettings) : Walk Unit := do
  alice settings
  bob settings
  let stored ← expect StoreError.message ((← get).store.submissions Sample.birdWatching.id)
  say s!"{stored.length} submission(s) stored"

/-- The walkthrough with a configuration, on a store with the published questionnaire. -/
def run (settings : SessionSettings) : Transcript :=
  match Sample.birdWatching.build with
  | .error problem => { lines := [], failure := some problem.message }
  | .ok questionnaire =>
    let store := ((Store.empty.hold questionnaire).publish questionnaire.id true).state
    let (result, w) := (script settings).run { store, session := { questionnaire, respondent := 1, settings }, lines := [] }
    match result with
    | .ok _ => { lines := w.lines, failure := none }
    | .error message => { lines := w.lines, failure := some message }

/-- The walkthrough with the configuration of a JSON text, or with the one that holds where there is none. -/
def runWith (settings : Option String) : Transcript :=
  match settings with
  | none => run {}
  | some text =>
    match SessionSettings.ofText text with
    | .ok settings => run settings
    | .error e => { lines := [], failure := some e.message }

/-- The walkthrough whose configuration could not be read from a file. -/
def unreadable (path : String) : Transcript := { lines := [], failure := some s!"Failed to read config file {path}" }

end Walkthrough

end Survey
