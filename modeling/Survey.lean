import Survey.Ident
import Survey.Text.Blank
import Survey.Text.Occurs
import Survey.Text.Lowercase
import Survey.Definition.Basic
import Survey.Definition.Error
import Survey.Definition.Repeat
import Survey.Definition.Order
import Survey.Definition.Problem
import Survey.Questionnaire.Steps
import Survey.Answer.Answers
import Survey.Validation.Sheet
import Survey.Submission.Compile
import Survey.Store.Memory
import Survey.Store.Scripted
import Survey.Session.Submit
import Survey.Json.Reader
import Survey.Json.Writer
import Survey.Record.Question
import Survey.Record.Answer
import Survey.Record.Settings
import Survey.Record.Submission
import Survey.Record.Faults
import Survey.Sample.Catalogue
import Survey.Walkthrough
import Survey.Main
import Survey.Proofs.HiddenSet
import Survey.Proofs.HiddenValues
import Survey.Proofs.StepsBehind
import Survey.Proofs.World
import Survey.Proofs.Suitability
import Survey.Proofs.StaleWrites
import Survey.Proofs.Bookkeeping
import Survey.Proofs.SubmittedOnce
import Survey.Proofs.CleanUp
import Survey.Proofs.AcceptedAnswers
import Survey.Proofs.BlankText
import Survey.Proofs.StoredAnswers
import Survey.Proofs.SubmissionShape
import Survey.Proofs.AlikeAnswers
import Survey.Proofs.ReadBack
import Survey.Proofs.DefinitionErrors
import Survey.Proofs.RecordFields
import Survey.Proofs.RecordRoundTrip
import Survey.Proofs.AlikeStores
import Survey.Proofs.DeadEnds
import Survey.Proofs.Separation
import Survey.Proofs.AuthoredOrder
import Survey.Proofs.SessionState
import Survey.Proofs.Exchanges
import Survey.Proofs.TellingConditions
import Survey.Proofs.LiteralText
import Survey.Proofs.UnansweredQuestions
import Survey.Proofs.StandingFaults
import Survey.Proofs.StepByStep
import Survey.Proofs.AtomicOperations
import Survey.Proofs.FaultlessValues
import Survey.Proofs.UncheckedAnswers
import Survey.Proofs.ClickOrder
import Survey.Proofs.Outline
import Survey.Proofs.ConditionSets
import Survey.Proofs.FaultBatches
import Survey.Proofs.StaleReasons
import Survey.Proofs.SortedOnce
