import Survey.Record.Ident
import Survey.Validation.Faults

/-!
# Faults in records
-/

namespace Survey

/-- A fault as a record: its question and its kind. -/
def Fault.toJson (fault : Fault) : Json :=
  .record [("question", fault.question.toJson), ("kind", .text fault.kind.name)]

/-- Faults as a record: those of questions, and whether the terms were not accepted. -/
def Faults.toJson (f : Faults) : Json :=
  .record [("errors", .ofList Fault.toJson f.entries), ("tos_agreement_missing", .bool f.termsMissing)]

end Survey
