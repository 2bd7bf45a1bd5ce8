import Survey.Proofs.RecordFields
import Survey.Record.Question
import Survey.Record.Answer
import Survey.Record.Settings
import Survey.Record.Submission

/-!
# Records are read back

Whatever is written as a record is read back from it as it was: definitions with their questions, answers, settings and submissions,
with every identifier and every text, and whether an optional field is there or not. So no two of them are written alike
(`records_are_faithful`). For each type this comes of its fields; answers, which are written as one object with a member for each
question, are read back because no two members have one key.
-/

namespace Survey

open Json (Named fields?_record required_eq_bind optional_eq_elim defaulted_eq_elim)

/-! ## Questions and definitions -/

@[simp]
theorem QuestionKind.ofJson?_toJson (k : QuestionKind) : ofJson? k.toJson = some k := ofName?_name k

@[simp]
theorem ConditionType.ofJson?_toJson (t : ConditionType) : ofJson? t.toJson = some t := ofName?_name t

@[simp]
theorem DisplayCondition.ofJson?_toJson (c : DisplayCondition) : ofJson? c.toJson = some c := by
  rw [ofJson?, toJson, fields?_record (by decide)]
  · simp [required_eq_bind, optional_eq_elim, defaulted_eq_elim]
  · simp only [List.append_assoc, List.cons_append, List.nil_append]
    exact .field <| .field <| .optional <| .optional <| .field .nil

@[simp]
theorem AnswerOption.ofJson?_toJson (o : AnswerOption) : ofJson? o.toJson = some o := by
  rw [ofJson?, toJson, fields?_record (by decide)]
  · simp [required_eq_bind, defaulted_eq_elim]
  · exact .field <| .field <| .field .nil

@[simp]
theorem MatrixRow.ofJson?_toJson (r : MatrixRow) : ofJson? r.toJson = some r := by
  rw [ofJson?, toJson, fields?_record (by decide)]
  · simp [required_eq_bind]
  · exact .field <| .field .nil

@[simp]
theorem Question.ofJson?_toJson (q : Question) : ofJson? q.toJson = some q := by
  rw [ofJson?, toJson, fields?_record (by decide)]
  · simp [required_eq_bind, optional_eq_elim, defaulted_eq_elim]
  · simp only [List.append_assoc, List.cons_append, List.nil_append]
    exact .field <| .field <| .field <| .optional <| .field <| .field <| .field <| .optional <| .list <| .list .lastList

@[simp]
theorem Definition.ofJson?_toJson (d : Definition) : ofJson? d.toJson = some d := by
  rw [ofJson?, toJson, fields?_record (by decide)]
  · simp [required_eq_bind, optional_eq_elim, defaulted_eq_elim]
  · simp only [List.append_assoc, List.cons_append, List.nil_append]
    exact .field <| .field <| .optional <| .optional <| .field <| .field .nil

/-! ## Answers -/

@[simp]
theorem Choice.ofJson?_toJson (c : Choice) : ofJson? c.toJson = some c := by
  rw [ofJson?, toJson, fields?_record (by decide)]
  · simp [required_eq_bind, optional_eq_elim]
  · exact .field .lastOptional

@[simp]
theorem MatrixCell.ofJson?_toJson (c : MatrixCell) : ofJson? c.toJson = some c := by
  rw [ofJson?, toJson, fields?_record (by decide)]
  · simp [required_eq_bind]
  · exact .field <| .field .nil

/-- What a value holds is read back in its shape. -/
@[simp]
theorem AnswerValue.ofPayload?_payload (value : AnswerValue) : ofPayload? value.payload value.shape = some value := by
  cases value <;> simp [ofPayload?, payload, shape]

@[simp]
theorem AnswerValue.ofJson?_toJson (value : AnswerValue) : ofJson? value.toJson = some value := by
  have hread : ofJson? value.toJson = (Json.fields? fieldNames value.toJson).bind ofFields? := rfl
  rw [hread, toJson, fields?_record (by decide)]
  · simp [ofFields?, required_eq_bind, Json.name?, ValueShape.ofName?_name]
  · exact .field <| .field .nil

namespace Answers

/-- Members written for entries are added one by one. -/
theorem foldlM_addMember? (entries : List AnswerEntry) (a : Answers) :
    (entries.map fun (id, value) => (id.toKey, value.toJson)).foldlM addMember? a =
      some (entries.foldl (fun b e => b.set e.1 e.2) a) := by
  induction entries generalizing a with
  | nil => rfl
  | cons e rest ih =>
    have hadd : addMember? a (e.1.toKey, e.2.toJson) = some (a.set e.1 e.2) := by simp [addMember?]
    rw [List.map_cons, List.foldlM_cons, hadd]
    exact ih _

/-- Where no two entries are of one question, each gives its question its value. -/
theorem value?_foldl_set {entries : List AnswerEntry} (h : AscendingEntries entries) (a : Answers) (id : QuestionId) :
    (entries.foldl (fun b e => b.set e.1 e.2) a).value? id = (valueIn? entries id).or (a.value? id) := by
  induction entries generalizing a with
  | nil => rfl
  | cons e rest ih =>
    have h := List.pairwise_cons.1 h
    rw [List.foldl_cons, ih h.2, value?_set]
    by_cases hid : id = e.1
    · have hrest : valueIn? rest id = none := by
        simp only [valueIn?, Option.map_eq_none_iff, List.find?_eq_none, decide_eq_true_eq]
        exact fun x hx => hid ▸ (Ident.ne_of_lt (h.1 x hx)).symm
      rw [hrest, if_pos hid, hid]
      simp [valueIn?]
    · simp [valueIn?, hid, Ne.symm hid]

@[simp]
theorem ofJson?_toJson (a : Answers) : ofJson? a.toJson = some a := by
  have hread : ofJson? a.toJson = some (a.entries.foldl (fun b e => b.set e.1 e.2) empty) :=
    foldlM_addMember? a.entries empty
  rw [hread]
  refine congrArg some (ext_value fun id => ?_)
  rw [value?_foldl_set a.ascending, value?_empty, Option.or_none]
  rfl

end Answers

/-! ## Settings -/

@[simp]
theorem SessionSettings.ofJson?_toJson (c : SessionSettings) : ofJson? c.toJson = some c := by
  rw [ofJson?, toJson, fields?_record (by decide)]
  · simp [defaulted_eq_elim]
  · exact .field <| .field .nil

/-! ## Submissions -/

@[simp]
theorem StoredChoice.ofJson?_toJson (c : StoredChoice) : ofJson? c.toJson = some c := by
  rw [ofJson?, toJson, fields?_record (by decide)]
  · simp [required_eq_bind, optional_eq_elim]
  · simp only [List.append_assoc, List.cons_append, List.nil_append]
    exact .field <| .field <| .optional <| .optional .lastOptional

@[simp]
theorem StoredAnswer.ofJson?_toJson (a : StoredAnswer) : ofJson? a.toJson = some a := by
  rw [ofJson?, toJson, fields?_record (by decide)]
  · simp [required_eq_bind, optional_eq_elim, defaulted_eq_elim]
  · exact .field <| .optional .lastList

@[simp]
theorem Submission.ofJson?_toJson (s : Submission) : ofJson? s.toJson = some s := by
  rw [ofJson?, toJson, fields?_record (by decide)]
  · simp [required_eq_bind]
  · exact .field <| .field <| .field <| .field .nil

/-! ## All records -/

/-- Every record is read back as what was written, whatever it holds. -/
theorem records_are_faithful :
    Json.Faithful Definition.toJson Definition.ofJson? ∧ Json.Faithful Question.toJson Question.ofJson? ∧
    Json.Faithful AnswerOption.toJson AnswerOption.ofJson? ∧ Json.Faithful MatrixRow.toJson MatrixRow.ofJson? ∧
    Json.Faithful DisplayCondition.toJson DisplayCondition.ofJson? ∧
    Json.Faithful AnswerValue.toJson AnswerValue.ofJson? ∧ Json.Faithful Answers.toJson Answers.ofJson? ∧
    Json.Faithful SessionSettings.toJson SessionSettings.ofJson? ∧
    Json.Faithful Submission.toJson Submission.ofJson? ∧ Json.Faithful StoredAnswer.toJson StoredAnswer.ofJson? ∧
    Json.Faithful StoredChoice.toJson StoredChoice.ofJson? :=
  ⟨.of_readBack Definition.ofJson?_toJson, .of_readBack Question.ofJson?_toJson, .of_readBack AnswerOption.ofJson?_toJson,
    .of_readBack MatrixRow.ofJson?_toJson, .of_readBack DisplayCondition.ofJson?_toJson,
    .of_readBack AnswerValue.ofJson?_toJson, .of_readBack Answers.ofJson?_toJson,
    .of_readBack SessionSettings.ofJson?_toJson, .of_readBack Submission.ofJson?_toJson,
    .of_readBack StoredAnswer.ofJson?_toJson, .of_readBack StoredChoice.ofJson?_toJson⟩

end Survey
