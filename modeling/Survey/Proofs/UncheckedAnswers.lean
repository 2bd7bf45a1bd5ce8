import Survey.Proofs.SubmissionShape

/-!
# What is stored of answers that were not checked

A submission can be made of any answers, and what goes wrong in them goes wrong quietly: options, rows and whole questions that do not exist
are passed over, and what is named twice is stored once. So it has to be said what a stored answer records of a value, whatever the value
(`Question.Records`). Nothing that belongs to the question is lost, and nothing is there that was not given.

Only rankings keep their repetitions. What does not belong to the question is dropped from a ranking before its places are counted.
-/

namespace Survey

namespace Question

variable {q : Question} {chosen : List Choice} {order : List OptionId} {cells : List MatrixCell}

/-! ## Records -/

/-- Text is recorded unchanged. -/
structure RecordsText (text : String) (stored : StoredAnswer) : Prop where
  body : stored.body = some text
  choices : stored.choices = []

/-- A stored choice has the text of the first choice of its option, if that says something and the option is free, and else none. -/
def KeepsFirstText (q : Question) (chosen : List Choice) (stored : StoredChoice) : Prop :=
  ∃ before first after, chosen = before ++ first :: after ∧ first.option = stored.option ∧
    (∀ other ∈ before, other.option ≠ stored.option) ∧
    ∀ text, stored.customBody = some text ↔ first.customBody = some text ∧ Text.isBlank text = false ∧
      ∃ option ∈ q.options, option.id = stored.option ∧ option.freeText = true

/-- The chosen options that the question has are recorded, in its order and hence each once. -/
structure RecordsChoices (q : Question) (chosen : List Choice) (stored : StoredAnswer) : Prop where
  body : stored.body = none
  ascending : stored.choices.Pairwise q.OptionBefore
  options : ∀ id, id ∈ stored.choices.map (·.option) ↔ id ∈ q.options.map (·.id) ∧ id ∈ chosen.map (·.option)
  named : ∀ choice ∈ stored.choices, q.Names choice
  ownText : ∀ choice ∈ stored.choices, q.KeepsFirstText chosen choice
  plain : ∀ choice ∈ stored.choices, choice.position = none ∧ choice.row = none

/-- The options of a ranking that the question has are recorded as they stand in it, with their places counted from zero. -/
structure RecordsOrder (q : Question) (order : List OptionId) (stored : StoredAnswer) : Prop where
  body : stored.body = none
  options : stored.choices.map (·.option) = order.filter (· ∈ q.options.map (·.id))
  places : stored.choices.map (fun choice => choice.position.map (·.toNat)) = (List.range stored.choices.length).map some
  named : ∀ choice ∈ stored.choices, q.Names choice
  plain : ∀ choice ∈ stored.choices, choice.customBody = none ∧ choice.row = none

/-- The cells whose row and option the question has are recorded, row by row in its order and hence each once. -/
structure RecordsCells (q : Question) (cells : List MatrixCell) (stored : StoredAnswer) : Prop where
  body : stored.body = none
  ascending : stored.choices.Pairwise q.CellBefore
  cells : ∀ cell : MatrixCell, (∃ choice ∈ stored.choices, choice.row = some cell.row ∧ choice.option = cell.option) ↔
    cell ∈ cells ∧ cell.row ∈ q.rows.map (·.id) ∧ cell.option ∈ q.options.map (·.id)
  rows : ∀ choice ∈ stored.choices, ∃ row ∈ q.rows, choice.row = some row.id
  named : ∀ choice ∈ stored.choices, q.Names choice
  plain : ∀ choice ∈ stored.choices, choice.position = none ∧ choice.customBody = none

/-- A stored answer records a value. -/
def Records (q : Question) (stored : StoredAnswer) : AnswerValue → Prop
  | .text body => RecordsText body stored
  | .choices chosen => q.RecordsChoices chosen stored
  | .sorting order => q.RecordsOrder order stored
  | .matrix cells => q.RecordsCells cells stored

/-! ## What is stored records the value -/

/-- Stored choices keep the text of the first choice of their option. -/
theorem keepsFirstText_of_mem (hn : (q.options.map (·.id)).Nodup) {stored : StoredChoice} (h : stored ∈ q.storeChoices chosen) :
    q.KeepsFirstText chosen stored := by
  obtain ⟨option, first, hown, hfound, rfl⟩ := mem_storeChoices.1 h
  have hoption := List.mem_of_find?_eq_some hown
  obtain ⟨hfirst, before, after, hsplit, hbefore⟩ := List.find?_eq_some_iff_append.1 hfound
  have hfirst : first.option = option.id := by simpa using hfirst
  have hbefore : ∀ other ∈ before, other.option ≠ option.id := fun other hother => by simpa using hbefore other hother
  have hfree : (∃ own ∈ q.options, own.id = option.id ∧ own.freeText = true) ↔ option.freeText = true := by
    constructor
    · rintro ⟨own, hown, hid, hfree⟩
      exact List.inj_on_of_nodup_map hn hown hoption hid ▸ hfree
    · intro hfree
      exact ⟨option, hoption, rfl, hfree⟩
  refine ⟨before, first, after, hsplit, hfirst, hbefore, fun text => ?_⟩
  show (storeChoice option first).customBody = some text ↔ _ ∧ _ ∧ ∃ own ∈ q.options, own.id = option.id ∧ own.freeText = true
  rw [hfree, storeChoice, Option.filter_eq_some_iff]
  simp [and_comm]

theorem recordsChoices_store (hn : (q.options.map (·.id)).Nodup) (chosen : List Choice) :
    q.RecordsChoices chosen (q.store (.choices chosen)) where
  body := rfl
  ascending := q.storeChoices_ascending chosen
  options _ := mem_options_storeChoices_iff
  named stored hstored := by
    obtain ⟨option, hoption, _, _, _, rfl⟩ := exists_choice_of_mem_storeChoices hstored
    exact ⟨option, hoption, rfl, rfl⟩
  ownText _ hstored := keepsFirstText_of_mem hn hstored
  plain stored hstored := by
    obtain ⟨_, _, _, _, _, rfl⟩ := exists_choice_of_mem_storeChoices hstored
    exact ⟨rfl, rfl⟩

theorem recordsOrder_store (hshort : order.length < UInt32.size) : q.RecordsOrder order (q.store (.sorting order)) where
  body := rfl
  options := map_option_storeOrder_eq_filter q order
  places := map_position_storeOrder_eq_range (Nat.le_of_lt hshort)
  named stored hstored := by
    obtain ⟨_, option, hoption, rfl⟩ := exists_of_mem_storeOrder hstored
    exact ⟨option, hoption, rfl, rfl⟩
  plain stored hstored := by
    obtain ⟨_, _, _, rfl⟩ := exists_of_mem_storeOrder hstored
    exact ⟨rfl, rfl⟩

theorem recordsCells_store (q : Question) (cells : List MatrixCell) : q.RecordsCells cells (q.store (.matrix cells)) where
  body := rfl
  ascending := q.storeCells_ascending cells
  cells _ := exists_storeCells_iff
  rows stored hstored := by
    obtain ⟨row, hrow, _, _, rfl⟩ := exists_of_mem_storeCells hstored
    exact ⟨row, hrow, rfl⟩
  named stored hstored := by
    obtain ⟨_, _, option, hoption, rfl⟩ := exists_of_mem_storeCells hstored
    exact ⟨option, hoption, rfl, rfl⟩
  plain stored hstored := by
    obtain ⟨_, _, _, _, rfl⟩ := exists_of_mem_storeCells hstored
    exact ⟨rfl, rfl⟩

/-- Whatever a value is, what is stored of it records it. -/
theorem records_store (hn : (q.options.map (·.id)).Nodup) (value : AnswerValue)
    (hshort : ∀ order, value = .sorting order → order.length < UInt32.size) : q.Records (q.store value) value := by
  cases value with
  | text body => exact ⟨rfl, rfl⟩
  | choices chosen => exact recordsChoices_store hn chosen
  | sorting order => exact recordsOrder_store (hshort order rfl)
  | matrix cells => exact recordsCells_store q cells

end Question

namespace Questionnaire

/-- A submission loses nothing and invents nothing, whatever answers it is made of and whichever questions are taken to be visible. It is to
the questionnaire as it stands, and of its respondent. Its answers stand in the order of positions and answer exactly the visible questions
with a value that says something, and each records what its question can take of its value. Places in rankings are numbers of 32 bits, so
rankings have to be shorter than that. -/
theorem compile_loses_and_invents_nothing {q : Questionnaire} {a : Answers}
    (hshort : ∀ question ∈ q.answerable, ∀ order, a.value? question.id = some (.sorting order) → order.length < UInt32.size)
    (respondent : RespondentId) (v : Visibility) :
    ((q.compile respondent a v).questionnaire = q.id ∧ (q.compile respondent a v).revision = q.revision ∧
      (q.compile respondent a v).respondent = respondent) ∧
    (q.compile respondent a v).answers.Pairwise (fun x y => q.Precedes x.question y.question) ∧
    (∀ id, id ∈ (q.compile respondent a v).answers.map (·.question) ↔
      ∃ question ∈ q.answerable, question.id = id ∧ v.shows id = true ∧ a.hasValue id = true) ∧
    ∀ stored ∈ (q.compile respondent a v).answers, ∃ question ∈ q.answerable, question.id = stored.question ∧
      ∃ value, a.value? question.id = some value ∧ question.Records stored value := by
  refine ⟨⟨rfl, rfl, rfl⟩, compile_ascending q respondent a v, fun _ => mem_questions_compile, fun stored hstored => ?_⟩
  obtain ⟨question, hq, _, value, hv, _, rfl⟩ := mem_compile.1 hstored
  have hmem := (mem_answerable.1 hq).1
  refine ⟨question, hq, (question.store_question value).symm, value, hv, ?_⟩
  refine Question.records_store (q.wellFormed.options question hmem) value ?_
  rintro order rfl
  exact hshort question hq order hv

namespace Muddle

/-- A form whose last question is of no interest to those who saw a bird. -/
def form : Questionnaire where
  definition := {
    id := 1, title := "Birds", questions := [
      { id := 1, position := 0, body := "Which ones did you see?", kind := .multipleOption,
        options := [{ id := 10, body := "Parrot" }, { id := 11, body := "Other", freeText := true }] },
      { id := 2, position := 1, body := "From shy to bold", kind := .sorting,
        options := [{ id := 20, body := "Parrot" }, { id := 21, body := "Crow" }] },
      { id := 3, position := 2, body := "How did they behave?", kind := .matrixMultiple,
        rows := [{ id := 30, body := "Parrot" }, { id := 31, body := "Crow" }],
        options := [{ id := 32, body := "Calm" }, { id := 33, body := "Noisy" }] },
      { id := 4, position := 3, body := "Why not?", kind := .shortAnswer, conditions := [.notAnswered 1] }] }
  wellFormed := Definition.problem?_eq_none_iff.1 (by decide)
  ascending := by decide

/-- Answers that name what the form does not have and repeat what it has. -/
def answers : Answers :=
  ((((Answers.empty.set 1 (.choices [⟨11, some " "⟩, ⟨99, none⟩, ⟨10, some "Red"⟩, ⟨11, some "Owl"⟩])).set 2
    (.sorting [21, 99, 20, 21])).set 3 (.matrix [⟨31, 32⟩, ⟨30, 33⟩, ⟨99, 32⟩, ⟨31, 32⟩])).set 4 (.text "Rain")).set 9 (.text "Hello")

/-- What is stored of them. -/
def stored : List StoredAnswer := [
  { question := 1, choices := [{ option := 10, body := "Parrot" }, { option := 11, body := "Other" }] },
  { question := 2, choices := [{ option := 21, body := "Crow", position := some 0 }, { option := 20, body := "Parrot", position := some 1 },
      { option := 21, body := "Crow", position := some 2 }] },
  { question := 3, choices := [{ option := 33, body := "Noisy", row := some 30 }, { option := 32, body := "Calm", row := some 31 }] }]

/-- Of answers in a muddle what the form can take is stored. -/
theorem muddle_is_stored_without_loss :
    (∀ question ∈ form.answerable, ∀ order, answers.value? question.id = some (.sorting order) → order.length < UInt32.size) ∧
    (form.compile 7 answers (form.visibility answers)).answers = stored ∧
    stored.Pairwise (fun x y => form.Precedes x.question y.question) ∧
    ∀ answer ∈ stored, ∃ question ∈ form.answerable, question.id = answer.question ∧
      ∃ value, answers.value? question.id = some value ∧ question.Records answer value := by
  have hshort : ∀ question ∈ form.answerable, ∀ order, answers.value? question.id = some (.sorting order) →
      order.length < UInt32.size := by
    intro question hq order hv
    have hlength : ∀ question ∈ form.answerable, ((answers.value? question.id).bind AnswerValue.sorting?).all (·.length < UInt32.size) := by
      decide
    simpa [hv, AnswerValue.sorting?] using hlength question hq
  have hstored : (form.compile 7 answers (form.visibility answers)).answers = stored := by decide
  obtain ⟨_, hascending, _, hrecords⟩ := compile_loses_and_invents_nothing hshort 7 (form.visibility answers)
  rw [hstored] at hascending hrecords
  exact ⟨hshort, hstored, hascending, hrecords⟩

end Muddle

end Questionnaire

end Survey
