import Survey.Proofs.AcceptedAnswers
import Survey.Proofs.StoredAnswers
import Survey.Store.Scripted

/-!
# The shape of a submission

A submission that is accepted holds one answer to each visible question with a value that says something and to no other, in the order
of the questions, and each answer has the shape that the kind of its question asks for (`Question.Keeps`). Nothing of this is checked when
a submission is made: values were checked when they were given, the whole when it was submitted, and the rest is how answers are stored.
-/

namespace Survey

/-! ## The shapes of stored answers -/

namespace Question

variable {q : Question} {settings : SessionSettings}

/-- A stored choice names an option of the question and carries its body. -/
def Names (q : Question) (choice : StoredChoice) : Prop := ∃ option ∈ q.options, option.id = choice.option ∧ option.body = choice.body

/-- Text is stored unchanged. It says something and, where a limit on characters is enforced, keeps it. -/
structure KeepsText (q : Question) (settings : SessionSettings) (text : String) (stored : StoredAnswer) : Prop where
  body : stored.body = some text
  choices : stored.choices = []
  given : Text.isBlank text = false
  limit : settings.enforceMaxCharacters = true → 0 < q.maxCharacters.toNat → text.length ≤ q.maxCharacters.toNat

/-- Options of the question are stored, and no text. -/
structure KeepsOptions (q : Question) (stored : StoredAnswer) : Prop where
  body : stored.body = none
  given : stored.choices ≠ []
  named : ∀ choice ∈ stored.choices, q.Names choice

/-- Chosen options stand in the order of the question's, no more than it allows, the free ones with text that says something. -/
structure KeepsChoices (q : Question) (stored : StoredAnswer) : Prop extends KeepsOptions q stored where
  ascending : stored.choices.Pairwise q.OptionBefore
  single : q.kind = .singleOption → stored.choices.length = 1
  limit : q.kind = .multipleOption → ∀ limit ∈ q.maxChoices, stored.choices.length ≤ limit.toNat
  ownText : ∀ choice ∈ stored.choices, ∀ option ∈ q.options, option.id = choice.option →
    if option.freeText then ∃ text, choice.customBody = some text ∧ Text.isBlank text = false else choice.customBody = none
  plain : ∀ choice ∈ stored.choices, choice.position = none ∧ choice.row = none

/-- Every option is ranked once, with its place in the list, from zero. -/
structure KeepsOrder (q : Question) (stored : StoredAnswer) : Prop extends KeepsOptions q stored where
  every : (stored.choices.map (·.option)).Perm (q.options.map (·.id))
  places : stored.choices.map (fun choice => choice.position.map (·.toNat)) = (List.range q.options.length).map some
  plain : ∀ choice ∈ stored.choices, choice.customBody = none ∧ choice.row = none

/-- Cells stand row by row and in each row in the order of the question's options, in no row more than allowed and, where the question is
mandatory, some in every row. -/
structure KeepsCells (q : Question) (stored : StoredAnswer) : Prop extends KeepsOptions q stored where
  ascending : stored.choices.Pairwise q.CellBefore
  rows : ∀ choice ∈ stored.choices, ∃ row ∈ q.rows, choice.row = some row.id
  single : q.kind = .matrixSingle → ∀ row ∈ q.rows, (stored.choices.filter (·.row = some row.id)).length ≤ 1
  limit : q.kind = .matrixMultiple → ∀ limit ∈ q.maxChoices, ∀ row ∈ q.rows,
    (stored.choices.filter (·.row = some row.id)).length ≤ limit.toNat
  every : q.mandatory = true → ∀ row ∈ q.rows, ∃ choice ∈ stored.choices, choice.row = some row.id
  plain : ∀ choice ∈ stored.choices, choice.position = none ∧ choice.customBody = none

/-- A value of a question is stored in the shape that the kind of the question asks for. -/
def Keeps (q : Question) (settings : SessionSettings) (value : AnswerValue) (stored : StoredAnswer) : Prop :=
  match q.kind with
  | .shortAnswer | .longAnswer => ∃ text, value = .text text ∧ q.KeepsText settings text stored
  | .singleOption | .multipleOption => q.KeepsChoices stored
  | .sorting => q.KeepsOrder stored
  | .matrixSingle | .matrixMultiple => q.KeepsCells stored
  | .separator => False

/-! ## Accepted values are stored in shape -/

theorem Accepts.keepsText {text : String} (h : q.Accepts settings (.text text)) :
    q.KeepsText settings text (q.store (.text text)) := by
  obtain ⟨_, hgiven, hlimit⟩ := accepts_text_iff.1 h
  exact ⟨rfl, rfl, hgiven, hlimit⟩

theorem Accepts.keepsChoices (hn : (q.options.map (·.id)).Nodup) {chosen : List Choice}
    (h : q.Accepts settings (.choices chosen)) : q.KeepsChoices (q.store (.choices chosen)) := by
  obtain ⟨_, hsome, hknown, hlimit, htext⟩ := accepts_choices_iff.1 h
  have hlength := length_storeChoices hknown
  have hgiven : q.storeChoices chosen ≠ [] := by
    obtain ⟨choice, hchoice⟩ := List.exists_mem_of_ne_nil _ hsome
    have hstored := (mem_options_storeChoices hknown _).2 (List.mem_map_of_mem (f := (·.option)) hchoice)
    exact fun hnil => List.not_mem_nil (by rwa [hnil] at hstored)
  refine ⟨⟨rfl, hgiven, ?_⟩, q.storeChoices_ascending chosen, ?_, ?_, ?_, ?_⟩
  · intro stored hstored
    obtain ⟨option, hoption, _, _, _, rfl⟩ := exists_choice_of_mem_storeChoices hstored
    exact ⟨option, hoption, rfl, rfl⟩
  · intro hkind
    have hle := hlimit 1 (by simp [choiceLimit, hkind])
    have hpos := List.length_pos_iff.2 hgiven
    show (q.storeChoices chosen).length = 1
    omega
  · intro hkind limit hl
    have hle := hlimit limit.toNat (by simp [choiceLimit, hkind, Option.mem_def.1 hl])
    show (q.storeChoices chosen).length ≤ limit.toNat
    omega
  · intro stored hstored option hoption hid
    obtain ⟨named, hnamed, choice, hchoice, hnamedid, rfl⟩ := exists_choice_of_mem_storeChoices hstored
    have heq : option = named := List.inj_on_of_nodup_map hn hoption hnamed hid
    subst heq
    cases hfree : option.freeText with
    | false => exact customBody_storeChoice_of_not_free hfree
    | true =>
      obtain ⟨text, _, hblank, hbody⟩ := customBody_storeChoice_of_free hn hoption hnamedid hfree (htext choice hchoice)
      exact ⟨text, hbody, hblank⟩
  · intro stored hstored
    obtain ⟨_, _, _, _, _, rfl⟩ := exists_choice_of_mem_storeChoices hstored
    exact ⟨rfl, rfl⟩

theorem Accepts.keepsOrder (hn : (q.options.map (·.id)).Nodup) (hshort : q.options.length < UInt32.size) {order : List OptionId}
    (h : q.Accepts settings (.sorting order)) : q.KeepsOrder (q.store (.sorting order)) := by
  obtain ⟨_, hsome, hperm⟩ := (accepts_sorting_iff hn).1 h
  have hknown : ∀ id ∈ order, id ∈ q.options.map (·.id) := fun id hid => hperm.subset hid
  have hlength : order.length = q.options.length := by simpa using hperm.length_eq
  have hoptions : (q.storeOrder order).map (·.option) = order := map_option_storeOrder hknown
  have hplaces := map_position_storeOrder hknown (by omega)
  refine ⟨⟨rfl, ?_, ?_⟩, ?_, ?_, ?_⟩
  · intro hnil
    have hnil : q.storeOrder order = [] := hnil
    rw [hnil] at hoptions
    exact hsome hoptions.symm
  · intro stored hstored
    obtain ⟨_, option, hoption, rfl⟩ := exists_of_mem_storeOrder hstored
    exact ⟨option, hoption, rfl, rfl⟩
  · show ((q.storeOrder order).map (·.option)).Perm _
    rw [hoptions]
    exact hperm
  · rw [← hlength]
    exact hplaces
  · intro stored hstored
    obtain ⟨_, _, _, rfl⟩ := exists_of_mem_storeOrder hstored
    exact ⟨rfl, rfl⟩

theorem Accepts.keepsCells {cells : List MatrixCell} (h : q.Accepts settings (.matrix cells)) :
    q.KeepsCells (q.store (.matrix cells)) := by
  obtain ⟨_, hsome, hoptions, hrows, hlimit, hevery⟩ := accepts_matrix_iff.1 h
  have hlength := length_storeCells hoptions hrows
  have hstored : ∀ cell ∈ cells, ∃ stored ∈ q.storeCells cells, stored.row = some cell.row := by
    intro cell hcell
    obtain ⟨stored, hstored, hrow, _⟩ := (mem_storeCells_iff hoptions hrows cell).2 hcell
    exact ⟨stored, hstored, hrow⟩
  refine ⟨⟨rfl, ?_, ?_⟩, q.storeCells_ascending cells, ?_, ?_, ?_, ?_, ?_⟩
  · obtain ⟨cell, hcell⟩ := List.exists_mem_of_ne_nil _ hsome
    obtain ⟨stored, hstored, _⟩ := hstored cell hcell
    exact List.ne_nil_of_mem hstored
  · intro stored hstored
    obtain ⟨_, _, option, hoption, rfl⟩ := exists_of_mem_storeCells hstored
    exact ⟨option, hoption, rfl, rfl⟩
  · intro stored hstored
    obtain ⟨row, hrow, _, _, rfl⟩ := exists_of_mem_storeCells hstored
    exact ⟨row, hrow, rfl⟩
  · intro hkind row hrow
    show ((q.storeCells cells).filter (·.row = some row.id)).length ≤ 1
    rw [hlength]
    exact hlimit 1 (by simp [rowLimit, hkind]) row hrow
  · intro hkind limit hl row hrow
    show ((q.storeCells cells).filter (·.row = some row.id)).length ≤ limit.toNat
    rw [hlength]
    exact hlimit limit.toNat (by simp [rowLimit, hkind, Option.mem_def.1 hl]) row hrow
  · intro hm row hrow
    obtain ⟨cell, hcell, hid⟩ := hevery hm row hrow
    obtain ⟨stored, hstored, hrow⟩ := hstored cell hcell
    exact ⟨stored, hstored, by rw [hrow, hid]⟩
  · intro stored hstored
    obtain ⟨_, _, _, _, rfl⟩ := exists_of_mem_storeCells hstored
    exact ⟨rfl, rfl⟩

/-- An accepted value is stored in the shape that the kind of the question asks for. -/
theorem Accepts.keeps (hn : (q.options.map (·.id)).Nodup) (hshort : q.options.length < UInt32.size) {value : AnswerValue}
    (h : q.Accepts settings value) : q.Keeps settings value (q.store value) := by
  have hkind := (misfit?_eq_none_iff.1 h.suits).1
  unfold Keeps
  cases value with
  | text body =>
    have hkeeps := h.keepsText
    cases hk : q.kind with
    | shortAnswer | longAnswer => exact ⟨body, rfl, hkeeps⟩
    | _ => rw [hk] at hkind; cases hkind
  | choices chosen =>
    have hkeeps := h.keepsChoices hn
    cases hk : q.kind with
    | singleOption | multipleOption => exact hkeeps
    | _ => rw [hk] at hkind; cases hkind
  | sorting order =>
    have hkeeps := h.keepsOrder hn hshort
    cases hk : q.kind with
    | sorting => exact hkeeps
    | _ => rw [hk] at hkind; cases hkind
  | matrix cells =>
    have hkeeps := h.keepsCells
    cases hk : q.kind with
    | matrixSingle | matrixMultiple => exact hkeeps
    | _ => rw [hk] at hkind; cases hkind

end Question

/-! ## What is stored of answers -/

theorem Question.storeAnswer?_eq_some_iff {question : Question} {a : Answers} {stored : StoredAnswer} :
    question.storeAnswer? a = some stored ↔
      ∃ value, a.value? question.id = some value ∧ value.isBlank = false ∧ question.store value = stored := by
  simp [storeAnswer?, Option.filter_eq_some_iff, and_assoc]

@[simp]
theorem Question.store_question (question : Question) (value : AnswerValue) : (question.store value).question = question.id := by
  cases value <;> rfl

namespace Questionnaire

variable {q : Questionnaire} {respondent : RespondentId} {a : Answers} {v : Visibility}

theorem mem_compile {stored : StoredAnswer} :
    stored ∈ (q.compile respondent a v).answers ↔ ∃ question ∈ q.answerable, v.shows question.id = true ∧
      ∃ value, a.value? question.id = some value ∧ value.isBlank = false ∧ question.store value = stored := by
  simp only [compile, List.mem_filterMap, List.mem_filter, Question.storeAnswer?_eq_some_iff, and_assoc]

/-- The answers of a submission stand in the order of their questions. -/
theorem compile_ascending (q : Questionnaire) (respondent : RespondentId) (a : Answers) (v : Visibility) :
    (q.compile respondent a v).answers.Pairwise fun x y => q.Precedes x.question y.question := by
  refine List.pairwise_filterMap.2 ((answerable_ascending.filter _).imp_of_mem ?_)
  intro first second hfirst hsecond hlt x hx y hy
  obtain ⟨_, _, _, rfl⟩ := Question.storeAnswer?_eq_some_iff.1 hx
  obtain ⟨_, _, _, rfl⟩ := Question.storeAnswer?_eq_some_iff.1 hy
  rw [Question.store_question, Question.store_question]
  exact precedes_of_lt (List.mem_filter.1 hfirst).1 (List.mem_filter.1 hsecond).1 hlt

/-- A submission answers the visible questions with a value that says something. -/
theorem mem_questions_compile {id : QuestionId} :
    id ∈ (q.compile respondent a v).answers.map (·.question) ↔
      ∃ question ∈ q.answerable, question.id = id ∧ v.shows id = true ∧ a.hasValue id = true := by
  constructor
  · intro h
    obtain ⟨stored, hstored, rfl⟩ := List.mem_map.1 h
    obtain ⟨question, hq, hs, value, hv, hgiven, rfl⟩ := mem_compile.1 hstored
    rw [Question.store_question]
    exact ⟨question, hq, rfl, hs, Answers.hasValue_iff.2 ⟨value, hv, hgiven⟩⟩
  · rintro ⟨question, hq, rfl, hs, hvalue⟩
    obtain ⟨value, hv, hgiven⟩ := Answers.hasValue_iff.1 hvalue
    refine List.mem_map.2 ⟨question.store value, mem_compile.2 ⟨question, hq, hs, value, hv, hgiven, rfl⟩, ?_⟩
    exact question.store_question value

end Questionnaire

namespace Session

/-- The shape of every submission that is accepted. Its answers name, in the order of positions, exactly the visible questions with a
value that says something, all visible mandatory ones among them and no hidden one, and each of them keeps the value of its question in the
shape that the question's kind asks for. Places in rankings are numbers of 32 bits, so lists of options have to be shorter than that. -/
theorem submission_shape {q : Questionnaire} {respondent : RespondentId} {settings : SessionSettings}
    {allowed : Session → Call → Prop} {s : Session} {σ ε : Type} {keeper : Keeper σ ε} {store : σ} {submission : Submission}
    (hshort : ∀ question ∈ q.answerable, question.options.length < UInt32.size)
    (h : Reaches allowed (fresh q respondent settings) s) (hr : (s.submit keeper store).result = .ok submission) :
    submission.answers.Pairwise (fun x y => q.Precedes x.question y.question) ∧
    (∀ id, id ∈ submission.answers.map (·.question) ↔
      ∃ question ∈ q.answerable, question.id = id ∧ (q.visibility s.answers).shows id = true ∧ s.answers.hasValue id = true) ∧
    (∀ question ∈ q.answerable, question.mandatory = true → (q.visibility s.answers).shows question.id = true →
      question.id ∈ submission.answers.map (·.question)) ∧
    (∀ id ∈ (q.visibility s.answers).hidden, id ∉ submission.answers.map (·.question)) ∧
    ∀ stored ∈ submission.answers, ∃ question ∈ q.answerable, question.id = stored.question ∧
      ∃ value, s.answers.value? question.id = some value ∧ question.Keeps settings value stored := by
  obtain ⟨horder, rfl⟩ := h.submitted hr
  refine ⟨Questionnaire.compile_ascending q respondent _ _, fun _ => Questionnaire.mem_questions_compile, ?_, ?_, ?_⟩
  · intro question hq hm hs
    exact Questionnaire.mem_questions_compile.2 ⟨question, hq, rfl, hs, horder.hasValue_of_mandatory hq hs hm⟩
  · intro id hid hmem
    obtain ⟨_, _, _, hs, _⟩ := Questionnaire.mem_questions_compile.1 hmem
    exact Visibility.shows_iff.1 hs hid
  · intro stored hstored
    obtain ⟨question, hq, hs, value, hv, hgiven, rfl⟩ := Questionnaire.mem_compile.1 hstored
    have hmem := (Questionnaire.mem_answerable.1 hq).1
    refine ⟨question, hq, (question.store_question value).symm, value, hv, ?_⟩
    exact (horder.accepts hq hs hv hgiven).keeps (q.wellFormed.options question hmem) (hshort question hq)

namespace EveryKind

/-- A question of each kind, one of which is hidden from those who saw a bird. -/
def form : Questionnaire where
  definition := {
    id := 1, title := "Every kind", questions := [
      { id := 1, position := 0, body := "Did you see birds?", kind := .singleOption, mandatory := true,
        options := [{ id := 10, body := "Yes" }, { id := 11, body := "No" }] },
      { id := 2, position := 1, body := "Which ones?", kind := .multipleOption, maxChoices := some 2,
        options := [{ id := 20, body := "Parrot" }, { id := 21, body := "Crow" }, { id := 22, body := "Other", freeText := true }] },
      { id := 3, position := 2, body := "Why not?", kind := .shortAnswer, mandatory := true, conditions := [.equal 1 11] },
      { id := 4, position := 3, body := "Where?", kind := .longAnswer, maxCharacters := 8 },
      { id := 5, position := 4, body := "From shy to bold", kind := .sorting,
        options := [{ id := 50, body := "Parrot" }, { id := 51, body := "Crow" }] },
      { id := 6, position := 5, body := "How did they behave?", kind := .matrixSingle, mandatory := true,
        rows := [{ id := 60, body := "Parrot" }, { id := 61, body := "Crow" }],
        options := [{ id := 62, body := "Calm" }, { id := 63, body := "Noisy" }] }] }
  wellFormed := Definition.problem?_eq_none_iff.1 (by decide)
  ascending := by decide

/-- The session in which the questions were answered out of order and some options were chosen twice. -/
def filledIn : Session :=
  (Call.move (.answer 6 (.matrix [⟨61, 62⟩, ⟨60, 63⟩, ⟨61, 62⟩]))).run <| (Call.move (.answer 5 (.sorting [51, 50]))).run <|
    (Call.move (.answer 4 (.text " "))).run <| (Call.move (.answer 3 (.text "Rain"))).run <|
      (Call.move (.answer 2 (.choices [⟨22, some "Owl"⟩, ⟨20, some "Red"⟩, ⟨20, none⟩]))).run <|
        (Call.move (.answer 1 (.ofOptions [10]))).run (fresh form 7 {})

theorem reaches_filledIn : Reaches (fun _ _ => True) (fresh form 7 {}) filledIn :=
  .call _ (.call _ (.call _ (.call _ (.call _ (.call _ .first trivial) trivial) trivial) trivial) trivial) trivial

/-- What is submitted: neither the answer to the hidden question nor the blank one, every option once and in its place. -/
def submitted : Submission where
  questionnaire := 1
  revision := 0
  respondent := 7
  answers := [
    { question := 1, choices := [{ option := 10, body := "Yes" }] },
    { question := 2, choices := [{ option := 20, body := "Parrot" }, { option := 22, body := "Other", customBody := some "Owl" }] },
    { question := 5, choices := [{ option := 51, body := "Crow", position := some 0 },
        { option := 50, body := "Parrot", position := some 1 }] },
    { question := 6, choices := [{ option := 63, body := "Noisy", row := some 60 },
        { option := 62, body := "Calm", row := some 61 }] }]

/-- The submission of answers given out of order and more than once is in shape. -/
theorem filled_in_form_in_shape :
    (∀ question ∈ form.answerable, question.options.length < UInt32.size) ∧
    Reaches (fun _ _ => True) (fresh form 7 {}) filledIn ∧
    (filledIn.submit (Script.keeper (ε := Unit) ⟨.error (), .ok false, .ok .saved⟩) ()).result = .ok submitted ∧
    submitted.answers.Pairwise (fun x y => form.Precedes x.question y.question) ∧
    ∀ stored ∈ submitted.answers, ∃ question ∈ form.answerable, question.id = stored.question ∧
      ∃ value, filledIn.answers.value? question.id = some value ∧ question.Keeps {} value stored := by
  have hshort : ∀ question ∈ form.answerable, question.options.length < UInt32.size := by decide
  have hresult : (filledIn.submit (Script.keeper (ε := Unit) ⟨.error (), .ok false, .ok .saved⟩) ()).result = .ok submitted := by
    decide
  obtain ⟨hascending, _, _, _, hkeeps⟩ := submission_shape hshort reaches_filledIn hresult
  exact ⟨hshort, reaches_filledIn, hresult, hascending, hkeeps⟩

end EveryKind

end Session

end Survey
