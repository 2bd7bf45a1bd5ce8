import Survey.Questionnaire.Basic

/-!
# What the errors of definitions say

A definition is built exactly if it is well formed, and otherwise an error names what is wrong. An error is *true* of questions if what
it names is among them and is as it says (`DefinitionError.TrueOf`). That looks at which questions there are and not at the order they
were written in, nor at the order in which problems are looked for. A definition may have several things wrong with it; whichever is
found first, the error is true (`Definition.problem?_true`).
-/

namespace Survey

/-! ## True errors -/

/-- Among questions is one of an identifier that is as said. -/
def HasQuestion (questions : List Question) (id : QuestionId) (P : Question → Prop) : Prop :=
  ∃ q ∈ questions, q.id = id ∧ P q

/-- Among questions is one of an identifier with a condition that is as said. -/
def HasCondition (questions : List Question) (id : QuestionId) (P : DisplayCondition → Prop) : Prop :=
  HasQuestion questions id fun q => ∃ c ∈ q.conditions, P c

/-- Among questions is one of an identifier with a condition on another one of them, and these are to one another as said. -/
def HasReference (questions : List Question) (id target : QuestionId) (P : Question → DisplayCondition → Question → Prop) : Prop :=
  HasQuestion questions id fun q => ∃ c ∈ q.conditions, c.question = target ∧ HasQuestion questions target (P q c)

/-- What an error says is so among questions. -/
def DefinitionError.TrueOf (questions : List Question) : DefinitionError → Prop
  | .duplicatePosition position first second =>
    first ≠ second ∧ HasQuestion questions first (·.position = position) ∧ HasQuestion questions second (·.position = position)
  | .duplicateQuestion question => 1 < (questions.map (·.id)).count question
  | .duplicateOption question option => HasQuestion questions question fun q => 1 < (q.options.map (·.id)).count option
  | .duplicateRow question row => HasQuestion questions question fun q => 1 < (q.rows.map (·.id)).count row
  | .unknownConditionQuestion question target =>
    HasCondition questions question (·.question = target) ∧ target ∉ questions.map (·.id)
  | .forwardReference question target => HasReference questions question target fun q _ t => q.position ≤ t.position
  | .conditionOnSeparator question target => HasReference questions question target fun _ _ t => t.isSeparator = true
  | .conditionalSeparator question => HasQuestion questions question fun q => q.isSeparator = true ∧ q.conditions ≠ []
  | .unsupportedCondition question target type kind =>
    type.canVaryOn kind = false ∧ HasReference questions question target fun _ c t => c.type = type ∧ t.kind = kind
  | .missingConditionOption question type =>
    type.comparesOption = true ∧ HasCondition questions question fun c => c.type = type ∧ c.option = none
  | .missingConditionText question =>
    HasCondition questions question fun c => c.type = .matching ∧ ∀ t ∈ c.text, Text.isBlank t = true
  | .foreignConditionOption question target option =>
    HasReference questions question target fun _ c t =>
      c.type.comparesOption = true ∧ c.option = some option ∧ option ∉ t.options.map (·.id)

/-- Whether an error is true depends on which questions there are. -/
theorem DefinitionError.TrueOf.of_perm {questions others : List Question} {e : DefinitionError} (he : e.TrueOf questions)
    (h : questions.Perm others) : e.TrueOf others := by
  have hids := h.map (·.id)
  cases e <;> simpa only [TrueOf, HasReference, HasCondition, HasQuestion, hids.count_eq, hids.mem_iff, h.mem_iff] using he

/-! ## What is found is true -/

/-- What repeats itself first stands more than once. -/
theorem one_lt_count_of_firstRepeat? {α : Type} [DecidableEq α] {xs : List α} {x : α} (h : firstRepeat? xs = some x) :
    1 < xs.count x := by
  obtain ⟨before, after, rfl, hx⟩ := firstRepeat?_eq_some h
  have hpos := List.count_pos_iff.2 hx
  rw [List.count_append, List.count_cons_self]
  omega

/-- Two neighbours share the position at which they clash. -/
theorem positionClash?_eq_some {questions : List Question} {e : DefinitionError} (h : positionClash? questions = some e) :
    ∃ before a b after, questions = before ++ a :: b :: after ∧ a.position = b.position ∧
      e = .duplicatePosition a.position a.id b.id := by
  induction questions with
  | nil => cases h
  | cons a rest ih =>
    cases rest with
    | nil => cases h
    | cons b rest =>
      rw [positionClash?] at h
      split at h
      · rename_i hposition
        exact ⟨[], a, b, rest, rfl, hposition, (Option.some.inj h).symm⟩
      · obtain ⟨before, x, y, after, heq, hposition, he⟩ := ih h
        exact ⟨a :: before, x, y, after, by rw [heq]; rfl, hposition, he⟩

section Conditions

variable {questions : List Question} {q target : Question} {c : DisplayCondition} {e : DefinitionError}

theorem DisplayCondition.optionProblem?_true (hq : q ∈ questions) (hc : c ∈ q.conditions) (ht : target ∈ questions)
    (hid : target.id = c.question) (h : c.optionProblem? q.id target = some e) : e.TrueOf questions := by
  unfold DisplayCondition.optionProblem? at h
  split at h
  · rename_i hcompares
    cases hoption : c.option with
    | none =>
      rw [hoption] at h
      cases h
      exact ⟨hcompares, q, hq, rfl, c, hc, rfl, hoption⟩
    | some option =>
      simp only [hoption] at h
      split at h
      · rename_i hforeign
        cases h
        have hnone : option ∉ target.options.map (·.id) := by
          simpa [Question.option?, List.find?_eq_none] using hforeign
        exact ⟨q, hq, rfl, c, hc, hid.symm, target, ht, rfl, hcompares, hoption, hnone⟩
      · cases h
  · cases h

theorem DisplayCondition.textProblem?_true (hq : q ∈ questions) (hc : c ∈ q.conditions) (h : c.textProblem? q.id = some e) :
    e.TrueOf questions := by
  unfold DisplayCondition.textProblem? at h
  split at h
  · rename_i hblank
    cases h
    exact ⟨q, hq, rfl, c, hc, hblank.1, (Option.all_eq_true _ _).1 hblank.2⟩
  · cases h

/-- What is found wrong with a condition is wrong with it. -/
theorem DisplayCondition.problem?_true (hq : q ∈ questions) (hc : c ∈ q.conditions) (h : c.problem? q questions = some e) :
    e.TrueOf questions := by
  unfold DisplayCondition.problem? at h
  cases hfound : questions.find? (·.id = c.question) with
  | none =>
    rw [hfound] at h
    cases h
    have hunknown : c.question ∉ questions.map (·.id) := by simpa [List.find?_eq_none] using hfound
    exact ⟨⟨q, hq, rfl, c, hc, rfl⟩, hunknown⟩
  | some target =>
    have ht : target ∈ questions := List.mem_of_find?_eq_some hfound
    have hid : target.id = c.question := by simpa using List.find?_some hfound
    simp only [hfound] at h
    split at h
    · rename_i hforward
      cases h
      exact ⟨q, hq, rfl, c, hc, hid.symm, target, ht, rfl, hforward⟩
    · split at h
      · rename_i hseparator
        cases h
        exact ⟨q, hq, rfl, c, hc, hid.symm, target, ht, rfl, hseparator⟩
      · split at h
        · rcases Option.or_eq_some_iff.1 h with h | ⟨_, h⟩
          · exact DisplayCondition.optionProblem?_true hq hc ht hid h
          · exact DisplayCondition.textProblem?_true hq hc h
        · rename_i hvaries
          cases h
          exact ⟨by simpa using hvaries, q, hq, rfl, c, hc, hid.symm, target, ht, rfl, rfl, rfl⟩

/-- What is found wrong with a question is wrong with it. -/
theorem Question.problem?_true (hq : q ∈ questions) (h : q.problem? questions = some e) : e.TrueOf questions := by
  rcases Option.or_eq_some_iff.1 h with h | ⟨_, h⟩
  · rcases Option.or_eq_some_iff.1 h with h | ⟨_, h⟩
    · obtain ⟨option, hrepeat, rfl⟩ := Option.map_eq_some_iff.1 h
      exact ⟨q, hq, rfl, one_lt_count_of_firstRepeat? hrepeat⟩
    · obtain ⟨row, hrepeat, rfl⟩ := Option.map_eq_some_iff.1 h
      exact ⟨q, hq, rfl, one_lt_count_of_firstRepeat? hrepeat⟩
  · rcases Option.or_eq_some_iff.1 h with h | ⟨_, h⟩
    · unfold Question.separatorProblem? at h
      split at h
      · rename_i hseparator
        cases h
        exact ⟨q, hq, rfl, hseparator⟩
      · cases h
    · obtain ⟨c, hc, h⟩ := List.exists_of_findSome?_eq_some h
      exact DisplayCondition.problem?_true hq hc h

end Conditions

namespace Definition

variable {d : Definition} {e : DefinitionError}

/-- What is found wrong with a definition is wrong with it. Positions are looked at only where no two questions share an identifier,
so the two that share a position are different questions. -/
theorem problem?_true (h : d.problem? = some e) : e.TrueOf d.questions := by
  rcases Option.or_eq_some_iff.1 h with h | ⟨_, h⟩
  · rcases Option.or_eq_some_iff.1 h with h | ⟨hids, h⟩
    · obtain ⟨id, hrepeat, rfl⟩ := Option.map_eq_some_iff.1 h
      exact one_lt_count_of_firstRepeat? hrepeat
    · obtain ⟨before, a, b, after, heq, hposition, rfl⟩ := positionClash?_eq_some h
      have hn : (d.ordered.questions.map (·.id)).Nodup :=
        (d.ordered_perm.map _).nodup_iff.2 (firstRepeat?_eq_none_iff.1 (Option.map_eq_none_iff.1 hids))
      have hne : a.id ≠ b.id := by
        rw [heq, List.map_append, List.map_cons, List.map_cons] at hn
        have hcons := (List.nodup_append.1 hn).2.1
        exact fun e => (List.nodup_cons.1 hcons).1 (e ▸ List.mem_cons_self)
      have ha : a ∈ d.questions := d.ordered_perm.subset (by simp [heq])
      have hb : b ∈ d.questions := d.ordered_perm.subset (by simp [heq])
      exact ⟨hne, ⟨a, ha, rfl, rfl⟩, ⟨b, hb, rfl, hposition.symm⟩⟩
  · obtain ⟨q, hq, h⟩ := List.exists_of_findSome?_eq_some h
    exact (Question.problem?_true hq h).of_perm d.ordered_perm

/-! ## Building -/

/-- What is built of a definition is the definition with its questions in ascending order. -/
theorem definition_of_build {q : Questionnaire} (h : d.build = .ok q) :
    q.definition = { d with questions := q.questions } ∧ q.questions.Perm d.questions := by
  have hordered := (build_eq_ok_iff.1 h).2
  have hquestions : q.questions = d.ordered.questions := by rw [Questionnaire.questions, hordered]
  rw [hquestions]
  exact ⟨hordered, d.ordered_perm⟩

/-- A definition is built exactly if it is well formed. Nothing of it is changed then but the order of its questions, which ascend
strictly, and an identifier finds the one question that has it. If it is not built, the error is true of it. -/
theorem build_accepts_exactly_the_wellFormed (d : Definition) :
    ((∃ q, d.build = .ok q) ↔ d.WellFormed) ∧
    (∀ q, d.build = .ok q →
      q.definition = { d with questions := q.questions } ∧ q.questions.Perm d.questions ∧
      q.questions.Pairwise (fun a b => a.position < b.position) ∧
      ∀ id, (∀ question, q.question? id = some question ↔ question ∈ d.questions ∧ question.id = id) ∧
        (q.question? id = none ↔ ∀ question ∈ d.questions, question.id ≠ id)) ∧
    ∀ e, d.build = .error e → e.TrueOf d.questions := by
  refine ⟨⟨?_, ?_⟩, fun q hq => ?_, fun e he => problem?_true (build_eq_error_iff.1 he)⟩
  · rintro ⟨q, hq⟩
    exact (build_eq_ok_iff.1 hq).1
  · intro hwell
    cases hb : d.build with
    | ok q => exact ⟨q, rfl⟩
    | error e =>
      rw [build_eq_error_iff, problem?_eq_none_iff.2 hwell] at hb
      cases hb
  · obtain ⟨hdefinition, hperm⟩ := definition_of_build hq
    refine ⟨hdefinition, hperm, q.ascending, fun id => ⟨fun question => ?_, ?_⟩⟩
    · rw [Questionnaire.question?_eq_some_iff, hperm.mem_iff]
    · simp only [Questionnaire.question?, find?_key_eq_none_iff, hperm.mem_iff]

namespace Author

/-- Two questions written in the wrong order, the second shown to those who name cockatoos in the first. -/
def survey : Definition where
  id := 1
  title := "Birds"
  questions := [
    { id := 2, position := 5, body := "How many?", kind := .shortAnswer, conditions := [.matching 1 "cockatoo"] },
    { id := 1, position := 3, body := "Which birds did you see?", kind := .longAnswer }]

/-- The questionnaire the two questions make. -/
def built : Questionnaire where
  definition := { survey with questions := survey.questions.reverse }
  wellFormed := problem?_eq_none_iff.1 (by decide)
  ascending := by decide

/-- The same questions with much wrong: two of them at one position, a condition on a question that comes later, and one on a question
that is not there. -/
def muddle : Definition :=
  { survey with questions := survey.questions ++ [
      { id := 3, position := 3, body := "Where?", kind := .shortAnswer, conditions := [.answered 2, .answered 9] }] }

/-- The two questions are put in order, and the first is found under its identifier; of the muddle the two questions that share a
position are named. -/
theorem survey_is_built_and_muddle_named :
    survey.build = .ok built ∧ survey.WellFormed ∧ built.questions.Perm survey.questions ∧
    built.question? 1 = some { id := 1, position := 3, body := "Which birds did you see?", kind := .longAnswer } ∧
    muddle.build = .error (.duplicatePosition 3 1 3) ∧ ¬ muddle.WellFormed ∧
    (DefinitionError.duplicatePosition 3 1 3).TrueOf muddle.questions := by
  have hbuilt : survey.build = .ok built := build_eq_ok_iff.2 ⟨problem?_eq_none_iff.1 (by decide), by decide⟩
  have hmuddle : muddle.build = .error (.duplicatePosition 3 1 3) := build_eq_error_iff.2 (by decide)
  obtain ⟨hiff, hok, _⟩ := build_accepts_exactly_the_wellFormed survey
  obtain ⟨hiff', _, herror⟩ := build_accepts_exactly_the_wellFormed muddle
  obtain ⟨_, hperm, _, hfound⟩ := hok built hbuilt
  refine ⟨hbuilt, hiff.1 ⟨built, hbuilt⟩, hperm, ?_, hmuddle, fun hwell => ?_, herror _ hmuddle⟩
  · exact ((hfound 1).1 _).2 ⟨by decide, rfl⟩
  · obtain ⟨q, hq⟩ := hiff'.2 hwell
    rw [hmuddle] at hq
    cases hq

end Author

end Definition

end Survey
