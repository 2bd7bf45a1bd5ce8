import Survey.Definition.Error
import Survey.Definition.Lookup
import Survey.Definition.Repeat
import Survey.Definition.WellFormed

/-!
# The first problem of a definition

`Definition.problem?` looks for what keeps a definition from making a questionnaire and gives the first that it finds: first a
question that appears twice, then two questions at one position, then, question by question in the order of their positions,
options, rows and conditions. It finds nothing exactly in the well-formed definitions (`Definition.problem?_eq_none_iff`).
-/

namespace Survey

/-- The first two neighbours of a sorted list that share a position. -/
def positionClash? : List Question → Option DefinitionError
  | a :: b :: rest =>
    if a.position = b.position then some (.duplicatePosition a.position a.id b.id) else positionClash? (b :: rest)
  | _ => none

/-- What is wrong with the option a condition compares with. -/
def DisplayCondition.optionProblem? (c : DisplayCondition) (question : QuestionId) (target : Question) :
    Option DefinitionError :=
  if c.type.comparesOption then
    match c.option with
    | none => some (.missingConditionOption question c.type)
    | some option =>
      if (target.option? option).isNone then some (.foreignConditionOption question target.id option) else none
  else none

/-- What is wrong with the text a condition matches. -/
def DisplayCondition.textProblem? (c : DisplayCondition) (question : QuestionId) : Option DefinitionError :=
  if c.type = .matching ∧ c.text.all Text.isBlank = true then some (.missingConditionText question) else none

/-- What is wrong with a condition of a question. -/
def DisplayCondition.problem? (c : DisplayCondition) (question : Question) (questions : List Question) :
    Option DefinitionError :=
  match questions.find? (·.id = c.question) with
  | none => some (.unknownConditionQuestion question.id c.question)
  | some target =>
    if question.position ≤ target.position then some (.forwardReference question.id target.id)
    else if target.isSeparator then some (.conditionOnSeparator question.id target.id)
    else if c.type.canVaryOn target.kind then (c.optionProblem? question.id target).or (c.textProblem? question.id)
    else some (.unsupportedCondition question.id target.id c.type target.kind)

/-- What is wrong with a separator that is shown under conditions. -/
def Question.separatorProblem? (q : Question) : Option DefinitionError :=
  if q.isSeparator ∧ q.conditions ≠ [] then some (.conditionalSeparator q.id) else none

/-- What is wrong with a question among others. -/
def Question.problem? (questions : List Question) (q : Question) : Option DefinitionError :=
  (((firstRepeat? (q.options.map (·.id))).map (.duplicateOption q.id)).or
    ((firstRepeat? (q.rows.map (·.id))).map (.duplicateRow q.id))).or
    (q.separatorProblem?.or (q.conditions.findSome? (·.problem? q questions)))

/-- What is wrong with a definition. -/
def Definition.problem? (d : Definition) : Option DefinitionError :=
  (((firstRepeat? (d.questions.map (·.id))).map .duplicateQuestion).or (positionClash? d.ordered.questions)).or
    (d.ordered.questions.findSome? (Question.problem? d.ordered.questions))

/-! ## No problem is found exactly where there is none -/

/-- Sorted questions no two neighbours of which share a position have different positions throughout. -/
theorem positionClash?_eq_none_iff {questions : List Question}
    (h : questions.Pairwise (fun a b => a.position ≤ b.position)) :
    positionClash? questions = none ↔ (questions.map (·.position)).Nodup := by
  induction questions with
  | nil => simp [positionClash?]
  | cons a rest ih =>
    cases rest with
    | nil => simp [positionClash?]
    | cons b rest =>
      rw [List.pairwise_cons] at h
      have hab := h.1 b (by simp)
      simp only [positionClash?]
      split
      · simp_all
      · rename_i hne
        rw [ih h.2, List.map_cons (f := (·.position)) (a := a), List.nodup_cons (a := a.position)]
        refine ⟨fun hn => And.intro ?_ hn, fun hn => hn.2⟩
        intro hmem
        obtain ⟨x, hx, he⟩ := List.mem_map.1 hmem
        rcases List.mem_cons.1 hx with rfl | hx
        · exact hne he.symm
        · have hbx := (List.pairwise_cons.1 h.2).1 x hx
          exact hne (UInt32.le_antisymm hab (he ▸ hbx))

theorem DisplayCondition.optionProblem?_eq_none_iff {c : DisplayCondition} {question : QuestionId} {target : Question} :
    c.optionProblem? question target = none ↔
      (c.type.comparesOption = true → ∃ o ∈ target.options, c.option = some o.id) := by
  unfold DisplayCondition.optionProblem?
  split
  · rename_i hneeds
    cases hc : c.option with
    | none => simp [hneeds]
    | some option =>
      simp only [Question.option?, Option.isNone_iff_eq_none, List.find?_eq_none, hneeds, forall_const]
      split
      · rename_i h
        simp only [reduceCtorEq, false_iff, not_exists, not_and]
        intro o ho e
        cases e
        exact absurd (h o ho) (by simp)
      · rename_i h
        simp only [true_iff]
        simp only [decide_eq_true_eq, Classical.not_forall, Classical.not_not] at h
        obtain ⟨o, ho, rfl⟩ := h
        exact ⟨o, ho, rfl⟩
  · simp_all

theorem DisplayCondition.textProblem?_eq_none_iff {c : DisplayCondition} {question : QuestionId} :
    c.textProblem? question = none ↔ (c.type = .matching → ∃ t, c.text = some t ∧ Text.isBlank t = false) := by
  unfold DisplayCondition.textProblem?
  cases c.text <;> simp

/-- Where questions have different identifiers, a condition has no problem exactly when it is sound. -/
theorem DisplayCondition.problem?_eq_none_iff {c : DisplayCondition} {question : Question} {questions : List Question}
    (hn : (questions.map (·.id)).Nodup) : c.problem? question questions = none ↔ c.Sound question questions := by
  unfold DisplayCondition.problem?
  cases hf : questions.find? (·.id = c.question) with
  | none =>
    simp only [reduceCtorEq, false_iff]
    rintro ⟨target, ht, hid, _⟩
    exact find?_key_eq_none_iff.1 hf target ht hid
  | some target =>
    obtain ⟨htm, hid⟩ := (find?_key_eq_some_iff hn).1 hf
    have hsound : c.Sound question questions ↔
        target.position < question.position ∧ target.isSeparator = false ∧ c.Fits target := by
      constructor
      · rintro ⟨x, hx, hxid, rest⟩
        have : questions.find? (·.id = c.question) = some x := (find?_key_eq_some_iff hn).2 ⟨hx, hxid⟩
        rw [hf] at this
        cases this
        exact rest
      · exact fun rest => ⟨target, htm, hid, rest⟩
    rw [hsound]
    have hfits : c.Fits target ↔ c.type.canVaryOn target.kind = true ∧
        (c.optionProblem? question.id target = none ∧ c.textProblem? question.id = none) := by
      rw [optionProblem?_eq_none_iff, textProblem?_eq_none_iff]
      exact ⟨fun h => ⟨h.applies, h.option, h.text⟩, fun h => ⟨h.1, h.2.1, h.2.2⟩⟩
    rw [hfits, ← Option.or_eq_none_iff, ← UInt32.not_le]
    simp only
    split
    · simp_all
    · split
      · simp_all
      · split <;> simp_all

theorem Question.problem?_eq_none_iff {questions : List Question} {q : Question} (hn : (questions.map (·.id)).Nodup) :
    q.problem? questions = none ↔ (q.options.map (·.id)).Nodup ∧ (q.rows.map (·.id)).Nodup ∧
      (q.isSeparator = true → q.conditions = []) ∧ ∀ c ∈ q.conditions, c.Sound q questions := by
  unfold Question.problem? Question.separatorProblem?
  simp only [Option.or_eq_none_iff, Option.map_eq_none_iff, firstRepeat?_eq_none_iff, List.findSome?_eq_none_iff,
    DisplayCondition.problem?_eq_none_iff hn, and_assoc]
  simp

/-- A problem is found exactly in the definitions that are not well formed. -/
theorem Definition.problem?_eq_none_iff {d : Definition} : d.problem? = none ↔ d.WellFormed := by
  rw [← Definition.wellFormed_ordered_iff]
  unfold Definition.problem?
  rw [Option.or_eq_none_iff, Option.or_eq_none_iff, Option.map_eq_none_iff, firstRepeat?_eq_none_iff,
    List.findSome?_eq_none_iff, positionClash?_eq_none_iff d.ordered_pairwise]
  have hid : (d.questions.map (·.id)).Nodup ↔ (d.ordered.questions.map (·.id)).Nodup :=
    (d.ordered_perm.map _).nodup_iff.symm
  rw [hid]
  constructor
  · rintro ⟨⟨hn, hp⟩, hq⟩
    simp only [Question.problem?_eq_none_iff hn] at hq
    exact ⟨hn, hp, fun q h => (hq q h).1, fun q h => (hq q h).2.1, fun q h => (hq q h).2.2.1, fun q h => (hq q h).2.2.2⟩
  · intro h
    refine ⟨⟨h.ids, h.positions⟩, fun q hq => (Question.problem?_eq_none_iff h.ids).2 ?_⟩
    exact ⟨h.options q hq, h.rows q hq, h.separators q hq, h.conditions q hq⟩

end Survey
