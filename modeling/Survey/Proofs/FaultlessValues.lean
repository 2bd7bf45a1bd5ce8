import Mathlib.Data.Finset.Card
import Survey.Proofs.Satisfiable
import Survey.Proofs.Steps

/-!
# Values without fault

The check of an answer works on lists: it counts what is not repeated, compares lengths and looks rows up. What it comes to is a matter of
sets. A value that suits its question and says something has no fault exactly if it is valid (`Question.accepts_iff_isValid`): it keeps the
limits on characters and on the sets of options chosen, is a rearrangement of all options where it ranks them, and has everything it must
have. Where nothing is said there is a fault exactly if the question is mandatory.
-/

namespace Survey

theorem countDistinct_eq_card (xs : List OptionId) : countDistinct xs = xs.toFinset.card := by
  rw [countDistinct_eq_length_dedup, List.card_toFinset]

namespace Question

variable {q : Question} {settings : SessionSettings} {chosen : List Choice} {cells : List MatrixCell}

/-! ## Valid values -/

/-- Every choice of a free-text option comes with text that says something. -/
def GivesText (q : Question) (chosen : List Choice) : Prop :=
  ∀ choice ∈ chosen, ∀ option ∈ q.options, option.id = choice.option → option.freeText = true →
    ∃ text, choice.customBody = some text ∧ Text.isBlank text = false

/-- The set of options that cells pair with a row. -/
def optionsIn (cells : List MatrixCell) (row : RowId) : Finset OptionId := (cells.toFinset.filter (·.row = row)).image (·.option)

/-- The kind of the question is that of the value, and the value keeps what the question asks for. -/
def IsValid (q : Question) (settings : SessionSettings) : AnswerValue → Prop
  | .text body =>
    q.kind.isText = true ∧
      (body.length ≤ q.maxCharacters.toNat ∨ q.maxCharacters = 0 ∨ settings.enforceMaxCharacters = false)
  | .choices chosen =>
    (q.kind = .singleOption ∧ (chosen.map (·.option)).toFinset.card = 1 ∨
      q.kind = .multipleOption ∧ ∀ limit ∈ q.maxChoices, (chosen.map (·.option)).toFinset.card ≤ limit.toNat) ∧
    q.GivesText chosen
  | .sorting order => q.kind = .sorting ∧ order.Perm (q.options.map (·.id))
  | .matrix cells =>
    (q.kind = .matrixSingle ∧ (∀ row, (optionsIn cells row).card ≤ 1) ∨
      q.kind = .matrixMultiple ∧ ∀ limit ∈ q.maxChoices, ∀ row, (optionsIn cells row).card ≤ limit.toNat) ∧
    (q.mandatory = true → ∀ row ∈ q.rows, ∃ cell ∈ cells, cell.row = row.id)

/-! ## What the parts of the check come to -/

/-- The limit on characters, as the ways to keep it. -/
theorem characterLimit_iff {body : String} :
    (settings.enforceMaxCharacters = true → 0 < q.maxCharacters.toNat → body.length ≤ q.maxCharacters.toNat) ↔
      body.length ≤ q.maxCharacters.toNat ∨ q.maxCharacters = 0 ∨ settings.enforceMaxCharacters = false := by
  have hzero : q.maxCharacters = 0 ↔ q.maxCharacters.toNat = 0 := UInt32.toNat_inj.symm
  rw [hzero]
  constructor
  · intro h
    by_cases hnone : q.maxCharacters.toNat = 0
    · exact Or.inr (Or.inl hnone)
    · cases henforced : settings.enforceMaxCharacters with
      | true => exact Or.inl (h henforced (Nat.pos_of_ne_zero hnone))
      | false => exact Or.inr (Or.inr rfl)
  · rintro (hle | hnone | hfree) henforced hlimit
    · exact hle
    · omega
    · rw [hfree] at henforced
      cases henforced

/-- No choice lacks text exactly if all choices of free options come with some. -/
theorem givesText_iff (hn : (q.options.map (·.id)).Nodup) :
    q.GivesText chosen ↔ ∀ choice ∈ chosen, q.lacksCustomText choice = false :=
  forall₂_congr fun _ _ => (lacksCustomText_eq_false_iff hn).symm

/-- The limit on a choice of some options, as a limit on the set of them. -/
theorem choiceLimit_iff (hkind : q.kind.isChoice = true) (hsome : chosen ≠ []) :
    (∀ limit ∈ q.choiceLimit, countDistinct (chosen.map (·.option)) ≤ limit) ↔
      q.kind = .singleOption ∧ (chosen.map (·.option)).toFinset.card = 1 ∨
      q.kind = .multipleOption ∧ ∀ limit ∈ q.maxChoices, (chosen.map (·.option)).toFinset.card ≤ limit.toNat := by
  rw [countDistinct_eq_card]
  have hpos : 0 < (chosen.map (·.option)).toFinset.card := by
    rw [← countDistinct_eq_card]
    exact countDistinct_pos (by simpa using hsome)
  unfold choiceLimit
  cases hk : q.kind with
  | singleOption =>
    have hone : (chosen.map (·.option)).toFinset.card ≤ 1 ↔ (chosen.map (·.option)).toFinset.card = 1 := by omega
    simpa using hone
  | multipleOption => simp
  | _ => rw [hk] at hkind; cases hkind

theorem countDistinct_rowOptions (cells : List MatrixCell) (row : RowId) :
    countDistinct (rowOptions cells row) = (optionsIn cells row).card := by
  rw [countDistinct_eq_card]
  congr 1
  ext option
  simp [optionsIn, rowOptions]

/-- No options are paired with a row in which there is no cell. -/
theorem optionsIn_eq_empty {row : RowId} (h : ∀ cell ∈ cells, cell.row ≠ row) : optionsIn cells row = ∅ := by
  simpa [optionsIn, Finset.filter_eq_empty_iff] using h

/-- The limit on the cells of the question's rows, as a limit on the set of options in any row. -/
theorem rowLimit_iff (hkind : q.kind.isMatrix = true) (hrows : ∀ cell ∈ cells, cell.row ∈ q.rows.map (·.id)) :
    (∀ limit ∈ q.rowLimit, ∀ row ∈ q.rows, countDistinct (rowOptions cells row.id) ≤ limit) ↔
      q.kind = .matrixSingle ∧ (∀ row, (optionsIn cells row).card ≤ 1) ∨
      q.kind = .matrixMultiple ∧ ∀ limit ∈ q.maxChoices, ∀ row, (optionsIn cells row).card ≤ limit.toNat := by
  have hall : ∀ limit, (∀ row ∈ q.rows, countDistinct (rowOptions cells row.id) ≤ limit) ↔
      ∀ row, (optionsIn cells row).card ≤ limit := by
    intro limit
    simp only [countDistinct_rowOptions]
    constructor
    · intro h row
      by_cases hrow : row ∈ q.rows.map (·.id)
      · obtain ⟨own, hown, rfl⟩ := List.mem_map.1 hrow
        exact h own hown
      · -- a row that is not the question's holds none of the cells, which suit the question
        have hnone : ∀ cell ∈ cells, cell.row ≠ row := fun cell hcell hid => hrow (hid ▸ hrows cell hcell)
        rw [optionsIn_eq_empty hnone]
        exact Nat.zero_le _
    · intro h row _
      exact h row.id
  unfold rowLimit
  simp only [hall]
  cases hk : q.kind with
  | matrixSingle => simp
  | matrixMultiple => simp
  | _ => rw [hk] at hkind; cases hkind

/-! ## The check -/

/-- Of the values that suit a question and say something it accepts the valid ones. -/
theorem accepts_iff_isValid (hn : (q.options.map (·.id)).Nodup) {value : AnswerValue} (hsuits : q.misfit? value = none)
    (hgiven : value.isBlank = false) : q.Accepts settings value ↔ q.IsValid settings value := by
  obtain ⟨hkind, hoptions, hrows⟩ := misfit?_eq_none_iff.1 hsuits
  cases value with
  | text body =>
    rw [accepts_text_iff, IsValid, characterLimit_iff]
    constructor
    · rintro ⟨hkind, _, hlimit⟩
      exact ⟨hkind, hlimit⟩
    · rintro ⟨hkind, hlimit⟩
      exact ⟨hkind, hgiven, hlimit⟩
  | choices chosen =>
    have hsome : chosen ≠ [] := by simpa [AnswerValue.isBlank] using hgiven
    have hknown : ∀ choice ∈ chosen, choice.option ∈ q.options.map (·.id) := List.forall_mem_map.1 hoptions
    rw [accepts_choices_iff, IsValid, choiceLimit_iff hkind hsome, givesText_iff hn]
    constructor
    · rintro ⟨_, _, _, hlimit, htext⟩
      exact ⟨hlimit, htext⟩
    · rintro ⟨hlimit, htext⟩
      exact ⟨hkind, hsome, hknown, hlimit, htext⟩
  | sorting order =>
    have hsome : order ≠ [] := by simpa [AnswerValue.isBlank] using hgiven
    rw [accepts_sorting_iff hn, IsValid]
    constructor
    · rintro ⟨hkind, _, hperm⟩
      exact ⟨hkind, hperm⟩
    · rintro ⟨hkind, hperm⟩
      exact ⟨hkind, hsome, hperm⟩
  | matrix cells =>
    have hsome : cells ≠ [] := by simpa [AnswerValue.isBlank] using hgiven
    have hknown : ∀ cell ∈ cells, cell.option ∈ q.options.map (·.id) := List.forall_mem_map.1 hoptions
    have hlies : ∀ cell ∈ cells, cell.row ∈ q.rows.map (·.id) := List.forall_mem_map.1 hrows
    rw [accepts_matrix_iff, IsValid, rowLimit_iff hkind hlies]
    constructor
    · rintro ⟨_, _, _, _, hlimit, hevery⟩
      exact ⟨hlimit, hevery⟩
    · rintro ⟨hlimit, hevery⟩
      exact ⟨hkind, hsome, hknown, hlies, hlimit, hevery⟩

/-- A question whose blank answers have no fault is not mandatory, unless it is a separator. -/
theorem checkBlank_eq_nil_iff (hq : q.isSeparator = false) : q.checkBlank = [] ↔ q.mandatory = false := by
  rw [checkBlank, faultIf_eq_nil_iff, hq]
  simp

/-- A value that suits the question and says something has no fault exactly if it is valid. -/
theorem checkGiven_eq_nil_iff (hn : (q.options.map (·.id)).Nodup) {value : AnswerValue} (hsuits : q.misfit? value = none)
    (hgiven : value.isBlank = false) : q.checkGiven settings value = [] ↔ q.IsValid settings value := by
  rw [← accepts_iff_isValid hn hsuits hgiven, accepts_iff]
  exact ⟨fun h => ⟨hsuits, hgiven, h⟩, fun h => h.2.2⟩

end Question

namespace Questionnaire

/-- The check of the answer to a question of a questionnaire, which was not given or suits the question, finds nothing exactly if the answer
says nothing and the question is not mandatory, or the answer says something that is valid. -/
theorem check_finds_nothing_iff {q : Questionnaire} {question : Question} (hq : question ∈ q.answerable)
    {value : Option AnswerValue} (hsuits : ∀ given ∈ value, question.misfit? given = none) (settings : SessionSettings) :
    question.check settings value = [] ↔
      (∀ given ∈ value, given.isBlank = true) ∧ question.mandatory = false ∨
      ∃ given, value = some given ∧ given.isBlank = false ∧ question.IsValid settings given := by
  obtain ⟨hmem, hseparator⟩ := mem_answerable.1 hq
  cases value with
  | none =>
    rw [Question.check, Question.checkBlank_eq_nil_iff hseparator]
    simp
  | some given =>
    have hsuits : question.misfit? given = none := hsuits given rfl
    rw [Question.check]
    cases hblank : given.isBlank with
    | true =>
      rw [if_pos rfl, Question.checkBlank_eq_nil_iff hseparator]
      simp [hblank]
    | false =>
      rw [if_neg Bool.false_ne_true, Question.checkGiven_eq_nil_iff (q.wellFormed.options question hmem) hsuits hblank]
      simp [hblank]

namespace Tasting

/-- A question in whose rows one option each is to be chosen. -/
def taste : Question where
  id := 1
  position := 0
  body := "How was it?"
  kind := .matrixSingle
  mandatory := true
  rows := [{ id := 20, body := "Soup" }, { id := 21, body := "Cake" }]
  options := [{ id := 10, body := "Good" }, { id := 11, body := "Bad" }]

/-- A form of this question. -/
def form : Questionnaire where
  definition := { id := 1, title := "Tasting", questions := [taste] }
  wellFormed := Definition.problem?_eq_none_iff.1 (by decide)
  ascending := by decide

/-- A cell chosen twice is no fault. Two options in one row and none in the other are two. -/
theorem repeated_cell_is_valid_and_crowded_row_is_not :
    (taste ∈ form.answerable ∧ taste.misfit? (.matrix [⟨21, 10⟩, ⟨20, 11⟩, ⟨21, 10⟩]) = none ∧
      taste.misfit? (.matrix [⟨21, 10⟩, ⟨21, 11⟩]) = none) ∧
    taste.IsValid {} (.matrix [⟨21, 10⟩, ⟨20, 11⟩, ⟨21, 10⟩]) ∧
    taste.check {} (some (.matrix [⟨21, 10⟩, ⟨21, 11⟩])) = [.tooManyChoices, .incompleteMatrix] ∧
    ¬ taste.IsValid {} (.matrix [⟨21, 10⟩, ⟨21, 11⟩]) := by
  have hq : taste ∈ form.answerable := by decide
  have hrepeated : taste.misfit? (.matrix [⟨21, 10⟩, ⟨20, 11⟩, ⟨21, 10⟩]) = none := by decide
  have hcrowded : taste.misfit? (.matrix [⟨21, 10⟩, ⟨21, 11⟩]) = none := by decide
  have hfaults : taste.check {} (some (.matrix [⟨21, 10⟩, ⟨21, 11⟩])) = [.tooManyChoices, .incompleteMatrix] := by decide
  refine ⟨⟨hq, hrepeated, hcrowded⟩, ?_, hfaults, ?_⟩
  · have hsuits : ∀ given ∈ some (AnswerValue.matrix [⟨21, 10⟩, ⟨20, 11⟩, ⟨21, 10⟩]), taste.misfit? given = none := by
      rintro given ⟨⟩
      exact hrepeated
    rcases (check_finds_nothing_iff hq hsuits {}).1 (by decide) with ⟨_, hnot⟩ | ⟨given, hgiven, _, hvalid⟩
    · cases hnot
    · cases hgiven
      exact hvalid
  · intro hvalid
    have hsuits : ∀ given ∈ some (AnswerValue.matrix [⟨21, 10⟩, ⟨21, 11⟩]), taste.misfit? given = none := by
      rintro given ⟨⟩
      exact hcrowded
    have hnone := (check_finds_nothing_iff hq hsuits {}).2 (Or.inr ⟨_, rfl, rfl, hvalid⟩)
    rw [hfaults] at hnone
    cases hnone

end Tasting

end Questionnaire

end Survey
