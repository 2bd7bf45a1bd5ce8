import Mathlib.Data.List.Dedup
import Mathlib.Data.List.Perm.Basic
import Survey.Definition.Lookup
import Survey.Validation.Question
import Survey.Validation.Value

/-!
# Values a question accepts

A question accepts a value that suits it, says something and has no fault. What this comes to is said for each shape of value in terms
of what the question asks for: text within the limit, known options of which the free ones come with text, a rearrangement of all
options (`Question.accepts_sorting_iff`), known cells within the limit of each row.
-/

namespace Survey

/-! ## Different options -/

section countDistinct

variable {xs ys : List OptionId}

theorem countDistinct_eq_length_dedup (xs : List OptionId) : countDistinct xs = xs.dedup.length := by
  induction xs with
  | nil => rfl
  | cons x rest ih =>
    rw [countDistinct]
    by_cases h : x ∈ rest
    · rw [if_pos h, List.dedup_cons_of_mem h, ih]
    · rw [if_neg h, List.dedup_cons_of_notMem h, List.length_cons, ih]

/-- A list without repetitions counts the different members of any list with the same members. -/
theorem countDistinct_eq_length (hn : ys.Nodup) (h : ∀ x, x ∈ xs ↔ x ∈ ys) : countDistinct xs = ys.length := by
  rw [countDistinct_eq_length_dedup]
  refine List.Perm.length_eq ((List.perm_ext_iff_of_nodup (List.nodup_dedup xs) hn).2 fun x => ?_)
  rw [List.mem_dedup, h]

/-- How many different members a list has depends on which members it has. -/
theorem countDistinct_congr (h : ∀ x, x ∈ xs ↔ x ∈ ys) : countDistinct xs = countDistinct ys := by
  rw [countDistinct_eq_length_dedup ys]
  exact countDistinct_eq_length (List.nodup_dedup ys) fun x => by rw [h, List.mem_dedup]

/-- A list has as many different members as it is long exactly if none is repeated. -/
theorem countDistinct_eq_length_iff : countDistinct xs = xs.length ↔ xs.Nodup := by
  constructor
  · intro h
    rw [countDistinct_eq_length_dedup] at h
    rw [← (List.dedup_sublist xs).eq_of_length h]
    exact List.nodup_dedup xs
  · intro h
    exact countDistinct_eq_length h fun _ => Iff.rfl

end countDistinct

theorem faultIf_eq_nil_iff {found : Bool} {kind : FaultKind} : faultIf found kind = [] ↔ found = false := by
  cases found <;> simp [faultIf]

namespace Question

variable {q : Question} {settings : SessionSettings}

/-! ## Values that suit -/

/-- An option is found exactly if the question has it. -/
theorem option?_eq_none_iff {id : OptionId} : q.option? id = none ↔ id ∉ q.options.map (·.id) := by
  simp [option?, List.find?_eq_none]

/-- The option found under an identifier is the one that has it. -/
theorem option?_eq_some_iff (hn : (q.options.map (·.id)).Nodup) {id : OptionId} {option : AnswerOption} :
    q.option? id = some option ↔ option ∈ q.options ∧ option.id = id :=
  find?_key_eq_some_iff hn

/-- A choice does not lack text exactly if it comes with text that says something wherever its option is free. -/
theorem lacksCustomText_eq_false_iff (hn : (q.options.map (·.id)).Nodup) {choice : Choice} :
    q.lacksCustomText choice = false ↔ ∀ option ∈ q.options, option.id = choice.option → option.freeText = true →
      ∃ text, choice.customBody = some text ∧ Text.isBlank text = false := by
  have hfound : ∀ option, q.option? choice.option = some option ↔ option ∈ q.options ∧ option.id = choice.option :=
    fun _ => option?_eq_some_iff hn
  constructor
  · intro h option hoption hid hfree
    rw [lacksCustomText, (hfound option).2 ⟨hoption, hid⟩, Option.any_some, hfree, Bool.true_and] at h
    cases hbody : choice.customBody with
    | none => simp [hbody] at h
    | some text => exact ⟨text, rfl, by simpa [hbody] using h⟩
  · intro h
    rw [lacksCustomText, Bool.and_eq_false_imp, Option.any_eq_true]
    rintro ⟨option, hoption, hfree⟩
    obtain ⟨hmem, hid⟩ := (hfound option).1 hoption
    obtain ⟨text, hbody, hblank⟩ := h option hmem hid hfree
    simpa [hbody] using hblank

/-- A row is found exactly if the question has it. -/
theorem rowIndex?_eq_none_iff {id : RowId} : q.rowIndex? id = none ↔ id ∉ q.rows.map (·.id) := by
  simp [rowIndex?, List.findIdx?_eq_none_iff]

/-- A value suits a question of a kind for values of its shape that has all the options and rows it names. -/
theorem misfit?_eq_none_iff {value : AnswerValue} :
    q.misfit? value = none ↔ q.kind.takes value.shape = true ∧ (∀ option ∈ value.selected, option ∈ q.options.map (·.id)) ∧
      ∀ row ∈ value.rows, row ∈ q.rows.map (·.id) := by
  unfold misfit?
  split
  · rename_i hkind
    simp only [Option.or_eq_none_iff, Option.map_eq_none_iff, List.find?_eq_none, Option.isNone_iff_eq_none, option?_eq_none_iff,
      rowIndex?_eq_none_iff, Decidable.not_not, hkind, true_and]
  · simp_all

/-! ## Values that are accepted -/

/-- A value that suits the question, says something and has no fault. -/
structure Accepts (q : Question) (settings : SessionSettings) (value : AnswerValue) : Prop where
  suits : q.misfit? value = none
  given : value.isBlank = false
  faultless : q.checkGiven settings value = []

theorem accepts_iff {value : AnswerValue} :
    q.Accepts settings value ↔ q.misfit? value = none ∧ value.isBlank = false ∧ q.checkGiven settings value = [] :=
  ⟨fun h => ⟨h.suits, h.given, h.faultless⟩, fun ⟨hsuits, hgiven, hfaultless⟩ => ⟨hsuits, hgiven, hfaultless⟩⟩

/-- Text must say something and keep the limit on characters, where there is one and it is enforced. -/
theorem accepts_text_iff {body : String} :
    q.Accepts settings (.text body) ↔ q.kind.isText = true ∧ Text.isBlank body = false ∧
      (settings.enforceMaxCharacters = true → 0 < q.maxCharacters.toNat → body.length ≤ q.maxCharacters.toNat) := by
  rw [accepts_iff, misfit?_eq_none_iff, checkGiven, faultIf_eq_nil_iff]
  simp [AnswerValue.shape, AnswerValue.selected, AnswerValue.rows, AnswerValue.isBlank, QuestionKind.takes, isTooLong]

/-- A choice names some options of the question, no more than it allows, and says something of its own with the free ones. -/
theorem accepts_choices_iff {chosen : List Choice} :
    q.Accepts settings (.choices chosen) ↔ q.kind.isChoice = true ∧ chosen ≠ [] ∧
      (∀ choice ∈ chosen, choice.option ∈ q.options.map (·.id)) ∧
      (∀ limit ∈ q.choiceLimit, countDistinct (chosen.map (·.option)) ≤ limit) ∧
      ∀ choice ∈ chosen, q.lacksCustomText choice = false := by
  rw [accepts_iff, misfit?_eq_none_iff, checkGiven, List.append_eq_nil_iff, faultIf_eq_nil_iff, faultIf_eq_nil_iff]
  simp only [AnswerValue.shape, AnswerValue.selected, AnswerValue.rows, AnswerValue.isBlank, QuestionKind.takes,
    List.forall_mem_map, List.not_mem_nil, false_implies, implies_true, and_true, List.isEmpty_eq_false_iff, Option.any_eq_false,
    List.any_eq_false, decide_eq_false_iff_not, Nat.not_lt, Bool.not_eq_true, Option.mem_def, and_assoc]
  constructor
  · rintro ⟨hkind, hknown, hsome, hlimit, htext⟩
    exact ⟨hkind, hsome, hknown, hlimit, htext⟩
  · rintro ⟨hkind, hsome, hknown, hlimit, htext⟩
    exact ⟨hkind, hknown, hsome, hlimit, htext⟩

/-- A ranking is one of all options, of which there are some. -/
theorem accepts_sorting_iff (hn : (q.options.map (·.id)).Nodup) {order : List OptionId} :
    q.Accepts settings (.sorting order) ↔ q.kind = .sorting ∧ order ≠ [] ∧ order.Perm (q.options.map (·.id)) := by
  rw [accepts_iff, misfit?_eq_none_iff, checkGiven, faultIf_eq_nil_iff]
  simp only [AnswerValue.shape, AnswerValue.selected, AnswerValue.rows, AnswerValue.isBlank, QuestionKind.takes, isCompleteOrder,
    List.not_mem_nil, false_implies, implies_true, and_true, List.isEmpty_eq_false_iff, decide_eq_true_eq, Bool.not_eq_false',
    Bool.and_eq_true, countDistinct_eq_length_iff, and_assoc]
  constructor
  · rintro ⟨hkind, hknown, hsome, hlength, hnodup⟩
    have hsubperm : order.Subperm (q.options.map (·.id)) := List.subperm_of_subset hnodup hknown
    exact ⟨hkind, hsome, hsubperm.perm_of_length_le (by simp [hlength])⟩
  · rintro ⟨hkind, hsome, hperm⟩
    exact ⟨hkind, fun option ho => hperm.subset ho, hsome, by simpa using hperm.length_eq, hperm.nodup_iff.2 hn⟩

/-- Cells lie in rows of the question and name options of it, in no row more than it allows and, where the question is mandatory, some
in every row. -/
theorem accepts_matrix_iff {cells : List MatrixCell} :
    q.Accepts settings (.matrix cells) ↔ q.kind.isMatrix = true ∧ cells ≠ [] ∧
      (∀ cell ∈ cells, cell.option ∈ q.options.map (·.id)) ∧ (∀ cell ∈ cells, cell.row ∈ q.rows.map (·.id)) ∧
      (∀ limit ∈ q.rowLimit, ∀ row ∈ q.rows, countDistinct (rowOptions cells row.id) ≤ limit) ∧
      (q.mandatory = true → ∀ row ∈ q.rows, ∃ cell ∈ cells, cell.row = row.id) := by
  rw [accepts_iff, misfit?_eq_none_iff, checkGiven, List.append_eq_nil_iff, faultIf_eq_nil_iff, faultIf_eq_nil_iff]
  simp only [AnswerValue.shape, AnswerValue.selected, AnswerValue.rows, AnswerValue.isBlank, QuestionKind.takes, exceedsRowLimit,
    coversRows, List.forall_mem_map, List.isEmpty_eq_false_iff, Option.any_eq_false, List.any_eq_false, decide_eq_true_eq, Nat.not_lt,
    Option.mem_def, Bool.and_eq_false_imp, Bool.not_eq_false', List.all_eq_true, List.any_eq_true, and_assoc]
  constructor
  · rintro ⟨hkind, hoptions, hrows, hsome, hlimit, hevery⟩
    exact ⟨hkind, hsome, hoptions, hrows, hlimit, hevery⟩
  · rintro ⟨hkind, hsome, hoptions, hrows, hlimit, hevery⟩
    exact ⟨hkind, hoptions, hrows, hsome, hlimit, hevery⟩

end Question

end Survey
