import Survey.Proofs.AcceptedValues

/-!
# Questions some value satisfies

An author can ask for what nobody can give: a choice among no options, or of none of them. For every other question there is a value
that it accepts whatever the settings, and one can be written down (`Question.specimen`): a single character for a text, the first
option, with text of the respondent's own in case it asks for some, the options in their own order, the first option in every row.
So some value is accepted exactly by the questions that are satisfiable (`Question.isSatisfiable_iff`).
-/

namespace Survey

namespace Question

/-- Whether a question can be given a value it accepts. Text always can; where there are options to choose, rank or tick there must be
some, and rows to tick them in, and a limit must leave room for one. -/
def isSatisfiable (q : Question) : Bool :=
  match q.kind with
  | .shortAnswer | .longAnswer => true
  | .singleOption | .sorting => !q.options.isEmpty
  | .multipleOption => !q.options.isEmpty && q.maxChoices ≠ some 0
  | .matrixSingle => !q.options.isEmpty && !q.rows.isEmpty
  | .matrixMultiple => !q.options.isEmpty && !q.rows.isEmpty && q.maxChoices ≠ some 0
  | .separator => false

/-- A value for a question, which it accepts if it accepts any. -/
def specimen (q : Question) : AnswerValue :=
  match q.kind with
  | .shortAnswer | .longAnswer | .separator => .text "x"
  | .singleOption | .multipleOption => .choices ((q.options.take 1).map fun option => ⟨option.id, some "x"⟩)
  | .sorting => .sorting (q.options.map (·.id))
  | .matrixSingle | .matrixMultiple =>
    .matrix ((q.options.take 1).flatMap fun option => q.rows.map fun row => ⟨row.id, option.id⟩)

variable {q : Question} {settings : SessionSettings}

/-! ## Limits -/

theorem countDistinct_pos {xs : List OptionId} (h : xs ≠ []) : 0 < countDistinct xs := by
  rw [countDistinct_eq_length_dedup]
  exact List.length_pos_iff.2 fun hnil => h ((List.dedup_eq_nil xs).1 hnil)

/-- A limit other than zero leaves room for one. -/
theorem one_le_of_mem_maxChoices (h : q.maxChoices ≠ some 0) {limit : Nat} (hlimit : limit ∈ q.maxChoices.map (·.toNat)) :
    1 ≤ limit := by
  obtain ⟨max, hmax, rfl⟩ := Option.map_eq_some_iff.1 (Option.mem_def.1 hlimit)
  refine Nat.one_le_iff_ne_zero.2 fun hzero => h ?_
  have hnone : max = 0 := UInt32.toNat_inj.1 hzero
  rw [hmax, hnone]

/-! ## The specimens are accepted -/

theorem accepts_character (hkind : q.kind.isText = true) : q.Accepts settings (.text "x") :=
  accepts_text_iff.2 ⟨hkind, by decide, fun _ hlimit => hlimit⟩

theorem accepts_one_choice (hkind : q.kind.isChoice = true) {option : AnswerOption} (ho : option ∈ q.options)
    (hlimit : ∀ limit ∈ q.choiceLimit, 1 ≤ limit) : q.Accepts settings (.choices [⟨option.id, some "x"⟩]) := by
  refine accepts_choices_iff.2 ⟨hkind, List.cons_ne_nil _ _, ?_, hlimit, ?_⟩
  · exact List.forall_mem_singleton.2 (List.mem_map_of_mem ho)
  · refine List.forall_mem_singleton.2 ?_
    have hx : Text.isBlank "x" = false := by decide
    simp [lacksCustomText, hx]

theorem accepts_own_order (hn : (q.options.map (·.id)).Nodup) (hkind : q.kind = .sorting) (ho : q.options ≠ []) :
    q.Accepts settings (.sorting (q.options.map (·.id))) :=
  (accepts_sorting_iff hn).2 ⟨hkind, fun hnil => ho (List.map_eq_nil_iff.1 hnil), .refl _⟩

theorem accepts_one_column (hkind : q.kind.isMatrix = true) {option : AnswerOption} (ho : option ∈ q.options) (hrows : q.rows ≠ [])
    (hlimit : ∀ limit ∈ q.rowLimit, 1 ≤ limit) : q.Accepts settings (.matrix (q.rows.map fun row => ⟨row.id, option.id⟩)) := by
  refine accepts_matrix_iff.2 ⟨hkind, fun hnil => hrows (List.map_eq_nil_iff.1 hnil), ?_, ?_, fun limit hl row hrow => ?_,
    fun _ row hrow => ?_⟩
  · exact List.forall_mem_map.2 fun _ _ => List.mem_map_of_mem ho
  · exact List.forall_mem_map.2 fun _ hrow => List.mem_map_of_mem hrow
  · -- the one option is all that is chosen in a row
    have hone : countDistinct (rowOptions (q.rows.map fun row => ⟨row.id, option.id⟩) row.id) = [option.id].length := by
      refine countDistinct_eq_length (List.nodup_singleton _) fun x => ?_
      simp only [rowOptions, List.mem_map, List.mem_filter, List.mem_singleton, decide_eq_true_eq]
      constructor
      · rintro ⟨_, ⟨⟨_, _, rfl⟩, _⟩, rfl⟩
        rfl
      · rintro rfl
        exact ⟨_, ⟨⟨row, hrow, rfl⟩, rfl⟩, rfl⟩
    rw [hone]
    exact hlimit limit hl
  · exact ⟨_, List.mem_map_of_mem hrow, rfl⟩

/-- A satisfiable question accepts its specimen. -/
theorem accepts_specimen (hn : (q.options.map (·.id)).Nodup) (h : q.isSatisfiable = true) : q.Accepts settings q.specimen := by
  unfold isSatisfiable at h
  unfold specimen
  cases hkind : q.kind with
  | shortAnswer | longAnswer => exact accepts_character (by simp [hkind, QuestionKind.isText])
  | separator => simp [hkind] at h
  | sorting => exact accepts_own_order hn hkind (by simpa [hkind] using h)
  | singleOption =>
    cases ho : q.options with
    | nil => simp [hkind, ho] at h
    | cons option rest =>
      exact accepts_one_choice (by simp [hkind, QuestionKind.isChoice]) (by simp [ho]) (by simp [choiceLimit, hkind])
  | multipleOption =>
    cases ho : q.options with
    | nil => simp [hkind, ho] at h
    | cons option rest =>
      have hmax : q.maxChoices ≠ some 0 := by simpa [hkind, ho] using h
      exact accepts_one_choice (by simp [hkind, QuestionKind.isChoice]) (by simp [ho]) fun limit hl =>
        one_le_of_mem_maxChoices hmax (by simpa [choiceLimit, hkind] using hl)
  | matrixSingle =>
    cases ho : q.options with
    | nil => simp [hkind, ho] at h
    | cons option rest =>
      have hrows : q.rows ≠ [] := by simpa [hkind, ho] using h
      have hmem : option ∈ q.options := by simp [ho]
      have hone : q.Accepts settings (.matrix (q.rows.map fun row => ⟨row.id, option.id⟩)) :=
        accepts_one_column (by simp [hkind, QuestionKind.isMatrix]) hmem hrows (by simp [rowLimit, hkind])
      simpa using hone
  | matrixMultiple =>
    cases ho : q.options with
    | nil => simp [hkind, ho] at h
    | cons option rest =>
      obtain ⟨hrows, hmax⟩ : q.rows ≠ [] ∧ q.maxChoices ≠ some 0 := by simpa [hkind, ho] using h
      have hmem : option ∈ q.options := by simp [ho]
      have hone : q.Accepts settings (.matrix (q.rows.map fun row => ⟨row.id, option.id⟩)) :=
        accepts_one_column (by simp [hkind, QuestionKind.isMatrix]) hmem hrows fun limit hl =>
          one_le_of_mem_maxChoices hmax (by simpa [rowLimit, hkind] using hl)
      simpa using hone

/-! ## Nothing else is accepted anywhere -/

theorem options_ne_nil {id : OptionId} (h : id ∈ q.options.map (·.id)) : q.options ≠ [] := fun hnil => by simp [hnil] at h

/-- A question that accepts some value is satisfiable. -/
theorem Accepts.isSatisfiable (hn : (q.options.map (·.id)).Nodup) {value : AnswerValue} (h : q.Accepts settings value) :
    q.isSatisfiable = true := by
  cases value with
  | text body =>
    obtain ⟨hkind, _⟩ := accepts_text_iff.1 h
    cases hk : q.kind <;> simp_all [Question.isSatisfiable, QuestionKind.isText]
  | choices chosen =>
    obtain ⟨hkind, hsome, hknown, hlimit, _⟩ := accepts_choices_iff.1 h
    obtain ⟨choice, hchoice⟩ := List.exists_mem_of_ne_nil chosen hsome
    have ho : q.options ≠ [] := options_ne_nil (hknown choice hchoice)
    have hmax : q.kind = .multipleOption → q.maxChoices ≠ some 0 := by
      intro hk hzero
      have hpos : 0 < countDistinct (chosen.map (·.option)) := countDistinct_pos (by simpa using hsome)
      have hnone := hlimit 0 (by simp [choiceLimit, hk, hzero])
      omega
    cases hk : q.kind <;> simp_all [Question.isSatisfiable, QuestionKind.isChoice]
  | sorting order =>
    obtain ⟨hkind, hsome, hperm⟩ := (accepts_sorting_iff hn).1 h
    obtain ⟨id, hid⟩ := List.exists_mem_of_ne_nil order hsome
    have ho : q.options ≠ [] := options_ne_nil (hperm.subset hid)
    simp [Question.isSatisfiable, hkind, ho]
  | matrix cells =>
    obtain ⟨hkind, hsome, hoptions, hrows, hlimit, _⟩ := accepts_matrix_iff.1 h
    obtain ⟨cell, hcell⟩ := List.exists_mem_of_ne_nil cells hsome
    have ho : q.options ≠ [] := options_ne_nil (hoptions cell hcell)
    obtain ⟨row, hrow, hid⟩ := List.mem_map.1 (hrows cell hcell)
    have hr : q.rows ≠ [] := List.ne_nil_of_mem hrow
    have hmax : q.kind = .matrixMultiple → q.maxChoices ≠ some 0 := by
      intro hk hzero
      have hticked : rowOptions cells row.id ≠ [] :=
        List.ne_nil_of_mem (List.mem_map_of_mem (List.mem_filter.2 ⟨hcell, by simp [hid]⟩))
      have hpos := countDistinct_pos hticked
      have hnone := hlimit 0 (by simp [rowLimit, hk, hzero]) row hrow
      omega
    cases hk : q.kind <;> simp_all [Question.isSatisfiable, QuestionKind.isMatrix]

/-- Some value is accepted exactly by the questions that are satisfiable. -/
theorem isSatisfiable_iff (hn : (q.options.map (·.id)).Nodup) : q.isSatisfiable = true ↔ ∃ value, q.Accepts settings value :=
  ⟨fun h => ⟨q.specimen, accepts_specimen hn h⟩, fun ⟨_, h⟩ => h.isSatisfiable hn⟩

end Question

end Survey
