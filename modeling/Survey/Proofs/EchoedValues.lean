import Survey.Proofs.AlikeAnswers
import Survey.Proofs.LiteralText
import Survey.Proofs.SubmissionShape

/-!
# What is left of a value

A value that is stored and read back may not be the value it was: of several choices of an option the first is left, in the order of the
question's options; text with an option that is not free is gone; cells come back row by row. What is left of an accepted value is
accepted again and is alike it (`Question.Accepts.alike_echo`), provided that no free option was chosen twice with different texts.
-/

namespace Survey

/-- The choice that is read back from a stored one. -/
def StoredChoice.toChoice (stored : StoredChoice) : Choice := { option := stored.option, customBody := stored.customBody }

/-- The cell that is read back from a stored choice with a row. -/
def StoredChoice.toCell? (stored : StoredChoice) : Option MatrixCell := stored.row.map fun row => { row, option := stored.option }

namespace Question

variable {q : Question} {settings : SessionSettings} {chosen : List Choice} {cells : List MatrixCell}

/-- What is left of a value when it is stored and read back. -/
def echo (q : Question) : AnswerValue → AnswerValue
  | .text body => .text body
  | .choices chosen => .choices ((q.storeChoices chosen).map (·.toChoice))
  | .sorting order => .sorting ((q.storeOrder order).map (·.option))
  | .matrix cells => .matrix ((q.storeCells cells).filterMap (·.toCell?))

/-- No free option is chosen twice with different texts. -/
def Unambiguous (q : Question) : AnswerValue → Prop
  | .choices chosen => ∀ x ∈ chosen, ∀ y ∈ chosen, x.option = y.option →
      (q.option? x.option).any (·.freeText) = true → x.customBody = y.customBody
  | _ => True

instance (q : Question) : (value : AnswerValue) → Decidable (q.Unambiguous value)
  | .choices chosen => inferInstanceAs (Decidable (∀ x ∈ chosen, ∀ y ∈ chosen, _ → _ → _))
  | .text _ | .sorting _ | .matrix _ => inferInstanceAs (Decidable True)

/-! ## Choices -/

/-- Text occurs in a choice if it occurs in the body of an option chosen or in the text that goes with a free one. -/
theorem matchesText_choices_iff (hn : (q.options.map (·.id)).Nodup) {needle : String} :
    (AnswerValue.choices chosen).matchesText needle q = true ↔
      ∃ choice ∈ chosen, ∃ option ∈ q.options, option.id = choice.option ∧
        (Text.matchesIn needle option.body = true ∨
          option.freeText = true ∧ ∃ text, choice.customBody = some text ∧ Text.matchesIn needle text = true) := by
  rw [AnswerValue.matchesText_iff]
  refine exists_congr fun choice => and_congr_right fun _ => exists_congr fun option => ?_
  rw [option?_eq_some_iff hn, and_assoc]

/-- The text stored with a choice is the text it had. -/
theorem customBody_of_storeChoice {option : AnswerOption} {choice : Choice} {text : String}
    (h : (storeChoice option choice).customBody = some text) : choice.customBody = some text :=
  (Option.filter_eq_some_iff.1 h).1

theorem storeChoice_toChoice (option : AnswerOption) (choice : Choice) :
    storeChoice option (storeChoice option choice).toChoice = storeChoice option choice := by
  simp [storeChoice, StoredChoice.toChoice, Option.filter_filter]

/-- What is left of an accepted choice is accepted. -/
theorem Accepts.echo_choices (hn : (q.options.map (·.id)).Nodup) (h : q.Accepts settings (.choices chosen)) :
    q.Accepts settings (q.echo (.choices chosen)) := by
  obtain ⟨hkind, _, hknown, hlimit, _⟩ := accepts_choices_iff.1 h
  have hkeeps := h.keepsChoices hn
  have hgiven : q.storeChoices chosen ≠ [] := hkeeps.given
  refine accepts_choices_iff.2 ⟨hkind, by simpa using hgiven, ?_, ?_, ?_⟩
  · intro choice hchoice
    obtain ⟨stored, hstored, rfl⟩ := List.mem_map.1 hchoice
    obtain ⟨option, hoption, hid, _⟩ := hkeeps.named stored hstored
    exact List.mem_map.2 ⟨option, hoption, hid⟩
  · intro limit hl
    have hcount : countDistinct (((q.storeChoices chosen).map (·.toChoice)).map (·.option)) =
        countDistinct (chosen.map (·.option)) := by
      rw [List.map_map]
      exact countDistinct_congr (mem_options_storeChoices hknown)
    rw [hcount]
    exact hlimit limit hl
  · intro choice hchoice
    obtain ⟨stored, hstored, rfl⟩ := List.mem_map.1 hchoice
    obtain ⟨option, hoption, hid, _⟩ := hkeeps.named stored hstored
    have hfound : q.option? stored.option = some option := (option?_eq_some_iff hn).2 ⟨hoption, hid⟩
    have hown := hkeeps.ownText stored hstored option hoption hid
    cases hfree : option.freeText with
    | false => simp [lacksCustomText, StoredChoice.toChoice, hfound, hfree]
    | true =>
      rw [hfree, if_pos rfl] at hown
      obtain ⟨text, hbody, hblank⟩ := hown
      simp [lacksCustomText, StoredChoice.toChoice, hfound, hbody, hblank]

/-- The same text occurs in what is left of an accepted choice: the text of a free option is that of every choice of it. -/
theorem Accepts.matchesText_echo (hn : (q.options.map (·.id)).Nodup) (h : q.Accepts settings (.choices chosen))
    (hone : q.Unambiguous (.choices chosen)) (needle : String) :
    (q.echo (.choices chosen)).matchesText needle q = (AnswerValue.choices chosen).matchesText needle q := by
  obtain ⟨_, _, _, _, htext⟩ := accepts_choices_iff.1 h
  rw [Bool.eq_iff_iff]
  simp only [echo, matchesText_choices_iff hn]
  constructor
  · rintro ⟨_, hchoice, option, hoption, hid, hmatches⟩
    obtain ⟨_, hstored, rfl⟩ := List.mem_map.1 hchoice
    obtain ⟨named, hnamed, first, hmem, hfirst, rfl⟩ := exists_choice_of_mem_storeChoices hstored
    have heq : option = named := List.inj_on_of_nodup_map hn hoption hnamed hid
    subst heq
    refine ⟨first, hmem, option, hoption, hfirst.symm, hmatches.imp_right ?_⟩
    rintro ⟨hfree, text, hbody, hin⟩
    exact ⟨hfree, text, customBody_of_storeChoice hbody, hin⟩
  · rintro ⟨choice, hchoice, option, hoption, hid, hmatches⟩
    have hfound : q.option? option.id = some option := (option?_eq_some_iff hn).2 ⟨hoption, rfl⟩
    obtain ⟨first, hmem, hfirst, hstored⟩ := exists_storeChoice_mem hchoice hfound hid.symm
    refine ⟨_, List.mem_map_of_mem hstored, option, hoption, rfl, hmatches.imp_right ?_⟩
    rintro ⟨hfree, text, hbody, hin⟩
    obtain ⟨own, hown, _, hkept⟩ := customBody_storeChoice_of_free hn hoption hfirst hfree (htext first hmem)
    have hsame : first.customBody = choice.customBody := by
      refine hone first hmem choice hchoice (hfirst.trans hid) ?_
      rw [hfirst, hfound]
      exact hfree
    rw [hown, hbody] at hsame
    cases hsame
    exact ⟨hfree, text, hkept, hin⟩

/-- What is left of a choice is stored as the choice was. -/
theorem storeChoices_echo (hn : (q.options.map (·.id)).Nodup) (chosen : List Choice) :
    q.storeChoices ((q.storeChoices chosen).map (·.toChoice)) = q.storeChoices chosen := by
  have hnodup : (((q.storeChoices chosen).map (·.toChoice)).map (·.option)).Nodup := by
    rw [List.map_map]
    exact nodup_options (q.storeChoices_ascending chosen)
  have hsame : ∀ option ∈ q.options,
      (((q.storeChoices chosen).map (·.toChoice)).find? (·.option = option.id)).map (storeChoice option) =
        (chosen.find? (·.option = option.id)).map (storeChoice option) := by
    intro option hoption
    cases hfound : chosen.find? (·.option = option.id) with
    | none =>
      have hnone : ((q.storeChoices chosen).map (·.toChoice)).find? (·.option = option.id) = none := by
        refine find?_key_eq_none_iff.2 fun choice hchoice hid => ?_
        obtain ⟨_, hstored, rfl⟩ := List.mem_map.1 hchoice
        obtain ⟨named, first, _, hfirst, rfl⟩ := mem_storeChoices.1 hstored
        have hid : named.id = option.id := hid
        rw [hid, hfound] at hfirst
        cases hfirst
      rw [hnone]
    | some first =>
      have hstored : storeChoice option first ∈ q.storeChoices chosen :=
        mem_storeChoices.2 ⟨option, first, (option?_eq_some_iff hn).2 ⟨hoption, rfl⟩, hfound, rfl⟩
      have hsome : ((q.storeChoices chosen).map (·.toChoice)).find? (·.option = option.id) =
          some (storeChoice option first).toChoice :=
        (find?_key_eq_some_iff hnodup).2 ⟨List.mem_map_of_mem hstored, rfl⟩
      rw [hsome, Option.map_some, Option.map_some, storeChoice_toChoice]
  calc q.storeChoices ((q.storeChoices chosen).map (·.toChoice))
      = q.options.filterMap fun option =>
          (((q.storeChoices chosen).map (·.toChoice)).find? (·.option = option.id)).map (storeChoice option) :=
        storeChoices_eq_filterMap hn _
    _ = q.options.filterMap fun option => (chosen.find? (·.option = option.id)).map (storeChoice option) :=
        List.filterMap_congr hsame
    _ = q.storeChoices chosen := (storeChoices_eq_filterMap hn chosen).symm

/-! ## Cells -/

/-- The cells left of those accepted are the same. -/
theorem mem_echo_matrix (hoptions : ∀ cell ∈ cells, cell.option ∈ q.options.map (·.id))
    (hrows : ∀ cell ∈ cells, cell.row ∈ q.rows.map (·.id)) (cell : MatrixCell) :
    cell ∈ (q.storeCells cells).filterMap (·.toCell?) ↔ cell ∈ cells := by
  rw [← mem_storeCells_iff hoptions hrows, List.mem_filterMap]
  refine exists_congr fun stored => and_congr_right fun _ => ?_
  unfold StoredChoice.toCell?
  rw [Option.map_eq_some_iff]
  constructor
  · rintro ⟨row, hrow, rfl⟩
    exact ⟨hrow, rfl⟩
  · rintro ⟨hrow, hoption⟩
    exact ⟨cell.row, hrow, by rw [hoption]⟩

/-! ## Values -/

/-- What is left of an accepted value is alike it. -/
theorem Accepts.alike_echo (hn : (q.options.map (·.id)).Nodup) {value : AnswerValue} (h : q.Accepts settings value)
    (hone : q.Unambiguous value) : q.Alike settings (some value) (some (q.echo value)) := by
  cases value with
  | text body => exact .refl q settings _
  | choices chosen =>
    have hecho := h.echo_choices hn
    obtain ⟨_, _, hknown, _⟩ := accepts_choices_iff.1 h
    refine alike_of_given h.given hecho.given ?_ ?_ ?_ ?_
    · intro option
      have hsame := mem_options_storeChoices hknown option
      simpa [echo, AnswerValue.selected, StoredChoice.toChoice] using hsame.symm
    · intro needle
      exact (h.matchesText_echo hn hone needle).symm
    · rw [h.faultless, hecho.faultless]
    · simp only [echo, store, storeChoices_echo hn chosen]
  | sorting order =>
    obtain ⟨_, _, hperm⟩ := (accepts_sorting_iff hn).1 h
    have hsame : q.echo (.sorting order) = .sorting order := by
      rw [echo, map_option_storeOrder fun id hid => hperm.subset hid]
    rw [hsame]
    exact .refl q settings _
  | matrix cells =>
    obtain ⟨_, _, hoptions, hrows, _⟩ := accepts_matrix_iff.1 h
    have hsame : ∀ cell, cell ∈ cells ↔ cell ∈ (q.storeCells cells).filterMap (·.toCell?) := fun cell =>
      (mem_echo_matrix hoptions hrows cell).symm
    exact (AnswerValue.SameSelection.cells hsame).alike q settings

end Question

end Survey
