import Survey.Proofs.DefinitionErrors
import Survey.Proofs.Satisfiable
import Survey.Visibility

/-!
# Conditions that tell answers apart

A definition with a condition that could never change its outcome is not built. Which conditions these are is read from a table of
condition types and kinds of questions (`ConditionType.canVaryOn`). Here the table is compared with what it stands for: that some
condition of the type has different outcomes for two values that some question of the kind accepts (`ConditionType.TellsApart`).

The table is right but for one thing. A question in text may have options too, and a definition may compare it with one of them; but no
text selects an option, so such a comparison has one outcome for all the text there is (`ConditionType.tells_apart_iff`).
-/

namespace Survey

/-! ## What it is to tell answers apart -/

/-- A condition looks at a question and has what it compares with: an option of the question, or text that says something. -/
structure DisplayCondition.Targets (c : DisplayCondition) (target : Question) : Prop where
  question : c.question = target.id
  option : c.type.comparesOption = true → ∃ o ∈ target.options, c.option = some o.id
  text : c.type = .matching → ∃ t, c.text = some t ∧ Text.isBlank t = false

/-- Some condition of a type has different outcomes for two values that some question of a kind accepts. -/
def ConditionType.TellsApart (t : ConditionType) (settings : SessionSettings) (k : QuestionKind) : Prop :=
  ∃ (question : Question) (c : DisplayCondition) (v w : AnswerValue),
    question.kind = k ∧ (question.options.map (·.id)).Nodup ∧ (question.rows.map (·.id)).Nodup ∧
    c.type = t ∧ c.Targets question ∧ question.Accepts settings v ∧ question.Accepts settings w ∧
    c.holds question (some v) ≠ c.holds question (some w)

variable {c : DisplayCondition} {q : Question} {settings : SessionSettings} {value v w : AnswerValue}

/-- What a definition asks of a condition, apart from where its question stands, is to have what it compares with and to be in the
table. -/
theorem DisplayCondition.fits_iff_targets (h : c.question = q.id) : c.Fits q ↔ c.type.canVaryOn q.kind = true ∧ c.Targets q := by
  constructor
  · intro hfits
    exact ⟨hfits.applies, h, hfits.option, hfits.text⟩
  · rintro ⟨happlies, htargets⟩
    exact ⟨happlies, htargets.option, htargets.text⟩

/-- A value that is accepted has a shape that the kind of its question takes. -/
theorem Question.Accepts.takes (h : q.Accepts settings value) : q.kind.takes value.shape = true :=
  (Question.misfit?_eq_none_iff.1 h.suits).1

/-! ## Comparing with an option -/

section Comparing

variable {o : OptionId}

/-- A comparison with an option looks at nothing of a value but whether it selects the option. -/
theorem DisplayCondition.holds_eq_iff_selected (hc : c.type.comparesOption = true) (ho : c.option = some o)
    (hv : v.isBlank = false) (hw : w.isBlank = false) :
    c.holds q (some v) = c.holds q (some w) ↔ (o ∈ v.selected ↔ o ∈ w.selected) := by
  have hselects : ∀ value : AnswerValue, c.selects value = decide (o ∈ value.selected) := by
    intro value
    simp [selects, ho]
  cases htype : c.type with
  | equal => simp [holds, htype, hv, hw, hselects]
  | notEqual => simp [holds, htype, hv, hw, hselects]
  | answered | notAnswered | matching => simp [htype, ConditionType.comparesOption] at hc

/-- A kind that is answered in text takes nothing else. -/
theorem QuestionKind.takes_of_isText {k : QuestionKind} (hk : k.isText = true) {shape : ValueShape} :
    k.takes shape = true ↔ shape = .text := by
  cases shape with
  | text => simp [takes, hk]
  | choices | sorting | matrix => cases k <;> simp_all [takes, isText, isChoice, isMatrix]

/-- Text selects no option. -/
theorem Question.Accepts.selected_of_text (h : q.Accepts settings value) (hkind : q.kind.isText = true) : value.selected = [] := by
  have hshape := (QuestionKind.takes_of_isText hkind).1 h.takes
  cases value with
  | text body => rfl
  | choices chosen | sorting order | matrix cells => cases hshape

/-- A ranking selects every option. -/
theorem Question.Accepts.selected_of_sorting (h : q.Accepts settings value) (hn : (q.options.map (·.id)).Nodup)
    (hkind : q.kind = .sorting) (ho : o ∈ q.options.map (·.id)) : o ∈ value.selected := by
  have htakes := h.takes
  rw [hkind] at htakes
  cases value with
  | text body | choices chosen | matrix cells => cases htakes
  | sorting order =>
    obtain ⟨_, _, hperm⟩ := (Question.accepts_sorting_iff hn).1 h
    exact hperm.symm.subset ho

/-- No comparison with an option tells text apart, nor rankings: no text selects the option, and every ranking does. -/
theorem DisplayCondition.holds_eq_of_comparesOption (hc : c.type.comparesOption = true) (htargets : c.Targets q)
    (hn : (q.options.map (·.id)).Nodup) (hkind : q.kind.isText = true ∨ q.kind = .sorting)
    (hv : q.Accepts settings v) (hw : q.Accepts settings w) : c.holds q (some v) = c.holds q (some w) := by
  obtain ⟨o, ho, hoption⟩ := htargets.option hc
  rw [holds_eq_iff_selected hc hoption hv.given hw.given]
  rcases hkind with htext | hsorting
  · rw [hv.selected_of_text htext, hw.selected_of_text htext]
  · have hmem : o.id ∈ q.options.map (·.id) := List.mem_map_of_mem ho
    exact iff_of_true (hv.selected_of_sorting hn hsorting hmem) (hw.selected_of_sorting hn hsorting hmem)

end Comparing

/-! ## Matching text -/

/-- No text matches a ranking or cells, which hold none. -/
theorem DisplayCondition.holds_eq_of_matching (hc : c.type = .matching) (hkind : c.type.canVaryOn q.kind = false)
    (hv : q.Accepts settings v) (hw : q.Accepts settings w) : c.holds q (some v) = c.holds q (some w) := by
  have hnever : ∀ value, q.Accepts settings value → c.holds q (some value) = false := by
    intro value h
    have htakes := h.takes
    rw [hc, ConditionType.canVaryOn, Bool.or_eq_false_iff] at hkind
    unfold holds
    rw [hc]
    cases value with
    | text body => exact absurd (htakes.symm.trans hkind.1) nofun
    | choices chosen => exact absurd (htakes.symm.trans hkind.2) nofun
    | sorting order | matrix cells => cases c.text <;> rfl
  rw [hnever v hv, hnever w hw]

/-! ## Samples -/

namespace Question

/-- A question of a kind, with two options and one row. -/
def sample (kind : QuestionKind) : Question where
  id := 1
  position := 0
  body := "Which?"
  kind
  options := [{ id := 10, body := "x" }, { id := 11, body := "y" }]
  rows := [{ id := 20, body := "z" }]

/-- An option, chosen or in the row of a sample. -/
def samplePick (kind : QuestionKind) (option : OptionId) : AnswerValue :=
  if kind.isChoice then .choices [⟨option, some "x"⟩] else .matrix [⟨20, option⟩]

theorem selected_samplePick (kind : QuestionKind) (option : OptionId) : (samplePick kind option).selected = [option] := by
  unfold samplePick
  split <;> rfl

/-- A sample that asks for choices or cells accepts each of its options. -/
theorem sample_accepts_pick {kind : QuestionKind} (hkind : kind.isChoice = true ∨ kind.isMatrix = true) {option : OptionId}
    (ho : option ∈ (sample kind).options.map (·.id)) : (sample kind).Accepts settings (samplePick kind option) := by
  obtain ⟨picked, hpicked, rfl⟩ := List.mem_map.1 ho
  unfold samplePick
  split
  · rename_i hchoice
    refine accepts_one_choice hchoice hpicked ?_
    intro limit hlimit
    cases kind <;> simp_all [sample, choiceLimit]
  · rename_i hchoice
    have hmatrix : kind.isMatrix = true := hkind.resolve_left hchoice
    refine accepts_one_column hmatrix hpicked (List.cons_ne_nil _ _) ?_
    intro limit hlimit
    cases kind <;> simp_all [sample, rowLimit]

/-- A sample that asks for text accepts any that says something. -/
theorem sample_accepts_text {kind : QuestionKind} (hkind : kind.isText = true) {body : String} (hgiven : Text.isBlank body = false) :
    (sample kind).Accepts settings (.text body) := by
  refine accepts_text_iff.2 ⟨hkind, hgiven, fun _ hlimit => ?_⟩
  exact absurd hlimit (by decide : ¬ 0 < (0 : UInt32).toNat)

end Question

/-- A condition on a sample: on its first option, or on the text of that. -/
def DisplayCondition.ofSample (t : ConditionType) : DisplayCondition where
  question := 1
  type := t
  option := some 10
  text := some "x"

theorem DisplayCondition.ofSample_targets (t : ConditionType) (k : QuestionKind) : (ofSample t).Targets (Question.sample k) where
  question := rfl
  option _ := ⟨{ id := 10, body := "x" }, List.mem_cons_self, rfl⟩
  text _ := ⟨"x", rfl, by decide⟩

namespace ConditionType

variable {t : ConditionType} {k : QuestionKind}

/-- Conditions of a type tell answers apart if the sample shows it. -/
theorem TellsApart.of_sample (hv : (Question.sample k).Accepts settings v) (hw : (Question.sample k).Accepts settings w)
    (hne : (DisplayCondition.ofSample t).holds (Question.sample k) (some v) ≠
      (DisplayCondition.ofSample t).holds (Question.sample k) (some w)) : t.TellsApart settings k := by
  refine ⟨Question.sample k, .ofSample t, v, w, rfl, ?_, ?_, rfl, DisplayCondition.ofSample_targets t k, hv, hw, hne⟩
  · show ([10, 11] : List OptionId).Nodup
    decide
  · show ([20] : List RowId).Nodup
    decide

/-- Comparisons with an option tell choices apart, and cells. -/
theorem tellsApart_of_comparesOption (ht : t.comparesOption = true) (hk : k.isChoice = true ∨ k.isMatrix = true) :
    t.TellsApart settings k := by
  have hx : (Question.sample k).Accepts settings (Question.samplePick k 10) :=
    Question.sample_accepts_pick hk (by simp [Question.sample])
  have hy : (Question.sample k).Accepts settings (Question.samplePick k 11) :=
    Question.sample_accepts_pick hk (by simp [Question.sample])
  refine TellsApart.of_sample hx hy fun heq => ?_
  rw [DisplayCondition.holds_eq_iff_selected ht rfl hx.given hy.given, Question.selected_samplePick,
    Question.selected_samplePick] at heq
  exact absurd (heq.1 (List.mem_singleton_self _)) (by decide)

/-- Matching tells text apart, and choices by what their options say. -/
theorem tellsApart_of_matching (hk : k.isText = true ∨ k.isChoice = true) : matching.TellsApart settings k := by
  rcases hk with htext | hchoice
  · have hx : (Question.sample k).Accepts settings (.text "x") := Question.sample_accepts_text htext (by decide)
    have hy : (Question.sample k).Accepts settings (.text "y") := Question.sample_accepts_text htext (by decide)
    refine TellsApart.of_sample hx hy ?_
    show Text.matchesIn "x" "x" ≠ Text.matchesIn "x" "y"
    decide
  · have hx : (Question.sample k).Accepts settings (Question.samplePick k 10) :=
      Question.sample_accepts_pick (Or.inl hchoice) (by simp [Question.sample])
    have hy : (Question.sample k).Accepts settings (Question.samplePick k 11) :=
      Question.sample_accepts_pick (Or.inl hchoice) (by simp [Question.sample])
    refine TellsApart.of_sample hx hy ?_
    cases k with
    | singleOption | multipleOption => decide
    | shortAnswer | longAnswer | sorting | matrixSingle | matrixMultiple | separator => cases hchoice

/-! ## The table -/

theorem canVaryOn_of_comparesOption (ht : t.comparesOption = true) : t.canVaryOn k = true ↔ k ≠ .sorting := by
  cases t <;> simp_all [comparesOption, canVaryOn]

/-- What the table denies tells nothing apart. -/
theorem TellsApart.canVaryOn (h : t.TellsApart settings k) (ht : t.comparesOption = true ∨ t = .matching) : t.canVaryOn k = true := by
  obtain ⟨q, c, v, w, rfl, hn, -, rfl, htargets, hv, hw, hne⟩ := h
  cases hvary : c.type.canVaryOn q.kind with
  | true => rfl
  | false =>
    rcases ht with hcompares | hmatching
    · have hsorting : q.kind = .sorting := by
        by_contra hne
        rw [(canVaryOn_of_comparesOption hcompares).2 hne] at hvary
        cases hvary
      exact absurd (DisplayCondition.holds_eq_of_comparesOption hcompares htargets hn (Or.inr hsorting) hv hw) hne
    · exact absurd (DisplayCondition.holds_eq_of_matching hmatching hvary hv hw) hne

/-- No comparison with an option tells text apart. -/
theorem not_tellsApart_on_text (ht : t.comparesOption = true) (hk : k.isText = true) : ¬ t.TellsApart settings k := by
  rintro ⟨q, c, v, w, rfl, hn, -, rfl, htargets, hv, hw, hne⟩
  exact hne (DisplayCondition.holds_eq_of_comparesOption ht htargets hn (Or.inl hk) hv hw)

/-- A sample and a question that is shown under a condition on it. -/
def underSample (t : ConditionType) (k : QuestionKind) : Definition where
  id := 1
  title := "Sample"
  questions := [.sample k, { id := 2, position := 1, body := "Why?", kind := .shortAnswer, conditions := [.ofSample t] }]

theorem problem?_underSample (hvary : t.canVaryOn k = false) (hk : k ≠ .separator) :
    (underSample t k).problem? = some (.unsupportedCondition 2 1 t k) := by
  cases t with
  | answered | notAnswered => cases hvary
  | equal | notEqual =>
    obtain rfl : k = .sorting := by simpa [canVaryOn] using hvary
    decide
  | matching =>
    cases k with
    | sorting | matrixSingle | matrixMultiple => decide
    | shortAnswer | longAnswer | singleOption | multipleOption => cases hvary
    | separator => exact absurd rfl hk

/-- Definitions are refused for conditions of a type on questions of a kind exactly where the table does not have them. -/
theorem canVaryOn_iff_build (hk : k ≠ .separator) :
    t.canVaryOn k = true ↔
      ∀ (d : Definition) (question target : QuestionId), d.build ≠ .error (.unsupportedCondition question target t k) := by
  constructor
  · intro hvary d question target hbuild
    have htrue := Definition.problem?_true (Definition.build_eq_error_iff.1 hbuild)
    rw [htrue.1] at hvary
    cases hvary
  · intro hnever
    cases hvary : t.canVaryOn k with
    | true => rfl
    | false =>
      have hrefused := Definition.build_eq_error_iff.2 (problem?_underSample hvary hk)
      exact absurd hrefused (hnever _ 2 1)

/-- The table against what it stands for, for the types that look into an answer. Conditions of a type tell answers to questions of a
kind apart exactly where the table has it, but for comparisons with an option on text: those it has, and they tell nothing apart. And
what the table does not have is what a definition is refused for. -/
theorem tells_apart_iff (settings : SessionSettings) (ht : t.comparesOption = true ∨ t = .matching) (hk : k ≠ .separator) :
    (t.TellsApart settings k ↔ t.canVaryOn k = true ∧ ¬ (t.comparesOption = true ∧ k.isText = true)) ∧
    (t.canVaryOn k = true ↔
      ∀ (d : Definition) (question target : QuestionId), d.build ≠ .error (.unsupportedCondition question target t k)) := by
  refine ⟨⟨?_, ?_⟩, canVaryOn_iff_build hk⟩
  · intro h
    exact ⟨h.canVaryOn ht, fun ⟨hcompares, htext⟩ => not_tellsApart_on_text hcompares htext h⟩
  · rintro ⟨hvary, hnot⟩
    rcases ht with hcompares | rfl
    · have hpicks : k.isChoice = true ∨ k.isMatrix = true := by
        cases k with
        | singleOption | multipleOption => exact Or.inl rfl
        | matrixSingle | matrixMultiple => exact Or.inr rfl
        | shortAnswer | longAnswer => exact absurd ⟨hcompares, rfl⟩ hnot
        | sorting => exact absurd rfl ((canVaryOn_of_comparesOption hcompares).1 hvary)
        | separator => exact absurd rfl hk
      exact tellsApart_of_comparesOption hcompares hpicks
    · exact tellsApart_of_matching (by simpa [canVaryOn] using hvary)

/-- Comparisons tell cells apart and neither rankings nor text, and matching tells text apart. -/
theorem cells_are_told_apart_and_rankings_are_not :
    equal.comparesOption = true ∧ QuestionKind.matrixSingle ≠ .separator ∧ equal.TellsApart {} .matrixSingle ∧
    ¬ equal.TellsApart {} .sorting ∧ ¬ notEqual.TellsApart {} .longAnswer ∧ matching.TellsApart {} .longAnswer ∧
    ∀ (d : Definition) (question target : QuestionId),
      d.build ≠ .error (.unsupportedCondition question target equal .matrixSingle) := by
  obtain ⟨hcells, hbuild⟩ := tells_apart_iff (t := equal) (k := .matrixSingle) {} (Or.inl rfl) nofun
  obtain ⟨hrankings, -⟩ := tells_apart_iff (t := equal) (k := .sorting) {} (Or.inl rfl) nofun
  obtain ⟨htext, -⟩ := tells_apart_iff (t := notEqual) (k := .longAnswer) {} (Or.inl rfl) nofun
  obtain ⟨hmatching, -⟩ := tells_apart_iff (t := matching) (k := .longAnswer) {} (Or.inr rfl) nofun
  refine ⟨rfl, nofun, hcells.2 ⟨rfl, nofun⟩, ?_, ?_, hmatching.2 ⟨rfl, nofun⟩, hbuild.1 rfl⟩
  · intro h
    exact absurd (hrankings.1 h).1 nofun
  · intro h
    exact (htext.1 h).2 ⟨rfl, rfl⟩

namespace GivenName

/-- A question in text that has an option, too. -/
def name : Question := { id := 1, position := 0, body := "Name?", kind := .shortAnswer, options := [{ id := 10, body := "Ada" }] }

/-- The question, and one that is shown to those who select the option. -/
def form : Questionnaire where
  definition := {
    id := 1, title := "Names", questions := [
      name,
      { id := 2, position := 1, body := "Why?", kind := .shortAnswer, conditions := [.equal 1 10] }] }
  wellFormed := Definition.problem?_eq_none_iff.1 (by decide)
  ascending := by decide

/-- The table has comparisons with an option on text, so the form is built. But its condition holds for no name, and no other condition
of that type tells answers in text apart. -/
theorem option_of_text_is_never_selected :
    form.definition.build = .ok form ∧ (DisplayCondition.equal 1 10).Targets name ∧
    (∀ (settings : SessionSettings) (value : AnswerValue), name.Accepts settings value →
      (DisplayCondition.equal 1 10).holds name (some value) = false) ∧
    equal.canVaryOn .shortAnswer = true ∧ ∀ settings : SessionSettings, ¬ equal.TellsApart settings .shortAnswer := by
  refine ⟨?_, ⟨rfl, fun _ => ⟨_, List.mem_cons_self, rfl⟩, nofun⟩, ?_, rfl, fun settings => not_tellsApart_on_text rfl rfl⟩
  · exact Definition.build_eq_ok_iff.2 ⟨form.wellFormed, by decide⟩
  · intro settings value h
    simp [DisplayCondition.holds, DisplayCondition.equal, DisplayCondition.selects, h.selected_of_text rfl]

end GivenName

end ConditionType

end Survey
