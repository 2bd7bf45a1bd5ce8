import Survey.Definition.Order
import Survey.Definition.Basic
import Survey.Text.Blank

/-!
# Well-formed definitions

What a definition must satisfy to make a questionnaire, said without the order in which an author wrote the questions: the
predicate looks at which questions there are, so it holds of every rearrangement of a list if it holds of one
(`Definition.WellFormed.of_perm`).
-/

namespace Survey

/-- A condition has what its type compares with, and the question it looks at can give it either outcome. -/
structure DisplayCondition.Fits (c : DisplayCondition) (target : Question) : Prop where
  applies : c.type.canVaryOn target.kind = true
  option : c.type.comparesOption = true → ∃ o ∈ target.options, c.option = some o.id
  text : c.type = .matching → ∃ t, c.text = some t ∧ Text.isBlank t = false

/-- A condition of a question looks at a question before it that can be answered. -/
def DisplayCondition.Sound (c : DisplayCondition) (question : Question) (questions : List Question) : Prop :=
  ∃ target ∈ questions, target.id = c.question ∧ target.position < question.position ∧ target.isSeparator = false ∧
    c.Fits target

/-- A definition that makes a questionnaire. -/
structure Definition.WellFormed (d : Definition) : Prop where
  ids : (d.questions.map (·.id)).Nodup
  positions : (d.questions.map (·.position)).Nodup
  options : ∀ q ∈ d.questions, (q.options.map (·.id)).Nodup
  rows : ∀ q ∈ d.questions, (q.rows.map (·.id)).Nodup
  separators : ∀ q ∈ d.questions, q.isSeparator = true → q.conditions = []
  conditions : ∀ q ∈ d.questions, ∀ c ∈ q.conditions, c.Sound q d.questions

namespace Definition

/-- Being well formed depends on which questions there are and on nothing else. -/
theorem WellFormed.of_perm {d e : Definition} (hd : d.WellFormed) (h : d.questions.Perm e.questions) : e.WellFormed where
  ids := (h.map _).nodup_iff.1 hd.ids
  positions := (h.map _).nodup_iff.1 hd.positions
  options q hq := hd.options q (h.mem_iff.2 hq)
  rows q hq := hd.rows q (h.mem_iff.2 hq)
  separators q hq := hd.separators q (h.mem_iff.2 hq)
  conditions q hq c hc := by
    obtain ⟨target, ht, rest⟩ := hd.conditions q (h.mem_iff.2 hq) c hc
    exact ⟨target, h.mem_iff.1 ht, rest⟩

/-- The definition with its questions in the order of their positions. -/
def ordered (d : Definition) : Definition := { d with questions := inOrder d.questions }

theorem ordered_perm (d : Definition) : d.ordered.questions.Perm d.questions := inOrder_perm d.questions

theorem ordered_pairwise (d : Definition) : d.ordered.questions.Pairwise (fun a b => a.position ≤ b.position) :=
  inOrder_pairwise d.questions

theorem wellFormed_ordered_iff {d : Definition} : d.ordered.WellFormed ↔ d.WellFormed :=
  ⟨fun h => h.of_perm d.ordered_perm, fun h => h.of_perm d.ordered_perm.symm⟩

/-- Where no two questions share a position, the ordered questions ascend strictly. -/
theorem WellFormed.ordered_ascending {d : Definition} (h : d.WellFormed) :
    d.ordered.questions.Pairwise (fun a b => a.position < b.position) := by
  have hn : d.ordered.questions.Pairwise (fun a b => a.position ≠ b.position) :=
    List.pairwise_map.1 (wellFormed_ordered_iff.2 h).positions
  refine (d.ordered_pairwise.and hn).imp ?_
  rintro a b ⟨hle, hne⟩
  exact UInt32.lt_of_le_of_ne hle hne

end Definition

end Survey
