import Mathlib.Data.List.Forall2
import Survey.Visibility

/-!
# Conditions as a set

Outcomes are combined one by one, and the first mandatory one that fails decides. What comes of it depends neither on their order nor on
how often each is there (`verdict_eq_true_iff`). So the conditions of a question may be put in another order, and repeated, without any
change in what is shown (`Questionnaire.conditions_count_as_a_set`): not of that question, and not of those that depend on it.
-/

namespace Survey

/-! ## The verdict -/

/-- What the verdict is when it has been found already whether there was an optional outcome and whether one of these held. -/
theorem verdictFrom_eq_true_iff {optional held : Bool} {outcomes : List Outcome} :
    verdictFrom optional held outcomes = true ↔
      (∀ o ∈ outcomes, o.1 = true → o.2 = true) ∧
        ((optional = false ∧ ∀ o ∈ outcomes, o.1 = true) ∨ held = true ∨ ∃ o ∈ outcomes, o.1 = false ∧ o.2 = true) := by
  induction outcomes generalizing optional held with
  | nil => simp [verdictFrom]
  | cons o rest ih =>
    rcases o with ⟨mandatory, holds⟩
    cases mandatory with
    | true =>
      cases holds with
      | true => simp [verdictFrom, ih]
      | false => simp [verdictFrom]
    | false =>
      -- an optional outcome is there from now on, so only whether one held is left to ask
      rw [verdictFrom, ih]
      simp [or_assoc]

/-- All mandatory outcomes hold, and an optional one does if there are any. -/
theorem verdict_eq_true_iff {outcomes : List Outcome} :
    verdict outcomes = true ↔
      (∀ o ∈ outcomes, o.1 = true → o.2 = true) ∧
        ((¬ ∃ o ∈ outcomes, o.1 = false) ∨ ∃ o ∈ outcomes, o.1 = false ∧ o.2 = true) := by
  rw [verdict, verdictFrom_eq_true_iff]
  simp

example : verdict [(true, true), (false, false), (false, true)] = true ∧ verdict [(false, false), (true, true)] = false := by decide

/-- The same outcomes lead to the same verdict. -/
theorem verdict_congr {xs ys : List Outcome} (h : ∀ o, o ∈ xs ↔ o ∈ ys) : verdict xs = verdict ys := by
  rw [Bool.eq_iff_iff, verdict_eq_true_iff, verdict_eq_true_iff]
  simp only [h]

/-! ## Questions under rearranged conditions -/

/-- A question is another one whose conditions were put in some order and repeated. -/
structure Question.Rearranged (a b : Question) : Prop where
  rest : b = { a with conditions := b.conditions }
  mem_iff : ∀ c, c ∈ b.conditions ↔ c ∈ a.conditions

namespace Question.Rearranged

variable {a b : Question}

theorem refl (a : Question) : a.Rearranged a := ⟨rfl, fun _ => Iff.rfl⟩

theorem id_eq (h : a.Rearranged b) : b.id = a.id := by rw [h.rest]

theorem position_eq (h : a.Rearranged b) : b.position = a.position := by rw [h.rest]

theorem kind_eq (h : a.Rearranged b) : b.kind = a.kind := by rw [h.rest]

theorem options_eq (h : a.Rearranged b) : b.options = a.options := by rw [h.rest]

theorem rows_eq (h : a.Rearranged b) : b.rows = a.rows := by rw [h.rest]

theorem isSeparator_eq (h : a.Rearranged b) : b.isSeparator = a.isSeparator := by rw [isSeparator, isSeparator, h.kind_eq]

/-- It makes no difference to the conditions that look at it. -/
theorem holds_eq (h : a.Rearranged b) (c : DisplayCondition) (value : Option AnswerValue) : c.holds b value = c.holds a value := by
  rw [h.rest]
  unfold DisplayCondition.holds
  cases value with
  | none => rfl
  | some v => cases v <;> rfl

end Question.Rearranged

/-- Related lists have related members of a key that related members share. -/
theorem find?_key_rel {α κ : Type} [DecidableEq κ] {R : α → α → Prop} {key : α → κ} (hkey : ∀ a b, R a b → key b = key a)
    {xs ys : List α} (h : List.Forall₂ R xs ys) (k : κ) :
    Option.Rel R (xs.find? (fun x => key x = k)) (ys.find? (fun y => key y = k)) := by
  induction h with
  | nil => exact .none
  | cons hxy _ ih =>
    rw [List.find?_cons, List.find?_cons, hkey _ _ hxy]
    split
    · exact .some hxy
    · exact ih

namespace Questionnaire

/-- A questionnaire has the questions of another under rearranged conditions. -/
def Rearranged (q q' : Questionnaire) : Prop := List.Forall₂ Question.Rearranged q.questions q'.questions

variable {q q' : Questionnaire} {question other : Question}

theorem Rearranged.refl (q : Questionnaire) : q.Rearranged q := List.forall₂_same.2 fun question _ => .refl question

theorem Rearranged.question? (h : q.Rearranged q') (id : QuestionId) :
    Option.Rel Question.Rearranged (q.question? id) (q'.question? id) :=
  find?_key_rel (fun _ _ hab => hab.id_eq) h id

/-- A question is shown by the same values, whatever the arrangement of its conditions and of those of the others. -/
theorem Rearranged.shows_eq (h : q.Rearranged q') (hquestion : question.Rearranged other) (value : QuestionId → Option AnswerValue) :
    q'.shows other value = q.shows question value := by
  have houtcome : ∀ c : DisplayCondition, ((q'.question? c.question).any fun target => c.holds target (value c.question)) =
      (q.question? c.question).any fun target => c.holds target (value c.question) := by
    intro c
    have hrel := h.question? c.question
    generalize q.question? c.question = x, q'.question? c.question = y at hrel ⊢
    cases hrel with
    | none => rfl
    | some htarget => simp [htarget.holds_eq]
  unfold shows
  refine verdict_congr fun o => ?_
  simp only [houtcome, List.mem_map, hquestion.mem_iff]

/-- One pass hides the same questions: those before a question are hidden alike, so their values count alike, and then that question is
judged alike. -/
theorem Rearranged.visibility_eq (h : q.Rearranged q') (a : Answers) : q'.visibility a = q.visibility a := by
  have hanswerable : List.Forall₂ Question.Rearranged q.answerable q'.answerable := by
    refine List.rel_filter (fun x y hxy => ?_) h
    simp [hxy.isSeparator_eq]
  have hjudge : ∀ (v : Visibility) {x y : Question}, x.Rearranged y → Visibility.judge q' a v y = Visibility.judge q a v x := by
    intro v x y hxy
    rw [Visibility.judge, Visibility.judge, h.shows_eq hxy, hxy.id_eq]
  refine (List.rel_foldl ?_ rfl hanswerable).symm
  rintro v _ rfl x y hxy
  exact (hjudge v hxy).symm

end Questionnaire

/-! ## Definitions under rearranged conditions -/

section Related

variable {α β : Type} {R : α → α → Prop} {xs ys : List α}

theorem exists_related_of_mem (h : List.Forall₂ R xs ys) {x : α} (hx : x ∈ xs) : ∃ y ∈ ys, R x y := by
  induction h with
  | nil => cases hx
  | cons hxy _ ih =>
    rcases List.mem_cons.1 hx with rfl | hx
    · exact ⟨_, List.mem_cons_self, hxy⟩
    · obtain ⟨y, hy, hrel⟩ := ih hx
      exact ⟨y, List.mem_cons_of_mem _ hy, hrel⟩

theorem exists_of_related_mem (h : List.Forall₂ R xs ys) {y : α} (hy : y ∈ ys) : ∃ x ∈ xs, R x y := by
  have hflip : List.Forall₂ (flip R) ys xs := List.Forall₂.flip h
  exact exists_related_of_mem hflip hy

theorem map_eq_of_related {f : α → β} (hf : ∀ a b, R a b → f b = f a) (h : List.Forall₂ R xs ys) : ys.map f = xs.map f := by
  induction h with
  | nil => rfl
  | cons hxy _ ih => rw [List.map_cons, List.map_cons, hf _ _ hxy, ih]

/-- Related lists are sorted alike if related members are compared alike. -/
theorem related_placeBy {le : α → α → Bool} (hle : ∀ a a' b b', R a a' → R b b' → le a' b' = le a b) {x y : α} (hxy : R x y)
    (h : List.Forall₂ R xs ys) : List.Forall₂ R (placeBy le x xs) (placeBy le y ys) := by
  induction h with
  | nil => exact .cons hxy .nil
  | cons hab hrest ih =>
    rw [placeBy, placeBy, hle _ _ _ _ hxy hab]
    split
    · exact .cons hxy (.cons hab hrest)
    · exact .cons hab ih

theorem related_sortBy {le : α → α → Bool} (hle : ∀ a a' b b', R a a' → R b b' → le a' b' = le a b) (h : List.Forall₂ R xs ys) :
    List.Forall₂ R (sortBy le xs) (sortBy le ys) := by
  induction h with
  | nil => exact .nil
  | cons hxy _ ih => exact related_placeBy hle hxy ih

end Related

/-- Putting questions in the order of their positions does not look at their conditions. -/
theorem inOrder_rearranged {xs ys : List Question} (h : List.Forall₂ Question.Rearranged xs ys) :
    List.Forall₂ Question.Rearranged (inOrder xs) (inOrder ys) := by
  refine related_sortBy (fun a a' b b' hab hab' => ?_) h
  rw [hab.position_eq, hab'.position_eq]

namespace Definition

/-- A definition has the questions of another under rearranged conditions. -/
def Rearranged (d d' : Definition) : Prop := List.Forall₂ Question.Rearranged d.questions d'.questions

variable {d d' : Definition}

/-- A condition that is sound among questions is sound among the rearranged ones. -/
theorem Rearranged.sound (h : d.Rearranged d') {a b : Question} (hab : a.Rearranged b) {c : DisplayCondition}
    (hc : c.Sound a d.questions) : c.Sound b d'.questions := by
  obtain ⟨target, ht, hid, hlt, hsep, hfits⟩ := hc
  obtain ⟨target', ht', hrel⟩ := exists_related_of_mem h ht
  refine ⟨target', ht', hrel.id_eq.trans hid, ?_, hrel.isSeparator_eq.trans hsep, ?_⟩
  · rw [hrel.position_eq, hab.position_eq]
    exact hlt
  · exact ⟨hrel.kind_eq ▸ hfits.applies, hrel.options_eq ▸ hfits.option, hfits.text⟩

/-- Rearranged conditions leave a definition well formed. -/
theorem Rearranged.wellFormed (h : d.Rearranged d') (hd : d.WellFormed) : d'.WellFormed where
  ids := (map_eq_of_related (fun _ _ hab => hab.id_eq) h) ▸ hd.ids
  positions := (map_eq_of_related (fun _ _ hab => hab.position_eq) h) ▸ hd.positions
  options b hb := by
    obtain ⟨a, ha, hab⟩ := exists_of_related_mem h hb
    exact hab.options_eq ▸ hd.options a ha
  rows b hb := by
    obtain ⟨a, ha, hab⟩ := exists_of_related_mem h hb
    exact hab.rows_eq ▸ hd.rows a ha
  separators b hb hsep := by
    obtain ⟨a, ha, hab⟩ := exists_of_related_mem h hb
    have hnone := hd.separators a ha (hab.isSeparator_eq ▸ hsep)
    refine List.eq_nil_iff_forall_not_mem.2 fun c hc => ?_
    rw [hab.mem_iff, hnone] at hc
    exact List.not_mem_nil hc
  conditions b hb c hc := by
    obtain ⟨a, ha, hab⟩ := exists_of_related_mem h hb
    exact h.sound hab (hd.conditions a ha c ((hab.mem_iff c).1 hc))

/-- So they make a questionnaire as well, with the same questions under rearranged conditions. -/
theorem Rearranged.build (h : d.Rearranged d') {q : Questionnaire} (hq : d.build = .ok q) :
    ∃ q', d'.build = .ok q' ∧ q.Rearranged q' := by
  obtain ⟨hd, hordered⟩ := build_eq_ok_iff.1 hq
  have hd' := h.wellFormed hd
  refine ⟨⟨d'.ordered, wellFormed_ordered_iff.2 hd', hd'.ordered_ascending⟩, build_eq_ok_iff.2 ⟨hd', rfl⟩, ?_⟩
  rw [Questionnaire.Rearranged, Questionnaire.questions, hordered]
  exact inOrder_rearranged h

end Definition

namespace Questionnaire

/-- The conditions of a question count as a set. Their outcomes are combined to true exactly if all mandatory ones hold and, where there are
optional ones, one of these does. So a question under the same conditions in another order, each there once or more often, is visible by
the same answers, among the same questions or among others rearranged like it, and the same questions are hidden, whatever the answers.
And a definition whose conditions are rearranged makes such a questionnaire if it made one before. -/
theorem conditions_count_as_a_set :
    (∀ outcomes, verdict outcomes = true ↔
      (∀ o ∈ outcomes, o.1 = true → o.2 = true) ∧
        ((¬ ∃ o ∈ outcomes, o.1 = false) ∨ ∃ o ∈ outcomes, o.1 = false ∧ o.2 = true)) ∧
    (∀ (q : Questionnaire) (a : Answers) (question other : Question), question.Rearranged other →
      q.reveals a other = q.reveals a question) ∧
    (∀ q q' : Questionnaire, q.Rearranged q' → ∀ a,
      q'.visibility a = q.visibility a ∧
      ∀ question other : Question, question.Rearranged other → q'.reveals a other = q.reveals a question) ∧
    ∀ d d' : Definition, d.Rearranged d' → ∀ q, d.build = .ok q → ∃ q', d'.build = .ok q' ∧ q.Rearranged q' := by
  refine ⟨fun _ => verdict_eq_true_iff, ?_, ?_, fun _ _ h _ => h.build⟩
  · intro q a question other h
    exact (Rearranged.refl q).shows_eq h a.value?
  · intro q q' hq a
    exact ⟨hq.visibility_eq a, fun _ _ h => hq.shows_eq h a.value?⟩

end Questionnaire

end Survey
