import Mathlib.Data.List.Perm.Basic
import Survey.Proofs.Precedence

/-!
# What one pass settles

The pass over the questions hides some and brings none back. When a question is judged, all questions its conditions look at have
been judged (`Questionnaire.mask_visibilityBefore`), so what the whole pass hides answers for each question as the pass did when it came
to it (`Questionnaire.shows_visibility`). So answers that agree on questions and on all before them settle these alike
(`Questionnaire.shows_eq_of_agree`), and two passes that settle every question alike hide the same (`Questionnaire.visibility_ext`).
-/

namespace Survey

namespace Visibility

theorem shows_iff {v : Visibility} {id : QuestionId} : v.shows id = true ↔ id ∉ v.hidden := by
  simp [shows]

theorem shows_eq_false_iff {v : Visibility} {id : QuestionId} : v.shows id = false ↔ id ∈ v.hidden := by
  simp [shows]

theorem mask_of_shows {v : Visibility} {answers : Answers} {id : QuestionId} (h : v.shows id = true) :
    v.mask answers id = answers.value? id := by
  simp [mask, h]

theorem mask_of_hidden {v : Visibility} {answers : Answers} {id : QuestionId} (h : v.shows id = false) :
    v.mask answers id = none := by
  simp [mask, h]

/-- The value of a question counts alike where it is shown or hidden alike and, if shown, has the same value. -/
theorem mask_congr {v w : Visibility} {a b : Answers} {id : QuestionId} (hs : v.shows id = w.shows id)
    (hv : v.shows id = true → a.value? id = b.value? id) : v.mask a id = w.mask b id := by
  cases h : v.shows id with
  | false => rw [mask_of_hidden h, mask_of_hidden (hs ▸ h)]
  | true => rw [mask_of_shows h, mask_of_shows (hs ▸ h), hv h]

/-- Judging questions hides some of them, in their order, and brings none back. -/
theorem hidden_foldl_judge (q : Questionnaire) (answers : Answers) (questions : List Question) (v : Visibility) :
    ∃ more, more.Sublist (questions.map (·.id)) ∧ (questions.foldl (judge q answers) v).hidden = v.hidden ++ more := by
  induction questions generalizing v with
  | nil => exact ⟨[], List.Sublist.refl _, by simp⟩
  | cons question rest ih =>
    obtain ⟨more, hsub, heq⟩ := ih (judge q answers v question)
    rw [List.foldl_cons, heq]
    unfold judge
    split
    · exact ⟨more, hsub.cons _, rfl⟩
    · exact ⟨question.id :: more, hsub.cons_cons _, by simp⟩

/-- Judging other questions leaves a question as it was. -/
theorem shows_foldl_judge {q : Questionnaire} {answers : Answers} {questions : List Question} {v : Visibility}
    {id : QuestionId} (h : id ∉ questions.map (·.id)) :
    (questions.foldl (judge q answers) v).shows id = v.shows id := by
  obtain ⟨more, hsub, heq⟩ := hidden_foldl_judge q answers questions v
  have hmore : id ∉ more := fun hm => h (hsub.subset hm)
  rw [Bool.eq_iff_iff, shows_iff, shows_iff, heq, List.mem_append]
  simp [hmore]

/-- A question that was not hidden yet is hidden by its judgement exactly if it is not shown then. -/
theorem shows_judge_self {q : Questionnaire} {answers : Answers} {question : Question} {v : Visibility}
    (h : v.shows question.id = true) : (judge q answers v question).shows question.id = q.shows question (v.mask answers) := by
  unfold judge
  cases hs : q.shows question (v.mask answers) with
  | true => simpa using h
  | false => simp [shows]

end Visibility

namespace Questionnaire

variable {q : Questionnaire} {a b : Answers}

/-- What is hidden are answerable questions, in their order. -/
theorem hidden_sublist (q : Questionnaire) (a : Answers) : (q.visibility a).hidden.Sublist (q.answerable.map (·.id)) := by
  obtain ⟨more, hsub, heq⟩ := Visibility.hidden_foldl_judge q a q.answerable {}
  have e : (q.visibility a).hidden = more := by
    unfold visibility
    rw [heq, List.nil_append]
  rw [e]
  exact hsub

theorem exists_answerable_of_hidden {id : QuestionId} (h : id ∈ (q.visibility a).hidden) :
    ∃ question ∈ q.answerable, question.id = id :=
  List.mem_map.1 ((hidden_sublist q a).subset h)

/-- What stands before a question, among the answerable ones, is in front of it in their list. -/
theorem mem_before {before after : List Question} {question target : Question}
    (hsplit : q.answerable = before ++ question :: after) (ht : target ∈ q.answerable)
    (hlt : target.position < question.position) : target ∈ before := by
  have hasc := q.answerable_ascending
  rw [hsplit] at ht hasc
  exact mem_before_of_lt hasc ht hlt

/-- What is hidden when the pass comes to a question: what it made of the questions in front of that one. -/
def visibilityBefore (q : Questionnaire) (a : Answers) (question : Question) : Visibility :=
  (q.answerable.takeWhile fun other => other.id ≠ question.id).foldl (Visibility.judge q a) {}

/-- The pass in two parts: in front of a question, and from that question on. The questions in front have other identifiers than it and
those behind it, and so have these. -/
theorem visibility_eq_foldl_judge {question : Question} (hq : question ∈ q.answerable) :
    ∃ before after, q.answerable = before ++ question :: after ∧
      (∀ target ∈ before, target.id ∉ (question :: after).map (·.id)) ∧ question.id ∉ after.map (·.id) ∧
      q.visibilityBefore a question = before.foldl (Visibility.judge q a) {} ∧
      q.visibility a = (question :: after).foldl (Visibility.judge q a) (q.visibilityBefore a question) := by
  obtain ⟨before, after, hsplit⟩ := List.append_of_mem hq
  have hn := q.nodup_answerable_ids
  rw [hsplit, List.map_append, List.map_cons] at hn
  obtain ⟨_, hnafter, hdisj⟩ := List.nodup_append.1 hn
  have hother : ∀ target ∈ before, target.id ∉ (question :: after).map (·.id) :=
    fun target ht h => hdisj _ (List.mem_map_of_mem ht) _ h rfl
  have hbefore : q.visibilityBefore a question = before.foldl (Visibility.judge q a) {} := by
    unfold visibilityBefore
    rw [hsplit, List.takeWhile_append_of_pos fun target ht => by
      simpa using fun h : target.id = question.id => hother target ht (h ▸ List.mem_cons_self)]
    simp
  refine ⟨before, after, hsplit, hother, (List.nodup_cons.1 hnafter).1, hbefore, ?_⟩
  unfold visibility
  rw [hsplit, List.foldl_append, hbefore]

/-- What stands before a question has been judged when the pass comes to that question, so it counts then as it does in the end. -/
theorem mask_visibilityBefore {question target : Question} (hq : question ∈ q.answerable) (ht : target ∈ q.answerable)
    (hlt : target.position < question.position) :
    (q.visibilityBefore a question).mask a target.id = (q.visibility a).mask a target.id := by
  obtain ⟨before, after, hsplit, hother, _, _, hrest⟩ := visibility_eq_foldl_judge (a := a) hq
  refine Visibility.mask_congr ?_ (fun _ => rfl)
  rw [hrest, Visibility.shows_foldl_judge (hother target (mem_before hsplit ht hlt))]

/-- A question keeps the verdict it was given when the pass came to it, since the questions after it have other identifiers. -/
theorem shows_eq_shows_before {question : Question} (hq : question ∈ q.answerable) :
    (q.visibility a).shows question.id = q.shows question ((q.visibilityBefore a question).mask a) := by
  obtain ⟨before, after, _, hother, hnotafter, hbefore, hrest⟩ := visibility_eq_foldl_judge (a := a) hq
  have hfresh : (q.visibilityBefore a question).shows question.id = true := by
    have hnotbefore : question.id ∉ before.map (·.id) := by
      intro h
      obtain ⟨target, ht, hid⟩ := List.mem_map.1 h
      exact hother target ht (hid ▸ List.mem_cons_self)
    rw [hbefore, Visibility.shows_foldl_judge hnotbefore]
    rfl
  calc (q.visibility a).shows question.id
      = (Visibility.judge q a (q.visibilityBefore a question) question).shows question.id := by
        rw [hrest, List.foldl_cons, Visibility.shows_foldl_judge hnotafter]
    _ = q.shows question ((q.visibilityBefore a question).mask a) := Visibility.shows_judge_self hfresh

/-- That verdict is the one that the values give which count in the end. -/
theorem shows_visibility {question : Question} (hq : question ∈ q.answerable) :
    (q.visibility a).shows question.id = q.shows question ((q.visibility a).mask a) := by
  rw [shows_eq_shows_before hq]
  exact shows_congr (mem_answerable.1 hq).1 fun _ ht hlt => mask_visibilityBefore hq ht hlt

/-- Answers that agree on the visible questions among some show the same ones of these, where the questions before one of them are
among them too. -/
theorem shows_eq_of_agree {P : Question → Prop}
    (hbefore : ∀ question ∈ q.answerable, P question → ∀ target ∈ q.answerable, target.position < question.position → P target)
    (hagree : ∀ question ∈ q.answerable, P question → (q.visibility a).shows question.id = true →
      a.value? question.id = b.value? question.id) :
    ∀ question ∈ q.answerable, P question → (q.visibility a).shows question.id = (q.visibility b).shows question.id := by
  apply position_induction
  intro question hq ih hP
  rw [shows_visibility hq, shows_visibility hq]
  refine shows_congr (mem_answerable.1 hq).1 fun target ht hlt => ?_
  have htarget := hbefore question hq hP target ht hlt
  exact Visibility.mask_congr (ih target ht hlt htarget) (hagree target ht htarget)

/-- Answers hide the same questions as soon as they leave the same answerable questions visible. -/
theorem visibility_ext (h : ∀ question ∈ q.answerable, (q.visibility a).shows question.id = (q.visibility b).shows question.id) :
    q.visibility a = q.visibility b := by
  have hsame : ∀ id, id ∈ (q.visibility a).hidden ↔ id ∈ (q.visibility b).hidden := by
    intro id
    rw [← Visibility.shows_eq_false_iff, ← Visibility.shows_eq_false_iff]
    constructor
    · intro hid
      obtain ⟨question, hq, rfl⟩ := exists_answerable_of_hidden (Visibility.shows_eq_false_iff.1 hid)
      exact h question hq ▸ hid
    · intro hid
      obtain ⟨question, hq, rfl⟩ := exists_answerable_of_hidden (Visibility.shows_eq_false_iff.1 hid)
      exact (h question hq).symm ▸ hid
  have hperm := (List.perm_ext_iff_of_nodup ((hidden_sublist q a).nodup nodup_answerable_ids)
    ((hidden_sublist q b).nodup nodup_answerable_ids)).2 hsame
  have heq := (List.Nodup.perm_iff_eq_of_sublist nodup_answerable_ids (hidden_sublist q a) (hidden_sublist q b)).1 hperm
  cases hva : q.visibility a
  cases hvb : q.visibility b
  simp_all

end Questionnaire

end Survey
