import Mathlib.Data.List.Basic
import Survey.Proofs.Settled
import Survey.Proofs.Steps
import Survey.Validation.Sheet

/-!
# What a check gathers

The faults gathered over questions are those of each question, whatever their order (`Questionnaire.mem_gather`), and the faults of
a question depend on whether it is shown and, if so, on its value (`Questionnaire.faultsOf_congr`).
-/

namespace Survey

namespace Faults

/-- A fault is added at the end if it is new. -/
theorem entries_push (f : Faults) (question : QuestionId) (kind : FaultKind) :
    (f.push question kind).entries =
      if ⟨question, kind⟩ ∈ f.entries then f.entries else f.entries ++ [⟨question, kind⟩] := by
  simp only [push, List.contains_iff_mem]
  split <;> rfl

theorem mem_push {f : Faults} {question : QuestionId} {kind : FaultKind} {fault : Fault} :
    fault ∈ (f.push question kind).entries ↔ fault ∈ f.entries ∨ fault = ⟨question, kind⟩ := by
  rw [entries_push]
  split
  · rename_i h
    exact ⟨Or.inl, fun hf => hf.elim id fun heq => heq ▸ h⟩
  · simp

@[simp]
theorem push_termsMissing (f : Faults) (question : QuestionId) (kind : FaultKind) :
    (f.push question kind).termsMissing = f.termsMissing := by
  unfold push
  split <;> rfl

theorem mem_foldl_push {id : QuestionId} {kinds : List FaultKind} {f : Faults} {fault : Fault} :
    fault ∈ (kinds.foldl (·.push id ·) f).entries ↔ fault ∈ f.entries ∨ fault.question = id ∧ fault.kind ∈ kinds := by
  induction kinds generalizing f with
  | nil => simp
  | cons kind rest ih =>
    rw [List.foldl_cons, ih, mem_push, List.mem_cons]
    cases fault
    simp only [Fault.mk.injEq]
    constructor
    · rintro ((h | ⟨rfl, rfl⟩) | ⟨rfl, h⟩)
      · exact Or.inl h
      · exact Or.inr ⟨rfl, Or.inl rfl⟩
      · exact Or.inr ⟨rfl, Or.inr h⟩
    · rintro (h | ⟨rfl, rfl | h⟩)
      · exact Or.inl (Or.inl h)
      · exact Or.inl (Or.inr ⟨rfl, rfl⟩)
      · exact Or.inr ⟨rfl, h⟩

theorem foldl_push_termsMissing (id : QuestionId) (kinds : List FaultKind) (f : Faults) :
    (kinds.foldl (·.push id ·) f).termsMissing = f.termsMissing := by
  induction kinds generalizing f with
  | nil => rfl
  | cons kind rest ih => rw [List.foldl_cons, ih, push_termsMissing]

theorem isEmpty_iff {f : Faults} : f.isEmpty = true ↔ f.entries = [] ∧ f.termsMissing = false := by
  simp [isEmpty]

theorem toExcept_eq_ok_iff {f : Faults} : f.toExcept = .ok () ↔ f.isEmpty = true := by
  unfold toExcept
  split <;> simp_all

theorem eq_of_toExcept_eq_error {f g : Faults} (h : f.toExcept = .error g) : g = f := by
  unfold toExcept at h
  split at h
  · cases h
  · exact (Except.error.inj h).symm

end Faults

namespace Questionnaire

variable {q : Questionnaire} {settings : SessionSettings} {a b : Answers} {v w : Visibility}

/-- The faults of a question that is shown are those of its value. -/
theorem faultsOf_of_shows {question : Question} (hq : question ∈ q.answerable) (hs : v.shows question.id = true) :
    q.faultsOf settings a v question.id = question.check settings (a.value? question.id) := by
  rw [faultsOf, if_pos hs, question?_of_answerable hq]

/-- A hidden question has no faults. -/
theorem faultsOf_of_hidden {id : QuestionId} (hs : v.shows id = false) : q.faultsOf settings a v id = [] := by
  rw [faultsOf, hs]
  rfl

/-- The faults of a question depend on whether it is shown and, if it is, on its value. -/
theorem faultsOf_congr {id : QuestionId} (hs : v.shows id = w.shows id)
    (hv : v.shows id = true → a.value? id = b.value? id) : q.faultsOf settings a v id = q.faultsOf settings b w id := by
  unfold faultsOf
  cases h : v.shows id with
  | false => rw [← hs, h]; rfl
  | true => rw [← hs, h, hv h]

theorem gather_congr {ids : List QuestionId} (h : ∀ id ∈ ids, q.faultsOf settings a v id = q.faultsOf settings b w id) :
    q.gather settings a v ids = q.gather settings b w ids := by
  unfold gather
  refine List.foldl_ext _ _ _ fun found id hid => ?_
  rw [h id hid]

theorem mem_foldl_gather {ids : List QuestionId} {f : Faults} {fault : Fault} :
    fault ∈ (ids.foldl (fun found id => (q.faultsOf settings a v id).foldl (·.push id ·) found) f).entries ↔
      fault ∈ f.entries ∨ fault.question ∈ ids ∧ fault.kind ∈ q.faultsOf settings a v fault.question := by
  induction ids generalizing f with
  | nil => simp
  | cons id rest ih =>
    rw [List.foldl_cons, ih, Faults.mem_foldl_push, List.mem_cons]
    constructor
    · rintro ((h | ⟨rfl, h⟩) | ⟨hid, h⟩)
      · exact Or.inl h
      · exact Or.inr ⟨Or.inl rfl, h⟩
      · exact Or.inr ⟨Or.inr hid, h⟩
    · rintro (h | ⟨rfl | hid, h⟩)
      · exact Or.inl (Or.inl h)
      · exact Or.inl (Or.inr ⟨rfl, h⟩)
      · exact Or.inr ⟨hid, h⟩

/-- What is gathered over questions are the faults of each of them. -/
theorem mem_gather {ids : List QuestionId} {fault : Fault} :
    fault ∈ (q.gather settings a v ids).entries ↔
      fault.question ∈ ids ∧ fault.kind ∈ q.faultsOf settings a v fault.question := by
  unfold gather
  rw [mem_foldl_gather]
  simp [Faults.none]

/-- The terms are no matter of single questions. -/
theorem gather_termsMissing (ids : List QuestionId) : (q.gather settings a v ids).termsMissing = false := by
  have h : ∀ f : Faults, (ids.foldl (fun found id => (q.faultsOf settings a v id).foldl (·.push id ·) found) f).termsMissing =
      f.termsMissing := by
    induction ids with
    | nil => intro f; rfl
    | cons id rest ih => intro f; rw [List.foldl_cons, ih, Faults.foldl_push_termsMissing]
  exact h .none

theorem gather_isEmpty_iff {ids : List QuestionId} :
    (q.gather settings a v ids).isEmpty = true ↔ ∀ id ∈ ids, q.faultsOf settings a v id = [] := by
  rw [Faults.isEmpty_iff, List.eq_nil_iff_forall_not_mem]
  constructor
  · rintro ⟨h, _⟩ id hid
    refine List.eq_nil_iff_forall_not_mem.2 fun kind hk => ?_
    exact h ⟨id, kind⟩ (mem_gather.2 ⟨hid, hk⟩)
  · intro h
    refine ⟨fun fault hf => ?_, gather_termsMissing ids⟩
    obtain ⟨hid, hk⟩ := mem_gather.1 hf
    rw [h _ hid] at hk
    exact List.not_mem_nil hk

/-! ## The checks of a step and of the whole -/

/-- A step is in order exactly if no question of it has a fault. -/
theorem checkStep_eq_ok_iff {k : Nat} :
    q.checkStep settings k a v = .ok () ↔ ∀ id ∈ q.step k, q.faultsOf settings a v id = [] := by
  unfold checkStep
  rw [Faults.toExcept_eq_ok_iff, gather_isEmpty_iff]

theorem checkStep_congr {k : Nat}
    (h : ∀ id ∈ q.step k, q.faultsOf settings a v id = q.faultsOf settings b w id) :
    q.checkStep settings k a v = q.checkStep settings k b w := by
  unfold checkStep
  rw [gather_congr h]

theorem checkAll_congr {terms : Bool}
    (h : ∀ question ∈ q.answerable, q.faultsOf settings a v question.id = q.faultsOf settings b w question.id) :
    q.checkAll settings a v terms = q.checkAll settings b w terms := by
  have hgather : q.gather settings a v (q.answerable.map (·.id)) = q.gather settings b w (q.answerable.map (·.id)) := by
    refine gather_congr fun id hid => ?_
    obtain ⟨question, hq, rfl⟩ := List.mem_map.1 hid
    exact h question hq
  unfold checkAll
  rw [hgather]

/-- A fault found by the check of the whole is a fault of an answerable question. -/
theorem mem_checkAll {terms : Bool} {faults : Faults} (h : q.checkAll settings a v terms = .error faults) {fault : Fault}
    (hf : fault ∈ faults.entries) :
    (∃ question ∈ q.answerable, question.id = fault.question) ∧ fault.kind ∈ q.faultsOf settings a v fault.question := by
  unfold checkAll at h
  have hentries : faults.entries = (q.gather settings a v (q.answerable.map (·.id))).entries := by
    rw [Faults.eq_of_toExcept_eq_error h]
    split <;> rfl
  rw [hentries, mem_gather] at hf
  exact ⟨List.mem_map.1 hf.1, hf.2⟩

end Questionnaire

end Survey
