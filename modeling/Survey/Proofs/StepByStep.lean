import Mathlib.Data.List.Nodup
import Survey.Proofs.Gathering

/-!
# The check of the whole, step by step

The check of the whole finds what the checks of the steps find, one after another (`Questionnaire.whole_is_sum_of_steps`). The steps are
the answerable questions cut into parts, so no question is left out and none is checked twice; and no question has a kind of fault twice,
so nothing that is gathered is ever left out for being there already.
-/

namespace Survey

namespace Faults

/-- What a check found: nothing if it passed. -/
def found : Except Faults Unit → Faults
  | .ok () => .none
  | .error f => f

@[simp]
theorem found_toExcept (f : Faults) : found f.toExcept = f := by
  unfold toExcept
  split
  · rename_i h
    obtain ⟨hentries, hterms⟩ := isEmpty_iff.1 h
    cases f
    simp_all [found, none]
  · rfl

/-- Different kinds of fault that are new for a question are added in their order. -/
theorem entries_foldl_push {id : QuestionId} {kinds : List FaultKind} {f : Faults} (hkinds : kinds.Nodup)
    (hnew : ∀ fault ∈ f.entries, fault.question ≠ id ∨ fault.kind ∉ kinds) :
    (kinds.foldl (·.push id ·) f).entries = f.entries ++ kinds.map (Fault.mk id) := by
  induction kinds generalizing f with
  | nil => simp
  | cons kind rest ih =>
    obtain ⟨hkind, hrest⟩ := List.nodup_cons.1 hkinds
    have hfresh : ⟨id, kind⟩ ∉ f.entries := fun h => by simpa using hnew _ h
    have hnext : ∀ fault ∈ (f.push id kind).entries, fault.question ≠ id ∨ fault.kind ∉ rest := by
      intro fault hfault
      rcases mem_push.1 hfault with h | rfl
      · exact (hnew fault h).imp_right fun hn hmem => hn (List.mem_cons_of_mem _ hmem)
      · exact Or.inr hkind
    rw [List.foldl_cons, ih hrest hnext, entries_push, if_neg hfresh, List.append_assoc, List.map_cons,
      List.singleton_append]

end Faults

/-! ## No kind of fault twice -/

theorem mem_faultIf {found : Bool} {kind other : FaultKind} : other ∈ faultIf found kind ↔ found = true ∧ other = kind := by
  unfold faultIf
  split <;> simp_all

theorem nodup_faultIf (found : Bool) (kind : FaultKind) : (faultIf found kind).Nodup := by
  unfold faultIf
  split <;> simp

theorem nodup_faultIf_append {first second : FaultKind} (h : first ≠ second) (found found' : Bool) :
    (faultIf found first ++ faultIf found' second).Nodup := by
  refine List.nodup_append.2 ⟨nodup_faultIf _ _, nodup_faultIf _ _, ?_⟩
  intro x hx y hy hxy
  rw [(mem_faultIf.1 hx).2, (mem_faultIf.1 hy).2] at hxy
  exact h hxy

namespace Question

theorem nodup_checkGiven (question : Question) (settings : SessionSettings) (value : AnswerValue) :
    (question.checkGiven settings value).Nodup := by
  cases value with
  | text body => exact nodup_faultIf _ _
  | choices chosen => exact nodup_faultIf_append (by decide) _ _
  | sorting order => exact nodup_faultIf _ _
  | matrix cells => exact nodup_faultIf_append (by decide) _ _

/-- A question has no kind of fault twice. -/
theorem nodup_check (question : Question) (settings : SessionSettings) (value : Option AnswerValue) :
    (question.check settings value).Nodup := by
  unfold check
  split
  · exact nodup_faultIf _ _
  · split
    · exact nodup_faultIf _ _
    · exact question.nodup_checkGiven settings _

end Question

/-- What gives nothing may be left out. -/
theorem flatMap_filter_of_eq_nil {α β : Type} {l : List α} {p : α → Bool} {f : α → List β} (h : ∀ x ∈ l, p x = false → f x = []) :
    (l.filter p).flatMap f = l.flatMap f := by
  induction l with
  | nil => rfl
  | cons x rest ih =>
    have ih := ih fun y hy => h y (List.mem_cons_of_mem _ hy)
    cases hp : p x with
    | true => simp [hp, ih]
    | false => simp [hp, ih, h x List.mem_cons_self hp]

namespace Questionnaire

variable {q : Questionnaire} {settings : SessionSettings} {a : Answers} {v : Visibility} {terms : Bool}

theorem nodup_faultsOf (id : QuestionId) : (q.faultsOf settings a v id).Nodup := by
  unfold faultsOf
  split
  · cases q.question? id with
    | none => exact List.nodup_nil
    | some question => exact question.nodup_check settings _
  · exact List.nodup_nil

/-! ## What is gathered, in order -/

/-- The faults of a question, as they are gathered. -/
def entriesOf (q : Questionnaire) (settings : SessionSettings) (a : Answers) (v : Visibility) (id : QuestionId) : List Fault :=
  (q.faultsOf settings a v id).map (Fault.mk id)

/-- What is gathered over different questions are their faults, question by question. -/
theorem entries_gather {ids : List QuestionId} (hids : ids.Nodup) :
    (q.gather settings a v ids).entries = ids.flatMap (q.entriesOf settings a v) := by
  -- what was found before is of other questions than those to come, so no fault of these is there already
  have hfrom : ∀ f : Faults, (∀ fault ∈ f.entries, fault.question ∉ ids) →
      (ids.foldl (fun found id => (q.faultsOf settings a v id).foldl (·.push id ·) found) f).entries =
        f.entries ++ ids.flatMap (q.entriesOf settings a v) := by
    induction ids with
    | nil => simp
    | cons id rest ih =>
      obtain ⟨hid, hrest⟩ := List.nodup_cons.1 hids
      intro f hnew
      have hnext : ∀ fault ∈ ((q.faultsOf settings a v id).foldl (·.push id ·) f).entries, fault.question ∉ rest := by
        intro fault hfault
        rcases Faults.mem_foldl_push.1 hfault with h | ⟨rfl, _⟩
        · exact fun hmem => hnew fault h (List.mem_cons_of_mem _ hmem)
        · exact hid
      have hkinds : (q.faultsOf settings a v id).Nodup := nodup_faultsOf id
      have hother : ∀ fault ∈ f.entries, fault.question ≠ id ∨ fault.kind ∉ q.faultsOf settings a v id :=
        fun fault h => Or.inl fun heq => hnew fault h (heq ▸ List.mem_cons_self)
      rw [List.foldl_cons, ih hrest _ hnext, Faults.entries_foldl_push hkinds hother, List.flatMap_cons, List.append_assoc]
      rfl
  exact hfrom .none nofun

/-- Faults of different questions are different. -/
theorem nodup_flatMap_entriesOf {ids : List QuestionId} (hids : ids.Nodup) : (ids.flatMap (q.entriesOf settings a v)).Nodup := by
  refine List.nodup_flatMap.2 ⟨fun id _ => (nodup_faultsOf id).map fun _ _ h => (Fault.mk.inj h).2, ?_⟩
  refine hids.imp fun {x y} hxy fault hx hy => ?_
  obtain ⟨_, _, rfl⟩ := List.mem_map.1 hx
  obtain ⟨_, _, heq⟩ := List.mem_map.1 hy
  exact hxy (Fault.mk.inj heq).1.symm

/-! ## Step by step -/

/-- A step names no question twice. -/
theorem nodup_step (k : Nat) : (q.step k).Nodup := by
  by_cases hk : k < q.stepCount
  · have hall : ((List.range q.stepCount).flatMap q.step).Nodup := flatMap_step ▸ nodup_answerable_ids
    exact (List.nodup_flatMap.1 hall).1 k (List.mem_range.2 hk)
  · rw [step_of_le (Nat.le_of_not_lt hk)]
    exact List.nodup_nil

theorem found_checkStep (k : Nat) : Faults.found (q.checkStep settings k a v) = q.gather settings a v (q.step k) :=
  Faults.found_toExcept _

theorem entries_found_checkStep (k : Nat) :
    (Faults.found (q.checkStep settings k a v)).entries = (q.step k).flatMap (q.entriesOf settings a v) := by
  rw [found_checkStep, entries_gather (nodup_step k)]

/-- The check of the whole finds the faults of the answerable questions. -/
theorem entries_found_checkAll :
    (Faults.found (q.checkAll settings a v terms)).entries = (q.answerable.map (·.id)).flatMap (q.entriesOf settings a v) := by
  rw [← entries_gather nodup_answerable_ids, checkAll, Faults.found_toExcept]
  split <;> rfl

/-- And it notes that the terms are not accepted where they must be. -/
theorem termsMissing_found_checkAll :
    (Faults.found (q.checkAll settings a v terms)).termsMissing = (q.requiresTerms settings && !terms) := by
  rw [checkAll, Faults.found_toExcept]
  split
  · rename_i h
    rw [h]
    rfl
  · rename_i h
    rw [gather_termsMissing, Bool.eq_false_iff.2 h]

/-- A check passes exactly if it finds nothing. -/
theorem checkAll_eq_ok_iff_found :
    q.checkAll settings a v terms = .ok () ↔ (Faults.found (q.checkAll settings a v terms)).isEmpty = true := by
  rw [checkAll, Faults.found_toExcept, Faults.toExcept_eq_ok_iff]

theorem checkStep_eq_ok_iff_found {k : Nat} :
    q.checkStep settings k a v = .ok () ↔ (Faults.found (q.checkStep settings k a v)).entries = [] := by
  rw [found_checkStep, checkStep, Faults.toExcept_eq_ok_iff, Faults.isEmpty_iff, gather_termsMissing]
  simp

/-- The faults of the answerable questions are those of the values of the shown ones. -/
theorem flatMap_entriesOf :
    (q.answerable.map (·.id)).flatMap (q.entriesOf settings a v) =
      (q.answerable.filter fun question => v.shows question.id).flatMap fun question =>
        (question.check settings (a.value? question.id)).map (Fault.mk question.id) := by
  have hhidden : ∀ question ∈ q.answerable, v.shows question.id = false → q.entriesOf settings a v question.id = [] := by
    intro question _ hs
    rw [entriesOf, faultsOf_of_hidden hs, List.map_nil]
  rw [List.flatMap_map, ← flatMap_filter_of_eq_nil hhidden]
  refine List.flatMap_congr fun question hq => ?_
  obtain ⟨hq, hs⟩ := List.mem_filter.1 hq
  rw [entriesOf, faultsOf_of_shows hq hs]

/-- A fault that is found belongs to an answerable question that is shown. -/
theorem shows_of_mem_entries {fault : Fault} (h : fault ∈ (Faults.found (q.checkAll settings a v terms)).entries) :
    v.shows fault.question = true ∧ ∃ question ∈ q.answerable, question.id = fault.question := by
  rw [entries_found_checkAll, flatMap_entriesOf] at h
  obtain ⟨question, hq, hfault⟩ := List.mem_flatMap.1 h
  obtain ⟨hq, hs⟩ := List.mem_filter.1 hq
  obtain ⟨_, _, rfl⟩ := List.mem_map.1 hfault
  exact ⟨hs, question, hq, rfl⟩

/-- The whole finds what the steps find, one after another. -/
theorem entries_eq_flatMap_steps :
    (Faults.found (q.checkAll settings a v terms)).entries =
      (List.range q.stepCount).flatMap fun k => (Faults.found (q.checkStep settings k a v)).entries := by
  simp only [entries_found_checkAll, entries_found_checkStep, ← flatMap_step, List.flatMap_assoc]

/-- The whole passes if every step does and the terms are not missing. -/
theorem checkAll_eq_ok_iff_steps :
    q.checkAll settings a v terms = .ok () ↔
      (∀ k < q.stepCount, q.checkStep settings k a v = .ok ()) ∧
        (Faults.found (q.checkAll settings a v terms)).termsMissing = false := by
  rw [checkAll_eq_ok_iff_found, Faults.isEmpty_iff, entries_eq_flatMap_steps, List.flatMap_eq_nil_iff]
  simp only [List.mem_range, checkStep_eq_ok_iff_found]

/-- The check of the whole is the sum of the checks of the steps, by whatever visibility: it finds what they find, one after another, no
fault twice. These are the kinds of fault of the questions that are shown, in the order of their positions. It notes that the terms are
missing if they are required and not accepted, which no step asks for. So it passes exactly if every step does and the terms are not
missing. -/
theorem whole_is_sum_of_steps (q : Questionnaire) (settings : SessionSettings) (a : Answers) (v : Visibility) (terms : Bool) :
    let whole := Faults.found (q.checkAll settings a v terms)
    let ofStep := fun k => Faults.found (q.checkStep settings k a v)
    whole.entries = (List.range q.stepCount).flatMap (fun k => (ofStep k).entries) ∧
    whole.entries.Nodup ∧
    (∀ fault ∈ whole.entries, v.shows fault.question = true ∧ ∃ question ∈ q.answerable, question.id = fault.question) ∧
    (q.answerable.Pairwise (fun x y => x.position < y.position) ∧
      whole.entries = (q.answerable.filter fun question => v.shows question.id).flatMap fun question =>
        (question.check settings (a.value? question.id)).map (Fault.mk question.id)) ∧
    (whole.termsMissing = true ↔ q.requiresTerms settings = true ∧ terms = false) ∧ (∀ k, (ofStep k).termsMissing = false) ∧
    (q.checkAll settings a v terms = .ok () ↔
      (∀ k < q.stepCount, q.checkStep settings k a v = .ok ()) ∧ whole.termsMissing = false) ∧
    ∀ k ≥ q.stepCount, q.checkStep settings k a v = .ok () := by
  intro whole ofStep
  have hentries : whole.entries = (q.answerable.map (·.id)).flatMap (q.entriesOf settings a v) := entries_found_checkAll
  have hnodup : whole.entries.Nodup := hentries ▸ nodup_flatMap_entriesOf nodup_answerable_ids
  have hterms : whole.termsMissing = true ↔ q.requiresTerms settings = true ∧ terms = false := by
    rw [show whole.termsMissing = (q.requiresTerms settings && !terms) from termsMissing_found_checkAll]
    simp
  have hnoTerms : ∀ k, (ofStep k).termsMissing = false := by
    intro k
    rw [show ofStep k = q.gather settings a v (q.step k) from found_checkStep k, gather_termsMissing]
  have hbeyond : ∀ k ≥ q.stepCount, q.checkStep settings k a v = .ok () := by
    intro k hk
    rw [checkStep_eq_ok_iff, step_of_le hk]
    nofun
  exact ⟨entries_eq_flatMap_steps, hnodup, fun _ => shows_of_mem_entries, ⟨answerable_ascending, hentries.trans flatMap_entriesOf⟩,
    hterms, hnoTerms, checkAll_eq_ok_iff_steps, hbeyond⟩

end Questionnaire

end Survey
