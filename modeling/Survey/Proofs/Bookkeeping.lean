import Mathlib.Data.List.Nodup
import Survey.Proofs.World

/-!
# What is saved, deleted and kept

Every act is told what became of the submissions it was about: a submission was saved, or a number of them was deleted. These reports
account for what a store keeps under an identifier. An act does one of three things to it (`Act.effect`): nothing, or one more
submission joins the others, of a respondent who had none there, or all of them are cleared away. So what is kept are the submissions
saved since nothing was cleared away any more (`World.mem_kept_run_iff`).

The reports are taken from what the operations give, never from the records, so that they say something about these.
-/

namespace Survey

/-- The number of submissions to a questionnaire that an event reports as deleted with its old questions. -/
def Event.deletedWithQuestions (id : QuestionnaireId) : Event → Nat
  | .questionsChanged changed _ deleted => if changed = id then deleted else 0
  | _ => 0

namespace Act

/-! ## Reports -/

/-- The submission under an identifier that an act was told is saved: by the outcome of saving it, or in the answer to submitting a
session. -/
def saved? (id : QuestionnaireId) (w : World) : Act → Option Submission
  | .save s => if s.questionnaire = id ∧ (w.store.save s).result = .ok .saved then some s else none
  | .submit name =>
    (w.sessions name).bind fun t => (t.submit Store.keeper w.store).result.toOption.filter (·.questionnaire = id)
  | _ => none

/-- The number of submissions under an identifier that an act reports as deleted: publishing in its result, changing the questions in
the journal. -/
def deleted (id : QuestionnaireId) (w : World) : Act → Nat
  | .publish published clean => if published = id then (w.store.publish published clean).result.toOption.getD 0 else 0
  | .revise revised questions => (w.store.revise revised questions).events.foldr (·.deletedWithQuestions id + ·) 0
  | _ => 0

/-- An act changes the questions of a questionnaire, with success. -/
def Revises (id : QuestionnaireId) (w : World) : Act → Prop
  | .revise revised questions => revised = id ∧ (w.store.revise revised questions).result.isOk = true
  | _ => False

/-- An act publishes a questionnaire and cleans up, with success. -/
def CleansUp (id : QuestionnaireId) (w : World) : Act → Prop
  | .publish published clean => published = id ∧ clean = true ∧ (w.store.publish published clean).result.isOk = true
  | _ => False

/-- An act clears the submissions to a questionnaire away. -/
def Clears (id : QuestionnaireId) (w : World) (x : Act) : Prop := x.Revises id w ∨ x.CleansUp id w

instance (id : QuestionnaireId) (w : World) : (x : Act) → Decidable (x.Revises id w)
  | .revise revised questions => inferInstanceAs (Decidable (revised = id ∧ (w.store.revise revised questions).result.isOk = true))
  | .insert _ | .publish .. | .save _ | .start .. | .move .. | .submit _ => inferInstanceAs (Decidable False)

instance (id : QuestionnaireId) (w : World) : (x : Act) → Decidable (x.CleansUp id w)
  | .publish published clean =>
    inferInstanceAs (Decidable (published = id ∧ clean = true ∧ (w.store.publish published clean).result.isOk = true))
  | .insert _ | .revise .. | .save _ | .start .. | .move .. | .submit _ => inferInstanceAs (Decidable False)

instance (id : QuestionnaireId) (w : World) (x : Act) : Decidable (x.Clears id w) :=
  inferInstanceAs (Decidable (x.Revises id w ∨ x.CleansUp id w))

end Act

/-! ## What the operations of a store do to what it keeps -/

namespace Store

theorem kept_put (st : Store) (r : StoreRecord) (id : QuestionnaireId) :
    (st.put r).kept id = if id = r.id then r.submissions else st.kept id := by
  unfold kept
  rw [record?_put]
  split <;> rfl

theorem kept_of_record? {st : Store} {id : QuestionnaireId} {r : StoreRecord} (h : st.record? id = some r) :
    st.kept id = r.submissions := by
  simp [kept, h]

/-- Keeping a questionnaire leaves the submissions to it, and to every other one. -/
theorem kept_hold (st : Store) (q : Questionnaire) (id : QuestionnaireId) : (st.hold q).kept id = st.kept id := by
  unfold hold
  cases hr : st.record? q.id with
  | none =>
    rw [kept_put]
    split
    · rename_i hid
      have hid : id = q.id := hid
      rw [hid, kept, hr]
      rfl
    · rfl
  | some r =>
    rw [kept_put]
    split
    · rename_i hid
      have hid : id = q.id := hid
      rw [hid, kept_of_record? hr]
    · rfl

theorem kept_insert (st : Store) (q : Questionnaire) (id : QuestionnaireId) : (st.insert q).state.kept id = st.kept id := by
  unfold insert guarded
  split
  · rfl
  · exact kept_hold st q id

/-- A store that saved a submission works. -/
theorem working_of_saved {st : Store} {s : Submission} (h : (st.save s).result = .ok .saved) : st.poisoned = false := by
  cases hp : st.poisoned with
  | false => rfl
  | true =>
    have hrefused : (st.save s).result = .error .poisoned := by simp [save, withRecord, guarded, hp, refuse]
    rw [hrefused] at h
    cases h

/-- A session's submission is refused and leaves the store as it is, or it is what the session's answers make, and the store saved
it. -/
theorem submit_saves_or_leaves (t : Session) (st : Store) :
    (∃ e, (t.submit keeper st).result = .error e) ∧ (t.submit keeper st).state.2 = st ∨
    (t.submit keeper st).result = .ok t.submission ∧ (st.save t.submission).result = .ok .saved ∧
      (t.submit keeper st).state.2 = (st.save t.submission).state := by
  -- whatever the outcome, a submission that was not saved left the store as it was
  have hleft : (st.save t.submission).result ≠ .ok .saved → (st.save t.submission).state = st := by
    intro hne
    rcases save_cases st t.submission with ⟨_, hstate⟩ | ⟨_, _, _, _, heq⟩
    · exact hstate
    · exact absurd (by rw [heq]) hne
  rcases Session.submit_cases keeper t st with ⟨_, hr | hr, hs⟩ | ⟨_, faults, _, hr, hs⟩ | ⟨_, _, heq⟩
  · exact Or.inl ⟨⟨_, hr⟩, by rw [hs]⟩
  · exact Or.inl ⟨⟨_, hr⟩, by rw [hs]⟩
  · exact Or.inl ⟨⟨_, hr⟩, by rw [hs]⟩
  · rw [heq]
    rcases Session.handOver_cases keeper t st with ⟨e, hk, hr, hs⟩ | ⟨hk, hr, hs⟩ | ⟨current, hk, hr, hs⟩ | ⟨hk, hr, hs⟩
    · have hk : (st.save t.submission).result = .error e := hk
      exact Or.inl ⟨⟨_, hr⟩, by rw [hs]; exact hleft (by rw [hk]; exact nofun)⟩
    · exact Or.inr ⟨hr, hk, by rw [hs]; rfl⟩
    · have hk : (st.save t.submission).result = .ok (.stale current) := hk
      refine Or.inl ⟨⟨_, hr⟩, ?_⟩
      rw [hs]
      exact (World.staleReason_store t current _).trans (hleft (by rw [hk]; exact nofun))
    · have hk : (st.save t.submission).result = .ok .alreadyAnswered := hk
      exact Or.inl ⟨⟨_, hr⟩, by rw [hs]; exact hleft (by rw [hk]; exact nofun)⟩

end Store

namespace Act

/-! ## What an act does to the submissions kept -/

/-- What an act does to the submissions kept under an identifier, and what it reports of it. -/
inductive Effect (id : QuestionnaireId) (w : World) (x : Act) : Prop where
  | nothing (saved : x.saved? id w = none) (deleted : x.deleted id w = 0) (spared : ¬ x.Clears id w)
      (kept : (x.run w).store.kept id = w.store.kept id)
  | joined (s : Submission) (saved : x.saved? id w = some s) (deleted : x.deleted id w = 0) (spared : ¬ x.Clears id w)
      (working : w.store.poisoned = false) (first : ∀ other ∈ w.store.kept id, other.respondent ≠ s.respondent)
      (kept : (x.run w).store.kept id = w.store.kept id ++ [s])
  | cleared (saved : x.saved? id w = none) (deleted : x.deleted id w = (w.store.kept id).length) (clears : x.Clears id w)
      (kept : (x.run w).store.kept id = [])

end Act

namespace Store

/-- What saving a submission does under an identifier, told by its outcome. -/
theorem kept_save (st : Store) (s : Submission) (id : QuestionnaireId) :
    (s.questionnaire = id ∧ (st.save s).result = .ok .saved ∧ (∀ other ∈ st.kept id, other.respondent ≠ s.respondent) ∧
      (st.save s).state.kept id = st.kept id ++ [s]) ∨
    ¬(s.questionnaire = id ∧ (st.save s).result = .ok .saved) ∧ (st.save s).state.kept id = st.kept id := by
  rcases save_cases st s with ⟨hne, hstate⟩ | ⟨r, hr, _, hfirst, heq⟩
  · exact Or.inr ⟨fun h => hne h.2, by rw [hstate]⟩
  · have hrid : r.id = s.questionnaire := id_of_record? hr
    by_cases hid : s.questionnaire = id
    · subst hid
      refine Or.inl ⟨rfl, by rw [heq], by rw [kept_of_record? hr]; exact hfirst, ?_⟩
      rw [heq, kept_of_record? hr, kept_put]
      exact if_pos hrid.symm
    · refine Or.inr ⟨fun h => hid h.1, ?_⟩
      rw [heq, kept_put]
      exact if_neg fun e => hid (hrid ▸ e.symm)

end Store

namespace Act

variable {id : QuestionnaireId} {w : World}

theorem effect_revise (revised : QuestionnaireId) (questions : List Question) : (revise revised questions).Effect id w := by
  rcases Store.revise_cases w.store revised questions with ⟨e, heq⟩ | ⟨r, _, _, heq⟩ | ⟨r, q, hr, _, hbuild, heq⟩
  · refine .nothing rfl (by simp [deleted, heq, Store.refuse]) ?_ (by simp only [run, heq]; rfl)
    rintro (⟨_, hok⟩ | hok)
    · simp [heq, Store.refuse, Except.isOk, Except.toBool] at hok
    · exact hok
  · refine .nothing rfl (by simp [deleted, heq]) ?_ (by simp only [run, heq]; rfl)
    rintro (⟨_, hok⟩ | hok)
    · simp [heq, Except.isOk, Except.toBool] at hok
    · exact hok
  · have hrid : r.id = revised := Store.id_of_record? hr
    have hqid : q.id = r.id := (Store.build_revised hbuild).1
    have hput : ∀ other, (w.store.put { r with questionnaire := q, submissions := [] }).kept other =
        if other = revised then [] else w.store.kept other := by
      intro other
      rw [Store.kept_put]
      exact if_congr (by rw [StoreRecord.id, hqid, hrid]) rfl rfl
    by_cases hid : revised = id
    · subst hid
      refine .cleared rfl ?_ (Or.inl ⟨rfl, by rw [heq]; rfl⟩) ?_
      · simp [deleted, heq, Event.deletedWithQuestions, Store.kept_of_record? hr]
      · simp only [run, heq]
        rw [hput, if_pos rfl]
    · refine .nothing rfl (by simp [deleted, heq, Event.deletedWithQuestions, hid]) ?_ ?_
      · rintro (⟨h, _⟩ | h)
        · exact hid h
        · exact h
      · simp only [run, heq]
        rw [hput, if_neg (Ne.symm hid)]

theorem effect_publish (published : QuestionnaireId) (clean : Bool) : (publish published clean).Effect id w := by
  rcases Store.publish_cases w.store published clean with ⟨e, heq⟩ | ⟨r, hr, heq⟩
  · refine .nothing rfl (by simp [deleted, heq, Store.refuse, Except.toOption]) ?_ (by simp only [run, heq]; rfl)
    rintro (hok | ⟨_, _, hok⟩)
    · exact hok
    · simp [heq, Store.refuse, Except.isOk, Except.toBool] at hok
  · have hrid : r.id = published := Store.id_of_record? hr
    have hput : ∀ other, ((publish published clean).run w).store.kept other =
        if other = published then (if clean then [] else r.submissions) else w.store.kept other := by
      intro other
      simp only [run, heq]
      rw [Store.kept_put]
      exact if_congr (by rw [← hrid]; rfl) rfl rfl
    by_cases hid : published = id
    · subst hid
      cases clean with
      | true =>
        refine .cleared rfl ?_ (Or.inr ⟨rfl, rfl, by rw [heq]; rfl⟩) (by rw [hput, if_pos rfl]; rfl)
        simp [deleted, heq, Store.kept_of_record? hr, Except.toOption]
      | false =>
        refine .nothing rfl (by simp [deleted, heq, Except.toOption]) ?_ ?_
        · rintro (h | ⟨_, h, _⟩)
          · exact h
          · cases h
        · rw [hput, if_pos rfl, Store.kept_of_record? hr]
          rfl
    · refine .nothing rfl (by simp [deleted, hid]) ?_ (by rw [hput, if_neg (Ne.symm hid)])
      rintro (h | ⟨h, _⟩)
      · exact h
      · exact hid h

theorem effect_save (s : Submission) : (save s).Effect id w := by
  have hspared : ¬ (save s).Clears id w := by
    rintro (h | h) <;> exact h
  rcases Store.kept_save w.store s id with ⟨hid, hsaved, hfirst, hkept⟩ | ⟨hnot, hkept⟩
  · exact .joined s (if_pos ⟨hid, hsaved⟩) rfl hspared (Store.working_of_saved hsaved) hfirst hkept
  · exact .nothing (if_neg hnot) rfl hspared hkept

/-- What submitting a session does to the store is what the session does to it. -/
theorem run_submit_store {name : SessionName} {t : Session} (h : w.sessions name = some t) :
    ((submit name).run w).store = (t.submit Store.keeper w.store).state.2 := by
  simp only [run, h]
  rfl

theorem effect_submit (name : SessionName) : (submit name).Effect id w := by
  have hspared : ¬ (submit name).Clears id w := by
    rintro (h | h) <;> exact h
  cases hs : w.sessions name with
  | none => exact .nothing (by simp [saved?, hs]) rfl hspared (by simp only [run, hs])
  | some t =>
    have hrun := run_submit_store hs
    rcases Store.submit_saves_or_leaves t w.store with ⟨⟨e, hr⟩, hstate⟩ | ⟨hr, hsaved, hstate⟩
    · refine .nothing (by simp [saved?, hs, hr, Except.toOption]) rfl hspared ?_
      rw [hrun, hstate]
    · rcases Store.kept_save w.store t.submission id with ⟨hid, _, hfirst, hkept⟩ | ⟨hnot, hkept⟩
      · refine .joined t.submission ?_ rfl hspared (Store.working_of_saved hsaved) hfirst ?_
        · simp [saved?, hs, hr, hid, Except.toOption]
        · rw [hrun, hstate, hkept]
      · refine .nothing ?_ rfl hspared ?_
        · have hid : t.submission.questionnaire ≠ id := fun h => hnot ⟨h, hsaved⟩
          simp [saved?, hs, hr, hid, Except.toOption]
        · rw [hrun, hstate, hkept]

/-- Every act does nothing to what is kept under an identifier, adds one submission to it or clears it away, and says so. -/
theorem effect (x : Act) (id : QuestionnaireId) (w : World) : x.Effect id w := by
  cases x with
  | insert q => exact .nothing rfl rfl (by rintro (h | h) <;> exact h) (Store.kept_insert w.store q id)
  | revise revised questions => exact effect_revise revised questions
  | publish published clean => exact effect_publish published clean
  | save s => exact effect_save s
  | start name started settings =>
    refine .nothing rfl rfl (by rintro (h | h) <;> exact h) ?_
    rcases World.start_cases w name started settings with heq | ⟨_, _, heq⟩ <;> simp only [run, heq]
    rfl
  | move name m =>
    refine .nothing rfl rfl (by rintro (h | h) <;> exact h) ?_
    cases hs : w.sessions name <;> simp only [run, hs]
    rfl
  | submit name => exact effect_submit name

end Act

/-! ## What a run saved and what is kept after it -/

namespace World

variable {id : QuestionnaireId} {w : World}

theorem run_cons (w : World) (x : Act) (rest : List Act) : w.run (x :: rest) = (x.run w).run rest := rfl

theorem run_append (w : World) (before after : List Act) : w.run (before ++ after) = (w.run before).run after :=
  List.foldl_append

theorem allows_append {allowed : World → Act → Prop} {before after : List Act} :
    w.Allows allowed (before ++ after) ↔ w.Allows allowed before ∧ (w.run before).Allows allowed after := by
  induction before generalizing w with
  | nil => simp [Allows, run]
  | cons x rest ih => rw [List.cons_append, Allows, Allows, ih, run_cons, and_assoc]

/-- The submissions under an identifier that the acts of a run were told are saved, in their order. -/
def saved (id : QuestionnaireId) (w : World) : List Act → List Submission
  | [] => []
  | x :: rest => (x.saved? id w).toList ++ (x.run w).saved id rest

/-- The number of submissions under an identifier that the acts of a run reported as deleted. -/
def deleted (id : QuestionnaireId) (w : World) : List Act → Nat
  | [] => 0
  | x :: rest => x.deleted id w + (x.run w).deleted id rest

/-- None of the acts of a run clears the submissions under an identifier away. -/
def Spares (id : QuestionnaireId) (w : World) (acts : List Act) : Prop := w.Allows (fun w x => ¬ x.Clears id w) acts

instance (id : QuestionnaireId) (w : World) (acts : List Act) : Decidable (w.Spares id acts) :=
  inferInstanceAs (Decidable (w.Allows _ acts))

/-- The books balance: what is kept in the end and what was reported as deleted make up what was kept at first and what was saved. -/
theorem kept_run_length (id : QuestionnaireId) (w : World) (acts : List Act) :
    ((w.run acts).store.kept id).length + w.deleted id acts = (w.store.kept id).length + (w.saved id acts).length := by
  induction acts generalizing w with
  | nil => rfl
  | cons x rest ih =>
    have hrest := ih (x.run w)
    rw [run_cons, deleted, saved, List.length_append]
    rcases x.effect id w with ⟨hs, hd, _, hk⟩ | ⟨s, hs, hd, _, _, _, hk⟩ | ⟨hs, hd, _, hk⟩
    · rw [hs, hd]
      rw [hk] at hrest
      simp only [Option.toList_none, List.length_nil]
      omega
    · rw [hs, hd]
      rw [hk, List.length_append] at hrest
      simp only [Option.toList_some, List.length_singleton] at hrest ⊢
      omega
    · rw [hs, hd]
      rw [hk] at hrest
      simp only [Option.toList_none, List.length_nil] at hrest ⊢
      omega

/-- No respondent comes to have two submissions under one identifier. -/
theorem nodup_kept_run (acts : List Act) (h : ((w.store.kept id).map (·.respondent)).Nodup) :
    (((w.run acts).store.kept id).map (·.respondent)).Nodup := by
  induction acts generalizing w with
  | nil => exact h
  | cons x rest ih =>
    rw [run_cons]
    apply ih
    rcases x.effect id w with ⟨_, _, _, hk⟩ | ⟨s, _, _, _, _, hfirst, hk⟩ | ⟨_, _, _, hk⟩ <;> rw [hk]
    · exact h
    · rw [List.map_append, List.map_singleton, List.nodup_append]
      refine ⟨h, List.nodup_singleton _, ?_⟩
      intro r hr r' hr'
      obtain ⟨other, hother, rfl⟩ := List.mem_map.1 hr
      rw [List.mem_singleton.1 hr']
      exact hfirst other hother
    · exact List.nodup_nil

/-- What is kept after an act was kept before it and not cleared away, or is what the act saved. -/
theorem mem_kept_act_iff (x : Act) {s : Submission} :
    s ∈ (x.run w).store.kept id ↔ s ∈ w.store.kept id ∧ ¬ x.Clears id w ∨ x.saved? id w = some s := by
  rcases x.effect id w with ⟨hs, _, hspared, hk⟩ | ⟨t, hs, _, hspared, _, _, hk⟩ | ⟨hs, _, hclears, hk⟩ <;> rw [hk, hs]
  · simp [hspared]
  · simp [hspared, eq_comm]
  · simp [hclears]

/-- What is kept after a run was kept before it and not cleared away, or was saved in its course and not cleared away since. -/
theorem mem_kept_run_iff {acts : List Act} {s : Submission} :
    s ∈ (w.run acts).store.kept id ↔
      s ∈ w.store.kept id ∧ w.Spares id acts ∨
      ∃ before x after, acts = before ++ x :: after ∧ x.saved? id (w.run before) = some s ∧
        (w.run (before ++ [x])).Spares id after := by
  induction acts generalizing w with
  | nil => simp [run, Spares, Allows]
  | cons x rest ih =>
    rw [run_cons, ih, mem_kept_act_iff]
    constructor
    · rintro (⟨⟨hk, hspared⟩ | hs, hrest⟩ | ⟨before, y, after, rfl, hs, hafter⟩)
      · exact Or.inl ⟨hk, hspared, hrest⟩
      · exact Or.inr ⟨[], x, rest, rfl, hs, hrest⟩
      · exact Or.inr ⟨x :: before, y, after, rfl, hs, hafter⟩
    · rintro (⟨hk, hspared, hrest⟩ | ⟨before, y, after, heq, hs, hafter⟩)
      · exact Or.inl ⟨Or.inl ⟨hk, hspared⟩, hrest⟩
      · cases before with
        | nil =>
          cases heq
          exact Or.inl ⟨Or.inr hs, hafter⟩
        | cons z before =>
          cases heq
          exact Or.inr ⟨before, y, after, rfl, hs, hafter⟩

end World

end Survey
