import Mathlib.Data.List.Induction
import Survey.Proofs.Bookkeeping
import Survey.Proofs.SessionState

/-!
# Faults that stand

A session shows the faults for which a move or a submission was refused. They are gone after a move to another step and after a
submission that is saved. But a submission that passes every check and is not saved, for whatever reason the store gives, leaves faults
of an earlier refusal standing. So a session can be done and still show faults, in one way only: it was submitted with the answers in
order after another one of its respondent had been saved (`World.faults_stand_only_when_not_saved`).
-/

namespace Survey

namespace Session

variable {s : Session}

/-- A session that moved on shows no faults. -/
theorem faults_of_advanced {step : Nat} (h : s.advance.result = .ok step) : s.advance.state.faults = .none := by
  rcases advance_cases s with ⟨⟨e, he⟩, _⟩ | ⟨_, _, _, _, _, hs⟩
  · rw [h] at he
    cases he
  · rw [hs]
    rfl

/-- Nor does one that moved back. -/
theorem faults_of_wentBack {step : Nat} (h : s.goBack.result = .ok step) : s.goBack.state.faults = .none := by
  rcases goBack_cases s with ⟨⟨e, he⟩, _⟩ | ⟨_, _, _, hs⟩
  · rw [h] at he
    cases he
  · rw [hs]
    rfl

/-- A submission that passes every check takes faults away if it is saved, and otherwise leaves them as they are. -/
theorem faults_of_submitted {σ ε : Type} (k : Keeper σ ε) (store : σ) (hlast : s.isOnLastStep = true) (hvalid : s.validate = .ok ()) :
    (k.save s.submission store).1 = .ok .saved ∧ (s.submit k store).state.1.faults = .none ∨
    (k.save s.submission store).1 ≠ .ok .saved ∧ (s.submit k store).state.1.faults = s.faults := by
  rcases submit_cases k s store with ⟨hnot, _⟩ | ⟨_, faults, hinvalid, _⟩ | ⟨_, _, heq⟩
  · rw [hlast] at hnot
    cases hnot
  · rw [hvalid] at hinvalid
    cases hinvalid
  · rw [heq]
    rcases handOver_cases k s store with ⟨_, hr, _, hs⟩ | ⟨hr, _, hs⟩ | ⟨_, hr, _, hs⟩ | ⟨hr, _, hs⟩ <;> rw [hs, hr]
    · exact Or.inr ⟨nofun, rfl⟩
    · exact Or.inl ⟨rfl, rfl⟩
    · exact Or.inr ⟨nofun, rfl⟩
    · exact Or.inr ⟨nofun, rfl⟩

/-- No move brings a session to its end. -/
theorem Move.state_of_run_completed {m : Move} (h : (m.run s).state = .completed) : s.state = .completed := by
  rcases (Call.move m).state_cases s with hs | ⟨_, _, _, _, _, hs⟩ | ⟨_, _, _, _, hs⟩ | ⟨⟨_, _, _, _, hc⟩, _⟩
  · exact hs ▸ h
  · exact absurd (hs.symm.trans h) nofun
  · exact absurd (hs.symm.trans h) nofun
  · cases hc

/-- A submission brings a session to its end if it is saved or comes second. -/
theorem submit_completes {σ ε : Type} {k : Keeper σ ε} {store : σ} (hbefore : s.state ≠ .completed)
    (hafter : (s.submit k store).state.1.state = .completed) :
    s.isOnLastStep = true ∧ s.validate = .ok () ∧
      ((k.save s.submission store).1 = .ok .saved ∨ (k.save s.submission store).1 = .ok .alreadyAnswered) := by
  rcases submit_cases k s store with ⟨_, _, hs⟩ | ⟨_, _, _, _, hs⟩ | ⟨hlast, hvalid, heq⟩
  · exact absurd (by simpa [hs] using hafter) hbefore
  · exact absurd (by simpa [hs] using hafter) hbefore
  · refine ⟨hlast, hvalid, ?_⟩
    rw [heq] at hafter
    rcases handOver_cases k s store with ⟨_, _, _, hs⟩ | ⟨hr, _, _⟩ | ⟨_, _, _, hs⟩ | ⟨hr, _, _⟩
    · exact absurd (by simpa [hs] using hafter) hbefore
    · exact Or.inl hr
    · exact absurd (by simpa [hs] using hafter) hbefore
    · exact Or.inr hr

end Session

namespace World

variable {w : World} {name : SessionName} {s : Session}

/-- A session is on its last step with answers in order, and the store has another submission of its respondent already. -/
structure ComesSecond (w : World) (name : SessionName) (s : Session) : Prop where
  session : w.sessions name = some s
  onLastStep : s.isOnLastStep = true
  inOrder : s.validate = .ok ()
  refused : (w.store.save s.submission).result = .ok .alreadyAnswered

/-- The session after it was submitted. -/
theorem sessions_submit (h : w.sessions name = some s) :
    ((Act.submit name).run w).sessions name = some (s.submit Store.keeper w.store).state.1 := by
  rw [Act.run, h]
  exact withSession_sessions_self _ _ _

/-- A session that is done after an act and shows faults was done before and showed them, or has just come second. -/
theorem faults_of_completed_act {x : Act} (h : (x.run w).sessions name = some s) (hdone : s.state = .completed)
    (hfaults : s.faults ≠ .none) :
    (∃ t, w.sessions name = some t ∧ t.state = .completed ∧ t.faults = s.faults) ∨
    ∃ t, x = .submit name ∧ w.ComesSecond name t ∧ t.faults = s.faults := by
  rcases sessions_act_cases w x name with hsame | ⟨_, _, _, _, _, hrun⟩ | ⟨m, t, _, ht, hrun⟩ | ⟨t, hx, ht, hrun⟩
  · exact Or.inl ⟨s, hsame ▸ h, hdone, rfl⟩
  · obtain rfl : _ = s := Option.some.inj (hrun.symm.trans h)
    cases hdone
  · obtain rfl : _ = s := Option.some.inj (hrun.symm.trans h)
    have hdoneBefore := Session.Move.state_of_run_completed hdone
    obtain ⟨_, hcall⟩ := (Session.Call.move m).run_of_completed hdoneBefore
    exact Or.inl ⟨t, ht, hdoneBefore, by rw [show m.run t = _ from hcall]⟩
  · obtain rfl : _ = s := Option.some.inj (hrun.symm.trans h)
    by_cases hbefore : t.state = .completed
    · obtain ⟨_, hcall⟩ := (Session.Call.submit Store.keeper w.store).run_of_completed hbefore
      exact Or.inl ⟨t, ht, hbefore, by rw [show (t.submit Store.keeper w.store).state.1 = _ from hcall]⟩
    · obtain ⟨hlast, hvalid, hsave⟩ := Session.submit_completes hbefore hdone
      rcases Session.faults_of_submitted Store.keeper w.store hlast hvalid with ⟨_, hnone⟩ | ⟨hnot, hkept⟩
      · exact absurd hnone hfaults
      · exact Or.inr ⟨t, hx, ⟨ht, hlast, hvalid, hsave.resolve_left hnot⟩, hkept.symm⟩

/-- In a run that begins without sessions, a session that is done and shows faults has come second. -/
theorem faults_of_completed_run {st : Store} {acts : List Act} (h : (run { store := st } acts).sessions name = some s)
    (hdone : s.state = .completed) (hfaults : s.faults ≠ .none) :
    ∃ before after t, acts = before ++ .submit name :: after ∧ (run { store := st } before).ComesSecond name t ∧
      t.faults = s.faults := by
  -- the last act is looked at first, since it tells whether the session was done before
  induction acts using List.reverseRecOn generalizing s with
  | nil => cases h
  | append_singleton before x ih =>
    rw [run_append] at h
    rcases faults_of_completed_act h hdone hfaults with ⟨t, ht, htdone, heq⟩ | ⟨t, rfl, hsecond, heq⟩
    · obtain ⟨start, middle, u, rfl, hsecond, hu⟩ := ih ht htdone (heq ▸ hfaults)
      exact ⟨start, middle ++ [x], u, by simp, hsecond, hu.trans heq⟩
    · exact ⟨before, [], t, rfl, hsecond, heq⟩

/-- How long faults stand, in any run of sessions and edits on a store. A submission that passes every check leaves none if there were
none or if it is saved, and only then. A move to another step leaves none. And a session that is done shows none, unless it came second:
when it was submitted with the answers in order, the store had another submission of its respondent, and the faults are the ones that it
showed before. -/
theorem faults_stand_only_when_not_saved {st : Store} {acts : List Act} (h : (run { store := st } acts).sessions name = some s) :
    (s.isOnLastStep = true → s.validate = .ok () →
      ∃ t, ((Act.submit name).run (run { store := st } acts)).sessions name = some t ∧
        (t.faults = .none ↔ s.faults = .none ∨ ((run { store := st } acts).store.save s.submission).result = .ok .saved)) ∧
    (∀ step, s.advance.result = .ok step → s.advance.state.faults = .none) ∧
    (∀ step, s.goBack.result = .ok step → s.goBack.state.faults = .none) ∧
    (s.state = .completed → s.faults = .none ∨
      ∃ before after t, acts = before ++ .submit name :: after ∧ (run { store := st } before).ComesSecond name t ∧
        t.faults = s.faults) := by
  refine ⟨?_, fun _ => Session.faults_of_advanced, fun _ => Session.faults_of_wentBack, ?_⟩
  · intro hlast hvalid
    refine ⟨_, sessions_submit h, ?_⟩
    rcases Session.faults_of_submitted Store.keeper (run { store := st } acts).store hlast hvalid with ⟨hsaved, hnone⟩ | ⟨hnot, hkept⟩
    · exact ⟨fun _ => Or.inr hsaved, fun _ => hnone⟩
    · rw [hkept]
      exact ⟨Or.inl, fun hor => hor.resolve_right hnot⟩
  · intro hdone
    by_cases hfaults : s.faults = .none
    · exact Or.inl hfaults
    · exact Or.inr (faults_of_completed_run h hdone hfaults)

namespace TwoDevices

/-- A form of one question that must be answered. -/
def form : Questionnaire where
  definition := {
    id := 1, title := "Names", questions := [{ id := 1, position := 0, body := "Name?", kind := .shortAnswer, mandatory := true }] }
  wellFormed := Definition.problem?_eq_none_iff.1 (by decide)
  ascending := by decide

/-- A respondent opens the form on two devices, submits it on each without an answer, which is refused, and then answers it on each. -/
def acts : List Act :=
  [.insert form, .start ⟨7, 0⟩ 1 {}, .start ⟨7, 1⟩ 1 {}, .submit ⟨7, 0⟩, .submit ⟨7, 1⟩, .move ⟨7, 0⟩ (.answer 1 (.text "Ada")),
    .move ⟨7, 1⟩ (.answer 1 (.text "Ada"))]

/-- The session on either device after that. -/
def answered : Session :=
  { questionnaire := form, respondent := 7, answers := Answers.empty.set 1 (.text "Ada"), faults := { entries := [⟨1, .blank⟩] } }

/-- That session once it was submitted and came second. -/
def late : Session := { answered with state := .completed }

theorem first_device : (run {} acts).sessions ⟨7, 0⟩ = some answered := rfl

theorem second_device : (run {} (acts ++ [.submit ⟨7, 0⟩])).sessions ⟨7, 1⟩ = some answered := rfl

theorem second_device_late : (run {} (acts ++ [.submit ⟨7, 0⟩, .submit ⟨7, 1⟩])).sessions ⟨7, 1⟩ = some late := rfl

/-- On the device that comes first the faults of the refused submission go, on the other they stand, and there the session is done. -/
theorem faults_stand_on_second_device :
    (answered.isOnLastStep = true ∧ answered.validate = .ok () ∧ answered.faults ≠ .none) ∧
    (∃ t, ((Act.submit ⟨7, 0⟩).run (run {} acts)).sessions ⟨7, 0⟩ = some t ∧ t.faults = .none) ∧
    (∃ t, ((Act.submit ⟨7, 1⟩).run (run {} (acts ++ [.submit ⟨7, 0⟩]))).sessions ⟨7, 1⟩ = some t ∧ t.faults ≠ .none) ∧
    late.state = .completed ∧
    ∃ before after t, acts ++ [.submit ⟨7, 0⟩, .submit ⟨7, 1⟩] = before ++ .submit ⟨7, 1⟩ :: after ∧
      (run {} before).ComesSecond ⟨7, 1⟩ t ∧ t.faults = late.faults := by
  have hlast : answered.isOnLastStep = true := by decide
  have hvalid : answered.validate = .ok () := by decide
  have hfaults : answered.faults ≠ .none := by decide
  obtain ⟨hfirst, -⟩ := faults_stand_only_when_not_saved first_device
  obtain ⟨hsecond, -⟩ := faults_stand_only_when_not_saved second_device
  obtain ⟨-, -, -, hdone⟩ := faults_stand_only_when_not_saved second_device_late
  obtain ⟨t, ht, hsaved⟩ := hfirst hlast hvalid
  obtain ⟨u, hu, hrefused⟩ := hsecond hlast hvalid
  refine ⟨⟨hlast, hvalid, hfaults⟩, ⟨t, ht, hsaved.2 (Or.inr rfl)⟩, ⟨u, hu, ?_⟩, rfl, (hdone rfl).resolve_left (by decide)⟩
  intro hnone
  rcases hrefused.1 hnone with h | h
  · exact hfaults h
  · cases h

/-- So a submission that passes every check can leave faults standing, and a session that is done can show some. -/
theorem faults_outlive_their_cause :
    (¬ ∀ (st : Store) (acts : List Act) (name : SessionName) (s t : Session), (run { store := st } acts).sessions name = some s →
      s.isOnLastStep = true → s.validate = .ok () → ((Act.submit name).run (run { store := st } acts)).sessions name = some t →
      t.faults = .none) ∧
    ¬ ∀ (st : Store) (acts : List Act) (name : SessionName) (s : Session), (run { store := st } acts).sessions name = some s →
      s.state = .completed → s.faults = .none := by
  have hlate : late.faults ≠ .none := by decide
  constructor
  · intro h
    exact hlate (h .empty _ _ answered late second_device (by decide) (by decide) second_device_late)
  · intro h
    exact hlate (h .empty _ _ late second_device_late rfl)

end TwoDevices

end World

end Survey
