import Survey.Proofs.SessionRuns
import Survey.Proofs.StoreOperations

/-!
# A store and its sessions

A world is a store and the sessions that were started on it, of any number of respondents and any number to a respondent. It is
changed by acts, one at a time: edits of the store, and calls of sessions, which submit to this store. A run is any number of acts
in any order, so it is any way in which editors and respondents can get in between each other.
-/

namespace Survey

/-- Names a session: whose it is, and which of theirs. -/
structure SessionName where
  respondent : RespondentId
  number : Nat
  deriving DecidableEq, Repr

/-- A store and the sessions started on it. -/
structure World where
  store : Store := .empty
  sessions : SessionName → Option Session := fun _ => none

/-- What can happen in a world. -/
inductive Act where
  | insert (q : Questionnaire)
  | revise (id : QuestionnaireId) (questions : List Question)
  | publish (id : QuestionnaireId) (clean : Bool)
  | save (s : Submission)
  | start (name : SessionName) (id : QuestionnaireId) (settings : SessionSettings)
  | move (name : SessionName) (m : Session.Move)
  | submit (name : SessionName)

namespace World

/-- A world with a session under a name, in the place of the one that had it. -/
def withSession (w : World) (name : SessionName) (s : Session) : World :=
  { w with sessions := fun other => if other = name then some s else w.sessions other }

/-- Starts a session on the store, under a name of its respondent. -/
def start (w : World) (name : SessionName) (id : QuestionnaireId) (settings : SessionSettings) : World :=
  let reply := Session.start Store.keeper id name.respondent settings w.store
  match reply.result with
  | .ok (.answerable s) => { w with store := reply.state }.withSession name s
  | _ => { w with store := reply.state }

/-- Submits a session to the store. -/
def submit (w : World) (name : SessionName) (s : Session) : World :=
  let reply := s.submit Store.keeper w.store
  { w with store := reply.state.2 }.withSession name reply.state.1

end World

/-- The world after an act. Calls of a session that was not started do nothing. -/
def Act.run : Act → World → World
  | .insert q, w => { w with store := (w.store.insert q).state }
  | .revise id questions, w => { w with store := (w.store.revise id questions).state }
  | .publish id clean, w => { w with store := (w.store.publish id clean).state }
  | .save s, w => { w with store := (w.store.save s).state }
  | .start name id settings, w => w.start name id settings
  | .move name m, w =>
    match w.sessions name with
    | none => w
    | some s => w.withSession name (m.run s)
  | .submit name, w =>
    match w.sessions name with
    | none => w
    | some s => w.submit name s

namespace World

/-- The worlds reached by acts from an empty store without sessions, where each act is allowed in the world it is made in. -/
inductive Reached (allowed : World → Act → Prop) : World → Prop where
  | empty : Reached allowed {}
  | act {w : World} (x : Act) : Reached allowed w → allowed w x → Reached allowed (x.run w)

/-- What the empty world has and each allowed act keeps is had by every world reached. -/
theorem Reached.invariant {allowed : World → Act → Prop} {w : World} {P : World → Prop} (h : Reached allowed w)
    (hempty : P {}) (hact : ∀ w x, P w → allowed w x → P (x.run w)) : P w := by
  induction h with
  | empty => exact hempty
  | act x _ hx ih => exact hact _ x ih hx

/-- The world after acts, one after another. -/
def run (w : World) (acts : List Act) : World := acts.foldl (fun w x => x.run w) w

/-- Each of some acts is allowed in the world it is made in, when they are made one after another. -/
def Allows (allowed : World → Act → Prop) (w : World) : List Act → Prop
  | [] => True
  | x :: rest => allowed w x ∧ (x.run w).Allows allowed rest

instance decidableAllows {allowed : World → Act → Prop} [∀ w x, Decidable (allowed w x)] (w : World) :
    (acts : List Act) → Decidable (w.Allows allowed acts)
  | [] => inferInstanceAs (Decidable True)
  | x :: rest =>
    have : Decidable ((x.run w).Allows allowed rest) := decidableAllows (x.run w) rest
    inferInstanceAs (Decidable (_ ∧ _))

/-- A world is reached by acts one after another. -/
theorem Reached.run {allowed : World → Act → Prop} {w : World} (h : Reached allowed w) {acts : List Act}
    (hacts : w.Allows allowed acts) : Reached allowed (w.run acts) := by
  induction acts generalizing w with
  | nil => exact h
  | cons x rest ih => exact ih (h.act x hacts.1) hacts.2

/-! ## What the acts of sessions do -/

theorem withSession_sessions {w : World} {name other : SessionName} {s t : Session}
    (h : (w.withSession name s).sessions other = some t) : t = s ∨ w.sessions other = some t := by
  unfold withSession at h
  simp only at h
  split at h
  · exact Or.inl (Option.some.inj h).symm
  · exact Or.inr h

/-- Starting a session leaves the store as it is, and the session, if there is one, is a fresh one of the questionnaire kept. -/
theorem session_start_cases (id : QuestionnaireId) (respondent : RespondentId) (settings : SessionSettings) (st : Store) :
    (Session.start Store.keeper id respondent settings st).state = st ∧
      ∀ s, (Session.start Store.keeper id respondent settings st).result = .ok (.answerable s) →
        ∃ q, st.fetch id = .ok q ∧ s = .fresh q respondent settings := by
  simp only [Session.start, Store.keeper]
  cases st.isAnsweredBy id respondent with
  | error e => exact ⟨rfl, fun s hs => by cases hs⟩
  | ok answered =>
    cases answered with
    | true => exact ⟨rfl, fun s hs => by cases hs⟩
    | false =>
      simp only
      cases st.fetch id with
      | error e => exact ⟨rfl, fun s hs => by cases hs⟩
      | ok q =>
        refine ⟨rfl, fun s hs => ⟨q, rfl, ?_⟩⟩
        simp only [Except.ok.injEq] at hs
        split at hs
        · cases hs
        · exact (SessionStart.answerable.inj hs).symm

theorem start_cases (w : World) (name : SessionName) (id : QuestionnaireId) (settings : SessionSettings) :
    w.start name id settings = w ∨
      ∃ q, w.store.fetch id = .ok q ∧ w.start name id settings = w.withSession name (.fresh q name.respondent settings) := by
  obtain ⟨hstate, hresult⟩ := session_start_cases id name.respondent settings w.store
  unfold start
  simp only [hstate]
  split
  · rename_i s hs
    obtain ⟨q, hq, rfl⟩ := hresult s hs
    exact Or.inr ⟨q, hq, rfl⟩
  · exact Or.inl rfl

@[simp]
theorem withSession_sessions_self (w : World) (name : SessionName) (s : Session) : (w.withSession name s).sessions name = some s := by
  simp [withSession]

/-- What an act makes of the session under a name: nothing, unless it starts it anew, moves it or submits it. -/
theorem sessions_act_cases (w : World) (x : Act) (name : SessionName) :
    (x.run w).sessions name = w.sessions name ∨
    (∃ id settings q, x = .start name id settings ∧ w.store.fetch id = .ok q ∧
      (x.run w).sessions name = some (.fresh q name.respondent settings)) ∨
    (∃ m s, x = .move name m ∧ w.sessions name = some s ∧ (x.run w).sessions name = some (m.run s)) ∨
    ∃ s, x = .submit name ∧ w.sessions name = some s ∧
      (x.run w).sessions name = some (s.submit Store.keeper w.store).state.1 := by
  have hother : ∀ (w : World) {other : SessionName} (s : Session), name ≠ other →
      (w.withSession other s).sessions name = w.sessions name := fun w other s h => if_neg h
  cases x with
  | insert | revise | publish | save => exact Or.inl rfl
  | start other id settings =>
    rcases start_cases w other id settings with heq | ⟨q, hq, heq⟩ <;> rw [Act.run, heq]
    · exact Or.inl rfl
    · by_cases hname : name = other
      · subst hname
        exact Or.inr (Or.inl ⟨id, settings, q, rfl, hq, withSession_sessions_self _ _ _⟩)
      · exact Or.inl (hother _ _ hname)
  | move other m =>
    cases hs : w.sessions other with
    | none => exact Or.inl (by rw [Act.run, hs])
    | some s =>
      have hrun : (Act.move other m).run w = w.withSession other (m.run s) := by rw [Act.run, hs]
      rw [hrun]
      by_cases hname : name = other
      · subst hname
        exact Or.inr (Or.inr (Or.inl ⟨m, s, rfl, hs, withSession_sessions_self _ _ _⟩))
      · exact Or.inl (hother _ _ hname)
  | submit other =>
    cases hs : w.sessions other with
    | none => exact Or.inl (by rw [Act.run, hs])
    | some s =>
      have hrun : (Act.submit other).run w = w.submit other s := by rw [Act.run, hs]
      rw [hrun]
      by_cases hname : name = other
      · subst hname
        exact Or.inr (Or.inr (Or.inr ⟨s, rfl, hs, withSession_sessions_self _ _ _⟩))
      · exact Or.inl (hother _ _ hname)

/-- Looking for the reason why a submission came too late leaves the store as it is. -/
theorem staleReason_store (s : Session) (current : UInt64) (st : Store) : (s.staleReason Store.keeper current st).2 = st := by
  simp only [Session.staleReason, Store.keeper]
  split
  · rename_i h
    exact (Prod.ext_iff.1 h).2.symm
  · rename_i h
    exact (Prod.ext_iff.1 h).2.symm

/-- The store hears of a submission only if the answers are in order; then it is asked to save it, once. -/
theorem submit_store (s : Session) (st : Store) :
    (s.submit Store.keeper st).state.2 = st ∨
      s.validate = .ok () ∧ (s.submit Store.keeper st).state.2 = (st.save s.submission).state := by
  rcases Session.submit_cases Store.keeper s st with ⟨_, _, h⟩ | ⟨_, _, _, _, h⟩ | ⟨_, hv, h⟩
  · exact Or.inl (by rw [h])
  · exact Or.inl (by rw [h])
  · refine Or.inr ⟨hv, ?_⟩
    rw [h]
    rcases Session.handOver_cases Store.keeper s st with ⟨_, _, _, hs⟩ | ⟨_, _, hs⟩ | ⟨_, _, _, hs⟩ | ⟨_, _, hs⟩ <;> rw [hs]
    · rfl
    · rfl
    · exact staleReason_store _ _ _
    · rfl

end World

end Survey
