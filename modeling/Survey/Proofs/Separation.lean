import Survey.Proofs.AlikeStores

/-!
# Respondents do not see each other

Any number of respondents answer in sessions on one store, while its questionnaires are edited. All that a respondent is told is what
becomes of their own operations: of starting a session, of every move, of submitting, and whatever is read from a session at any
time. It is the same as if nobody else had answered (`World.told_alone`), though the submissions of all are kept in one place, edits
delete them together, and every submission is checked against the questionnaire as it stands by then.
-/

namespace Survey

/-! ## Operations and what is told of them -/

/-- Whose session an act is a call of, if it is none of the store itself. -/
def Act.respondent? : Act → Option RespondentId
  | .start name _ _ | .move name _ | .submit name => some name.respondent
  | .insert _ | .revise .. | .publish .. | .save _ => none

/-- An act, or a look at a session: at anything that can be made out from it. -/
inductive Operation : Type 1 where
  | act (x : Act)
  | look {α : Type} (name : SessionName) (view : Session → α)

/-- What a respondent is told of an operation of theirs. -/
inductive Told : Type 1 where
  | nothing
  | started (result : Except (SubmissionError StoreError) SessionStart)
  | answered (result : Except SessionError Unit)
  | moved (result : Except SessionError Nat)
  | submitted (result : Except (SubmissionError StoreError) Submission)
  | seen {α : Type} (x : α)

/-- What is told of a move. -/
def Session.Move.told : Move → Session → Told
  | .answer id value, s => .answered (s.answer id value).result
  | .withdraw id, s => .answered (s.withdraw id).result
  | .acceptTerms _, _ => .nothing
  | .advance, s => .moved s.advance.result
  | .goBack, s => .moved s.goBack.result

/-- What is told of an act; of edits of the store no respondent is told anything. -/
def Act.told : Act → World → Told
  | .start name id settings, w => .started (Session.start Store.keeper id name.respondent settings w.store).result
  | .move name m, w => (w.sessions name).elim .nothing m.told
  | .submit name, w => (w.sessions name).elim .nothing fun s => .submitted (s.submit Store.keeper w.store).result
  | .insert _, _ | .revise .., _ | .publish .., _ | .save _, _ => .nothing

namespace Operation

/-- The respondent whose session an operation is one of. -/
def respondent? : Operation → Option RespondentId
  | act x => x.respondent?
  | look name _ => some name.respondent

/-- The world after an operation. -/
def run : Operation → World → World
  | act x, w => x.run w
  | look _ _, w => w

/-- What is told of an operation. -/
def told : Operation → World → Told
  | act x, w => x.told w
  | look name view, w => (w.sessions name).elim .nothing fun s => .seen (view s)

/-- Whether an operation is none of another respondent's sessions. -/
def concerns (r : RespondentId) (op : Operation) : Bool := op.respondent?.all (· = r)

end Operation

/-- What a respondent is told in a run, operation by operation. -/
def World.told (r : RespondentId) (w : World) : List Operation → List Told
  | [] => []
  | op :: rest =>
    if op.respondent? = some r then op.told w :: (op.run w).told r rest else (op.run w).told r rest

/-! ## Whose a session is -/

/-- Every session is one of the respondent in its name. -/
def World.Owned (w : World) : Prop := ∀ name s, w.sessions name = some s → s.respondent = name.respondent

namespace World

variable {w w' : World}

/-- Where no session has been started, none is in the wrong hands. -/
theorem owned_of_store (st : Store) : ({ store := st } : World).Owned := by
  intro name s hs
  cases hs

/-- No act gives a session to somebody else. -/
theorem Owned.act (h : w.Owned) (x : Act) : (x.run w).Owned := by
  intro name t ht
  rcases sessions_act_cases w x name with hsame | ⟨_, _, _, _, _, hrun⟩ | ⟨m, s, _, hs, hrun⟩ | ⟨s, _, hs, hrun⟩
  · exact h name t (hsame ▸ ht)
  · obtain rfl : _ = t := Option.some.inj (hrun.symm.trans ht)
    rfl
  · obtain rfl : _ = t := Option.some.inj (hrun.symm.trans ht)
    exact (m.sameForm s).respondent.trans (h name s hs)
  · obtain rfl : _ = t := Option.some.inj (hrun.symm.trans ht)
    obtain ⟨_, _, hsubmitted, _⟩ := Session.submit_session Store.keeper s w.store
    rw [hsubmitted]
    exact h name s hs

/-! ## Worlds that are alike for a respondent -/

/-- Two worlds have the same sessions of a respondent and are otherwise alike for them. -/
structure AlikeFor (r : RespondentId) (w w' : World) : Prop where
  store : w.store.AlikeFor r w'.store
  sessions : ∀ name, name.respondent = r → w.sessions name = w'.sessions name

namespace AlikeFor

variable {r : RespondentId} {w'' : World}

theorem refl (r : RespondentId) (w : World) : w.AlikeFor r w := ⟨.refl r w.store, fun _ _ => rfl⟩

theorem trans (h : w.AlikeFor r w') (h' : w'.AlikeFor r w'') : w.AlikeFor r w'' :=
  ⟨h.store.trans h'.store, fun name hname => (h.sessions name hname).trans (h'.sessions name hname)⟩

theorem withSession (h : w.AlikeFor r w') (name : SessionName) (s : Session) :
    (w.withSession name s).AlikeFor r (w'.withSession name s) where
  store := h.store
  sessions other hother := by
    simp only [World.withSession]
    split
    · rfl
    · exact h.sessions other hother

/-- A session of another respondent is not theirs. -/
theorem withSession_other (h : w.AlikeFor r w') {name : SessionName} (hname : name.respondent ≠ r) (s : Session) :
    (w.withSession name s).AlikeFor r w' where
  store := h.store
  sessions other hother := by
    have hne : other ≠ name := fun e => hname (e ▸ hother)
    simp only [World.withSession, hne, if_false]
    exact h.sessions other hother

/-- Worlds that are alike stay so when their stores are changed alike. -/
theorem withStore (h : w.AlikeFor r w') {st st' : Store} (hst : st.AlikeFor r st') :
    ({ w with store := st } : World).AlikeFor r { w' with store := st' } :=
  ⟨hst, h.sessions⟩

theorem start (h : w.AlikeFor r w') {name : SessionName} (hname : name.respondent = r) (id : QuestionnaireId)
    (settings : SessionSettings) : (w.start name id settings).AlikeFor r (w'.start name id settings) := by
  subst hname
  have hstate (st : Store) := (session_start_cases id name.respondent settings st).1
  simp only [World.start, hstate, h.store.start]
  split
  · exact h.withSession name _
  · exact h

theorem submit (h : w.AlikeFor r w') {name : SessionName} {s : Session} (hs : s.respondent = r) :
    (w.submit name s).AlikeFor r (w'.submit name s) := by
  obtain ⟨_, hsession, hstore⟩ := h.store.submit hs
  simp only [World.submit, hsession]
  exact (h.withStore hstore).withSession name _

/-- An edit of the store, or a call of a session of the respondent, keeps worlds alike. -/
theorem act (h : w.AlikeFor r w') (hw : w.Owned) (x : Act) (hx : x.respondent?.all (· = r) = true) :
    (x.run w).AlikeFor r (x.run w') := by
  cases x with
  | insert q => exact h.withStore (h.store.insert q)
  | revise id questions => exact h.withStore (h.store.revise id questions)
  | publish id clean => exact h.withStore (h.store.publish id clean)
  | save s => exact h.withStore (h.store.save s)
  | start name id settings => exact h.start (by simpa [Act.respondent?] using hx) id settings
  | move name m =>
    have hname : name.respondent = r := by simpa [Act.respondent?] using hx
    simp only [Act.run, ← h.sessions name hname]
    cases w.sessions name with
    | none => exact h
    | some s => exact h.withSession name _
  | submit name =>
    have hname : name.respondent = r := by simpa [Act.respondent?] using hx
    simp only [Act.run, ← h.sessions name hname]
    cases hs : w.sessions name with
    | none => exact h
    | some s => exact h.submit ((hw name s hs).trans hname)

/-- Of a call of their session a respondent is told the same in worlds that are alike. -/
theorem told_act (h : w.AlikeFor r w') (hw : w.Owned) (x : Act) (hx : x.respondent? = some r) : x.told w = x.told w' := by
  cases x with
  | insert q => cases hx
  | revise id questions => cases hx
  | publish id clean => cases hx
  | save s => cases hx
  | start name id settings =>
    have hname : name.respondent = r := by simpa [Act.respondent?] using hx
    simp only [Act.told, hname, h.store.start]
  | move name m =>
    have hname : name.respondent = r := by simpa [Act.respondent?] using hx
    simp only [Act.told, h.sessions name hname]
  | submit name =>
    have hname : name.respondent = r := by simpa [Act.respondent?] using hx
    simp only [Act.told, ← h.sessions name hname]
    cases hs : w.sessions name with
    | none => rfl
    | some s => exact congrArg Told.submitted (h.store.submit ((hw name s hs).trans hname)).1

end AlikeFor

/-- A call of another respondent's session leaves a world alike to what it was. -/
theorem alikeFor_act_other {r : RespondentId} (hw : w.Owned) (x : Act) (hx : x.respondent?.all (· = r) = false) :
    (x.run w).AlikeFor r w := by
  cases x with
  | insert q => cases hx
  | revise id questions => cases hx
  | publish id clean => cases hx
  | save s => cases hx
  | start name id settings =>
    have hname : name.respondent ≠ r := by simpa [Act.respondent?] using hx
    show (w.start name id settings).AlikeFor r w
    rcases w.start_cases name id settings with h | ⟨q, _, h⟩ <;> rw [h]
    · exact .refl r w
    · exact (AlikeFor.refl r w).withSession_other hname _
  | move name m =>
    have hname : name.respondent ≠ r := by simpa [Act.respondent?] using hx
    simp only [Act.run]
    cases w.sessions name with
    | none => exact .refl r w
    | some s => exact (AlikeFor.refl r w).withSession_other hname _
  | submit name =>
    have hname : name.respondent ≠ r := by simpa [Act.respondent?] using hx
    simp only [Act.run]
    cases hs : w.sessions name with
    | none => exact .refl r w
    | some s =>
      have hs : s.respondent ≠ r := hw name s hs ▸ hname
      exact ((AlikeFor.refl r w).withStore (w.store.submit_other hs)).withSession_other hname _

/-! ## Runs with and without the others -/

theorem Owned.operation (h : w.Owned) (op : Operation) : (op.run w).Owned := by
  cases op with
  | act x => exact h.act x
  | look name view => exact h

namespace AlikeFor

variable {r : RespondentId} {op : Operation}

theorem operation (h : w.AlikeFor r w') (hw : w.Owned) (hop : op.concerns r = true) : (op.run w).AlikeFor r (op.run w') := by
  cases op with
  | act x => exact h.act hw x hop
  | look name view => exact h

/-- Of an operation of theirs, looking included, a respondent is told the same in worlds that are alike. -/
theorem told_operation (h : w.AlikeFor r w') (hw : w.Owned) (hop : op.respondent? = some r) : op.told w = op.told w' := by
  cases op with
  | act x => exact h.told_act hw x hop
  | look name view => simp only [Operation.told, h.sessions name (Option.some.inj hop)]

theorem operation_other (h : w.AlikeFor r w') (hw : w.Owned) (hop : op.concerns r = false) : (op.run w).AlikeFor r w' := by
  cases op with
  | act x => exact (alikeFor_act_other hw x hop).trans h
  | look name view => exact h

/-- What a respondent is told in a run is what they are told, from a world that is alike, in the run without the others. -/
theorem told (h : w.AlikeFor r w') (hw : w.Owned) (hw' : w'.Owned) (ops : List Operation) :
    w.told r ops = w'.told r (ops.filter (·.concerns r)) := by
  induction ops generalizing w w' with
  | nil => rfl
  | cons op rest ih =>
    cases hop : op.concerns r with
    | true =>
      have hrest := ih (h.operation hw hop) (hw.operation op) (hw'.operation op)
      rw [List.filter_cons_of_pos hop]
      simp only [World.told]
      split
      · rename_i hown
        rw [hrest, h.told_operation hw hown]
      · exact hrest
    | false =>
      have hnot : op.respondent? ≠ some r := fun hown => by simp [Operation.concerns, hown] at hop
      rw [List.filter_cons_of_neg (by simp [hop])]
      simp only [World.told, hnot, if_false]
      exact ih (h.operation_other hw hop) (hw.operation op) hw'

end AlikeFor

/-- Whatever is done to a store, and whoever answers what is kept there, a respondent is told the same as in the run without any
operation of anybody else's sessions. -/
theorem told_alone (st : Store) (r : RespondentId) (ops : List Operation) :
    ({ store := st } : World).told r ops = ({ store := st } : World).told r (ops.filter (·.concerns r)) :=
  (AlikeFor.refl r _).told (owned_of_store st) (owned_of_store st) ops

end World

end Survey
