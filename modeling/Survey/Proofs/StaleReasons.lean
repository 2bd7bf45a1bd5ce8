import Survey.Proofs.Precedence
import Survey.Proofs.Suitability
import Survey.Proofs.World

/-!
# The reason for a late submission

A submission that comes after its questionnaire was changed is refused with a reason. It is about the first of the answers, by question,
that the questionnaire no longer takes, and about the revisions if it would take them all (`StaleReason.Explains`). So it depends on which
values were given and not on how they came about, and it is given whether or not the respondent has a submission by now
(`Session.stale_reason_names_first_misfit`).
-/

namespace Survey

/-! ## The reason for answers -/

namespace Answers

variable {a : Answers} {q : Questionnaire} {id other : QuestionId} {value v : AnswerValue}

/-- Of the answers that a questionnaire does not take, the one to the smallest question. -/
structure FirstMisfit (a : Answers) (q : Questionnaire) (id : QuestionId) (value : AnswerValue) : Prop where
  given : a.value? id = some value
  misfits : ¬ q.Suits id value
  first : ∀ other v, other < id → a.value? other = some v → q.Suits other v

theorem FirstMisfit.unique (h : a.FirstMisfit q id value) (h' : a.FirstMisfit q other v) : id = other ∧ value = v := by
  have hid : id = other := by
    refine Ident.eq_of_not_lt (fun hlt => ?_) fun hlt => ?_
    · exact h.misfits (h'.first id value hlt h.given)
    · exact h'.misfits (h.first other v hlt h'.given)
  subst hid
  exact ⟨rfl, Option.some.inj (h.given.symm.trans h'.given)⟩

/-- It is the first one among the entries, for they ascend. -/
theorem firstMisfit_of_entries {before after : List AnswerEntry} (hsplit : a.entries = before ++ (id, value) :: after)
    (hmisfit : ¬ q.Suits id value) (hbefore : ∀ e ∈ before, q.Suits e.1 e.2) : a.FirstMisfit q id value := by
  refine ⟨mem_entries_iff.1 (by simp [hsplit]), hmisfit, fun other v hlt hv => ?_⟩
  have hmem := mem_entries_iff.2 hv
  have hasc := a.ascending
  rw [hsplit] at hmem hasc
  have hasymm : ∀ x y : AnswerEntry, x.1 < y.1 → ¬ y.1 < x.1 := fun x _ h h' => Ident.lt_irrefl x.1 (Ident.lt_trans h h')
  exact hbefore _ (mem_before_of_rel hasymm hasc hmem hlt)

end Answers

/-- A reason is the right one for answers that were given at one revision and come to a questionnaire at another: the questionnaire takes
them all, and the reason is the revisions; or the reason is the first answer that it does not take, for its question is not there or for
the problem the question has with it. -/
inductive StaleReason.Explains (latest : Questionnaire) (answered : UInt64) (a : Answers) : StaleReason → Prop where
  | revision (h : ∀ id value, a.value? id = some value → latest.Suits id value) :
      Explains latest answered a (.revision answered latest.revision)
  | unknownQuestion {id : QuestionId} {value : AnswerValue} (h : a.FirstMisfit latest id value) (hq : latest.question? id = none) :
      Explains latest answered a (.unknownQuestion id)
  | answer {id : QuestionId} {value : AnswerValue} {question : Question} {problem : Misfit} (h : a.FirstMisfit latest id value)
      (hq : latest.question? id = some question) (hproblem : question.misfit? value = some problem) :
      Explains latest answered a (.answer id problem)

namespace StaleReason

variable {latest : Questionnaire} {answered : UInt64} {a : Answers}

/-- The right reason is the revisions, or what the questionnaire says of the first answer that it does not take. -/
theorem explains_iff {r : StaleReason} :
    r.Explains latest answered a ↔
      (r = .revision answered latest.revision ∧ ∀ id value, a.value? id = some value → latest.Suits id value) ∨
        ∃ id value, a.FirstMisfit latest id value ∧ latest.staleEntry? (id, value) = some r := by
  constructor
  · intro h
    cases h with
    | revision h => exact Or.inl ⟨rfl, h⟩
    | unknownQuestion h hq => exact Or.inr ⟨_, _, h, by simp [Questionnaire.staleEntry?, hq]⟩
    | answer h hq hproblem => exact Or.inr ⟨_, _, h, by simp [Questionnaire.staleEntry?, hq, hproblem]⟩
  · rintro (⟨rfl, h⟩ | ⟨id, value, h, hr⟩)
    · exact .revision h
    · unfold Questionnaire.staleEntry? at hr
      cases hq : latest.question? id with
      | none =>
        simp only [hq, Option.some.injEq] at hr
        exact hr ▸ .unknownQuestion h hq
      | some question =>
        simp only [hq, Option.map_eq_some_iff] at hr
        obtain ⟨problem, hproblem, rfl⟩ := hr
        exact .answer h hq hproblem

/-- There is one right reason. -/
theorem Explains.unique {r r' : StaleReason} (h : r.Explains latest answered a) (h' : r'.Explains latest answered a) : r = r' := by
  rcases explains_iff.1 h with ⟨rfl, hall⟩ | ⟨id, value, hfirst, hr⟩ <;>
    rcases explains_iff.1 h' with ⟨rfl, hall'⟩ | ⟨id', value', hfirst', hr'⟩
  · rfl
  · exact absurd (hall _ _ hfirst'.given) hfirst'.misfits
  · exact absurd (hall' _ _ hfirst.given) hfirst.misfits
  · obtain ⟨rfl, rfl⟩ := hfirst.unique hfirst'
    exact Option.some.inj (hr.symm.trans hr')

/-- The reason found by going through the entries is the right one. -/
theorem explains_stale? (latest : Questionnaire) (answered : UInt64) (a : Answers) :
    ((latest.stale? a).getD (.revision answered latest.revision)).Explains latest answered a := by
  rw [explains_iff]
  cases hstale : latest.stale? a with
  | none =>
    refine Or.inl ⟨rfl, fun id value hvalue => ?_⟩
    have hentry := Questionnaire.stale?_eq_none_iff.1 hstale _ (Answers.mem_entries_iff.2 hvalue)
    exact Questionnaire.staleEntry?_eq_none_iff_suits.1 hentry
  | some r =>
    obtain ⟨before, ⟨id, value⟩, after, hsplit, hr, hbefore⟩ := List.findSome?_eq_some_iff.1 hstale
    have hmisfit : ¬ latest.Suits id value := by
      intro hsuits
      rw [Questionnaire.staleEntry?_eq_none_iff_suits.2 hsuits] at hr
      cases hr
    have hfirst := Answers.firstMisfit_of_entries hsplit hmisfit fun e he =>
      Questionnaire.staleEntry?_eq_none_iff_suits.1 (hbefore e he)
    exact Or.inr ⟨id, value, hfirst, hr⟩

end StaleReason

/-! ## Late submissions -/

/-- A submission to another revision than the one kept is not kept, whoever has one already. -/
theorem Store.save_of_moved_on {st : Store} {s : Submission} {latest : Questionnaire} (h : st.fetch s.questionnaire = .ok latest)
    (hrevision : s.revision ≠ latest.revision) : st.save s = { result := .ok (.stale latest.revision), state := st } := by
  obtain ⟨hworking, r, hr, rfl⟩ := fetch_eq_ok_iff.1 h
  simp [save, withRecord, guarded, hworking, hr, hrevision]

namespace Session

/-- Answers that are in order and come too late are refused with the reason that the questionnaire kept gives. -/
theorem submit_of_moved_on {s : Session} {st : Store} {latest : Questionnaire} (hlast : s.isOnLastStep = true)
    (hvalid : s.validate = .ok ()) (hlatest : st.fetch s.questionnaire.id = .ok latest)
    (hrevision : latest.revision ≠ s.questionnaire.revision) :
    (s.submit Store.keeper st).result =
      .error (.stale ((latest.stale? s.answers).getD (.revision s.questionnaire.revision latest.revision))) := by
  have hsave : st.save s.submission = { result := .ok (.stale latest.revision), state := st } :=
    Store.save_of_moved_on hlatest hrevision.symm
  rcases submit_cases Store.keeper s st with ⟨h, _⟩ | ⟨_, _, h, _⟩ | ⟨_, _, heq⟩
  · rw [hlast] at h
    cases h
  · rw [hvalid] at h
    cases h
  · rw [heq]
    simp [handOver, staleReason, Store.keeper, hsave, hlatest]

/-! ## The order in which answers are entered -/

/-- The session after answers were entered one after another. -/
def enter (s : Session) (entries : List AnswerEntry) : Session := entries.foldl (fun s e => (s.answer e.1 e.2).state) s

/-- Two sessions differ at most in their answers, and not in the one to a question. -/
structure AgreeAt (id : QuestionId) (s t : Session) : Prop where
  rest : s = { t with answers := s.answers }
  value : s.answers.value? id = t.answers.value? id

namespace AgreeAt

variable {id : QuestionId} {s t u : Session}

theorem refl (id : QuestionId) (s : Session) : s.AgreeAt id s := ⟨rfl, rfl⟩

theorem symm (h : s.AgreeAt id t) : t.AgreeAt id s := by
  refine ⟨?_, h.value.symm⟩
  rw [h.rest]

theorem trans (h : s.AgreeAt id t) (h' : t.AgreeAt id u) : s.AgreeAt id u := by
  refine ⟨?_, h.value.trans h'.value⟩
  rw [h.rest, h'.rest]

/-- They do so after the same was entered in both. -/
theorem answer (h : s.AgreeAt id t) (j : QuestionId) (value : AnswerValue) :
    (s.answer j value).state.AgreeAt id (t.answer j value).state := by
  have hopen : s.openQuestion j = t.openQuestion j := by
    rw [h.rest]
    rfl
  unfold Session.answer
  rw [hopen]
  cases t.openQuestion j with
  | error e => exact h
  | ok question =>
    simp only
    cases question.misfit? value with
    | some problem => exact h
    | none =>
      refine ⟨?_, ?_⟩
      · rw [h.rest]
      · simp only [Answers.value?_set, h.value]

/-- Entering an answer to another question leaves this one as it is. -/
theorem answer_other (s : Session) {j : QuestionId} (hj : j ≠ id) (value : AnswerValue) :
    (s.answer j value).state.AgreeAt id s := by
  rcases answer_cases s j value with ⟨_, h⟩ | ⟨_, _, _, _, h⟩ <;> rw [h]
  · exact refl id s
  · exact ⟨rfl, by rw [Answers.value?_set, if_neg hj.symm]⟩

theorem enter (h : s.AgreeAt id t) (entries : List AnswerEntry) : (s.enter entries).AgreeAt id (t.enter entries) := by
  induction entries generalizing s t with
  | nil => exact h
  | cons e rest ih => exact ih (h.answer e.1 e.2)

/-- Of all that is entered only what is entered for a question decides the answer to it. -/
theorem enter_filter (s : Session) (entries : List AnswerEntry) (id : QuestionId) :
    (s.enter entries).AgreeAt id (s.enter (entries.filter (·.1 = id))) := by
  induction entries generalizing s with
  | nil => exact refl id s
  | cons e rest ih =>
    by_cases he : e.1 = id
    · rw [List.filter_cons_of_pos (by simpa using he)]
      exact ih _
    · rw [List.filter_cons_of_neg (by simpa using he)]
      exact (ih _).trans ((answer_other s he e.2).enter _)

end AgreeAt

/-- What is entered for different questions may be entered in any order. -/
theorem enter_eq_enter (s : Session) {xs ys : List AnswerEntry} (h : ∀ id, xs.filter (·.1 = id) = ys.filter (·.1 = id)) :
    s.enter xs = s.enter ys := by
  have hagree : ∀ id, (s.enter xs).AgreeAt id (s.enter ys) := by
    intro id
    refine (AgreeAt.enter_filter s xs id).trans ?_
    rw [h id]
    exact (AgreeAt.enter_filter s ys id).symm
  have hanswers : (s.enter xs).answers = (s.enter ys).answers := Answers.ext_value fun id => (hagree id).value
  rw [(hagree 0).rest, hanswers]

/-- The reason for a late submission names the right answer. Answers given to `q`, which is kept as `latest` at another revision by now,
have exactly one reason that explains them, whether their questions are shown or hidden. Every session on `q` that holds these values and
submits them in order on its last step is refused with it, whatever else the store keeps, a submission of the respondent included. And what
a session holds does not depend on the order in which answers to different questions were entered. -/
theorem stale_reason_names_first_misfit {q latest : Questionnaire} (hrevision : latest.revision ≠ q.revision) (a : Answers) :
    (∃ reason : StaleReason, reason.Explains latest q.revision a ∧
      (∀ other : StaleReason, other.Explains latest q.revision a → other = reason) ∧
      ∀ s : Session, s.questionnaire = q → (∀ id, s.value? id = a.value? id) → s.isOnLastStep = true → s.validate = .ok () →
        ∀ st : Store, st.fetch q.id = .ok latest → (s.submit Store.keeper st).result = .error (.stale reason)) ∧
    ∀ (s : Session) (xs ys : List AnswerEntry), (∀ id, xs.filter (·.1 = id) = ys.filter (·.1 = id)) → s.enter xs = s.enter ys := by
  have hexplains := StaleReason.explains_stale? latest q.revision a
  refine ⟨⟨_, hexplains, fun _ h => h.unique hexplains, ?_⟩, fun s _ _ h => s.enter_eq_enter h⟩
  rintro s rfl hvalues hlast hvalid st hlatest
  have hanswers : s.answers = a := Answers.ext_value hvalues
  rw [submit_of_moved_on hlast hvalid hlatest hrevision, hanswers]

namespace RebuiltPoll

/-- Which birds were seen, how many and where. -/
def poll : Questionnaire where
  definition := {
    id := 1, title := "Birds", questions := [
      { id := 3, position := 0, body := "Which ones did you see?", kind := .multipleOption,
        options := [{ id := 10, body := "Parrot" }, { id := 11, body := "Crow" }] },
      { id := 2, position := 1, body := "How many?", kind := .shortAnswer },
      { id := 1, position := 2, body := "Where?", kind := .shortAnswer }] }
  wellFormed := Definition.problem?_eq_none_iff.1 (by decide)
  ascending := by decide

/-- Only crows are asked for, and in the place of their number the first step ends. -/
def rebuilt : Questionnaire where
  definition := {
    id := 1, title := "Birds", revision := 1, questions := [
      { id := 3, position := 0, body := "Did you see one?", kind := .multipleOption, options := [{ id := 11, body := "Crow" }] },
      .separator 2 1,
      { id := 1, position := 2, body := "Where?", kind := .shortAnswer }] }
  wellFormed := Definition.problem?_eq_none_iff.1 (by decide)
  ascending := by decide

/-- A respondent opens the poll twice, before and after it is rebuilt, answers it in the first session and submits the second one. -/
def acts : List Act :=
  [.insert poll, .start ⟨7, 0⟩ 1 {}, .move ⟨7, 0⟩ (.answer 3 (.choices [⟨10, none⟩])), .revise 1 rebuilt.questions, .start ⟨7, 1⟩ 1 {},
    .move ⟨7, 1⟩ .advance, .submit ⟨7, 1⟩, .move ⟨7, 0⟩ (.answer 2 (.text "Two")), .move ⟨7, 0⟩ (.answer 1 (.text "In the park"))]

/-- The first session. -/
def late : Session := (fresh poll 7 {}).enter [(1, .text "In the park"), (2, .text "Two"), (3, .choices [⟨10, none⟩])]

/-- The respondent has a submission to the rebuilt poll, and two answers of the first session do not suit it. The reason is about the
separator, whose number comes before that of the question that lost an option. -/
theorem separator_comes_before_lost_option :
    rebuilt.revision ≠ poll.revision ∧ (World.run {} acts).store.fetch 1 = .ok rebuilt ∧
    (World.run {} acts).store.isAnsweredBy 1 7 = .ok true ∧ (World.run {} acts).sessions ⟨7, 0⟩ = some late ∧
    (late.submit Store.keeper (World.run {} acts).store).result = .error (.stale (.answer 2 (.wrongShape .separator .text))) := by
  have hrevision : rebuilt.revision ≠ poll.revision := by decide
  have hkept : (World.run {} acts).store.fetch 1 = .ok rebuilt := rfl
  obtain ⟨⟨reason, _, hunique, hrefused⟩, _⟩ := stale_reason_names_first_misfit hrevision late.answers
  have hreason : .answer 2 (.wrongShape .separator .text) = reason :=
    hunique _ (StaleReason.explains_stale? rebuilt poll.revision late.answers)
  refine ⟨hrevision, hkept, rfl, rfl, ?_⟩
  rw [hreason]
  exact hrefused late rfl (fun _ => rfl) rfl rfl _ hkept

end RebuiltPoll

end Session

end Survey
