import Survey.Answer.Value

/-!
# Answers

The values a respondent has given so far, at most one to a question. They are kept in ascending order of question, so two sets
of answers are equal exactly when they give the same value to every question (`Answers.ext_value`), however they came about.
-/

namespace Survey

/-- An answer to a question. -/
abbrev AnswerEntry := QuestionId × AnswerValue

/-- Entries in ascending order of question. -/
abbrev AscendingEntries (entries : List AnswerEntry) : Prop := entries.Pairwise (fun a b => a.1 < b.1)

/-- The value of a question among entries. -/
def valueIn? (entries : List AnswerEntry) (id : QuestionId) : Option AnswerValue :=
  (entries.find? (·.1 = id)).map (·.2)

/-- Puts the value of a question among ascending entries, in the place of the value it had. -/
def putEntry (id : QuestionId) (value : AnswerValue) : List AnswerEntry → List AnswerEntry
  | [] => [(id, value)]
  | e :: rest =>
    if id < e.1 then (id, value) :: e :: rest
    else if id = e.1 then (id, value) :: rest
    else e :: putEntry id value rest

theorem mem_putEntry {id : QuestionId} {value : AnswerValue} {entries : List AnswerEntry} {e : AnswerEntry}
    (h : e ∈ putEntry id value entries) : e = (id, value) ∨ e ∈ entries := by
  induction entries with
  | nil => simpa [putEntry] using h
  | cons x rest ih =>
    simp only [putEntry] at h
    split at h
    · simpa using h
    · split at h
      · rcases List.mem_cons.1 h with h | h <;> simp [h]
      · rcases List.mem_cons.1 h with h | h
        · simp [h]
        · rcases ih h with h | h <;> simp [h]

theorem putEntry_ascending {id : QuestionId} {value : AnswerValue} {entries : List AnswerEntry}
    (h : AscendingEntries entries) : AscendingEntries (putEntry id value entries) := by
  induction entries with
  | nil => simp [putEntry, AscendingEntries]
  | cons e rest ih =>
    have h' := List.pairwise_cons.1 h
    simp only [putEntry]
    split
    · rename_i hlt
      refine List.pairwise_cons.2 ⟨fun x hx => ?_, h⟩
      rcases List.mem_cons.1 hx with rfl | hx
      · exact hlt
      · exact Ident.lt_trans hlt (h'.1 x hx)
    · split
      · rename_i heq
        exact List.pairwise_cons.2 ⟨fun x hx => heq ▸ h'.1 x hx, h'.2⟩
      · rename_i hge hne
        refine List.pairwise_cons.2 ⟨fun x hx => ?_, ih h'.2⟩
        rcases mem_putEntry hx with rfl | hx
        · exact Classical.byContradiction fun hn => hne (Ident.eq_of_not_lt hge hn)
        · exact h'.1 x hx

theorem valueIn?_putEntry {id j : QuestionId} {value : AnswerValue} {entries : List AnswerEntry}
    (h : AscendingEntries entries) :
    valueIn? (putEntry id value entries) j = if j = id then some value else valueIn? entries j := by
  induction entries with
  | nil => by_cases hj : j = id <;> simp [putEntry, valueIn?, hj, eq_comm]
  | cons e rest ih =>
    have h' := List.pairwise_cons.1 h
    have ih := ih h'.2
    simp only [putEntry]
    split
    · by_cases hj : j = id
      · simp [valueIn?, hj]
      · simp [valueIn?, hj, Ne.symm hj]
    · split
      · rename_i heq
        by_cases hj : j = id
        · simp [valueIn?, hj]
        · simp [valueIn?, hj, Ne.symm hj, ← heq]
      · rename_i hne
        by_cases he : e.1 = j
        · have hj : j ≠ id := fun hj => hne (hj ▸ he.symm)
          simp [valueIn?, he, hj]
        · simpa [valueIn?, he] using ih

theorem valueIn?_cons_self (e : AnswerEntry) (rest : List AnswerEntry) : valueIn? (e :: rest) e.1 = some e.2 := by
  simp [valueIn?]

theorem valueIn?_cons_of_ne {e : AnswerEntry} {rest : List AnswerEntry} {id : QuestionId} (h : e.1 ≠ id) :
    valueIn? (e :: rest) id = valueIn? rest id := by
  simp [valueIn?, h]

/-- A question that comes before those of all entries has no value. -/
theorem valueIn?_eq_none_of_lt {entries : List AnswerEntry} {id : QuestionId} (h : ∀ e ∈ entries, id < e.1) :
    valueIn? entries id = none := by
  simp only [valueIn?, Option.map_eq_none_iff, List.find?_eq_none, decide_eq_true_eq]
  exact fun e he => (Ident.ne_of_lt (h e he)).symm

/-- A question with a value does not come before the first of ascending entries. -/
theorem not_lt_of_valueIn?_eq_some {e : AnswerEntry} {rest : List AnswerEntry} {id : QuestionId} {value : AnswerValue}
    (hasc : AscendingEntries (e :: rest)) (h : valueIn? (e :: rest) id = some value) : ¬ id < e.1 := by
  intro hlt
  have hfirst := (List.pairwise_cons.1 hasc).1
  have hnone : valueIn? (e :: rest) id = none := by
    refine valueIn?_eq_none_of_lt fun x hx => ?_
    rcases List.mem_cons.1 hx with rfl | hx
    · exact hlt
    · exact Ident.lt_trans hlt (hfirst x hx)
  rw [hnone] at h
  cases h

/-- Ascending entries are determined by the values they give. -/
theorem entries_ext {xs ys : List AnswerEntry} (hx : AscendingEntries xs) (hy : AscendingEntries ys)
    (h : ∀ id, valueIn? xs id = valueIn? ys id) : xs = ys := by
  induction xs generalizing ys with
  | nil =>
    cases ys with
    | nil => rfl
    | cons y ys =>
      have hfirst := h y.1
      rw [valueIn?_cons_self] at hfirst
      cases hfirst
  | cons x xs ih =>
    cases ys with
    | nil =>
      have hfirst := h x.1
      rw [valueIn?_cons_self] at hfirst
      cases hfirst
    | cons y ys =>
      have hxy := h x.1
      have hyx := h y.1
      rw [valueIn?_cons_self] at hxy hyx
      have hid : x.1 = y.1 := Ident.eq_of_not_lt (not_lt_of_valueIn?_eq_some hy hxy.symm) (not_lt_of_valueIn?_eq_some hx hyx)
      rw [hid, valueIn?_cons_self] at hxy
      obtain rfl : x = y := Prod.ext hid (Option.some.inj hxy)
      obtain ⟨hxs, hx⟩ := List.pairwise_cons.1 hx
      obtain ⟨hys, hy⟩ := List.pairwise_cons.1 hy
      congr 1
      refine ih hx hy fun id => ?_
      by_cases hne : x.1 = id
      · subst hne
        rw [valueIn?_eq_none_of_lt hxs, valueIn?_eq_none_of_lt hys]
      · have hrest := h id
        rwa [valueIn?_cons_of_ne hne, valueIn?_cons_of_ne hne] at hrest

/-- The values given to questions, in ascending order of question. -/
structure Answers where
  entries : List AnswerEntry
  ascending : AscendingEntries entries
  deriving DecidableEq

namespace Answers

/-- No answers. -/
def empty : Answers := ⟨[], List.Pairwise.nil⟩

/-- The value given to a question. -/
def value? (a : Answers) (id : QuestionId) : Option AnswerValue := valueIn? a.entries id

/-- Gives a value to a question, in the place of the one it had. -/
def set (a : Answers) (id : QuestionId) (value : AnswerValue) : Answers :=
  ⟨putEntry id value a.entries, putEntry_ascending a.ascending⟩

/-- Takes the value of a question away. -/
def erase (a : Answers) (id : QuestionId) : Answers :=
  ⟨a.entries.filter (fun e => e.1 ≠ id), a.ascending.filter _⟩

/-- The number of questions with a value, blank ones among them. -/
def size (a : Answers) : Nat := a.entries.length

/-- Whether no question has a value. -/
def isEmpty (a : Answers) : Bool := a.entries.isEmpty

/-- Whether a question has a value, be it blank. -/
def contains (a : Answers) (id : QuestionId) : Bool := (a.value? id).isSome

/-- Whether a question has a value that says something. -/
def hasValue (a : Answers) (id : QuestionId) : Bool := (a.value? id).any (fun value => !value.isBlank)

@[simp]
theorem value?_empty (id : QuestionId) : empty.value? id = none := rfl

theorem value?_set (a : Answers) (id j : QuestionId) (value : AnswerValue) :
    (a.set id value).value? j = if j = id then some value else a.value? j :=
  valueIn?_putEntry a.ascending

theorem value?_erase (a : Answers) (id j : QuestionId) :
    (a.erase id).value? j = if j = id then none else a.value? j := by
  unfold value? valueIn? erase
  by_cases hj : j = id
  · subst hj
    simp [List.find?_eq_none]
  · simp only [hj, if_false, List.find?_filter]
    congr 2
    funext e
    by_cases he : e.1 = j <;> simp [he, hj]

/-- Answers are determined by the values they give. -/
theorem ext_value {a b : Answers} (h : ∀ id, a.value? id = b.value? id) : a = b := by
  have := entries_ext a.ascending b.ascending h
  cases a; cases b; simp_all

end Answers

/-! ## Values of a certain shape -/

/-- Why answers hold no value of the shape asked for. -/
inductive ReadError where
  | missing (question : QuestionId)
  | mismatch (question : QuestionId) (expected actual : ValueShape)
  deriving DecidableEq, Repr

/-- An error in words. -/
def ReadError.message : ReadError → String
  | .missing question => s!"Missing answer for {question}"
  | .mismatch question expected actual =>
    s!"Type mismatch at {question}: expected {expected.title}, got {actual.title}"

namespace Answers

/-- The value of a question seen as one of a shape. -/
def read {α : Type} (shape : ValueShape) (view : AnswerValue → Option α) (a : Answers) (id : QuestionId) :
    Except ReadError α :=
  match a.value? id with
  | none => .error (.missing id)
  | some value =>
    match view value with
    | some x => .ok x
    | none => .error (.mismatch id shape value.shape)

/-- The text given to a question. -/
def text (a : Answers) (id : QuestionId) : Except ReadError String := a.read .text AnswerValue.text? id

/-- The options chosen for a question. -/
def choices (a : Answers) (id : QuestionId) : Except ReadError (List Choice) := a.read .choices AnswerValue.choices? id

/-- The ranking given to a question. -/
def sorting (a : Answers) (id : QuestionId) : Except ReadError (List OptionId) := a.read .sorting AnswerValue.sorting? id

/-- The cells chosen for a question. -/
def matrix (a : Answers) (id : QuestionId) : Except ReadError (List MatrixCell) := a.read .matrix AnswerValue.matrix? id

end Answers

end Survey
