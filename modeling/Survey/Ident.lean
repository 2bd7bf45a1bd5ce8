/-!
# Identifiers

Questions, options, matrix rows, questionnaires and respondents are named by 64-bit numbers. The number alone does not say
which of the five it names, so an identifier carries its kind in its type: an option can not be looked up as a question.
-/

namespace Survey

/-- What an identifier names. -/
inductive IdentKind where
  | question | option | row | questionnaire | respondent
  deriving DecidableEq, Repr

/-- The word that stands before the number of an identifier. -/
def IdentKind.label : IdentKind → String
  | .question => "question"
  | .option => "option"
  | .row => "row"
  | .questionnaire => "questionnaire"
  | .respondent => "respondent"

/-- An identifier of a kind. -/
structure Ident (kind : IdentKind) where
  raw : UInt64
  deriving DecidableEq, Repr

/-- Names a question of a questionnaire. -/
abbrev QuestionId := Ident .question

/-- Names an option of a question. -/
abbrev OptionId := Ident .option

/-- Names a row of a matrix question. -/
abbrev RowId := Ident .row

/-- Names a questionnaire. -/
abbrev QuestionnaireId := Ident .questionnaire

/-- Names a respondent. -/
abbrev RespondentId := Ident .respondent

namespace Ident

variable {kind : IdentKind}

instance (n : Nat) : OfNat (Ident kind) n := ⟨⟨OfNat.ofNat n⟩⟩

/-- How an identifier is shown to a reader: its kind, a number sign and its number. -/
def display (i : Ident kind) : String :=
  kind.label ++ "#" ++ toString i.raw.toNat

instance : ToString (Ident kind) := ⟨display⟩

/-- Identifiers are ordered as their numbers are. -/
instance : LT (Ident kind) := ⟨fun a b => a.raw < b.raw⟩

instance : LE (Ident kind) := ⟨fun a b => a.raw ≤ b.raw⟩

instance : Ord (Ident kind) := ⟨fun a b => compare a.raw b.raw⟩

instance (a b : Ident kind) : Decidable (a < b) := inferInstanceAs (Decidable (a.raw < b.raw))

instance (a b : Ident kind) : Decidable (a ≤ b) := inferInstanceAs (Decidable (a.raw ≤ b.raw))

theorem lt_def {a b : Ident kind} : a < b ↔ a.raw.toNat < b.raw.toNat := UInt64.lt_iff_toNat_lt

theorem eq_of_toNat_eq {a b : Ident kind} (h : a.raw.toNat = b.raw.toNat) : a = b := by
  cases a; cases b; simp_all [UInt64.toNat_inj]

/-- Two identifiers neither of which comes before the other are one. -/
theorem eq_of_not_lt {a b : Ident kind} (hab : ¬ a < b) (hba : ¬ b < a) : a = b := by
  apply eq_of_toNat_eq
  simp only [lt_def] at hab hba
  omega

theorem lt_irrefl (a : Ident kind) : ¬ a < a := by
  simp only [lt_def]; omega

theorem ne_of_lt {a b : Ident kind} (h : a < b) : a ≠ b := fun e => lt_irrefl b (e ▸ h)

theorem lt_trans {a b c : Ident kind} (hab : a < b) (hbc : b < c) : a < c := by
  simp only [lt_def] at *; omega

end Ident

end Survey
