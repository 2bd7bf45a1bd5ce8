import Mathlib.Data.List.Infix
import Survey.Visibility

/-!
# Blank text in lower case

Lower case makes no white space and takes none away, since no run of letters touches a white-space character. So text is as blank in
lower case as it was (`Text.all_isWhiteSpace_lowercase`), and text that is not blank never occurs in text that is, whatever the case of
its letters (`Text.matchesIn_of_isBlank`).
-/

namespace Survey.Text

/-! ## White space and the runs of letters -/

/-- The code points of white space. -/
def whiteCodes : List Nat :=
  [0x09, 0x0A, 0x0B, 0x0C, 0x0D, 0x20, 0x85, 0xA0, 0x1680, 0x2000, 0x2001, 0x2002, 0x2003, 0x2004, 0x2005, 0x2006, 0x2007, 0x2008,
    0x2009, 0x200A, 0x2028, 0x2029, 0x202F, 0x205F, 0x3000]

theorem isWhiteSpace_iff {c : Char} : isWhiteSpace c = true ↔ c.toNat ∈ whiteCodes := by
  simp only [isWhiteSpace, whiteCodes, Bool.or_eq_true, Bool.and_eq_true, decide_eq_true_eq, beq_iff_eq, List.mem_cons,
    List.not_mem_nil, or_false]
  omega

theorem isWhiteSpace_eq_false_iff {c : Char} : isWhiteSpace c = false ↔ c.toNat ∉ whiteCodes := by
  rw [← isWhiteSpace_iff, Bool.not_eq_true]

/-- No white space is among the characters of a run, nor among those they become. -/
def CaseRun.SparesWhite (run : CaseRun) : Prop :=
  ∀ n ∈ whiteCodes, ¬ (run.first ≤ n ∧ n ≤ run.last) ∧ ¬ (run.target ≤ n ∧ n ≤ run.target + (run.last - run.first))

instance (run : CaseRun) : Decidable run.SparesWhite := inferInstanceAs (Decidable (∀ n ∈ whiteCodes, _))

theorem caseRuns_spareWhite : ∀ run ∈ caseRuns, run.SparesWhite := by decide +kernel

/-- The number of a character made of a number is that number, or zero where there is no such character. -/
theorem toNat_ofNat_or (n : Nat) : (Char.ofNat n).toNat = n ∨ (Char.ofNat n).toNat = 0 := by
  by_cases h : n.isValidChar
  · left
    rw [Char.ofNat, dif_pos h]
    rfl
  · right
    rw [Char.ofNat, dif_neg h]
    rfl

/-! ## Lower case -/

/-- A character is white space in lower case exactly if it is white space. -/
theorem isWhiteSpace_lowerChar (c : Char) : isWhiteSpace (lowerChar c) = isWhiteSpace c := by
  simp only [lowerChar]
  split
  · rename_i run hrun
    have hspares := caseRuns_spareWhite run (List.mem_of_find?_eq_some hrun)
    have hlast : c.toNat ≤ run.last := by simpa using List.find?_some hrun
    split
    · rename_i hin
      have hfirst : run.first ≤ c.toNat := by simpa using (Bool.and_eq_true_iff.1 hin).1
      have hold : c.toNat ∉ whiteCodes := fun h => (hspares _ h).1 ⟨hfirst, hlast⟩
      have hnew : (Char.ofNat (run.target + (c.toNat - run.first))).toNat ∉ whiteCodes := by
        rcases toNat_ofNat_or (run.target + (c.toNat - run.first)) with h | h <;> rw [h]
        · intro hmem
          exact (hspares _ hmem).2 ⟨by omega, by omega⟩
        · decide
      rw [isWhiteSpace_eq_false_iff.2 hold, isWhiteSpace_eq_false_iff.2 hnew]
    · rfl
  · rfl

theorem isWhiteSpace_lowerSigma (before after : List Char) : isWhiteSpace (lowerSigma before after) = false := by
  unfold lowerSigma
  split <;> decide

/-- What the characters after others become is white space throughout exactly if they are. -/
theorem all_isWhiteSpace_lowerFrom (before cs : List Char) : (lowerFrom before cs).all isWhiteSpace = cs.all isWhiteSpace := by
  induction cs generalizing before with
  | nil => rfl
  | cons c after ih =>
    rw [lowerFrom, List.all_append, ih, List.all_cons]
    congr 1
    split
    · rename_i hc
      rw [List.all_cons, isWhiteSpace_lowerSigma, hc]
      rfl
    · split
      · rename_i hc
        rw [hc]
        decide
      · rw [List.all_cons, isWhiteSpace_lowerChar, List.all_nil, Bool.and_true]

/-- Text is white space throughout in lower case exactly if it is so. -/
theorem all_isWhiteSpace_lowercase (cs : List Char) : (lowercase cs).all isWhiteSpace = cs.all isWhiteSpace :=
  all_isWhiteSpace_lowerFrom [] cs

/-- Text that is not blank does not occur in blank text: one of its characters is not white space in lower case either, and would
stand in the blank text. -/
theorem matchesIn_of_isBlank {needle text : String} (hneedle : isBlank needle = false) (htext : isBlank text = true) :
    matchesIn needle text = false := by
  rw [Bool.eq_false_iff]
  intro hmatches
  have hoccurs : lowercase needle.toList <:+: lowercase text.toList := occursIn_iff.1 hmatches
  have hwhite : (lowercase text.toList).all isWhiteSpace = true := (all_isWhiteSpace_lowercase _).trans htext
  have hneedle' : (lowercase needle.toList).all isWhiteSpace = true :=
    List.all_eq_true.2 fun c hc => List.all_eq_true.1 hwhite c (hoccurs.subset hc)
  rw [all_isWhiteSpace_lowercase] at hneedle'
  exact Bool.false_ne_true (hneedle.symm.trans hneedle')

end Survey.Text
