import Survey.Question.Basic
import Survey.Sorting

/-!
# Questions in the order of their positions

`inOrder` sorts questions by position and leaves questions of one position in the order they were written.
-/

namespace Survey

/-- The questions of a list in ascending order of position. -/
def inOrder (questions : List Question) : List Question := sortBy (fun a b => a.position ≤ b.position) questions

/-- Sorting loses and adds nothing. -/
theorem inOrder_perm (questions : List Question) : (inOrder questions).Perm questions := sortBy_perm questions

/-- Sorted questions ascend. -/
theorem inOrder_pairwise (questions : List Question) :
    (inOrder questions).Pairwise (fun a b => a.position ≤ b.position) := by
  refine (sortBy_pairwise ?_ ?_ questions).imp of_decide_eq_true
  · simp only [decide_eq_true_eq]
    exact fun _ _ _ => UInt32.le_trans
  · simp only [decide_eq_true_eq]
    exact fun a b => UInt32.le_total a.position b.position

/-- Questions that ascend already stay as they are. -/
theorem inOrder_of_pairwise {questions : List Question} (h : questions.Pairwise (fun a b => a.position ≤ b.position)) :
    inOrder questions = questions :=
  sortBy_of_pairwise (h.imp decide_eq_true)

end Survey
