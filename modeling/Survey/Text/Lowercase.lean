import Survey.Text.CaseRuns
import Survey.Text.CaseContext

/-!
# Lower case

`lowercase` is the full, language-independent lower-case mapping. Three rules make it up:

* a character of a run of `caseRuns` becomes the one character the run says;
* the capital I with a dot becomes a small i followed by a combining dot above, the only character that becomes two;
* the capital sigma becomes the final sigma at the end of a word and the ordinary small sigma elsewhere, the only character
  whose form depends on its neighbours.

All other characters stay. Nothing is composed, decomposed or folded.
-/

namespace Survey.Text

/-- The capital letter I with a dot above. -/
def capitalDottedI : Char := 'İ'

/-- The capital letter sigma. -/
def capitalSigma : Char := 'Σ'

/-- The lower-case form of a character that does not look at its neighbours. -/
def lowerChar (c : Char) : Char :=
  let n := c.toNat
  match caseRuns.find? (fun run => n ≤ run.last) with
  | some run => if run.first ≤ n && (n - run.first) % run.stride == 0 then Char.ofNat (run.target + (n - run.first)) else c
  | none => c

/-- Whether the first character that case does not look through is a letter with case. -/
def meetsCased (cs : List Char) : Bool :=
  match cs.dropWhile isCaseIgnorable with
  | c :: _ => isCased c
  | [] => false

/-- The small sigma between the characters before it (nearest first) and those after it: final at the end of a word, that is
when a letter with case comes before and none comes after. -/
def lowerSigma (before after : List Char) : Char :=
  if meetsCased before && !meetsCased after then 'ς' else 'σ'

/-- The lower-case form of the characters that follow those of `before` (nearest first). -/
def lowerFrom (before : List Char) : List Char → List Char
  | [] => []
  | c :: after =>
    (if c = capitalSigma then [lowerSigma before after]
      else if c = capitalDottedI then ['i', '\u0307']
      else [lowerChar c]) ++ lowerFrom (c :: before) after

/-- The lower-case form of text. -/
def lowercase (text : List Char) : List Char := lowerFrom [] text

end Survey.Text
