import Mathlib.Data.List.Infix
import Survey.Visibility

/-!
# Text that is literally there

To match text, its lower-case form is looked for in the lower-case form of another, each taken as a whole. What stands literally in a
text need not stand there in lower case: the form of a capital sigma depends on its neighbours, and a text that is taken out of another
loses them. So text is found where each of its capital sigmas takes the form that it takes in the text alone
(`Text.matchesIn_of_standsIn`), as it does in a word that is looked for as a word. And it is found wherever it stands exactly if it
settles these forms itself, whatever its neighbours are (`Text.settlesSigmas_iff`); without a capital sigma there is nothing to settle.
-/

namespace Survey

namespace Text

/-! ## What a capital sigma looks at -/

/-- Whether there is a character that case does not look through. -/
def stopsCase (cs : List Char) : Bool := cs.any fun c => !isCaseIgnorable c

/-- Case meets what is beyond some characters only if it looks through all of them. -/
theorem meetsCased_append (xs ys : List Char) :
    meetsCased (xs ++ ys) = if stopsCase xs then meetsCased xs else meetsCased ys := by
  induction xs with
  | nil => rfl
  | cons c rest ih =>
    unfold meetsCased stopsCase at *
    cases h : isCaseIgnorable c with
    | true => simpa [h] using ih
    | false => simp [h]

theorem meetsCased_of_not_stopsCase {cs : List Char} (h : stopsCase cs = false) : meetsCased cs = false := by
  have happend := meetsCased_append cs []
  rw [h] at happend
  simpa [meetsCased] using happend

/-- Whether the characters before a capital sigma (nearest first) and those after it settle its form, whatever stands beyond them. It is
an ordinary sigma as soon as a letter comes next, or something else came last; to be a final one it takes a letter that came last and
something else that comes next. -/
def settlesSigma (before after : List Char) : Bool :=
  meetsCased after || (stopsCase before && (!meetsCased before || stopsCase after))

/-- A form that is settled stays. -/
theorem lowerSigma_append {before after : List Char} (h : settlesSigma before after = true) (left right : List Char) :
    lowerSigma (before ++ left) (after ++ right) = lowerSigma before after := by
  unfold lowerSigma
  rw [meetsCased_append, meetsCased_append]
  have hbefore : stopsCase before = false → meetsCased before = false := meetsCased_of_not_stopsCase
  have hafter : stopsCase after = false → meetsCased after = false := meetsCased_of_not_stopsCase
  unfold settlesSigma at h
  cases hb : stopsCase before <;> cases ha : stopsCase after <;> simp_all

/-- A form that is not settled is another one with any letter before the characters, or with any letter after them. -/
theorem lowerSigma_ne_of_not_settled {before after : List Char} (h : settlesSigma before after = false) :
    (∀ c, meetsCased [c] = true → lowerSigma (before ++ [c]) after ≠ lowerSigma before after) ∨
    (∀ c, meetsCased [c] = true → lowerSigma before (after ++ [c]) ≠ lowerSigma before after) := by
  have hbefore : stopsCase before = false → meetsCased before = false := meetsCased_of_not_stopsCase
  unfold settlesSigma at h
  unfold lowerSigma
  simp only [meetsCased_append]
  cases hb : stopsCase before with
  | false =>
    left
    intro c hc
    simp_all
  | true =>
    right
    intro c hc
    cases ha : stopsCase after <;> simp_all

/-! ## A part of a text in lower case -/

/-- The lower-case form of one character, between those before it (nearest first) and those after it. -/
def lowerAt (before : List Char) (c : Char) (after : List Char) : List Char :=
  if c = capitalSigma then [lowerSigma before after]
  else if c = capitalDottedI then ['i', '\u0307']
  else [lowerChar c]

theorem lowerFrom_cons (before : List Char) (c : Char) (after : List Char) :
    lowerFrom before (c :: after) = lowerAt before c after ++ lowerFrom (c :: before) after := rfl

/-- The form of a character is as long among other neighbours. -/
theorem length_lowerAt (before before' : List Char) (c : Char) (after after' : List Char) :
    (lowerAt before c after).length = (lowerAt before' c after').length := by
  unfold lowerAt
  split
  · rfl
  · split <;> rfl

/-- Nothing but the form of a capital sigma depends on neighbours. -/
theorem lowerAt_eq_iff {before before' after after' : List Char} {c : Char} :
    lowerAt before c after = lowerAt before' c after' ↔ (c = capitalSigma → lowerSigma before after = lowerSigma before' after') := by
  unfold lowerAt
  split
  · simp_all
  · simp_all

/-- The lower-case form of a part of a text, between the characters before it (nearest first) and those after it. -/
def lowerBetween (left right : List Char) : List Char → List Char
  | [] => []
  | c :: after => lowerAt left c (after ++ right) ++ lowerBetween (c :: left) right after

/-- A text cut in two is lower-cased part by part, each part in the sight of the other. -/
theorem lowerFrom_append (left xs right : List Char) :
    lowerFrom left (xs ++ right) = lowerBetween left right xs ++ lowerFrom (xs.reverse ++ left) right := by
  induction xs generalizing left with
  | nil => rfl
  | cons c after ih =>
    rw [List.cons_append, lowerFrom_cons, ih, lowerBetween, List.append_assoc]
    simp

/-- A whole text is the part with nothing around it. -/
theorem lowerBetween_nil (left xs : List Char) : lowerBetween left [] xs = lowerFrom left xs := by
  have h := lowerFrom_append left xs []
  simpa [lowerFrom] using h.symm

/-- The form of a part is as long between other characters. -/
theorem length_lowerBetween (left left' right right' xs : List Char) :
    (lowerBetween left right xs).length = (lowerBetween left' right' xs).length := by
  induction xs generalizing left left' with
  | nil => rfl
  | cons c after ih =>
    rw [lowerBetween, lowerBetween, List.length_append, List.length_append, ih, length_lowerAt]

theorem length_lowerBetween_eq_lowercase (left right xs : List Char) :
    (lowerBetween left right xs).length = (lowercase xs).length := by
  rw [lowercase, ← lowerBetween_nil]
  exact length_lowerBetween left [] right [] xs

/-- What is said of every place at which a character stands in a list, place by place. -/
theorem forall_place_cons {α : Type} {P : List α → List α → Prop} {x c : α} {rest : List α} :
    (∀ before after, c :: rest = before ++ x :: after → P before after) ↔
      (c = x → P [] rest) ∧ ∀ before after, rest = before ++ x :: after → P (c :: before) after := by
  constructor
  · intro h
    refine ⟨fun hc => h [] rest (by rw [hc]; rfl), fun before after hrest => h (c :: before) after (by rw [hrest]; rfl)⟩
  · rintro ⟨hfirst, hlater⟩ before after heq
    cases before with
    | nil =>
      obtain ⟨rfl, rfl⟩ := List.cons.inj heq
      exact hfirst rfl
    | cons b before =>
      obtain ⟨rfl, rfl⟩ := List.cons.inj heq
      exact hlater before after rfl

/-- Between the characters before it (nearest first) and those after it, the capital sigmas of a text take the forms they take in the text
alone. -/
def KeepsSigmas (left right needle : List Char) : Prop :=
  ∀ before after, needle = before ++ capitalSigma :: after →
    lowerSigma (before.reverse ++ left) (after ++ right) = lowerSigma before.reverse after

/-- A part has the lower-case form of the same text alone exactly if its capital sigmas have the forms they have there. -/
theorem lowerBetween_eq_lowercase_iff {left right needle : List Char} :
    lowerBetween left right needle = lowercase needle ↔ KeepsSigmas left right needle := by
  -- the characters seen so far stand in front of `left` in the one form and alone in the other
  have hfrom : ∀ (seen cs : List Char), lowerBetween (seen ++ left) right cs = lowerFrom seen cs ↔
      ∀ before after, cs = before ++ capitalSigma :: after →
        lowerSigma (before.reverse ++ (seen ++ left)) (after ++ right) = lowerSigma (before.reverse ++ seen) after := by
    intro seen cs
    induction cs generalizing seen with
    | nil => simp [lowerBetween, lowerFrom]
    | cons c rest ih =>
      have hlength := length_lowerAt (seen ++ left) seen c (rest ++ right) rest
      rw [lowerBetween, lowerFrom_cons, forall_place_cons]
      have hrest := ih (c :: seen)
      rw [List.cons_append] at hrest
      constructor
      · intro h
        obtain ⟨hhere, hthere⟩ := List.append_inj h hlength
        refine ⟨lowerAt_eq_iff.1 hhere, fun before after heq => ?_⟩
        simpa using hrest.1 hthere before after heq
      · rintro ⟨hhere, hthere⟩
        have hthere : lowerBetween (c :: (seen ++ left)) right rest = lowerFrom (c :: seen) rest :=
          hrest.2 fun before after heq => by simpa using hthere before after heq
        have hhere : lowerAt (seen ++ left) c (rest ++ right) = lowerAt seen c rest := lowerAt_eq_iff.2 hhere
        rw [hhere, hthere]
  simpa [KeepsSigmas, lowercase] using hfrom [] needle

/-- A part has another lower-case form if some capital sigma of it has. -/
theorem lowerBetween_ne_lowercase {left right before after needle : List Char} (heq : needle = before ++ capitalSigma :: after)
    (hne : lowerSigma (before.reverse ++ left) (after ++ right) ≠ lowerSigma before.reverse after) :
    lowerBetween left right needle ≠ lowercase needle :=
  fun hsame => hne (lowerBetween_eq_lowercase_iff.1 hsame before after heq)

/-! ## Text in text -/

/-- Text stands in another at some place where its capital sigmas take the forms they take in it alone. -/
def StandsIn (needle text : String) : Prop :=
  ∃ left right, text.toList = left ++ (needle.toList ++ right) ∧ KeepsSigmas left.reverse right needle.toList

/-- Text that stands in another in this way is found there. -/
theorem matchesIn_of_standsIn {needle text : String} (h : StandsIn needle text) : matchesIn needle text = true := by
  obtain ⟨left, right, htext, hsigmas⟩ := h
  unfold matchesIn
  rw [occursIn_iff, htext, lowercase, lowercase, lowerFrom_append, lowerFrom_append, List.append_nil,
    lowerBetween_eq_lowercase_iff.2 hsigmas]
  exact ⟨lowerBetween [] (needle.toList ++ right) left, _, by rw [lowercase, List.append_assoc]⟩

/-- Whether characters settle the forms of their capital sigmas, whatever stands around them, given the characters before them
(nearest first). -/
def settlesFrom (seen : List Char) : List Char → Bool
  | [] => true
  | c :: after => (c != capitalSigma || settlesSigma seen after) && settlesFrom (c :: seen) after

/-- Whether a text settles the forms of its capital sigmas itself. -/
def settlesSigmas (text : String) : Bool := settlesFrom [] text.toList

theorem settlesFrom_iff {seen cs : List Char} :
    settlesFrom seen cs = true ↔
      ∀ before after, cs = before ++ capitalSigma :: after → settlesSigma (before.reverse ++ seen) after = true := by
  induction cs generalizing seen with
  | nil => simp [settlesFrom]
  | cons c rest ih =>
    rw [settlesFrom, Bool.and_eq_true, ih, forall_place_cons]
    refine and_congr ?_ (by simp)
    by_cases hc : c = capitalSigma <;> simp [hc]

theorem settlesSigmas_eq_true_iff {text : String} :
    settlesSigmas text = true ↔
      ∀ before after, text.toList = before ++ capitalSigma :: after → settlesSigma before.reverse after = true := by
  have h : settlesFrom [] text.toList = true ↔ _ := settlesFrom_iff
  simpa [settlesSigmas] using h

/-- A text that settles its capital sigmas stands in this way wherever it stands. -/
theorem standsIn_of_settlesSigmas {needle text : String} (hsettles : settlesSigmas needle = true)
    (h : needle.toList <:+: text.toList) : StandsIn needle text := by
  obtain ⟨left, right, htext⟩ := h
  refine ⟨left, right, by rw [← htext, List.append_assoc], fun before after heq => ?_⟩
  exact lowerSigma_append (settlesSigmas_eq_true_iff.1 hsettles before after heq) left.reverse right

/-! ## Text that is missed -/

/-- A list is no part of another one of its length with one more member in front, if it does not begin with that member. -/
theorem not_infix_cons_of_length_eq {α : Type} {xs ys : List α} {x : α} (hlength : xs.length = ys.length) (hne : ys ≠ xs)
    (hhead : xs.head? ≠ some x) : ¬ xs <:+: x :: ys := by
  rw [List.infix_cons_iff]
  rintro (hfront | hpart)
  · cases xs with
    | nil => exact hne (List.length_eq_zero_iff.1 hlength.symm)
    | cons y rest =>
      rw [List.cons_prefix_cons] at hfront
      exact hhead (by rw [hfront.1]; rfl)
  · exact hne (hpart.eq_of_length hlength).symm

/-- The same with one more member at the end. -/
theorem not_infix_concat_of_length_eq {α : Type} {xs ys : List α} {x : α} (hlength : xs.length = ys.length) (hne : ys ≠ xs)
    (hlast : xs.getLast? ≠ some x) : ¬ xs <:+: ys ++ [x] := by
  rw [← List.reverse_infix, List.reverse_append]
  refine not_infix_cons_of_length_eq (by simpa using hlength) (fun h => hne (List.reverse_inj.1 h)) ?_
  rwa [List.head?_reverse]

/-- There is a letter, its own lower-case form, that is not a given one. -/
theorem exists_letter (given : Option Char) :
    ∃ c : Char, given ≠ some c ∧ meetsCased [c] = true ∧ ∀ before after, lowerAt before c after = [c] := by
  have hform : ∀ {c : Char}, c ≠ capitalSigma → c ≠ capitalDottedI → lowerChar c = c → ∀ before after, lowerAt before c after = [c] := by
    intro c hsigma hdotted hlower before after
    rw [lowerAt, if_neg hsigma, if_neg hdotted, hlower]
  by_cases h : given = some 'a'
  · exact ⟨'b', by rw [h]; decide, by decide, hform (by decide) (by decide) (by decide)⟩
  · exact ⟨'a', h, by decide, hform (by decide) (by decide) (by decide)⟩

/-- A text that does not settle its capital sigmas stands in a text in which it is not found: that is itself, with one letter in front
of it or behind it. -/
theorem exists_missed {needle : String} (h : settlesSigmas needle = false) :
    ∃ text : String, needle.toList <:+: text.toList ∧ matchesIn needle text = false := by
  have hnot : ¬ ∀ before after, needle.toList = before ++ capitalSigma :: after → settlesSigma before.reverse after = true := by
    rw [← settlesSigmas_eq_true_iff, h]
    exact Bool.false_ne_true
  simp only [not_forall, Bool.not_eq_true] at hnot
  obtain ⟨before, after, heq, hopen⟩ := hnot
  -- the letter is none that the needle's own form has at that end, so that form does not stand one place further either
  rcases lowerSigma_ne_of_not_settled hopen with hleft | hright
  · obtain ⟨c, hhead, hletter, hform⟩ := exists_letter (lowercase needle.toList).head?
    have hchanged : lowerBetween [c] [] needle.toList ≠ lowercase needle.toList :=
      lowerBetween_ne_lowercase heq (by simpa using hleft c hletter)
    have hlower : lowercase (c :: needle.toList) = c :: lowerBetween [c] [] needle.toList := by
      rw [lowercase, lowerFrom_cons, hform, lowerBetween_nil, List.singleton_append]
    refine ⟨String.ofList (c :: needle.toList), ?_, ?_⟩
    · rw [String.toList_ofList]
      exact List.infix_cons (List.infix_refl _)
    · rw [Bool.eq_false_iff, Ne, matchesIn, occursIn_iff, String.toList_ofList, hlower]
      exact not_infix_cons_of_length_eq (length_lowerBetween_eq_lowercase _ _ _).symm hchanged hhead
  · obtain ⟨c, hlast, hletter, hform⟩ := exists_letter (lowercase needle.toList).getLast?
    have hchanged : lowerBetween [] [c] needle.toList ≠ lowercase needle.toList :=
      lowerBetween_ne_lowercase heq (by simpa using hright c hletter)
    have hlower : lowercase (needle.toList ++ [c]) = lowerBetween [] [c] needle.toList ++ [c] := by
      rw [lowercase, lowerFrom_append, lowerFrom_cons, hform, lowerFrom, List.append_nil]
    refine ⟨String.ofList (needle.toList ++ [c]), ?_, ?_⟩
    · rw [String.toList_ofList]
      exact (List.prefix_append _ _).isInfix
    · rw [Bool.eq_false_iff, Ne, matchesIn, occursIn_iff, String.toList_ofList, hlower]
      exact not_infix_concat_of_length_eq (length_lowerBetween_eq_lowercase _ _ _).symm hchanged hlast

/-- A text settles its capital sigmas exactly if it is found wherever it stands. -/
theorem settlesSigmas_iff {needle : String} :
    settlesSigmas needle = true ↔ ∀ text : String, needle.toList <:+: text.toList → matchesIn needle text = true := by
  constructor
  · intro h text hpart
    exact matchesIn_of_standsIn (standsIn_of_settlesSigmas h hpart)
  · intro h
    cases hsettles : settlesSigmas needle with
    | true => rfl
    | false =>
      obtain ⟨text, hpart, hmissed⟩ := exists_missed hsettles
      rw [h text hpart] at hmissed
      cases hmissed

end Text

/-! ## Text in a value -/

/-- Some text of a value of a question has a property: the text given, or the body of a chosen option, or the text of the respondent's
own that goes with a chosen free-text option. -/
def AnswerValue.Says (q : Question) (P : String → Prop) : AnswerValue → Prop
  | .text body => P body
  | .choices chosen => ∃ choice ∈ chosen, ∃ option, q.option? choice.option = some option ∧
      (P option.body ∨ option.freeText = true ∧ ∃ own, choice.customBody = some own ∧ P own)
  | .sorting _ | .matrix _ => False

/-- Text occurs in a value if it occurs in some text of it. -/
theorem AnswerValue.matchesText_iff {needle : String} {q : Question} {value : AnswerValue} :
    value.matchesText needle q = true ↔ value.Says q fun text => Text.matchesIn needle text = true := by
  cases value with
  | text body => exact Iff.rfl
  | choices chosen =>
    unfold matchesText Says
    rw [List.any_eq_true]
    refine exists_congr fun choice => and_congr_right fun _ => ?_
    cases q.option? choice.option with
    | none => simp
    | some option => simp [Option.any_eq_true]
  | sorting order => simp [matchesText, Says]
  | matrix cells => simp [matchesText, Says]

theorem AnswerValue.Says.imp {q : Question} {P Q : String → Prop} (h : ∀ text, P text → Q text) {value : AnswerValue}
    (hsaid : value.Says q P) : value.Says q Q := by
  cases value with
  | text body => exact h body hsaid
  | choices chosen =>
    obtain ⟨choice, hchoice, option, hoption, hbody | ⟨hfree, own, hown, hP⟩⟩ := hsaid
    · exact ⟨choice, hchoice, option, hoption, Or.inl (h _ hbody)⟩
    · exact ⟨choice, hchoice, option, hoption, Or.inr ⟨hfree, own, hown, h own hP⟩⟩
  | sorting order => exact hsaid
  | matrix cells => exact hsaid

namespace DisplayCondition

variable {c : DisplayCondition} {needle : String}

/-- A condition that matches text holds where the text occurs. -/
theorem holds_matching_iff (htype : c.type = .matching) (htext : c.text = some needle) {q : Question} {value : AnswerValue} :
    c.holds q (some value) = true ↔ value.Says q fun text => Text.matchesIn needle text = true := by
  rw [← AnswerValue.matchesText_iff]
  simp [holds, htype, htext]

/-- Text to match that is literally there is found, but for the capital sigma. In whatever text of a value it stands, it is found if its
capital sigmas take the forms there that they take in it alone. And it is found in every value in which it stands exactly if it settles
these forms itself. -/
theorem literal_text_is_found (htype : c.type = .matching) (htext : c.text = some needle) :
    (∀ (q : Question) (value : AnswerValue), value.Says q (Text.StandsIn needle) → c.holds q (some value) = true) ∧
    (Text.settlesSigmas needle = true ↔
      ∀ (q : Question) (value : AnswerValue), value.Says q (fun text => needle.toList <:+: text.toList) →
        c.holds q (some value) = true) := by
  have hstands : ∀ (q : Question) (value : AnswerValue), value.Says q (Text.StandsIn needle) → c.holds q (some value) = true := by
    intro q value hsaid
    rw [holds_matching_iff htype htext]
    exact hsaid.imp fun _ => Text.matchesIn_of_standsIn
  refine ⟨hstands, ?_, ?_⟩
  · intro hsettles q value hsaid
    exact hstands q value (hsaid.imp fun _ => Text.standsIn_of_settlesSigmas hsettles)
  · intro hfound
    rw [Text.settlesSigmas_iff]
    intro text hpart
    exact (holds_matching_iff htype htext).1 (hfound { id := 1, position := 0, body := "", kind := .longAnswer } (.text text) hpart)

namespace Feasts

/-- A question about feasts, with options and one that is free. -/
def feast : Question :=
  { id := 1, position := 0, body := "Which feasts do you keep?", kind := .multipleOption,
    options := [{ id := 10, body := "ΠΑΣΧΑ" }, { id := 11, body := "Other", freeText := true }] }

/-- A part of a word is found in an option and in text of the respondent's own, though the word it is taken from ends differently; and
what could be a word by itself is found where it is one. -/
theorem feasts_are_found :
    (DisplayCondition.matching 1 "ΣΧΑ").type = .matching ∧ (DisplayCondition.matching 1 "ΣΧΑ").text = some "ΣΧΑ" ∧
    (DisplayCondition.matching 1 "ΣΧΑ").holds feast (some (.ofOptions [10])) = true ∧
    (DisplayCondition.matching 1 "ΣΧΑ").holds feast (some (.ofCustom 11 "ΤΟ ΠΑΣΧΑ")) = true ∧
    (DisplayCondition.matching 1 "ΠΑΣ").holds feast (some (.text "ΤΟ ΠΑΣ!")) = true ∧
    ¬ ∀ (q : Question) (value : AnswerValue), value.Says q (fun text => "ΠΑΣ".toList <:+: text.toList) →
      (DisplayCondition.matching 1 "ΠΑΣ").holds q (some value) = true := by
  obtain ⟨-, hpart⟩ := literal_text_is_found (c := .matching 1 "ΣΧΑ") rfl rfl
  obtain ⟨hword, hwhole⟩ := literal_text_is_found (c := .matching 1 "ΠΑΣ") rfl rfl
  have hsettles : Text.settlesSigmas "ΣΧΑ" = true := by decide +kernel
  refine ⟨rfl, rfl, hpart.1 hsettles _ _ ?_, hpart.1 hsettles _ _ ?_, hword _ _ ?_, ?_⟩
  · exact ⟨{ option := 10 }, by simp, { id := 10, body := "ΠΑΣΧΑ" }, by decide, Or.inl ⟨"ΠΑ".toList, [], by decide⟩⟩
  · exact ⟨{ option := 11, customBody := some "ΤΟ ΠΑΣΧΑ" }, by simp, { id := 11, body := "Other", freeText := true }, by decide,
      Or.inr ⟨rfl, _, rfl, "ΤΟ ΠΑ".toList, [], by decide⟩⟩
  · exact ⟨"ΤΟ ".toList, "!".toList, by decide, Text.lowerBetween_eq_lowercase_iff.1 (by decide +kernel)⟩
  · intro h
    have hnot : Text.settlesSigmas "ΠΑΣ" = true := hwhole.2 h
    revert hnot
    decide +kernel

/-- What stands literally in a text need not be found there: the part ends in a final sigma in lower case, and in the whole that sigma
is an ordinary one. -/
theorem part_of_a_word_is_missed :
    ¬ ∀ (c : DisplayCondition) (q : Question) (needle text : String), c.type = .matching → c.text = some needle →
      needle.toList <:+: text.toList → c.holds q (some (.text text)) = true := by
  intro h
  have hfound := h (.matching 1 "ΠΑΣ") feast "ΠΑΣ" "ΠΑΣΧΑ" rfl rfl ⟨[], "ΧΑ".toList, by decide⟩
  revert hfound
  decide +kernel

end Feasts

end DisplayCondition

end Survey
