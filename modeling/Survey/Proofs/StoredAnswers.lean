import Survey.Proofs.AcceptedValues
import Survey.Proofs.SortedOnce
import Survey.Submission.Compile

/-!
# How accepted values are stored

Values come in any order and may repeat themselves; what is stored of them does not. Chosen options stand in the order of the
question's options, each once (`Question.storeChoices_ascending`) and as it was chosen first (`Question.mem_storeChoices`), a ranking lists
every option with its place, and cells stand row by row (`Question.storeCells_ascending`). So what is said of a value by counting its
different members can be read off the stored answer.

Order and number do not depend on identifiers being different. Where those of the options and of the rows are, what is stored is what a
walk over the options (`Question.storeChoices_eq_filterMap`), or over the rows and the options (`Question.storeCells_eq_flatMap`), finds
chosen.
-/

namespace Survey

/-- Members with different keys stand in the order of the places at which their keys are found. -/
theorem pairwise_findIdx?_key {α κ : Type} [DecidableEq κ] {key : α → κ} {xs : List α} (hn : (xs.map key).Nodup) :
    xs.Pairwise fun x y => ∃ i j, xs.findIdx? (fun z => key z = key x) = some i ∧
      xs.findIdx? (fun z => key z = key y) = some j ∧ i < j := by
  have hplace : ∀ (i : Nat) (hi : i < xs.length), xs.findIdx? (fun z => key z = key xs[i]) = some i := by
    intro i hi
    exact (findIdx?_key_eq_some_iff hn).2 (by simp [hi])
  exact List.pairwise_iff_getElem.2 fun i j hi hj hij => ⟨i, j, hplace i hi, hplace j hj, hij⟩

namespace Question

variable {q : Question} {x y stored : StoredChoice}

/-! ## Order -/

/-- One stored choice names an option that stands before the option another names. -/
def OptionBefore (q : Question) (x y : StoredChoice) : Prop :=
  ∃ i j, q.optionIndex? x.option = some i ∧ q.optionIndex? y.option = some j ∧ i < j

/-- One stored choice lies in an earlier row than another, or in the same row under an earlier option. -/
def CellBefore (q : Question) (x y : StoredChoice) : Prop :=
  ∃ i j, x.row.bind q.rowIndex? = some i ∧ y.row.bind q.rowIndex? = some j ∧ (i < j ∨ i = j ∧ q.OptionBefore x y)

theorem OptionBefore.asymm (h : q.OptionBefore x y) : ¬ q.OptionBefore y x := by
  rintro ⟨j', i', hj', hi', hgt⟩
  obtain ⟨i, j, hi, hj, hlt⟩ := h
  cases hi.symm.trans hi'
  cases hj.symm.trans hj'
  exact Nat.lt_asymm hlt hgt

theorem OptionBefore.option_ne (h : q.OptionBefore x y) : x.option ≠ y.option := by
  obtain ⟨i, j, hi, hj, hlt⟩ := h
  intro heq
  rw [heq, hj] at hi
  cases hi
  exact Nat.lt_irrefl _ hlt

theorem CellBefore.asymm (h : q.CellBefore x y) : ¬ q.CellBefore y x := by
  rintro ⟨j', i', hj', hi', hgt⟩
  obtain ⟨i, j, hi, hj, hlt⟩ := h
  cases hi.symm.trans hi'
  cases hj.symm.trans hj'
  rcases hlt with hlt | ⟨rfl, hlt⟩ <;> rcases hgt with hgt | ⟨_, hgt⟩
  · exact Nat.lt_asymm hlt hgt
  · omega
  · omega
  · exact hlt.asymm hgt

theorem CellBefore.optionBefore (h : q.CellBefore x y) (hrow : x.row = y.row) : q.OptionBefore x y := by
  obtain ⟨i, j, hi, hj, hlt | ⟨_, hoption⟩⟩ := h
  · rw [hrow, hj] at hi
    cases hi
    exact absurd hlt (Nat.lt_irrefl _)
  · exact hoption

/-- Stored choices in the order of their options name each option once. -/
theorem nodup_options {choices : List StoredChoice} (h : choices.Pairwise q.OptionBefore) : (choices.map (·.option)).Nodup :=
  List.pairwise_map.2 (h.imp OptionBefore.option_ne)

/-! ## Places -/

theorem comparesPlaces_le : ComparesPlaces fun i j : Nat => i ≤ j where
  trans _ _ _ hij hjk := decide_eq_true (Nat.le_trans (of_decide_eq_true hij) (of_decide_eq_true hjk))
  total i j := (Nat.le_total i j).imp decide_eq_true decide_eq_true
  antisymm _ _ hij hji := Nat.le_antisymm (of_decide_eq_true hij) (of_decide_eq_true hji)

theorem rowThenOption_iff {a b : Nat × Nat} : rowThenOption a b = true ↔ a.1 < b.1 ∨ a.1 = b.1 ∧ a.2 ≤ b.2 := by
  simp [rowThenOption]

theorem comparesPlaces_rowThenOption : ComparesPlaces rowThenOption where
  trans a b c := by
    simp only [rowThenOption_iff]
    omega
  total a b := by
    simp only [rowThenOption_iff]
    omega
  antisymm a b := by
    simp only [rowThenOption_iff]
    intro hab hba
    exact Prod.ext (by omega) (by omega)

/-- An option is found at its place. -/
theorem option?_eq_getElem? (q : Question) (id : OptionId) : q.option? id = (q.optionIndex? id).bind (q.options[·]?) :=
  List.find?_eq_bind_findIdx?_getElem?

/-- What has a place is found, and what is found has a place. -/
theorem exists_optionIndex?_iff {id : OptionId} :
    (∃ place, q.optionIndex? id = some place) ↔ ∃ option, q.option? id = some option := by
  rw [← Option.isSome_iff_exists, ← Option.isSome_iff_exists, optionIndex?, option?, List.findIdx?_isSome, List.isSome_find?]

theorem exists_option?_iff {id : OptionId} : (∃ option, q.option? id = some option) ↔ id ∈ q.options.map (·.id) := by
  rw [← Option.ne_none_iff_exists', ne_eq, option?_eq_none_iff, Decidable.not_not]

theorem exists_rowIndex?_iff {id : RowId} : (∃ place, q.rowIndex? id = some place) ↔ id ∈ q.rows.map (·.id) := by
  rw [← Option.ne_none_iff_exists', ne_eq, rowIndex?_eq_none_iff, Decidable.not_not]

/-! ## Chosen options -/

/-- A choice is put at the place of its option. -/
theorem placeChoice?_eq_some_iff {choice : Choice} {place : Nat} :
    q.placeChoice? choice = some (place, stored) ↔ q.optionIndex? choice.option = some place ∧
      ∃ option, q.option? choice.option = some option ∧ storeChoice option choice = stored := by
  rw [option?_eq_getElem?]
  cases hplace : q.optionIndex? choice.option with
  | none => simp [placeChoice?, hplace]
  | some i =>
    simp only [placeChoice?, hplace, Option.bind_eq_bind, Option.bind_some, Option.bind_eq_some_iff, Option.pure_def,
      Option.some.injEq, Prod.mk.injEq]
    constructor
    · rintro ⟨option, hfound, hi, hstored⟩
      exact ⟨hi, option, hfound, hstored⟩
    · rintro ⟨hi, option, hfound, hstored⟩
      exact ⟨option, hfound, hi, hstored⟩

/-- The choices put at the place of an option are those of it. -/
theorem any_placeChoice? {id : OptionId} {place : Nat} (hplace : q.optionIndex? id = some place) (choice : Choice) :
    (q.placeChoice? choice).any (·.1 = place) = decide (choice.option = id) := by
  rw [Bool.eq_iff_iff, Option.any_eq_true, decide_eq_true_iff]
  constructor
  · rintro ⟨⟨own, _⟩, hplaced, hown⟩
    have hown : own = place := by simpa using hown
    subst hown
    exact findIdx?_key_inj (placeChoice?_eq_some_iff.1 hplaced).1 hplace
  · rintro rfl
    obtain ⟨option, hfound⟩ := exists_optionIndex?_iff.1 ⟨place, hplace⟩
    exact ⟨(place, storeChoice option choice), placeChoice?_eq_some_iff.2 ⟨hplace, option, hfound, rfl⟩, by simp⟩

/-- Stored are the first choices of the options. -/
theorem mem_storeChoices {chosen : List Choice} :
    stored ∈ q.storeChoices chosen ↔ ∃ option choice, q.option? option.id = some option ∧
      chosen.find? (·.option = option.id) = some choice ∧ storeChoice option choice = stored := by
  -- what sorting and leaving out have left at a place is what was first put there
  have hplaced : stored ∈ q.storeChoices chosen ↔ ∃ place choice,
      chosen.find? (fun choice => (q.placeChoice? choice).any (·.1 = place)) = some choice ∧
        q.placeChoice? choice = some (place, stored) := by
    simp only [storeChoices, List.mem_map, Prod.exists, exists_eq_right, mem_sortOnce_iff comparesPlaces_le, List.find?_filterMap,
      Option.bind_eq_some_iff]
  rw [hplaced]
  constructor
  · rintro ⟨place, choice, hfirst, hchoice⟩
    obtain ⟨hplace, option, hfound, rfl⟩ := placeChoice?_eq_some_iff.1 hchoice
    have hid : option.id = choice.option := key_of_find? hfound
    rw [← hid] at hplace hfound
    rw [funext (any_placeChoice? hplace)] at hfirst
    exact ⟨option, choice, hfound, hfirst, rfl⟩
  · rintro ⟨option, choice, hfound, hfirst, rfl⟩
    obtain ⟨place, hplace⟩ := exists_optionIndex?_iff.2 ⟨option, hfound⟩
    have hid : choice.option = option.id := key_of_find? hfirst
    refine ⟨place, choice, ?_, placeChoice?_eq_some_iff.2 ⟨hid ▸ hplace, option, hid ▸ hfound, rfl⟩⟩
    rw [funext (any_placeChoice? hplace)]
    exact hfirst

/-- Each choice stored is one that was made, of an option of the question. -/
theorem exists_choice_of_mem_storeChoices {chosen : List Choice} (h : stored ∈ q.storeChoices chosen) :
    ∃ option ∈ q.options, ∃ choice ∈ chosen, choice.option = option.id ∧ storeChoice option choice = stored := by
  obtain ⟨option, choice, hoption, hfound, heq⟩ := mem_storeChoices.1 h
  exact ⟨option, List.mem_of_find?_eq_some hoption, choice, List.mem_of_find?_eq_some hfound, key_of_find? hfound, heq⟩

/-- Of an option that is chosen some choice is stored. -/
theorem exists_storeChoice_mem {chosen : List Choice} {choice : Choice} (hchoice : choice ∈ chosen) {option : AnswerOption}
    (hoption : q.option? option.id = some option) (hid : choice.option = option.id) :
    ∃ first ∈ chosen, first.option = option.id ∧ storeChoice option first ∈ q.storeChoices chosen := by
  obtain ⟨first, hfound⟩ : ∃ first, chosen.find? (·.option = option.id) = some first := by
    rw [← Option.isSome_iff_exists, List.find?_isSome]
    exact ⟨choice, hchoice, by simp [hid]⟩
  exact ⟨first, List.mem_of_find?_eq_some hfound, key_of_find? hfound,
    mem_storeChoices.2 ⟨option, first, hoption, hfound, rfl⟩⟩

/-- A choice of an option that is not free is stored without text. -/
theorem customBody_storeChoice_of_not_free {option : AnswerOption} {choice : Choice} (hfree : option.freeText = false) :
    (storeChoice option choice).customBody = none := by
  simp [storeChoice, hfree]

/-- A choice of a free option that does not lack text is stored with the text it has, which says something. -/
theorem customBody_storeChoice_of_free (hn : (q.options.map (·.id)).Nodup) {option : AnswerOption} (ho : option ∈ q.options)
    {choice : Choice} (hid : choice.option = option.id) (hfree : option.freeText = true)
    (htext : q.lacksCustomText choice = false) :
    ∃ text, choice.customBody = some text ∧ Text.isBlank text = false ∧ (storeChoice option choice).customBody = some text := by
  obtain ⟨text, hbody, hblank⟩ := (lacksCustomText_eq_false_iff hn).1 htext option ho hid.symm hfree
  exact ⟨text, hbody, hblank, by simp [storeChoice, hbody, hfree, hblank]⟩

/-- Chosen options are stored in the order of the question's options. -/
theorem storeChoices_ascending (q : Question) (chosen : List Choice) : (q.storeChoices chosen).Pairwise q.OptionBefore := by
  have hplace : ∀ x ∈ sortOnce (fun i j => i ≤ j) (chosen.filterMap q.placeChoice?), q.optionIndex? x.2.option = some x.1 := by
    intro x hx
    obtain ⟨choice, _, hchoice⟩ := List.mem_filterMap.1 (List.mem_of_find?_eq_some ((mem_sortOnce_iff comparesPlaces_le).1 hx))
    obtain ⟨hplace, option, hfound, hstored⟩ := placeChoice?_eq_some_iff.1 hchoice
    have hid : option.id = choice.option := key_of_find? hfound
    rw [← hstored]
    exact (congrArg q.optionIndex? hid).trans hplace
  refine List.pairwise_map.2 ((sortOnce_ascending comparesPlaces_le _).imp_of_mem fun {x y} hx hy hlt => ?_)
  exact ⟨x.1, y.1, hplace x hx, hplace y hy, Nat.lt_of_le_of_ne (of_decide_eq_true hlt.1) hlt.2⟩

/-- A walk over the options of the question, each with an identifier of its own, finds what is stored of them. -/
theorem storeChoices_eq_filterMap (hn : (q.options.map (·.id)).Nodup) (chosen : List Choice) :
    q.storeChoices chosen =
      q.options.filterMap fun option => (chosen.find? (·.option = option.id)).map (storeChoice option) := by
  refine eq_of_pairwise_of_mem_iff (fun _ _ => OptionBefore.asymm) (q.storeChoices_ascending chosen) ?_ fun stored => ?_
  · refine List.pairwise_filterMap.2 ((pairwise_findIdx?_key hn).imp ?_)
    rintro a b hab x hx y hy
    obtain ⟨_, _, rfl⟩ := Option.map_eq_some_iff.1 hx
    obtain ⟨_, _, rfl⟩ := Option.map_eq_some_iff.1 hy
    exact hab
  · rw [mem_storeChoices]
    simp only [option?_eq_some_iff hn, and_true, List.mem_filterMap, Option.map_eq_some_iff, exists_and_left]

/-- Choices of which the same are the first of their options are stored alike. -/
theorem storeChoices_congr {xs ys : List Choice} (h : ∀ id, xs.find? (·.option = id) = ys.find? (·.option = id)) :
    q.storeChoices xs = q.storeChoices ys := by
  refine eq_of_pairwise_of_mem_iff (fun _ _ => OptionBefore.asymm) (q.storeChoices_ascending xs) (q.storeChoices_ascending ys) ?_
  intro stored
  simp only [mem_storeChoices, h]

/-- The options stored are those of the question that were chosen. -/
theorem mem_options_storeChoices_iff {chosen : List Choice} {id : OptionId} :
    id ∈ (q.storeChoices chosen).map (·.option) ↔ id ∈ q.options.map (·.id) ∧ id ∈ chosen.map (·.option) := by
  constructor
  · intro h
    obtain ⟨stored, hstored, rfl⟩ := List.mem_map.1 h
    obtain ⟨option, hoption, choice, hchoice, hid, rfl⟩ := exists_choice_of_mem_storeChoices hstored
    exact ⟨List.mem_map_of_mem hoption, List.mem_map.2 ⟨choice, hchoice, hid⟩⟩
  · rintro ⟨hknown, hchosen⟩
    obtain ⟨choice, hchoice, rfl⟩ := List.mem_map.1 hchosen
    obtain ⟨option, hfound⟩ := exists_option?_iff.2 hknown
    have hid : option.id = choice.option := key_of_find? hfound
    obtain ⟨first, _, _, hstored⟩ := exists_storeChoice_mem hchoice (hid ▸ hfound) hid.symm
    exact List.mem_map.2 ⟨storeChoice option first, hstored, hid⟩

/-- Of known options those that were chosen are stored. -/
theorem mem_options_storeChoices {chosen : List Choice} (hknown : ∀ choice ∈ chosen, choice.option ∈ q.options.map (·.id))
    (id : OptionId) : id ∈ (q.storeChoices chosen).map (·.option) ↔ id ∈ chosen.map (·.option) := by
  rw [mem_options_storeChoices_iff, and_iff_right_iff_imp]
  intro h
  obtain ⟨choice, hchoice, rfl⟩ := List.mem_map.1 h
  exact hknown choice hchoice

/-- As many choices are stored as there are different options chosen. -/
theorem length_storeChoices {chosen : List Choice} (hknown : ∀ choice ∈ chosen, choice.option ∈ q.options.map (·.id)) :
    (q.storeChoices chosen).length = countDistinct (chosen.map (·.option)) := by
  have hcount := countDistinct_eq_length (nodup_options (q.storeChoices_ascending chosen)) fun id =>
    (mem_options_storeChoices hknown id).symm
  rw [hcount, List.length_map]

/-! ## Rankings -/

/-- The options found under some identifiers are those of the question among them. -/
theorem map_id_filterMap_option? (q : Question) (order : List OptionId) :
    (order.filterMap q.option?).map (·.id) = order.filter (· ∈ q.options.map (·.id)) := by
  induction order with
  | nil => rfl
  | cons id rest ih =>
    cases hfound : q.option? id with
    | none =>
      have hunknown : id ∉ q.options.map (·.id) := option?_eq_none_iff.1 hfound
      rw [List.filterMap_cons_none hfound, List.filter_cons_of_neg (by simpa using hunknown), ih]
    | some option =>
      have hid : option.id = id := key_of_find? hfound
      have hknown : id ∈ q.options.map (·.id) := hid ▸ List.mem_map_of_mem (List.mem_of_find?_eq_some hfound)
      rw [List.filterMap_cons_some hfound, List.map_cons, List.filter_cons_of_pos (by simpa using hknown), ih, hid]

theorem exists_of_mem_storeOrder {order : List OptionId} (h : stored ∈ q.storeOrder order) :
    ∃ place, ∃ option ∈ q.options,
      ({ option := option.id, body := option.body, position := some (UInt32.ofNat place) } : StoredChoice) = stored := by
  obtain ⟨place, hplace, rfl⟩ := List.mem_mapIdx.1 h
  obtain ⟨_, _, hfound⟩ := List.mem_filterMap.1 (List.getElem_mem hplace)
  exact ⟨place, _, List.mem_of_find?_eq_some hfound, rfl⟩

/-- A ranking is stored in its order, without the options that the question does not have. -/
theorem map_option_storeOrder_eq_filter (q : Question) (order : List OptionId) :
    (q.storeOrder order).map (·.option) = order.filter (· ∈ q.options.map (·.id)) := by
  rw [← map_id_filterMap_option?]
  refine List.ext_getElem (by simp [storeOrder]) fun i hi hi' => ?_
  simp [storeOrder]

/-- A ranking of known options is stored in its order. -/
theorem map_option_storeOrder {order : List OptionId} (hknown : ∀ id ∈ order, id ∈ q.options.map (·.id)) :
    (q.storeOrder order).map (·.option) = order := by
  rw [map_option_storeOrder_eq_filter]
  exact List.filter_eq_self.2 fun id hid => by simpa using hknown id hid

/-- No more options are stored of a ranking than it lists. -/
theorem length_storeOrder_le (q : Question) (order : List OptionId) : (q.storeOrder order).length ≤ order.length := by
  simpa [storeOrder] using List.length_filterMap_le q.option? order

/-- The options of a ranking are stored with their places among those stored, as far as these are numbers of 32 bits. -/
theorem map_position_storeOrder_eq_range {order : List OptionId} (hshort : order.length ≤ UInt32.size) :
    (q.storeOrder order).map (fun stored => stored.position.map (·.toNat)) = (List.range (q.storeOrder order).length).map some := by
  have hle := length_storeOrder_le q order
  refine List.ext_getElem (by simp) fun i hi hi' => ?_
  have hi'' : i < UInt32.size := by
    rw [List.length_map] at hi
    omega
  simp [storeOrder, UInt32.toNat_ofNat_of_lt' hi'']

/-- The options of a ranking of known options are stored with their places in it. -/
theorem map_position_storeOrder {order : List OptionId} (hknown : ∀ id ∈ order, id ∈ q.options.map (·.id))
    (hshort : order.length ≤ UInt32.size) :
    (q.storeOrder order).map (fun stored => stored.position.map (·.toNat)) = (List.range order.length).map some := by
  have hlength : (q.storeOrder order).length = order.length := by
    conv_rhs => rw [← map_option_storeOrder hknown, List.length_map]
  rw [map_position_storeOrder_eq_range hshort, hlength]

/-! ## Cells -/

/-- A cell is put at the places of its row and its option. -/
theorem placeCell?_eq_some_iff {cell : MatrixCell} {place : Nat × Nat} :
    q.placeCell? cell = some (place, stored) ↔ q.rowIndex? cell.row = some place.1 ∧ q.optionIndex? cell.option = some place.2 ∧
      ∃ option, q.option? cell.option = some option ∧
        ({ option := cell.option, body := option.body, row := some cell.row } : StoredChoice) = stored := by
  obtain ⟨row, column⟩ := place
  rw [option?_eq_getElem?]
  cases hrow : q.rowIndex? cell.row with
  | none => simp [placeCell?, hrow]
  | some i =>
    cases hcolumn : q.optionIndex? cell.option with
    | none => simp [placeCell?, hrow, hcolumn]
    | some j =>
      simp only [placeCell?, hrow, hcolumn, Option.bind_eq_bind, Option.bind_some, Option.bind_eq_some_iff, Option.pure_def,
        Option.some.injEq, Prod.mk.injEq]
      constructor
      · rintro ⟨option, hfound, ⟨hi, hj⟩, hstored⟩
        exact ⟨hi, hj, option, hfound, hstored⟩
      · rintro ⟨hi, hj, option, hfound, hstored⟩
        exact ⟨option, hfound, ⟨hi, hj⟩, hstored⟩

/-- Cells that are put at the same place are one cell. -/
theorem eq_of_placeCell? {a b : MatrixCell} {x y : (Nat × Nat) × StoredChoice} (ha : q.placeCell? a = some x)
    (hb : q.placeCell? b = some y) (h : x.1 = y.1) : a = b := by
  obtain ⟨place, _⟩ := x
  obtain ⟨_, _⟩ := y
  cases h
  obtain ⟨harow, haoption, _⟩ := placeCell?_eq_some_iff.1 ha
  obtain ⟨hbrow, hboption, _⟩ := placeCell?_eq_some_iff.1 hb
  have hrow : a.row = b.row := findIdx?_key_inj harow hbrow
  have hoption : a.option = b.option := findIdx?_key_inj haoption hboption
  cases a
  cases b
  cases hrow
  cases hoption
  rfl

/-- So no cell is left out but for its repetitions. -/
theorem mem_sortOnce_placeCell? {cells : List MatrixCell} {x : (Nat × Nat) × StoredChoice} :
    x ∈ sortOnce rowThenOption (cells.filterMap q.placeCell?) ↔ ∃ cell ∈ cells, q.placeCell? cell = some x := by
  rw [mem_sortOnce_iff_mem comparesPlaces_rowThenOption, List.mem_filterMap]
  intro x hx y hy hplace
  obtain ⟨a, _, ha⟩ := List.mem_filterMap.1 hx
  obtain ⟨b, _, hb⟩ := List.mem_filterMap.1 hy
  cases eq_of_placeCell? ha hb hplace
  exact Option.some.inj (ha.symm.trans hb)

/-- Stored are the cells whose row and option the question has. -/
theorem mem_storeCells {cells : List MatrixCell} :
    stored ∈ q.storeCells cells ↔ ∃ row ∈ q.rows, ∃ option, q.option? option.id = some option ∧ ⟨row.id, option.id⟩ ∈ cells ∧
      ({ option := option.id, body := option.body, row := some row.id } : StoredChoice) = stored := by
  have hplaced : stored ∈ q.storeCells cells ↔ ∃ cell ∈ cells, ∃ place, q.placeCell? cell = some (place, stored) := by
    simp only [storeCells, List.mem_map, mem_sortOnce_placeCell?]
    constructor
    · rintro ⟨⟨place, _⟩, ⟨cell, hcell, hplace⟩, rfl⟩
      exact ⟨cell, hcell, place, hplace⟩
    · rintro ⟨cell, hcell, place, hplace⟩
      exact ⟨(place, stored), ⟨cell, hcell, hplace⟩, rfl⟩
  rw [hplaced]
  constructor
  · rintro ⟨⟨row, id⟩, hcell, place, hplace⟩
    obtain ⟨hrow, _, option, hfound, rfl⟩ := placeCell?_eq_some_iff.1 hplace
    obtain ⟨own, hown, rfl⟩ := List.mem_map.1 (exists_rowIndex?_iff.1 ⟨_, hrow⟩)
    obtain rfl : option.id = id := key_of_find? hfound
    exact ⟨own, hown, option, hfound, hcell, rfl⟩
  · rintro ⟨row, hrow, option, hfound, hcell, rfl⟩
    obtain ⟨i, hi⟩ := exists_rowIndex?_iff.2 (List.mem_map_of_mem hrow)
    obtain ⟨j, hj⟩ := exists_optionIndex?_iff.2 ⟨option, hfound⟩
    exact ⟨_, hcell, (i, j), placeCell?_eq_some_iff.2 ⟨hi, hj, option, hfound, rfl⟩⟩

/-- Each cell stored lies in a row of the question and carries an option of it. -/
theorem exists_of_mem_storeCells {cells : List MatrixCell} (h : stored ∈ q.storeCells cells) :
    ∃ row ∈ q.rows, ∃ option ∈ q.options,
      ({ option := option.id, body := option.body, row := some row.id } : StoredChoice) = stored := by
  obtain ⟨row, hrow, option, hfound, _, rfl⟩ := mem_storeCells.1 h
  exact ⟨row, hrow, option, List.mem_of_find?_eq_some hfound, rfl⟩

/-- Cells are stored row by row. -/
theorem storeCells_ascending (q : Question) (cells : List MatrixCell) : (q.storeCells cells).Pairwise q.CellBefore := by
  have hplaces : ∀ x ∈ sortOnce rowThenOption (cells.filterMap q.placeCell?),
      x.2.row.bind q.rowIndex? = some x.1.1 ∧ q.optionIndex? x.2.option = some x.1.2 := by
    intro x hx
    obtain ⟨cell, _, hplaced⟩ := mem_sortOnce_placeCell?.1 hx
    obtain ⟨hrow, hplace, _, _, hstored⟩ := placeCell?_eq_some_iff.1 hplaced
    rw [← hstored]
    exact ⟨hrow, hplace⟩
  refine List.pairwise_map.2 ((sortOnce_ascending comparesPlaces_rowThenOption _).imp_of_mem fun {x y} hx hy hlt => ?_)
  obtain ⟨hxrow, hxoption⟩ := hplaces x hx
  obtain ⟨hyrow, hyoption⟩ := hplaces y hy
  refine ⟨x.1.1, y.1.1, hxrow, hyrow, (rowThenOption_iff.1 hlt.1).imp_right ?_⟩
  rintro ⟨hrow, hle⟩
  exact ⟨hrow, x.1.2, y.1.2, hxoption, hyoption, Nat.lt_of_le_of_ne hle fun hoption => hlt.2 (Prod.ext hrow hoption)⟩

/-- A walk over the rows, and in each row over the options, finds what is stored of the cells if rows and options have identifiers of their
own. -/
theorem storeCells_eq_flatMap (hn : (q.options.map (·.id)).Nodup) (hrn : (q.rows.map (·.id)).Nodup) (cells : List MatrixCell) :
    q.storeCells cells = q.rows.flatMap fun row =>
      (q.options.filter fun option => cells.contains ⟨row.id, option.id⟩).map fun option =>
        { option := option.id, body := option.body, row := some row.id } := by
  refine eq_of_pairwise_of_mem_iff (fun _ _ => CellBefore.asymm) (q.storeCells_ascending cells) ?_ fun stored => ?_
  · refine List.pairwise_flatMap.2 ⟨fun row hrow => ?_, (pairwise_findIdx?_key hrn).imp ?_⟩
    · obtain ⟨i, hi⟩ := exists_rowIndex?_iff.2 (List.mem_map_of_mem hrow)
      exact List.pairwise_map.2 (((pairwise_findIdx?_key hn).filter _).imp fun hlt => ⟨i, i, hi, hi, Or.inr ⟨rfl, hlt⟩⟩)
    · rintro a b ⟨i, j, hi, hj, hlt⟩ x hx y hy
      obtain ⟨_, _, rfl⟩ := List.mem_map.1 hx
      obtain ⟨_, _, rfl⟩ := List.mem_map.1 hy
      exact ⟨i, j, hi, hj, Or.inl hlt⟩
  · rw [mem_storeCells]
    simp only [option?_eq_some_iff hn, and_true, List.mem_flatMap, List.mem_map, List.mem_filter, List.contains_iff_mem, and_assoc]

/-- Cells that are the same but for order and repetitions are stored alike. -/
theorem storeCells_congr {xs ys : List MatrixCell} (h : ∀ cell, cell ∈ xs ↔ cell ∈ ys) : q.storeCells xs = q.storeCells ys := by
  refine eq_of_pairwise_of_mem_iff (fun _ _ => CellBefore.asymm) (q.storeCells_ascending xs) (q.storeCells_ascending ys) ?_
  intro stored
  simp only [mem_storeCells, h]

/-- The cells stored are those chosen whose row and option the question has. -/
theorem exists_storeCells_iff {cells : List MatrixCell} {cell : MatrixCell} :
    (∃ stored ∈ q.storeCells cells, stored.row = some cell.row ∧ stored.option = cell.option) ↔
      cell ∈ cells ∧ cell.row ∈ q.rows.map (·.id) ∧ cell.option ∈ q.options.map (·.id) := by
  constructor
  · rintro ⟨stored, hstored, hrow, hoption⟩
    obtain ⟨row, hmem, option, hfound, hcell, rfl⟩ := mem_storeCells.1 hstored
    have hrow : row.id = cell.row := Option.some.inj hrow
    have hoption : option.id = cell.option := hoption
    have hknown := List.mem_map_of_mem (f := (·.id)) (List.mem_of_find?_eq_some hfound)
    rw [hrow, hoption] at hcell
    exact ⟨hcell, hrow ▸ List.mem_map_of_mem hmem, hoption ▸ hknown⟩
  · rintro ⟨hcell, hrows, hoptions⟩
    obtain ⟨option, hfound⟩ := exists_option?_iff.2 hoptions
    obtain ⟨row, hrow, hrid⟩ := List.mem_map.1 hrows
    have hid : option.id = cell.option := key_of_find? hfound
    rw [← hid] at hfound
    refine ⟨_, mem_storeCells.2 ⟨row, hrow, option, hfound, ?_, rfl⟩, by simp [hrid], hid⟩
    rw [hrid, hid]
    exact hcell

/-- Of known cells those that were chosen are stored. -/
theorem mem_storeCells_iff {cells : List MatrixCell} (hoptions : ∀ cell ∈ cells, cell.option ∈ q.options.map (·.id))
    (hrows : ∀ cell ∈ cells, cell.row ∈ q.rows.map (·.id)) (cell : MatrixCell) :
    (∃ stored ∈ q.storeCells cells, stored.row = some cell.row ∧ stored.option = cell.option) ↔ cell ∈ cells := by
  rw [exists_storeCells_iff, and_iff_left_iff_imp]
  exact fun hcell => ⟨hrows cell hcell, hoptions cell hcell⟩

/-- As many choices are stored with a row as there are different options chosen in it. -/
theorem length_storeCells {cells : List MatrixCell} (hoptions : ∀ cell ∈ cells, cell.option ∈ q.options.map (·.id))
    (hrows : ∀ cell ∈ cells, cell.row ∈ q.rows.map (·.id)) (row : RowId) :
    ((q.storeCells cells).filter (·.row = some row)).length = countDistinct (rowOptions cells row) := by
  have hascending : ((q.storeCells cells).filter (·.row = some row)).Pairwise q.OptionBefore := by
    refine ((q.storeCells_ascending cells).filter _).imp_of_mem fun {x y} hx hy hxy => ?_
    have hx : x.row = some row := by simpa using (List.mem_filter.1 hx).2
    have hy : y.row = some row := by simpa using (List.mem_filter.1 hy).2
    exact hxy.optionBefore (hx.trans hy.symm)
  have hmembers : ∀ id, id ∈ rowOptions cells row ↔ id ∈ ((q.storeCells cells).filter (·.row = some row)).map (·.option) := by
    intro id
    have hcell := mem_storeCells_iff hoptions hrows ⟨row, id⟩
    simp only [rowOptions, List.mem_map, List.mem_filter, decide_eq_true_eq, and_assoc]
    rw [hcell]
    constructor
    · rintro ⟨⟨_, _⟩, hmem, rfl, rfl⟩
      exact hmem
    · intro hmem
      exact ⟨⟨row, id⟩, hmem, rfl, rfl⟩
  rw [countDistinct_eq_length (nodup_options hascending) hmembers, List.length_map]

end Question

end Survey
