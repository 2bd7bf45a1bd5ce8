import Survey.Record.Ident

/-!
# Reading what was written, field by field

A record is written field by field, some of which may be left out, and read by the names of its fields. Here is what each way of
writing a field leaves for the way of reading that goes with it: what is always written is there, what is left out where there is
nothing is read as nothing, and no field is mistaken for another.
-/

namespace Survey

namespace Json

/-! ## Names of fields -/

/-- Fields are written in the order of names, each at most once. -/
def Named (fields : List Field) (names : List String) : Prop := (fields.map (·.1)).Sublist names

namespace Named

variable {α : Type} {fields : List Field} {names : List String} {name : String}

theorem nil : Named [] [] := List.Sublist.slnil

theorem field {v : Json} (h : Named fields names) : Named ((name, v) :: fields) (name :: names) := h.cons_cons name

/-- A field that may be left out stands in its place or is passed over. -/
theorem optional {form : α → Json} {x : Option α} (h : Named fields names) :
    Named (optionalField name form x ++ fields) (name :: names) := by
  cases x with
  | none => exact h.cons name
  | some x => exact h.field

theorem list {form : α → Json} {xs : List α} (h : Named fields names) :
    Named (listField name form xs ++ fields) (name :: names) := by
  cases xs with
  | nil => exact h.cons name
  | cons x xs => exact h.field

/-- The last field may be left out as well. -/
theorem lastOptional {form : α → Json} {x : Option α} : Named (optionalField name form x) [name] := by
  cases x with
  | none => exact List.nil_sublist _
  | some x => exact nil.field

theorem lastList {form : α → Json} {xs : List α} : Named (listField name form xs) [name] := by
  cases xs with
  | nil => exact List.nil_sublist _
  | cons x xs => exact nil.field

end Named

/-- The fields of a record are those written, where all have names of the record and none stands twice. -/
theorem fields?_record {names : List String} (hn : names.Nodup) {fields : List Field} (h : Named fields names) :
    fields? names (record fields) = some fields := by
  have hkeys : (fields.map fun field => (({ text := field.1 } : Key), field.2)).map (fun member => (member.1.text, member.2)) =
      fields := by
    rw [List.map_map]
    exact List.map_id fields
  have hknown : fields.filter (fun field => names.contains field.1) = fields := by
    refine List.filter_eq_self.2 fun field hfield => ?_
    rw [List.contains_iff_mem]
    exact h.subset (List.mem_map_of_mem hfield)
  simp only [record, fields?, hkeys, hknown]
  exact if_pos (h.nodup hn)

/-! ## Looking for a field -/

section Looking

variable {α : Type} {name other : String}

@[simp]
theorem field?_nil : field? name [] = none := rfl

@[simp]
theorem field?_cons {v : Json} {fields : List Field} :
    field? name ((other, v) :: fields) = if other = name then some v else field? name fields := by
  by_cases h : other = name <;> simp [field?, h]

@[simp]
theorem field?_append {xs ys : List Field} : field? name (xs ++ ys) = (field? name xs).or (field? name ys) := by
  simp [field?, List.find?_append, Option.map_or]

@[simp]
theorem field?_optionalField {form : α → Json} {x : Option α} :
    field? name (optionalField other form x) = if other = name then x.map form else none := by
  cases x <;> simp [optionalField]

@[simp]
theorem field?_listField {form : α → Json} {xs : List α} :
    field? name (listField other form xs) = if other = name then (if xs = [] then none else some (ofList form xs)) else none := by
  cases xs <;> simp [listField]

end Looking

/-! ## Reading what a field holds -/

section Reading

variable {α : Type} {form : α → Json} {read : Json → Option α} {name : String} {fields : List Field}

@[simp]
theorem text?_text (s : String) : text? (.text s) = some s := rfl

@[simp]
theorem bool?_bool (b : Bool) : bool? (.bool b) = some b := rfl

@[simp]
theorem word32?_ofWord32 (n : UInt32) : word32? (ofWord32 n) = some n := by
  simp [word32?, ofWord32, below?, n.toNat_lt_size]

@[simp]
theorem word64?_ofWord64 (n : UInt64) : word64? (ofWord64 n) = some n := by
  simp [word64?, ofWord64, below?, n.toNat_lt_size]

/-- A list is read back where its members are. -/
@[simp]
theorem list?_ofList (h : ∀ x, read (form x) = some x) (xs : List α) : list? read (ofList form xs) = some xs := by
  have hitems : (xs.map form).mapM read = some xs := by
    induction xs with
    | nil => rfl
    | cons x rest ih => simp [h, ih]
  exact hitems

theorem required_eq_bind : required name read fields = (field? name fields).bind read := rfl

theorem defaulted_eq_elim {default : α} : defaulted name default read fields = (field? name fields).elim (some default) read := by
  unfold defaulted
  cases field? name fields <;> rfl

theorem optional_eq_elim : optional name read fields = (field? name fields).elim (some none) (nullable? read) :=
  defaulted_eq_elim

/-- A value that is not written as null is read where null would mean none. -/
theorem nullable?_eq_some {v : Json} {x : α} (h : read v = some x) (hv : v ≠ .null) : nullable? read v = some (some x) := by
  unfold nullable?
  split
  · exact absurd rfl hv
  · rw [h]
    rfl

@[simp]
theorem nullable?_text (s : String) : nullable? text? (.text s) = some (some s) := nullable?_eq_some (text?_text s) nofun

@[simp]
theorem nullable?_ofWord32 (n : UInt32) : nullable? word32? (ofWord32 n) = some (some n) :=
  nullable?_eq_some (word32?_ofWord32 n) nofun

/-- What is left out where there is nothing is read back. -/
@[simp]
theorem elim_optionalField {x : Option α} (h : ∀ x, nullable? read (form x) = some (some x)) :
    x.elim (some none) (nullable? read ∘ form) = some x := by
  cases x with
  | none => rfl
  | some x => exact h x

/-- What is left out where a list is empty is read back. -/
@[simp]
theorem elim_listField {xs : List α} (h : ∀ x, read (form x) = some x) :
    (if xs = [] then none else some (ofList form xs)).elim (some []) (list? read) = some xs := by
  cases xs with
  | nil => rfl
  | cons x xs => exact list?_ofList h (x :: xs)

end Reading

/-! ## Forms from which everything is read back -/

/-- A form from which everything is read back. So no two things have one form. -/
structure Faithful {α : Type} (form : α → Json) (read : Json → Option α) : Prop where
  readBack : ∀ x, read (form x) = some x
  injective : Function.Injective form

theorem Faithful.of_readBack {α : Type} {form : α → Json} {read : Json → Option α} (h : ∀ x, read (form x) = some x) :
    Faithful form read where
  readBack := h
  injective x y hxy := Option.some.inj <| by rw [← h x, hxy, h y]

end Json

namespace Ident

variable {kind : IdentKind}

@[simp]
theorem ofJson?_toJson (id : Ident kind) : ofJson? id.toJson = some id := by
  simp [ofJson?, toJson]

@[simp]
theorem nullable?_toJson (id : Ident kind) : Json.nullable? ofJson? id.toJson = some (some id) :=
  Json.nullable?_eq_some id.ofJson?_toJson nofun

/-- The digits of an identifier are its key and no other's. -/
@[simp]
theorem ofKey?_toKey (id : Ident kind) : ofKey? id.toKey = some id := by
  simp [ofKey?, toKey, id.raw.toNat_lt_size]

end Ident

end Survey
