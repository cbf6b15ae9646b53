/-
This file says that what is written into the fields of an object is found there again. A key that
is asked for holds what the fields with that key were written with, in order, so a field that is
left out where there is nothing to write is read as its default, and fields do not disturb each
other as long as their keys differ.
-/

import ValueGen.Declaration.Json
import ValueGen.Proofs.Json.Reading

namespace ValueGen.Json

/-- The array that a list is written as in a field, absent where the list is empty. -/
def arrayUnlessEmpty (items : List Json) : Option Json :=
  if items.isEmpty then none else some (array items)

theorem listField_eq (key : String) (items : List Json) :
    listField key items = optionField key (arrayUnlessEmpty items) := by
  cases items <;> rfl

/-! ### What a key holds -/

section ValuesOf

variable {Raw : Type}

theorem valuesOf_cons (field : String × Raw) (fields : List (String × Raw)) (key : String) :
    valuesOf (field :: fields) key =
      if field.1 = key then field.2 :: valuesOf fields key else valuesOf fields key := by
  unfold valuesOf
  by_cases same : field.1 = key
  · rw [if_pos same, List.filter_cons, if_pos (decide_eq_true same), List.map_cons]
  · rw [if_neg same, List.filter_cons, if_neg (mt of_decide_eq_true same)]

theorem valuesOf_append (first second : List (String × Raw)) (key : String) :
    valuesOf (first ++ second) key = valuesOf first key ++ valuesOf second key := by
  unfold valuesOf
  rw [List.filter_append, List.map_append]

end ValuesOf

theorem valuesOf_optionField (key : String) (write : Option Json) (other : String) :
    valuesOf (optionField key write) other = if key = other then write.toList else [] := by
  cases write with
  | none => exact (ite_self []).symm
  | some value => exact valuesOf_cons (key, value) [] other

/-! ### Reading what was written -/

/-- The fields of an object are read. -/
theorem record?_record (fields : List (String × Json)) : (record fields).record? = some fields := by
  have kept := List.mapM_pure (m := Option) (f := id) (l := fields)
  rw [List.map_id] at kept
  rw [record, record?, textKeys?, List.mapM_map]
  exact kept

theorem members?_record (keys : List String) (fields : List (String × Json)) :
    (record fields).members? keys = some fields :=
  record?_record fields

section Reading

variable {Value : Type} {read : Json → Option Value} {write : Value → Json}
  {fields : List (String × Json)} {key : String}

/-- Values of a list are read from the array of what they are written as. -/
theorem list?_array (reads : ∀ value, read (write value) = some value) (values : List Value) :
    list? read (array (values.map write)) = some values := by
  have kept := List.mapM_pure (m := Option) (f := id) (l := values)
  rw [List.map_id] at kept
  rw [list?, List.mapM_map, show read ∘ write = fun value => pure (id value) from funext reads]
  exact kept

theorem nullable?_of_ne_null {value : Json} (full : value ≠ null) :
    nullable? read value = (read value).map some := by
  cases value <;> first | rfl | exact absurd rfl full

/-- A field that stands once is read. -/
theorem required?_eq (reads : ∀ value, read (write value) = some value) {value : Value}
    (held : valuesOf fields key = [write value]) : required? fields key read = some value := by
  rw [required?, held]
  exact reads value

/-- A field that stands is read whatever stands for its absence. -/
theorem optional?_eq (reads : ∀ value, read (write value) = some value) {value absent : Value}
    (held : valuesOf fields key = [write value]) :
    optional? fields key read absent = some value := by
  rw [optional?, held]
  exact reads value

/-- A field that is left out where there is no value is read as the option. -/
theorem optional?_nullable (reads : ∀ value, read (write value) = some value)
    (full : ∀ value, write value ≠ null) {option : Option Value}
    (held : valuesOf fields key = (option.map write).toList) :
    optional? fields key (nullable? read) none = some option := by
  rw [optional?, held]
  cases option with
  | none => rfl
  | some value =>
    have found : nullable? read (write value) = (read (write value)).map some :=
      nullable?_of_ne_null (full value)
    rw [reads value] at found
    exact found

/-- A field that is left out where there is no item is read as the list. -/
theorem optional?_list (reads : ∀ value, read (write value) = some value) {values : List Value}
    (held : valuesOf fields key = (arrayUnlessEmpty (values.map write)).toList) :
    optional? fields key (list? read) [] = some values := by
  rw [optional?, held]
  cases values with
  | nil => rfl
  | cons value values => exact list?_array reads (value :: values)

end Reading

/-! ### Textual arrays and objects -/

mutual

/-- Whatever is made of texts, truth values and null denotes something. -/
theorem isSound_of_isTextual : (value : Json) → value.IsTextual → value.isSound = true
  | .null, _ | .bool _, _ | .string _, _ => rfl
  | .array items, textual => by
    rw [isSound]
    exact areSound_of_areTextual items textual
  | .object fields, textual => by
    rw [isSound]
    exact fieldsAreSound_of_fieldsAreTextual fields textual

theorem areSound_of_areTextual : (items : List Json) → AreTextual items → areSound items = true
  | [], _ => rfl
  | item :: rest, textual => by
    rw [areSound, isSound_of_isTextual item textual.1, areSound_of_areTextual rest textual.2]
    rfl

theorem fieldsAreSound_of_fieldsAreTextual : (fields : List (Option String × Json)) →
    FieldsAreTextual fields → fieldsAreSound fields = true
  | [], _ => rfl
  | (key, value) :: rest, textual => by
    rw [fieldsAreSound, textual.1, isSound_of_isTextual value textual.2.1,
      fieldsAreSound_of_fieldsAreTextual rest textual.2.2]
    rfl

end

theorem isTextual_record {fields : List (String × Json)}
    (textual : ∀ field ∈ fields, field.2.IsTextual) : (record fields).IsTextual := by
  rw [record, IsTextual]
  induction fields with
  | nil => exact trivial
  | cons field fields inductionHypothesis =>
    obtain ⟨first, others⟩ := List.forall_mem_cons.mp textual
    exact ⟨rfl, first, inductionHypothesis others⟩

section Textual

variable {Value : Type} {write : Value → Json}

theorem isTextual_array (textual : ∀ value, (write value).IsTextual) (values : List Value) :
    (array (values.map write)).IsTextual := by
  rw [IsTextual]
  induction values with
  | nil => exact trivial
  | cons value values inductionHypothesis => exact ⟨textual value, inductionHypothesis⟩

theorem isTextual_optionField (textual : ∀ value, (write value).IsTextual) (key : String)
    (option : Option Value) : ∀ field ∈ optionField key (option.map write), field.2.IsTextual := by
  cases option with
  | none => exact nofun
  | some value => exact List.forall_mem_singleton.mpr (textual value)

theorem isTextual_listField (textual : ∀ value, (write value).IsTextual) (key : String)
    (values : List Value) : ∀ field ∈ listField key (values.map write), field.2.IsTextual := by
  cases values with
  | nil => exact nofun
  | cons value values =>
    exact List.forall_mem_singleton.mpr (isTextual_array textual (value :: values))

end Textual

end ValueGen.Json
