/-
This file says what the order of the fields of an object and fields that nobody knows matter to a
reader: nothing. Some fields are arranged in an object when they stand in it in any order together
with others whose keys are not known; that is to say that each known key holds in the object what it
holds among these fields.
-/

import Mathlib.Data.List.Perm.Basic
import ValueGen.Proofs.Json.Fields

namespace ValueGen.Json

/-! ### What a key holds -/

section ValuesOf

variable {Raw : Type} {fields : List (String × Raw)} {key : String}

theorem mem_valuesOf_iff {value : Raw} : value ∈ valuesOf fields key ↔ (key, value) ∈ fields := by
  simp [valuesOf]

theorem valuesOf_eq_nil_iff : valuesOf fields key = [] ↔ ∀ field ∈ fields, field.1 ≠ key := by
  simp [valuesOf]

theorem valuesOf_perm {others : List (String × Raw)} (same : fields.Perm others) (key : String) :
    (valuesOf fields key).Perm (valuesOf others key) :=
  (same.filter _).map _

theorem valuesOf_sublist {others : List (String × Raw)} (among : fields.Sublist others)
    (key : String) : (valuesOf fields key).Sublist (valuesOf others key) :=
  (among.filter _).map _

/-- Other values with the same keys are held by them in the same order. -/
theorem valuesOf_map {Other : Type} (change : Raw → Other) (fields : List (String × Raw))
    (key : String) :
    valuesOf (fields.map fun field => (field.1, change field.2)) key =
      (valuesOf fields key).map change := by
  unfold valuesOf
  rw [List.filter_map, List.map_map, List.map_map]
  rfl

/-- Where no key is repeated, a key holds one value at most. -/
theorem valuesOf_eq_nil_or_singleton (apart : (fields.map (·.1)).Nodup) (key : String) :
    valuesOf fields key = [] ∨ ∃ value, valuesOf fields key = [value] := by
  induction fields with
  | nil => exact Or.inl rfl
  | cons field rest inductionHypothesis =>
    rw [List.map_cons, List.nodup_cons] at apart
    rw [valuesOf_cons]
    split
    · rename_i same
      have others : valuesOf rest key = [] := by
        rw [valuesOf_eq_nil_iff]
        intro other member again
        exact apart.1 (same.trans again.symm ▸ List.mem_map_of_mem member)
      exact Or.inr ⟨field.2, by rw [others]⟩
    · exact inductionHypothesis apart.2

theorem count_eq_count_valuesOf [DecidableEq Raw] (fields : List (String × Raw)) (key : String)
    (value : Raw) : fields.count (key, value) = (valuesOf fields key).count value := by
  induction fields with
  | nil => rfl
  | cons field rest inductionHypothesis =>
    obtain ⟨other, held⟩ := field
    rw [valuesOf_cons, List.count_cons, inductionHypothesis]
    by_cases same : other = key
    · rw [if_pos same, List.count_cons, same]
      simp
    · rw [if_neg same]
      simp [same]

/-- A field that has to stand once is read exactly from the one value that its key holds. -/
theorem required?_eq_some_iff {Value : Type} {read : Raw → Option Value} {value : Value} :
    required? fields key read = some value ↔
      ∃ raw, valuesOf fields key = [raw] ∧ read raw = some value := by
  unfold required?
  split
  · rename_i raw held
    rw [held]
    simp
  · rename_i other
    exact iff_of_false nofun fun ⟨raw, held, _⟩ => other raw held

/-- A field that may stand once has its default exactly where it is missing. -/
theorem optional?_eq_some_iff {Value : Type} {read : Raw → Option Value} {absent value : Value} :
    optional? fields key read absent = some value ↔
      valuesOf fields key = [] ∧ absent = value ∨
        ∃ raw, valuesOf fields key = [raw] ∧ read raw = some value := by
  unfold optional?
  split
  · rename_i held
    rw [held]
    simp
  · rename_i raw held
    rw [held]
    simp
  · rename_i missing other
    refine iff_of_false nofun ?_
    rintro (⟨held, _⟩ | ⟨raw, held, _⟩)
    · exact missing held
    · exact other raw held

theorem required?_map {Other Value : Type} (change : Raw → Other) (fields : List (String × Raw))
    (key : String) (read : Other → Option Value) :
    required? (fields.map fun field => (field.1, change field.2)) key read =
      required? fields key fun raw => read (change raw) := by
  unfold required?
  rw [valuesOf_map]
  rcases valuesOf fields key with _ | ⟨first, _ | ⟨second, rest⟩⟩ <;> rfl

theorem optional?_map {Other Value : Type} (change : Raw → Other) (fields : List (String × Raw))
    (key : String) (read : Other → Option Value) (absent : Value) :
    optional? (fields.map fun field => (field.1, change field.2)) key read absent =
      optional? fields key (fun raw => read (change raw)) absent := by
  unfold optional?
  rw [valuesOf_map]
  rcases valuesOf fields key with _ | ⟨first, _ | ⟨second, rest⟩⟩ <;> rfl

end ValuesOf

/-! ### Values of particular shapes -/

theorem text?_eq_some_iff (value : Json) (text : String) :
    value.text? = some text ↔ value = string text := by
  cases value <;> simp [text?]

theorem list?_eq_some_iff {Item : Type} {read : Json → Option Item} (value : Json)
    (values : List Item) :
    list? read value = some values ↔
      ∃ items, value = array items ∧ items.mapM read = some values := by
  cases value <;> simp [list?]

section Nullable

variable {Value : Type} {read : Json → Option Value}

theorem nullable?_eq_some_none_iff (value : Json) :
    nullable? read value = some none ↔ value = null := by
  constructor
  · intro absent
    by_contra full
    rw [nullable?_of_ne_null full] at absent
    obtain ⟨_, _, ⟨⟩⟩ := Option.map_eq_some_iff.mp absent
  · rintro rfl
    rfl

/-- Where null is no value of its own, a value is read past the null. -/
theorem nullable?_eq_some_some_iff (refused : read null = none) (value : Json) (result : Value) :
    nullable? read value = some (some result) ↔ read value = some result := by
  by_cases full : value = null
  · rw [full, refused]
    exact iff_of_false nofun nofun
  · rw [nullable?_of_ne_null full, Option.map_eq_some_iff]
    simp

end Nullable

/-! ### Keys that are texts -/

section TextKeys

variable {Raw : Type}

theorem textKeys?_cons (key : Option String) (value : Raw)
    (rest : List (Option String × Raw)) :
    textKeys? ((key, value) :: rest) =
      key.bind fun key => (textKeys? rest).map fun fields => (key, value) :: fields := by
  cases key with
  | none => rfl
  | some key =>
    unfold textKeys?
    rw [List.mapM_cons]
    cases rest.mapM fun field : Option String × Raw => field.1.map fun key => (key, field.2) <;> rfl

theorem textKeys?_map {Other : Type} (change : Raw → Other) (fields : List (Option String × Raw)) :
    textKeys? (fields.map fun field => (field.1, change field.2)) =
      (textKeys? fields).map (List.map fun field => (field.1, change field.2)) := by
  induction fields with
  | nil => rfl
  | cons field rest inductionHypothesis =>
    obtain ⟨key, value⟩ := field
    rw [List.map_cons, textKeys?_cons, textKeys?_cons, inductionHypothesis]
    cases key with
    | none => rfl
    | some key => cases textKeys? rest <;> rfl

theorem textKeys?_eq_some_iff (fields : List (Option String × Raw)) (known : List (String × Raw)) :
    textKeys? fields = some known ↔ fields = known.map fun field => (some field.1, field.2) := by
  induction fields generalizing known with
  | nil => cases known <;> simp [textKeys?]
  | cons field rest inductionHypothesis =>
    obtain ⟨key, value⟩ := field
    rw [textKeys?_cons]
    cases known with
    | nil => cases key <;> simp
    | cons first others =>
      obtain ⟨other, held⟩ := first
      cases key with
      | none => simp
      | some key =>
        rw [Option.bind_some, Option.map_eq_some_iff]
        constructor
        · rintro ⟨_, read, ⟨⟩⟩
          rw [(inductionHypothesis others).mp read]
          rfl
        · rintro ⟨⟩
          exact ⟨others, (inductionHypothesis others).mpr rfl, rfl⟩

/-- The fields of an object whose keys are all texts are all that it is made of. -/
theorem record?_eq_some_iff (value : Json) (known : List (String × Json)) :
    value.record? = some known ↔ value = record known := by
  cases value with
  | object fields =>
    rw [record?, textKeys?_eq_some_iff, record, object.injEq]
  | _ => simp [record?, record]

end TextKeys

/-! ### Members of objects and arrays -/

theorem inOrder?_eq_some_iff {Raw : Type} (keys : List String) (items : List Raw)
    (fields : List (String × Raw)) :
    inOrder? keys items = some fields ↔ items.length ≤ keys.length ∧ fields = keys.zip items := by
  rw [inOrder?, Option.ite_none_right_eq_some, Option.some_inj, @eq_comm _ (keys.zip items)]

theorem inOrder?_map {Raw Other : Type} (change : Raw → Other) (keys : List String)
    (items : List Raw) :
    inOrder? keys (items.map change) =
      (inOrder? keys items).map (List.map fun field => (field.1, change field.2)) := by
  unfold inOrder?
  rw [List.length_map, List.zip_map_right]
  split <;> rfl

theorem members?_eq_some_iff (keys : List String) (value : Json)
    (fields : List (String × Json)) :
    value.members? keys = some fields ↔
      value = record fields ∨
        ∃ items, value = array items ∧ items.length ≤ keys.length ∧ fields = keys.zip items := by
  constructor
  · intro isMembers
    cases value with
    | array items => exact .inr ⟨items, rfl, (inOrder?_eq_some_iff _ _ _).mp isMembers⟩
    | _ => exact .inl ((record?_eq_some_iff _ _).mp isMembers)
  · rintro (rfl | ⟨items, rfl, fits, rfl⟩)
    · exact members?_record keys fields
    · exact (inOrder?_eq_some_iff _ _ _).mpr ⟨fits, rfl⟩

theorem record_injective : Function.Injective record := by
  intro first second same
  have read := record?_record first
  rw [same, record?_record] at read
  exact (Option.some.inj read).symm

/-! ### Arranged fields -/

/-- Some fields stand among others in any order; what stands there besides has none of the keys. -/
def Arranged (keys : List String) (known fields : List (String × Json)) : Prop :=
  ∃ extra, (∀ field ∈ extra, field.1 ∉ keys) ∧ fields.Perm (known ++ extra)

theorem Arranged.refl (keys : List String) (known : List (String × Json)) :
    Arranged keys known known := by
  refine ⟨[], nofun, ?_⟩
  rw [List.append_nil]

/-- Fields with different keys are arranged exactly if each key holds what it holds among them. -/
theorem arranged_iff {keys : List String} {known : List (String × Json)}
    (among : ∀ field ∈ known, field.1 ∈ keys) (apart : (known.map (·.1)).Nodup)
    (fields : List (String × Json)) :
    Arranged keys known fields ↔ ∀ key ∈ keys, valuesOf fields key = valuesOf known key := by
  constructor
  · rintro ⟨extra, unknown, arranged⟩ key isKey
    have nothing : valuesOf extra key = [] := by
      rw [valuesOf_eq_nil_iff]
      rintro field member rfl
      exact unknown field member isKey
    have same := valuesOf_perm arranged key
    rw [valuesOf_append, nothing, List.append_nil] at same
    rcases valuesOf_eq_nil_or_singleton apart key with held | ⟨value, held⟩
    · rw [held] at same ⊢
      exact List.perm_nil.mp same
    · rw [held] at same ⊢
      exact List.perm_singleton.mp same
  · intro holds
    classical
    refine ⟨fields.filter (·.1 ∉ keys), fun field member => ?_, List.perm_iff_count.mpr ?_⟩
    · exact of_decide_eq_true (List.mem_filter.mp member).2
    -- each field stands as often on both sides, one with a known key among the known fields only
    rintro ⟨key, value⟩
    rw [List.count_append]
    by_cases isKey : key ∈ keys
    · have notExtra : (key, value) ∉ fields.filter (·.1 ∉ keys) := by
        intro member
        exact of_decide_eq_true (List.mem_filter.mp member).2 isKey
      rw [List.count_eq_zero_of_not_mem notExtra, Nat.add_zero, count_eq_count_valuesOf,
        count_eq_count_valuesOf, holds key isKey]
    · have notKnown : (key, value) ∉ known := fun member => isKey (among _ member)
      have isExtra : decide ((key, value).1 ∉ keys) = true := decide_eq_true isKey
      rw [List.count_eq_zero_of_not_mem notKnown, Nat.zero_add]
      exact (List.count_filter (p := fun field : String × Json => field.1 ∉ keys) isExtra).symm

end ValueGen.Json
