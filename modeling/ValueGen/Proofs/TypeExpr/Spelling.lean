/-
This file says which JSON values spell a type. A type is spelled by an object that tells its kind
and has the fields of that kind, in any order and among any others; some of them may be left out or
have several forms. It is spelled as well by an array of the kind and what these fields hold, in
the order of the kind, where those at the end may be left out that an object may leave out. What is
written for a type is one of its spellings. An object without a kind that is known, or one that
misses a field or repeats one, spells nothing, nor does an array that stands for such an object or
is too long, and neither does any value that they are part of as a type.
-/

import ValueGen.Proofs.Json.Arranging
import ValueGen.Proofs.Outcomes
import ValueGen.TypeExpr.Json

namespace ValueGen

open Json (Arranged valuesOf valuesOf_cons valuesOf_sublist mem_valuesOf_iff
  valuesOf_eq_nil_or_singleton)

/-! ### Directions and kinds -/

/-- The values that tell a direction: its name, alone or as the only key of an object. -/
inductive Variance.Spells (variance : Variance) : Json → Prop
  | name : Spells variance (.string variance.toName)
  | null : Spells variance (.object [(some variance.toName, .null)])
  | empty : Spells variance (.object [(some variance.toName, .object [])])

/-- What is looked up by name has that name. -/
theorem eq_of_lookup_eq_some {Value : Type} {toName : Value → String}
    {choices : List (String × Value)} (named : ∀ choice ∈ choices, choice.1 = toName choice.2)
    {name : String} {value : Value} (found : choices.lookup name = some value) :
    name = toName value := by
  obtain ⟨before, after, rfl, _⟩ := List.lookup_eq_some_iff.mp found
  exact named (name, value) (List.mem_append_right before List.mem_cons_self)

theorem Variance.lookup_choices_eq_some_iff (variance : Variance) (name : String) :
    ofJson?.choices.lookup name = some variance ↔ name = variance.toName := by
  constructor
  · exact eq_of_lookup_eq_some (by decide)
  · rintro rfl
    cases variance <;> rfl

theorem Variance.ofJson?_eq_some_iff (variance : Variance) (value : Json) :
    ofJson? value = some variance ↔ variance.Spells value := by
  constructor
  · intro read
    unfold ofJson? at read
    split at read
    · obtain rfl := (lookup_choices_eq_some_iff variance _).mp read
      exact .name
    · obtain rfl := (lookup_choices_eq_some_iff variance _).mp read
      exact .null
    · obtain rfl := (lookup_choices_eq_some_iff variance _).mp read
      exact .empty
    · cases read
  · intro spells
    cases spells <;> exact (lookup_choices_eq_some_iff variance _).mpr rfl

namespace TypeExpr

namespace Kind

/-- The name of a kind. -/
def toName : Kind → String
  | named => "named"
  | parameterized => "parameterized"
  | wildcard => "wildcard"
  | array => "array"
  | typeVariable => "type_variable"

/-- The position of a kind in the list of kinds. -/
def position : Kind → Nat
  | named => 0
  | parameterized => 1
  | wildcard => 2
  | array => 3
  | typeVariable => 4

/-- The fields that a type of the kind must have besides its kind. -/
def requiredKeys : Kind → List String
  | named => ["name"]
  | parameterized => ["raw", "args"]
  | wildcard => ["variance"]
  | array => ["element"]
  | typeVariable => ["name"]

/-- The fields in which a type of the kind has another type. -/
def typeKeys : Kind → List String
  | parameterized => ["raw"]
  | wildcard => ["bound"]
  | array => ["element"]
  | _ => []

/-- The fields in which a type of the kind has a list of types. -/
def listKeys : Kind → List String
  | parameterized => ["args"]
  | typeVariable => ["bounds"]
  | _ => []

/-- The values that tell a kind: its name and, inside another type, its position. -/
inductive Tags (kind : Kind) : Bool → Json → Prop
  | name {nested : Bool} : Tags kind nested (.string kind.toName)
  | position {number : JsonNumber} (counts : number.natural? = some kind.position) :
    Tags kind true (.number number)

theorem requiredKeys_subset (kind : Kind) : kind.requiredKeys ⊆ kind.fieldKeys := by
  cases kind <;> decide

theorem typeKeys_subset (kind : Kind) : kind.typeKeys ⊆ kind.fieldKeys := by
  cases kind <;> decide

theorem listKeys_subset (kind : Kind) : kind.listKeys ⊆ kind.fieldKeys := by
  cases kind <;> decide

theorem kind_notMem_fieldKeys (kind : Kind) : "kind" ∉ kind.fieldKeys := by
  cases kind <;> decide

theorem getElem?_eq_some_iff (kind : Kind) (index : Nat) :
    [named, parameterized, wildcard, array, typeVariable][index]? = some kind ↔
      index = kind.position := by
  rcases index with _ | _ | _ | _ | _ | index <;> cases kind <;> simp [position]

theorem ofJson?_eq_some_iff (nested : Bool) (kind : Kind) (value : Json) :
    ofJson? nested value = some kind ↔ kind.Tags nested value := by
  constructor
  · intro read
    unfold ofJson? at read
    split at read
    · rw [@eq_of_lookup_eq_some _ toName _ (by decide) _ _ read]
      exact .name
    · split at read
      · rename_i isNested
        obtain ⟨index, counts, found⟩ := Option.bind_eq_some_iff.mp read
        rw [(getElem?_eq_some_iff kind index).mp found] at counts
        rw [isNested]
        exact .position counts
      · cases read
    · cases read
  · intro tags
    cases tags with
    | name => cases kind <;> rfl
    | position counts =>
      rw [ofJson?, if_pos rfl, counts]
      exact (getElem?_eq_some_iff kind _).mpr rfl

theorem Tags.unique {first second : Kind} {nested : Bool} {value : Json}
    (tags : first.Tags nested value) (also : second.Tags nested value) : first = second :=
  Option.some.inj (((ofJson?_eq_some_iff nested first value).mpr tags).symm.trans
    ((ofJson?_eq_some_iff nested second value).mpr also))

end Kind

/-- The kind of a type. -/
def kind : TypeExpr → Kind
  | named _ => .named
  | parameterized _ _ => .parameterized
  | unbounded _ | bounded _ _ => .wildcard
  | array _ => .array
  | typeVariable _ _ => .typeVariable

/-! ### Spellings -/

mutual

/-- A value spells a type, which is nested in another one or stands alone. -/
inductive Spells : Bool → TypeExpr → Json → Prop
  /-- An object has the kind and fields that tell the type, and perhaps others … -/
  | object {nested : Bool} {type : TypeExpr} {tag : Json} {known fields : List (String × Json)}
    (tags : type.kind.Tags nested tag) (holds : Holds type known)
    (arranged : Arranged type.kind.keys (("kind", tag) :: known) fields) :
    Spells nested type (.record fields)
  /-- … and an array stands for an object with these fields in the order of the kind. -/
  | array {nested : Bool} {type : TypeExpr} {items : List Json}
    (fits : items.length ≤ type.kind.keys.length)
    (inOrder : Spells nested type (.record (type.kind.keys.zip items))) :
    Spells nested type (.array items)

/-- The fields that tell a type of a known kind. -/
inductive Holds : TypeExpr → List (String × Json) → Prop
  | named (name : String) : Holds (named name) [("name", .string name)]
  | parameterized {raw : TypeExpr} {rawValue : Json} {arguments : List TypeExpr}
    {items : List Json} (spelled : Spells true raw rawValue)
    (listed : List.Forall₂ (Spells true) arguments items) :
    Holds (parameterized raw arguments) [("raw", rawValue), ("args", .array items)]
  /-- A bound that is absent is left out … -/
  | unbounded {variance : Variance} {direction : Json} (directs : variance.Spells direction) :
    Holds (unbounded variance) [("variance", direction)]
  /-- … or null. -/
  | nullBound {variance : Variance} {direction : Json} (directs : variance.Spells direction) :
    Holds (unbounded variance) [("bound", .null), ("variance", direction)]
  | bounded {variance : Variance} {direction : Json} {bound : TypeExpr} {boundValue : Json}
    (directs : variance.Spells direction) (spelled : Spells true bound boundValue) :
    Holds (bounded variance bound) [("bound", boundValue), ("variance", direction)]
  | array {element : TypeExpr} {elementValue : Json} (spelled : Spells true element elementValue) :
    Holds (array element) [("element", elementValue)]
  /-- Bounds of a variable are listed, also if there are none … -/
  | typeVariable (name : String) {bounds : List TypeExpr} {items : List Json}
    (listed : List.Forall₂ (Spells true) bounds items) :
    Holds (typeVariable name bounds) [("name", .string name), ("bounds", .array items)]
  /-- … or are left out. -/
  | plainVariable (name : String) : Holds (typeVariable name []) [("name", .string name)]

end

/-! ### What the fields hold -/

/-- Some fields tell a type of a known kind if each key of that kind holds what it holds among
fields that do. -/
def HeldIn (type : TypeExpr) (fields : List (String × Json)) : Prop :=
  ∃ known, Holds type known ∧ ∀ key ∈ type.kind.fieldKeys,
    valuesOf fields key = valuesOf known key

section HeldIn

variable {type : TypeExpr} {known : List (String × Json)}

/-- The fields that a type is told by are known, and none of them is repeated. -/
theorem Holds.among_and_apart (holds : Holds type known) :
    (∀ field ∈ known, field.1 ∈ type.kind.fieldKeys) ∧ ("kind" :: known.map (·.1)).Nodup := by
  cases holds <;> simp [kind, Kind.fieldKeys]

/-- They are arranged with the kind exactly if all keys that are known hold what they should. -/
theorem Holds.arranged_iff (holds : Holds type known) (tag : Json)
    (fields : List (String × Json)) :
    Arranged type.kind.keys (("kind", tag) :: known) fields ↔
      valuesOf fields "kind" = [tag] ∧
        ∀ key ∈ type.kind.fieldKeys, valuesOf fields key = valuesOf known key := by
  obtain ⟨among, apart⟩ := holds.among_and_apart
  have kindFree := type.kind.kind_notMem_fieldKeys
  have others : ∀ key ∈ type.kind.fieldKeys,
      valuesOf (("kind", tag) :: known) key = valuesOf known key := by
    intro key isKey
    have other : "kind" ≠ key := fun same => kindFree (same ▸ isKey)
    rw [valuesOf_cons, if_neg other]
  have nothing : valuesOf known "kind" = [] := by
    refine Json.valuesOf_eq_nil_iff.mpr fun field member same => kindFree ?_
    rw [← same]
    exact among field member
  have allAmong : ∀ field ∈ ("kind", tag) :: known, field.1 ∈ type.kind.keys :=
    List.forall_mem_cons.mpr ⟨List.mem_cons_self, fun field member =>
      List.mem_cons_of_mem _ (among field member)⟩
  rw [Json.arranged_iff allAmong apart, Kind.keys, List.forall_mem_cons, valuesOf_cons,
    if_pos rfl, nothing]
  exact and_congr_right fun _ => forall₂_congr fun key isKey => by rw [others key isKey]

end HeldIn

theorem spells_record_iff {nested : Bool} {type : TypeExpr} {fields : List (String × Json)} :
    Spells nested type (.record fields) ↔
      ∃ tag, valuesOf fields "kind" = [tag] ∧ type.kind.Tags nested tag ∧ HeldIn type fields := by
  constructor
  · intro spells
    generalize isRecord : Json.record fields = value at spells
    cases spells with
    | object tags holds arranged =>
      rw [Json.record_injective isRecord]
      obtain ⟨held, same⟩ := (holds.arranged_iff _ _).mp arranged
      exact ⟨_, held, tags, _, holds, same⟩
    | array _ _ => cases isRecord
  · rintro ⟨tag, held, tags, known, holds, same⟩
    exact .object tags holds ((holds.arranged_iff tag fields).mpr ⟨held, same⟩)

/-- The first item of an array stands for the kind. -/
theorem Kind.valuesOf_zip_keys (kind : Kind) (items : List Json) :
    valuesOf (kind.keys.zip items) "kind" = items.head?.toList := by
  cases items with
  | nil => rfl
  | cons tag rest =>
    have others : valuesOf (kind.fieldKeys.zip rest) "kind" = [] := by
      rw [Json.valuesOf_eq_nil_iff]
      intro field member same
      exact kind.kind_notMem_fieldKeys (same ▸ (List.of_mem_zip member).1)
    rw [keys, List.zip_cons_cons, valuesOf_cons, if_pos rfl, others]
    rfl

theorem spells_array_iff {nested : Bool} {type : TypeExpr} {items : List Json} :
    Spells nested type (.array items) ↔
      items.length ≤ type.kind.keys.length ∧
        Spells nested type (.record (type.kind.keys.zip items)) := by
  constructor
  · intro spells
    generalize isArray : Json.array items = value at spells
    cases spells with
    | object _ _ _ => cases isArray
    | array fits inOrder =>
      cases isArray
      exact ⟨fits, inOrder⟩
  · exact fun ⟨fits, inOrder⟩ => .array fits inOrder

/-- A type is spelled by the members that a value has for its kind. -/
theorem spells_iff (nested : Bool) (type : TypeExpr) (value : Json) :
    Spells nested type value ↔
      ∃ fields tag, value.members? type.kind.keys = some fields ∧
        valuesOf fields "kind" = [tag] ∧ type.kind.Tags nested tag ∧ HeldIn type fields := by
  have ofFields : Spells nested type value ↔
      ∃ fields, value.members? type.kind.keys = some fields ∧
        Spells nested type (.record fields) := by
    constructor
    · intro spells
      cases spells with
      | object tags holds arranged =>
        exact ⟨_, Json.members?_record _ _, .object tags holds arranged⟩
      | array fits inOrder =>
        have isMembers := (Json.members?_eq_some_iff _ _ _).mpr (.inr ⟨_, rfl, fits, rfl⟩)
        exact ⟨_, isMembers, inOrder⟩
    · rintro ⟨fields, isMembers, spells⟩
      rcases (Json.members?_eq_some_iff _ _ _).mp isMembers with rfl | ⟨items, rfl, fits, rfl⟩
      · exact spells
      · exact .array fits spells
  rw [ofFields]
  exact exists_congr fun fields =>
    (and_congr_right fun _ => spells_record_iff).trans exists_and_left.symm

/-! ### What is written is a spelling -/

mutual

theorem spells_toJson : (type : TypeExpr) → (nested : Bool) → Spells nested type type.toJson
  | named name, _ => by
    rw [toJson]
    exact .object .name (.named name) (Arranged.refl _ _)
  | parameterized raw arguments, _ => by
    rw [toJson]
    exact .object .name (.parameterized (spells_toJson raw true) (spells_toJsons arguments))
      (Arranged.refl _ _)
  | unbounded variance, _ => by
    rw [toJson]
    exact .object .name (.unbounded .name) (Arranged.refl _ _)
  | bounded variance bound, _ => by
    rw [toJson]
    exact .object .name (.bounded .name (spells_toJson bound true)) (Arranged.refl _ _)
  | array element, _ => by
    rw [toJson]
    exact .object .name (.array (spells_toJson element true)) (Arranged.refl _ _)
  | typeVariable name [], _ => by
    rw [toJson]
    exact .object .name (.plainVariable name) (Arranged.refl _ _)
  | typeVariable name (bound :: bounds), _ => by
    rw [toJson]
    exact .object .name
      (.typeVariable name (.cons (spells_toJson bound true) (spells_toJsons bounds)))
      (Arranged.refl _ _)

theorem spells_toJsons : (types : List TypeExpr) → List.Forall₂ (Spells true) types (toJsons types)
  | [] => by
    rw [toJsons]
    exact .nil
  | type :: rest => by
    rw [toJsons]
    exact .cons (spells_toJson type true) (spells_toJsons rest)

end

mutual

theorem isTextual_toJson : (type : TypeExpr) → type.toJson.IsTextual
  | named name => by
    rw [toJson]
    exact ⟨rfl, trivial, rfl, trivial, trivial⟩
  | parameterized raw arguments => by
    rw [toJson]
    exact ⟨rfl, trivial, rfl, isTextual_toJson raw, rfl, areTextual_toJsons arguments, trivial⟩
  | unbounded variance => by
    rw [toJson]
    exact ⟨rfl, trivial, rfl, trivial, trivial⟩
  | bounded variance bound => by
    rw [toJson]
    exact ⟨rfl, trivial, rfl, isTextual_toJson bound, rfl, trivial, trivial⟩
  | array element => by
    rw [toJson]
    exact ⟨rfl, trivial, rfl, isTextual_toJson element, trivial⟩
  | typeVariable name [] => by
    rw [toJson]
    exact ⟨rfl, trivial, rfl, trivial, trivial⟩
  | typeVariable name (bound :: bounds) => by
    rw [toJson]
    exact ⟨rfl, trivial, rfl, trivial, rfl, ⟨isTextual_toJson bound, areTextual_toJsons bounds⟩,
      trivial⟩

theorem areTextual_toJsons : (types : List TypeExpr) → Json.AreTextual (toJsons types)
  | [] => by
    rw [toJsons]
    exact trivial
  | type :: rest => by
    rw [toJsons]
    exact ⟨isTextual_toJson type, areTextual_toJsons rest⟩

end

/-! ### What spells nothing -/

/-- Some fields tell a kind, perhaps not only one. -/
def Tells (nested : Bool) (fields : List (String × Json)) (kind : Kind) : Prop :=
  ∃ tag, ("kind", tag) ∈ fields ∧ kind.Tags nested tag

/-- An object tells no kind that is known, misses a field or repeats one, or there is such an object
where it has a type. An array stands for such an object, or has more items than its kind has
fields. -/
inductive Broken : Bool → Json → Prop
  | noKind {nested : Bool} {fields : List (String × Json)}
    (untold : ∀ kind, ¬Tells nested fields kind) : Broken nested (.record fields)
  | missing {nested : Bool} {fields : List (String × Json)} {kind : Kind} {key : String}
    (told : Tells nested fields kind) (needed : key ∈ kind.requiredKeys)
    (absent : ∀ value, (key, value) ∉ fields) : Broken nested (.record fields)
  | repeated {nested : Bool} {fields : List (String × Json)} {kind : Kind} {key : String}
    {first second : Json} (told : Tells nested fields kind) (isKnown : key ∈ kind.keys)
    (twice : [(key, first), (key, second)].Sublist fields) : Broken nested (.record fields)
  | within {nested : Bool} {fields : List (String × Json)} {kind : Kind} {key : String}
    {value : Json} (told : Tells nested fields kind) (isType : key ∈ kind.typeKeys)
    (held : (key, value) ∈ fields) (broken : Broken true value) : Broken nested (.record fields)
  | among {nested : Bool} {fields : List (String × Json)} {kind : Kind} {key : String}
    {items : List Json} {item : Json} (told : Tells nested fields kind)
    (isList : key ∈ kind.listKeys) (held : (key, .array items) ∈ fields) (member : item ∈ items)
    (broken : Broken true item) : Broken nested (.record fields)
  | untold {nested : Bool} {items : List Json}
    (untold : ∀ tag ∈ items.head?, ∀ kind, ¬Kind.Tags kind nested tag) :
    Broken nested (.array items)
  | tooLong {nested : Bool} {kind : Kind} {tag : Json} {rest : List Json}
    (tags : kind.Tags nested tag) (long : kind.fieldKeys.length < rest.length) :
    Broken nested (.array (tag :: rest))
  | inOrder {nested : Bool} {kind : Kind} {tag : Json} {rest : List Json}
    (tags : kind.Tags nested tag)
    (broken : Broken nested (.record (kind.keys.zip (tag :: rest)))) :
    Broken nested (.array (tag :: rest))

/-! A type that an object spells has the kind that the object tells, and each of its fields holds
there what it needs. -/

section Holds

variable {type : TypeExpr} {known : List (String × Json)}

theorem Holds.exists_mem (holds : Holds type known) :
    ∀ key ∈ type.kind.requiredKeys, ∃ value, (key, value) ∈ known := by
  cases holds <;> simp [kind, Kind.requiredKeys]

theorem Holds.eq_null_or_spells (holds : Holds type known) :
    ∀ key ∈ type.kind.typeKeys, ∀ value, (key, value) ∈ known →
      value = .null ∨ ∃ inner, Spells true inner value := by
  cases holds with
  | parameterized spelled listed => simpa [kind, Kind.typeKeys] using Or.inr ⟨_, spelled⟩
  | bounded directs spelled => simpa [kind, Kind.typeKeys] using Or.inr ⟨_, spelled⟩
  | array spelled => simpa [kind, Kind.typeKeys] using Or.inr ⟨_, spelled⟩
  | _ => simp [kind, Kind.typeKeys]

theorem Holds.exists_forall₂ (holds : Holds type known) :
    ∀ key ∈ type.kind.listKeys, ∀ items, (key, Json.array items) ∈ known →
      ∃ types, List.Forall₂ (Spells true) types items := by
  cases holds with
  | parameterized spelled listed => simpa [kind, Kind.listKeys] using ⟨_, listed⟩
  | typeVariable name listed => simpa [kind, Kind.listKeys] using ⟨_, listed⟩
  | _ => simp [kind, Kind.listKeys]

end Holds

section Fields

variable {nested : Bool} {type : TypeExpr} {fields : List (String × Json)}

theorem Spells.tells_iff (spells : Spells nested type (.record fields)) (kind : Kind) :
    Tells nested fields kind ↔ kind = type.kind := by
  obtain ⟨tag, held, tags, _⟩ := spells_record_iff.mp spells
  have only (value : Json) : ("kind", value) ∈ fields ↔ value = tag := by
    rw [← mem_valuesOf_iff, held, List.mem_singleton]
  constructor
  · rintro ⟨value, told, isKind⟩
    rw [(only value).mp told] at isKind
    exact isKind.unique tags
  · rintro rfl
    exact ⟨tag, (only tag).mpr rfl, tags⟩

theorem Spells.not_twice (spells : Spells nested type (.record fields)) {key : String}
    (isKnown : key ∈ type.kind.keys) (first second : Json) :
    ¬[(key, first), (key, second)].Sublist fields := by
  obtain ⟨tag, held, _, known, holds, same⟩ := spells_record_iff.mp spells
  have once : valuesOf fields key = [] ∨ ∃ value, valuesOf fields key = [value] := by
    rcases List.mem_cons.mp isKnown with rfl | isField
    · exact Or.inr ⟨tag, held⟩
    · rw [same key isField]
      exact valuesOf_eq_nil_or_singleton holds.among_and_apart.2.of_cons key
  intro twice
  have among := valuesOf_sublist twice key
  rw [valuesOf_cons, if_pos rfl, valuesOf_cons, if_pos rfl] at among
  rcases once with missing | ⟨value, one⟩
  · rw [missing] at among
    cases among
  · rw [one] at among
    exact absurd among.length_le (by simp)

theorem Spells.mem_iff (spells : Spells nested type (.record fields)) :
    ∃ known, Holds type known ∧ ∀ key ∈ type.kind.fieldKeys, ∀ value,
      (key, value) ∈ fields ↔ (key, value) ∈ known := by
  obtain ⟨_, _, _, known, holds, same⟩ := spells_record_iff.mp spells
  refine ⟨known, holds, fun key isField value => ?_⟩
  rw [← mem_valuesOf_iff, ← mem_valuesOf_iff, same key isField]

theorem Spells.exists_mem (spells : Spells nested type (.record fields)) {key : String}
    (needed : key ∈ type.kind.requiredKeys) : ∃ value, (key, value) ∈ fields := by
  obtain ⟨known, holds, same⟩ := spells.mem_iff
  obtain ⟨value, held⟩ := holds.exists_mem key needed
  exact ⟨value, (same key (type.kind.requiredKeys_subset needed) value).mpr held⟩

theorem Spells.eq_null_or_spells (spells : Spells nested type (.record fields)) {key : String}
    (isType : key ∈ type.kind.typeKeys) {value : Json} (held : (key, value) ∈ fields) :
    value = .null ∨ ∃ inner, Spells true inner value := by
  obtain ⟨known, holds, same⟩ := spells.mem_iff
  have isField := type.kind.typeKeys_subset isType
  exact holds.eq_null_or_spells key isType value ((same key isField value).mp held)

theorem Spells.exists_forall₂ (spells : Spells nested type (.record fields)) {key : String}
    (isList : key ∈ type.kind.listKeys) {items : List Json}
    (held : (key, .array items) ∈ fields) : ∃ types, List.Forall₂ (Spells true) types items := by
  obtain ⟨known, holds, same⟩ := spells.mem_iff
  have isField := type.kind.listKeys_subset isList
  exact holds.exists_forall₂ key isList items ((same key isField _).mp held)

end Fields

/-- The first item of an array that spells a type is its kind. -/
theorem Spells.exists_tag {nested : Bool} {type : TypeExpr} {items : List Json}
    (spells : Spells nested type (.array items)) :
    ∃ tag, items.head? = some tag ∧ type.kind.Tags nested tag := by
  obtain ⟨tag, held, tags, _⟩ := spells_record_iff.mp (spells_array_iff.mp spells).2
  rw [Kind.valuesOf_zip_keys] at held
  exact ⟨tag, Option.mem_toList.mp (held ▸ List.mem_singleton_self tag), tags⟩

theorem not_spells_of_broken {nested : Bool} {value : Json} (broken : Broken nested value)
    (type : TypeExpr) : ¬Spells nested type value := by
  intro spells
  induction broken generalizing type with
  | noKind untold => exact untold type.kind ((spells.tells_iff _).mpr rfl)
  | missing told needed absent =>
    obtain rfl := (spells.tells_iff _).mp told
    obtain ⟨value, held⟩ := spells.exists_mem needed
    exact absent value held
  | repeated told isKnown twice =>
    obtain rfl := (spells.tells_iff _).mp told
    exact spells.not_twice isKnown _ _ twice
  | within told isType held broken inductionHypothesis =>
    obtain rfl := (spells.tells_iff _).mp told
    rcases spells.eq_null_or_spells isType held with rfl | ⟨inner, spelled⟩
    · cases broken
    · exact inductionHypothesis inner spelled
  | among told isList held member _ inductionHypothesis =>
    obtain rfl := (spells.tells_iff _).mp told
    obtain ⟨types, listed⟩ := spells.exists_forall₂ isList held
    obtain ⟨inner, _, spelled⟩ := exists_mem_of_mem_right listed member
    exact inductionHypothesis inner spelled
  | untold untold =>
    obtain ⟨tag, isFirst, tags⟩ := spells.exists_tag
    exact untold tag isFirst type.kind tags
  | tooLong tags long =>
    obtain ⟨_, ⟨⟩, also⟩ := spells.exists_tag
    obtain rfl := tags.unique also
    exact absurd (Nat.le_of_succ_le_succ (spells_array_iff.mp spells).1) (Nat.not_le.mpr long)
  | inOrder tags _ inductionHypothesis =>
    obtain ⟨_, ⟨⟩, also⟩ := spells.exists_tag
    obtain rfl := tags.unique also
    exact inductionHypothesis type (spells_array_iff.mp spells).2

end TypeExpr

end ValueGen
