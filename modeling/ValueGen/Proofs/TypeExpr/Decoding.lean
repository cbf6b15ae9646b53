/-
This file says that a value is read as a type exactly if it spells the type. The reader looks at
each value in every way before it knows which way is asked for; what it finds is what a reader finds
that knows the kind, and that one needs of the fields what the spellings of a type of the kind have.
-/

import ValueGen.Proofs.TypeExpr.Spelling

namespace ValueGen.TypeExpr

open Json (required? optional? list? nullable? members? inOrder? valuesOf required?_map
  optional?_map required?_eq_some_iff optional?_eq_some_iff list?_eq_some_iff textKeys?_map
  inOrder?_map inOrder?_eq_some_iff)

/-! ### Reading -/

theorem fieldReadings_eq_map (fields : List (Option String × Json)) :
    fieldReadings fields = fields.map fun field => (field.1, reading field.2) := by
  induction fields with
  | nil => rfl
  | cons field rest inductionHypothesis =>
    obtain ⟨key, value⟩ := field
    rw [fieldReadings, inductionHypothesis]
    rfl

theorem itemReadings_eq_map (items : List Json) : itemReadings items = items.map reading := by
  induction items with
  | nil => rfl
  | cons item rest inductionHypothesis =>
    rw [itemReadings, inductionHypothesis]
    rfl

theorem json_reading (value : Json) : (reading value).json = value := by
  cases value <;> rfl

theorem type?_reading (value : Json) : (reading value).type? = ofValue? true value := by
  cases value <;> rfl

theorem types?_reading (value : Json) :
    (reading value).types? = list? (ofValue? true) value := by
  cases value with
  | array items =>
    show (itemReadings items).mapM (·.type?) = items.mapM (ofValue? true)
    rw [itemReadings_eq_map, List.mapM_map]
    exact congrArg items.mapM (funext type?_reading)
  | _ => rfl

theorem bound?_reading (value : Json) :
    (reading value).bound? = nullable? (ofValue? true) value := by
  cases value <;> rfl

/-- The type of a known kind that some fields tell. -/
def ofKind? (fields : List (String × Json)) : Kind → Option TypeExpr
  | .named => do
    let name ← required? fields "name" Json.text?
    pure (named name)
  | .parameterized => do
    let raw ← required? fields "raw" (ofValue? true)
    let arguments ← required? fields "args" (list? (ofValue? true))
    pure (parameterized raw arguments)
  | .wildcard => do
    let bound ← optional? fields "bound" (Json.nullable? (ofValue? true)) none
    let variance ← required? fields "variance" Variance.ofJson?
    match bound with
    | none => pure (unbounded variance)
    | some bound => pure (bounded variance bound)
  | .array => do
    let element ← required? fields "element" (ofValue? true)
    pure (array element)
  | .typeVariable => do
    let name ← required? fields "name" Json.text?
    let bounds ← optional? fields "bounds" (list? (ofValue? true)) []
    pure (typeVariable name bounds)

/-- A reader that looks at each value in every way finds what one finds that knows the kind. -/
theorem ofFields?_map (nested : Bool) (fields : List (String × Json)) :
    ofFields? nested (fields.map fun field => (field.1, reading field.2)) =
      (required? fields "kind" (Kind.ofJson? nested)).bind (ofKind? fields) := by
  unfold ofFields?
  simp only [required?_map, optional?_map, json_reading, type?_reading, types?_reading,
    bound?_reading]
  refine congrArg _ (funext fun kind => ?_)
  cases kind <;> rfl

theorem ofFields?_eq_some_iff (nested : Bool) (fields : List (String × Json)) (type : TypeExpr) :
    ofFields? nested (fields.map fun field => (field.1, reading field.2)) = some type ↔
      ∃ kind tag, valuesOf fields "kind" = [tag] ∧ kind.Tags nested tag ∧
        ofKind? fields kind = some type := by
  rw [ofFields?_map, Option.bind_eq_some_iff]
  refine exists_congr fun kind => ?_
  rw [required?_eq_some_iff]
  constructor
  · rintro ⟨⟨tag, held, isKind⟩, found⟩
    exact ⟨tag, held, (Kind.ofJson?_eq_some_iff nested kind tag).mp isKind, found⟩
  · rintro ⟨tag, held, tags, found⟩
    exact ⟨⟨tag, held, (Kind.ofJson?_eq_some_iff nested kind tag).mpr tags⟩, found⟩

/-- What is read from an array is what is read from the fields that it stands for. -/
theorem ofItems?_eq_some_iff (nested : Bool) (items : List Json) (type : TypeExpr) :
    ofItems? nested (items.map reading) = some type ↔
      ∃ kind fields tag, inOrder? kind.keys items = some fields ∧
        valuesOf fields "kind" = [tag] ∧ kind.Tags nested tag ∧
          ofKind? fields kind = some type := by
  constructor
  · intro read
    obtain ⟨_, firstRead, read⟩ := Option.bind_eq_some_iff.mp read
    obtain ⟨kind, isKind, read⟩ := Option.bind_eq_some_iff.mp read
    obtain ⟨_, fits, read⟩ := Option.bind_eq_some_iff.mp read
    rw [inOrder?_map] at fits
    obtain ⟨fields, inOrder, rfl⟩ := Option.map_eq_some_iff.mp fits
    obtain ⟨other, tag, held, tags, found⟩ := (ofFields?_eq_some_iff nested fields type).mp read
    rw [List.head?_map] at firstRead
    obtain ⟨first, isFirst, rfl⟩ := Option.map_eq_some_iff.mp firstRead
    have sameTag : first = tag := by
      have heldFirst := kind.valuesOf_zip_keys items
      rw [← ((inOrder?_eq_some_iff _ _ _).mp inOrder).2, held, isFirst] at heldFirst
      exact (List.cons.inj heldFirst).1.symm
    rw [json_reading, sameTag] at isKind
    obtain rfl := ((Kind.ofJson?_eq_some_iff nested kind tag).mp isKind).unique tags
    exact ⟨kind, fields, tag, inOrder, held, tags, found⟩
  · rintro ⟨kind, fields, tag, inOrder, held, tags, found⟩
    have isFirst : items.head? = some tag := by
      rw [((inOrder?_eq_some_iff _ _ _).mp inOrder).2, Kind.valuesOf_zip_keys] at held
      exact Option.mem_toList.mp (held ▸ List.mem_singleton_self tag)
    have isKind : Kind.ofJson? nested (reading tag).json = some kind := by
      rw [json_reading]
      exact (Kind.ofJson?_eq_some_iff nested kind tag).mpr tags
    have read := (ofFields?_eq_some_iff nested fields type).mpr ⟨kind, tag, held, tags, found⟩
    rw [ofItems?, List.head?_map, isFirst]
    show (Kind.ofJson? nested (reading tag).json).bind _ = _
    rw [isKind]
    show (inOrder? kind.keys (items.map reading)).bind _ = _
    rw [inOrder?_map, inOrder]
    exact read

/-- What is read as a type has a kind and the fields of that kind. -/
theorem ofValue?_eq_some_iff_kind (nested : Bool) (value : Json) (type : TypeExpr) :
    ofValue? nested value = some type ↔
      ∃ kind fields tag, value.members? kind.keys = some fields ∧
        valuesOf fields "kind" = [tag] ∧ kind.Tags nested tag ∧
          ofKind? fields kind = some type := by
  cases value with
  | array items =>
    rw [ofValue?, itemReadings_eq_map]
    exact ofItems?_eq_some_iff nested items type
  | object fields =>
    rw [ofValue?, fieldReadings_eq_map, textKeys?_map, Option.bind_map, Option.bind_eq_some_iff]
    constructor
    · rintro ⟨known, isRecord, read⟩
      obtain ⟨kind, tag, rest⟩ := (ofFields?_eq_some_iff nested known type).mp read
      exact ⟨kind, known, tag, isRecord, rest⟩
    · rintro ⟨kind, known, tag, isRecord, rest⟩
      exact ⟨known, isRecord, (ofFields?_eq_some_iff nested known type).mpr ⟨kind, tag, rest⟩⟩
  | _ => exact iff_of_false nofun fun ⟨_, _, _, impossible, _⟩ => nomatch impossible

/-! ### The reader takes the spellings -/

theorem kind_of_ofKind?_eq_some {fields : List (String × Json)} {kind : Kind} {type : TypeExpr}
    (read : ofKind? fields kind = some type) : type.kind = kind := by
  cases kind with
  | named | array =>
    obtain ⟨_, _, ⟨⟩⟩ := Option.bind_eq_some_iff.mp read
    rfl
  | parameterized | typeVariable =>
    obtain ⟨_, _, read⟩ := Option.bind_eq_some_iff.mp read
    obtain ⟨_, _, ⟨⟩⟩ := Option.bind_eq_some_iff.mp read
    rfl
  | wildcard =>
    obtain ⟨bound, _, read⟩ := Option.bind_eq_some_iff.mp read
    obtain ⟨_, _, read⟩ := Option.bind_eq_some_iff.mp read
    cases bound <;> cases read <;> rfl

/-- Where the fields of its kind are read as it is told, a type is read from its spellings. -/
theorem ofValue?_eq_some_iff_of_held {type : TypeExpr}
    (reads : ∀ fields, ofKind? fields type.kind = some type ↔ HeldIn type fields) (nested : Bool)
    (value : Json) : ofValue? nested value = some type ↔ Spells nested type value := by
  rw [ofValue?_eq_some_iff_kind, spells_iff]
  constructor
  · rintro ⟨kind, fields, tag, isMembers, held, tags, read⟩
    obtain rfl := kind_of_ofKind?_eq_some read
    exact ⟨fields, tag, isMembers, held, tags, (reads fields).mp read⟩
  · rintro ⟨fields, tag, isMembers, held, tags, told⟩
    exact ⟨_, fields, tag, isMembers, held, tags, (reads fields).mpr told⟩

section Kinds

variable {fields : List (String × Json)}

theorem ofKind?_named_iff (name : String) :
    ofKind? fields .named = some (named name) ↔ HeldIn (named name) fields := by
  constructor
  · intro read
    obtain ⟨_, nameRead, ⟨⟩⟩ := Option.bind_eq_some_iff.mp read
    obtain ⟨_, held, isText⟩ := required?_eq_some_iff.mp nameRead
    obtain rfl := (Json.text?_eq_some_iff _ _).mp isText
    exact ⟨_, .named name, List.forall_mem_singleton.mpr held⟩
  · rintro ⟨_, ⟨⟩, same⟩
    have nameRead : required? fields "name" Json.text? = some name :=
      required?_eq_some_iff.mpr
        ⟨_, same "name" (show "name" ∈ Kind.fieldKeys .named by decide), rfl⟩
    rw [ofKind?, nameRead]
    rfl

theorem ofKind?_parameterized_iff {raw : TypeExpr} {arguments : List TypeExpr}
    (rawRead : ∀ value, ofValue? true value = some raw ↔ Spells true raw value)
    (argumentsRead : ∀ items, items.mapM (ofValue? true) = some arguments ↔
      List.Forall₂ (Spells true) arguments items) :
    ofKind? fields .parameterized = some (parameterized raw arguments) ↔
      HeldIn (parameterized raw arguments) fields := by
  constructor
  · intro read
    obtain ⟨_, readRaw, read⟩ := Option.bind_eq_some_iff.mp read
    obtain ⟨_, readArguments, ⟨⟩⟩ := Option.bind_eq_some_iff.mp read
    obtain ⟨rawValue, rawHeld, isRaw⟩ := required?_eq_some_iff.mp readRaw
    obtain ⟨_, listHeld, isList⟩ := required?_eq_some_iff.mp readArguments
    obtain ⟨items, rfl, areItems⟩ := (list?_eq_some_iff _ _).mp isList
    exact ⟨_, .parameterized ((rawRead rawValue).mp isRaw) ((argumentsRead items).mp areItems),
      List.forall_mem_cons.mpr ⟨rawHeld, List.forall_mem_singleton.mpr listHeld⟩⟩
  · rintro ⟨known, holds, same⟩
    cases holds with
    | parameterized spelled listed =>
      have rawHeld := same "raw" (show "raw" ∈ Kind.fieldKeys .parameterized by decide)
      have listHeld := same "args" (show "args" ∈ Kind.fieldKeys .parameterized by decide)
      have readRaw : required? fields "raw" (ofValue? true) = some raw :=
        required?_eq_some_iff.mpr ⟨_, rawHeld, (rawRead _).mpr spelled⟩
      have readArguments : required? fields "args" (list? (ofValue? true)) = some arguments :=
        required?_eq_some_iff.mpr ⟨_, listHeld,
          (list?_eq_some_iff _ _).mpr ⟨_, rfl, (argumentsRead _).mpr listed⟩⟩
      rw [ofKind?, readRaw, readArguments]
      rfl

theorem ofKind?_wildcard_unbounded_iff (variance : Variance) :
    ofKind? fields .wildcard = some (unbounded variance) ↔ HeldIn (unbounded variance) fields := by
  constructor
  · intro read
    obtain ⟨bound, readBound, read⟩ := Option.bind_eq_some_iff.mp read
    obtain ⟨_, readVariance, read⟩ := Option.bind_eq_some_iff.mp read
    obtain ⟨direction, directionHeld, directs⟩ := required?_eq_some_iff.mp readVariance
    cases bound with
    | some bound => cases read
    | none =>
      cases read
      have directs := (Variance.ofJson?_eq_some_iff variance direction).mp directs
      rcases optional?_eq_some_iff.mp readBound with ⟨missing, _⟩ | ⟨value, boundHeld, isNull⟩
      · exact ⟨_, .unbounded directs,
          List.forall_mem_cons.mpr ⟨missing, List.forall_mem_singleton.mpr directionHeld⟩⟩
      · obtain rfl := (Json.nullable?_eq_some_none_iff value).mp isNull
        exact ⟨_, .nullBound directs,
          List.forall_mem_cons.mpr ⟨boundHeld, List.forall_mem_singleton.mpr directionHeld⟩⟩
  · rintro ⟨known, holds, same⟩
    have directionHeld := same "variance" (show "variance" ∈ Kind.fieldKeys .wildcard by decide)
    have boundHeld := same "bound" (show "bound" ∈ Kind.fieldKeys .wildcard by decide)
    have finish (readBound : optional? fields "bound" (Json.nullable? (ofValue? true)) none =
          some none)
        (readVariance : required? fields "variance" Variance.ofJson? = some variance) :
        ofKind? fields .wildcard = some (unbounded variance) := by
      rw [ofKind?, readBound, readVariance]
      rfl
    cases holds with
    | unbounded directs =>
      exact finish (optional?_eq_some_iff.mpr (Or.inl ⟨boundHeld, rfl⟩))
        (required?_eq_some_iff.mpr
          ⟨_, directionHeld, (Variance.ofJson?_eq_some_iff variance _).mpr directs⟩)
    | nullBound directs =>
      exact finish (optional?_eq_some_iff.mpr (Or.inr ⟨_, boundHeld, rfl⟩))
        (required?_eq_some_iff.mpr
          ⟨_, directionHeld, (Variance.ofJson?_eq_some_iff variance _).mpr directs⟩)

theorem ofKind?_wildcard_bounded_iff (variance : Variance) {bound : TypeExpr}
    (boundRead : ∀ value, ofValue? true value = some bound ↔ Spells true bound value) :
    ofKind? fields .wildcard = some (bounded variance bound) ↔
      HeldIn (bounded variance bound) fields := by
  constructor
  · intro read
    obtain ⟨found, readBound, read⟩ := Option.bind_eq_some_iff.mp read
    obtain ⟨_, readVariance, read⟩ := Option.bind_eq_some_iff.mp read
    obtain ⟨direction, directionHeld, directs⟩ := required?_eq_some_iff.mp readVariance
    cases found with
    | none => cases read
    | some bound =>
      cases read
      have directs := (Variance.ofJson?_eq_some_iff variance direction).mp directs
      rcases optional?_eq_some_iff.mp readBound with ⟨_, ⟨⟩⟩ | ⟨value, boundHeld, isBound⟩
      have isBound := (Json.nullable?_eq_some_some_iff rfl value bound).mp isBound
      exact ⟨_, .bounded directs ((boundRead value).mp isBound),
        List.forall_mem_cons.mpr ⟨boundHeld, List.forall_mem_singleton.mpr directionHeld⟩⟩
  · rintro ⟨known, holds, same⟩
    have directionHeld := same "variance" (show "variance" ∈ Kind.fieldKeys .wildcard by decide)
    have boundHeld := same "bound" (show "bound" ∈ Kind.fieldKeys .wildcard by decide)
    cases holds with
    | bounded directs spelled =>
      have isBound := (Json.nullable?_eq_some_some_iff rfl _ _).mpr ((boundRead _).mpr spelled)
      have readBound : optional? fields "bound" (Json.nullable? (ofValue? true)) none =
          some (some bound) :=
        optional?_eq_some_iff.mpr (Or.inr ⟨_, boundHeld, isBound⟩)
      have readVariance : required? fields "variance" Variance.ofJson? = some variance :=
        required?_eq_some_iff.mpr
          ⟨_, directionHeld, (Variance.ofJson?_eq_some_iff variance _).mpr directs⟩
      rw [ofKind?, readBound, readVariance]
      rfl

theorem ofKind?_array_iff {element : TypeExpr}
    (elementRead : ∀ value, ofValue? true value = some element ↔ Spells true element value) :
    ofKind? fields .array = some (array element) ↔ HeldIn (array element) fields := by
  constructor
  · intro read
    obtain ⟨_, readElement, ⟨⟩⟩ := Option.bind_eq_some_iff.mp read
    obtain ⟨value, held, isElement⟩ := required?_eq_some_iff.mp readElement
    exact ⟨_, .array ((elementRead value).mp isElement), List.forall_mem_singleton.mpr held⟩
  · rintro ⟨known, holds, same⟩
    cases holds with
    | array spelled =>
      have held := same "element" (show "element" ∈ Kind.fieldKeys .array by decide)
      have readElement : required? fields "element" (ofValue? true) = some element :=
        required?_eq_some_iff.mpr ⟨_, held, (elementRead _).mpr spelled⟩
      rw [ofKind?, readElement]
      rfl

theorem ofKind?_typeVariable_iff (name : String) {bounds : List TypeExpr}
    (boundsRead : ∀ items, items.mapM (ofValue? true) = some bounds ↔
      List.Forall₂ (Spells true) bounds items) :
    ofKind? fields .typeVariable = some (typeVariable name bounds) ↔
      HeldIn (typeVariable name bounds) fields := by
  constructor
  · intro read
    obtain ⟨_, nameRead, read⟩ := Option.bind_eq_some_iff.mp read
    obtain ⟨_, readBounds, ⟨⟩⟩ := Option.bind_eq_some_iff.mp read
    obtain ⟨_, nameHeld, isText⟩ := required?_eq_some_iff.mp nameRead
    obtain rfl := (Json.text?_eq_some_iff _ _).mp isText
    rcases optional?_eq_some_iff.mp readBounds with ⟨missing, rfl⟩ | ⟨_, listHeld, isList⟩
    · exact ⟨_, .plainVariable name,
        List.forall_mem_cons.mpr ⟨nameHeld, List.forall_mem_singleton.mpr missing⟩⟩
    · obtain ⟨items, rfl, areItems⟩ := (list?_eq_some_iff _ _).mp isList
      exact ⟨_, .typeVariable name ((boundsRead items).mp areItems),
        List.forall_mem_cons.mpr ⟨nameHeld, List.forall_mem_singleton.mpr listHeld⟩⟩
  · rintro ⟨known, holds, same⟩
    have nameHeld := same "name" (show "name" ∈ Kind.fieldKeys .typeVariable by decide)
    have listHeld := same "bounds" (show "bounds" ∈ Kind.fieldKeys .typeVariable by decide)
    have finish (nameRead : required? fields "name" Json.text? = some name)
        (readBounds : optional? fields "bounds" (list? (ofValue? true)) [] = some bounds) :
        ofKind? fields .typeVariable = some (typeVariable name bounds) := by
      rw [ofKind?, nameRead, readBounds]
      rfl
    cases holds with
    | typeVariable _ listed =>
      exact finish (required?_eq_some_iff.mpr ⟨_, nameHeld, rfl⟩)
        (optional?_eq_some_iff.mpr (Or.inr ⟨_, listHeld,
          (list?_eq_some_iff _ _).mpr ⟨_, rfl, (boundsRead _).mpr listed⟩⟩))
    | plainVariable =>
      exact finish (required?_eq_some_iff.mpr ⟨_, nameHeld, rfl⟩)
        (optional?_eq_some_iff.mpr (Or.inl ⟨listHeld, rfl⟩))

end Kinds

mutual

/-- A value is read as a type exactly if it spells the type. -/
theorem ofValue?_eq_some_iff : (type : TypeExpr) → (nested : Bool) → (value : Json) →
    (ofValue? nested value = some type ↔ Spells nested type value)
  | named name =>
    ofValue?_eq_some_iff_of_held fun _ => ofKind?_named_iff name
  | parameterized raw arguments =>
    ofValue?_eq_some_iff_of_held fun _ =>
      ofKind?_parameterized_iff (ofValue?_eq_some_iff raw true)
        (mapM_ofValue?_eq_some_iff arguments)
  | unbounded variance =>
    ofValue?_eq_some_iff_of_held fun _ => ofKind?_wildcard_unbounded_iff variance
  | bounded variance bound =>
    ofValue?_eq_some_iff_of_held fun _ =>
      ofKind?_wildcard_bounded_iff variance (ofValue?_eq_some_iff bound true)
  | array element =>
    ofValue?_eq_some_iff_of_held fun _ => ofKind?_array_iff (ofValue?_eq_some_iff element true)
  | typeVariable name bounds =>
    ofValue?_eq_some_iff_of_held fun _ =>
      ofKind?_typeVariable_iff name (mapM_ofValue?_eq_some_iff bounds)

/-- So are the items of a list read as types. -/
theorem mapM_ofValue?_eq_some_iff : (types : List TypeExpr) → (items : List Json) →
    (items.mapM (ofValue? true) = some types ↔ List.Forall₂ (Spells true) types items)
  | [], items => by
    rw [List.forall₂_nil_left_iff]
    cases items with
    | nil => exact iff_of_true rfl rfl
    | cons item items => simp [List.mapM_cons, Option.bind_eq_some_iff]
  | type :: rest, items => by
    have typeRead := ofValue?_eq_some_iff type true
    have restRead := mapM_ofValue?_eq_some_iff rest
    cases items with
    | nil => exact iff_of_false nofun nofun
    | cons item items =>
      rw [List.forall₂_cons, ← typeRead, ← restRead]
      simp [List.mapM_cons, Option.bind_eq_some_iff]

end

/-! ### Types as JSON -/

/-- Types are written as one of their spellings and read from exactly these. -/
structure ReadsSpellings : Prop where
  written (type : TypeExpr) : Spells false type type.toJson
  read_pretty (type : TypeExpr) (shallow : type.toJson.depth ≤ maximumDepth) :
    (Json.read type.toJson.pretty).bind ofJson? = some type
  read_iff (type : TypeExpr) (value : Json) (sound : value.isSound = true)
    (shallow : value.depth ≤ maximumDepth) : ofJson? value = some type ↔ Spells false type value
  refused (value : Json) (broken : Broken false value) : ofJson? value = none

theorem ofJson?_eq_some_iff (value : Json) (type : TypeExpr) :
    ofJson? value = some type ↔
      (value.isSound = true ∧ value.depth ≤ maximumDepth) ∧ Spells false type value := by
  rw [ofJson?, ← ofValue?_eq_some_iff]
  simp

/-- What is written for a type that is not nested too deep is read as the type, and so is any other
value that spells it: one with its fields in another order, with further fields, with nothing
written down for a bound or for bounds that are absent, or with an array in place of an object. A
value that tells no known kind, misses a field or repeats one, at whatever depth, is read as no
type. -/
theorem readsSpellings : ReadsSpellings where
  written type := spells_toJson type false
  read_pretty type shallow := by
    have textual := isTextual_toJson type
    rw [Json.read_pretty type.toJson textual, Option.bind_some, ofJson?_eq_some_iff]
    exact ⟨⟨Json.isSound_of_isTextual _ textual, shallow⟩, spells_toJson type false⟩
  read_iff type value sound shallow := by
    rw [ofJson?_eq_some_iff]
    exact and_iff_right ⟨sound, shallow⟩
  refused value broken := by
    rw [Option.eq_none_iff_forall_ne_some]
    intro type read
    exact not_spells_of_broken broken type ((ofJson?_eq_some_iff value type).mp read).2

/-- Fields in reverse with one of nobody's between them, a kind by its position, a null bound, an
empty list of bounds and an array for the raw type spell the type; without the raw type there is
none. -/
theorem readsSpellings_reversed :
    let wildcard : Json := .record [("note", .ofNat 7), ("variance", .string "upper"),
      ("bound", .null), ("kind", .ofNat 2)]
    let letter : Json := .record [("bounds", .array []), ("name", .string "T"),
      ("kind", .string "type_variable")]
    let map : Json := .array [.string "named", .string "java.util.Map"]
    ofJson? (.record [("args", .array [wildcard, letter]), ("raw", map),
        ("kind", .string "parameterized")]) =
      some (parameterized (named "java.util.Map") [unbounded .upper, typeVariable "T" []]) ∧
    ofJson? (.record [("element", .record [("args", .array [wildcard, letter]),
        ("kind", .string "parameterized")]), ("kind", .string "array")]) = none := by
  intro wildcard letter map
  have isWildcard : Kind.wildcard.Tags true (.ofNat 2) := .position rfl
  have wildcardSpelled : Spells true (unbounded .upper) wildcard :=
    .object isWildcard (.nullBound .name)
      ⟨[("note", .ofNat 7)], by decide, List.reverse_perm [_, _, _, _]⟩
  have letterSpelled : Spells true (typeVariable "T" []) letter :=
    .object .name (.typeVariable "T" .nil) ⟨[], nofun, List.reverse_perm [_, _, _]⟩
  have mapSpelled : Spells true (named "java.util.Map") map :=
    .array (by decide) (.object .name (.named _) (Json.Arranged.refl _ _))
  constructor
  · refine (readsSpellings.read_iff _ _ (by decide +kernel) (by decide)).mpr ?_
    exact .object .name
      (.parameterized mapSpelled (.cons wildcardSpelled (.cons letterSpelled .nil)))
      ⟨[], nofun, List.reverse_perm [_, _, _]⟩
  · refine readsSpellings.refused _ ?_
    have isParameterized : Tells true [("args", .array [wildcard, letter]),
        ("kind", .string "parameterized")] .parameterized :=
      ⟨_, List.mem_cons_of_mem _ List.mem_cons_self, .name⟩
    have isArray (element : Json) :
        Tells false [("element", element), ("kind", .string "array")] .array :=
      ⟨_, List.mem_cons_of_mem _ List.mem_cons_self, .name⟩
    have absent (value : Json) : ("raw", value) ∉
        [("args", .array [wildcard, letter]), ("kind", .string "parameterized")] := by simp
    exact .within (isArray _) List.mem_cons_self List.mem_cons_self
      (.missing isParameterized List.mem_cons_self absent)

end ValueGen.TypeExpr
