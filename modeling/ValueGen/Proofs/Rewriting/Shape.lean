/-
This file says what rewriting does at each position of a type. A position is the way to it from the
outside, by the number of a part at each step. Rewriting leaves everything at every position as it
is, except for a name with a declaration and a lenient name: that name becomes the lenient name. So
a type stays the same exactly if all of its names do, and parts and lists can be rewritten on their
own, before or after other names have been asked for.
-/

import ValueGen.Proofs.Rewriting

namespace ValueGen

namespace TypeExpr

/-! ### Positions -/

/-- What a type is at its outermost position: all that it says without its parts. -/
inductive Form
  | named (name : String)
  | parameterized (arguments : Nat)
  | unbounded (variance : Variance)
  | bounded (variance : Variance)
  | array
  | typeVariable (name : String) (bounds : Nat)
  deriving DecidableEq, Repr

/-- The form of a type, with the number of its arguments or bounds. -/
def form : TypeExpr → Form
  | named name => .named name
  | parameterized _ arguments => .parameterized arguments.length
  | unbounded variance => .unbounded variance
  | bounded variance _ => .bounded variance
  | array _ => .array
  | typeVariable name bounds => .typeVariable name bounds.length

/-- The types that a type is directly made of: of a generic type first the raw one and then the
arguments. -/
def parts : TypeExpr → List TypeExpr
  | named _ => []
  | parameterized raw arguments => raw :: arguments
  | unbounded _ => []
  | bounded _ bound => [bound]
  | array element => [element]
  | typeVariable _ bounds => bounds

/-- The type at a position, if there is one. -/
def partAt? (type : TypeExpr) : List Nat → Option TypeExpr
  | [] => some type
  | index :: place => type.parts[index]?.bind fun part => part.partAt? place

/-- The form at a position, if there is one. -/
def formAt? (type : TypeExpr) (place : List Nat) : Option Form := (type.partAt? place).map form

theorem eq_of_form_of_parts {first second : TypeExpr} (forms : first.form = second.form)
    (parts : first.parts = second.parts) : first = second := by
  cases first <;> cases second <;> simp_all [form, TypeExpr.parts]

theorem sizeOf_lt_of_mem_parts {type part : TypeExpr} (member : part ∈ type.parts) :
    sizeOf part < sizeOf type := by
  cases type with
  | named name => cases member
  | unbounded variance => cases member
  | parameterized raw arguments =>
    rw [parameterized.sizeOf_spec]
    rcases List.mem_cons.mp member with rfl | member
    · omega
    · have := List.sizeOf_lt_of_mem member
      omega
  | bounded variance bound =>
    rw [List.mem_singleton.mp member, bounded.sizeOf_spec]
    omega
  | array element =>
    rw [List.mem_singleton.mp member, array.sizeOf_spec]
    omega
  | typeVariable name bounds =>
    have := List.sizeOf_lt_of_mem (show part ∈ bounds from member)
    rw [typeVariable.sizeOf_spec]
    omega

/-- What holds of a type wherever it holds of its parts holds of every type. -/
theorem partsInduction {motive : TypeExpr → Prop}
    (step : ∀ type : TypeExpr, (∀ part ∈ type.parts, motive part) → motive type)
    (type : TypeExpr) : motive type :=
  step type fun part _ => partsInduction step part
termination_by sizeOf type
decreasing_by exact sizeOf_lt_of_mem_parts ‹_›

/-! ### Names replaced one by one -/

/-- Replaces the name in a form that is a name. -/
def Form.mapName (replace : String → String) : Form → Form
  | .named name => .named (replace name)
  | form => form

variable (replace : String → String)

theorem form_mapNames (type : TypeExpr) :
    (type.mapNames replace).form = type.form.mapName replace := by
  cases type <;> simp [mapNames, mapLeaves, mapLeavesOfAll_eq_map, form, Form.mapName]

theorem parts_mapNames (type : TypeExpr) :
    (type.mapNames replace).parts = type.parts.map (mapNames replace) := by
  cases type with
  | named name => rfl
  | unbounded variance => rfl
  | bounded variance bound => rfl
  | array element => rfl
  | parameterized raw arguments => exact congrArg _ (mapLeavesOfAll_eq_map _ arguments)
  | typeVariable name bounds => exact mapLeavesOfAll_eq_map _ bounds

theorem partAt?_mapNames (type : TypeExpr) (place : List Nat) :
    (type.mapNames replace).partAt? place = (type.partAt? place).map (mapNames replace) := by
  induction place generalizing type with
  | nil => rfl
  | cons index place inductionHypothesis =>
    rw [partAt?, partAt?, parts_mapNames, List.getElem?_map]
    cases type.parts[index]? with
    | none => rfl
    | some part => exact inductionHypothesis part

theorem formAt?_mapNames (type : TypeExpr) (place : List Nat) :
    (type.mapNames replace).formAt? place = (type.formAt? place).map (Form.mapName replace) := by
  rw [formAt?, formAt?, partAt?_mapNames, Option.map_map, Option.map_map]
  exact congrArg (Option.map · _) (funext (form_mapNames replace))

/-- A type stays the same exactly if every name in it is replaced by itself. -/
theorem mapNames_eq_self_iff (type : TypeExpr) :
    type.mapNames replace = type ↔
      ∀ place name, type.formAt? place = some (.named name) → replace name = name := by
  constructor
  · intro same place name isName
    have there := formAt?_mapNames replace type place
    rw [same, isName] at there
    exact (Form.named.inj (Option.some.inj there)).symm
  · induction type using partsInduction with
    | step type inductionHypothesis =>
      intro kept
      refine eq_of_form_of_parts ?_ ?_
      · rw [form_mapNames]
        cases outermost : type.form with
        | named name => exact congrArg Form.named (kept [] name (congrArg some outermost))
        | _ => rfl
      · have each : ∀ part ∈ type.parts, part.mapNames replace = id part := by
          intro part member
          obtain ⟨index, found⟩ := List.mem_iff_getElem?.mp member
          refine inductionHypothesis part member fun place name isName => ?_
          refine kept (index :: place) name ?_
          rw [formAt?, partAt?, found]
          exact isName
        rw [parts_mapNames, List.map_congr_left each, List.map_id]

end TypeExpr

namespace Resolver

variable (repository : Repository) (suffix : String)

/-! ### What takes the place of a name -/

/-- A declaration of the repository has exactly this name, and this is its lenient name. -/
def LenientNameOf (name : String) (generated : GeneratedName) : Prop :=
  ∃ declaration ∈ repository.declarations, declaration.qualifiedName = name ∧
    Naming.resolve repository suffix .lenient declaration = .ok (some generated)

variable {repository suffix} {name : String} {generated : GeneratedName}

theorem run_substitute_of_lenientName (lenient : LenientNameOf repository suffix name generated) :
    ((direct repository suffix).substitute name).run = generated.qualified := by
  obtain ⟨declaration, member, named, found⟩ := lenient
  have known := (repository.get?_eq_some_iff name declaration).mpr ⟨member, named⟩
  exact run_substitute_of_named repository suffix known found

/-- A name without a lenient name is left alone. -/
theorem run_substitute_of_no_lenientName
    (missing : ∀ generated, ¬ LenientNameOf repository suffix name generated) :
    ((direct repository suffix).substitute name).run = name := by
  have known : (direct repository suffix).repository.get? name = repository.get? name := rfl
  rw [substitute, known]
  cases found : repository.get? name with
  | none => rfl
  | some declaration =>
    obtain ⟨member, named⟩ := (repository.get?_eq_some_iff name declaration).mp found
    have nothing : ((direct repository suffix).lenientName? declaration).run = none := by
      rw [NameCache.run_lenientName?_direct]
      rcases resolved : Naming.resolve repository suffix .lenient declaration with
        _ | (_ | generated)
      · rfl
      · rfl
      · exact absurd ⟨declaration, member, named, resolved⟩ (missing generated)
    simp only
    rw [Id.run_bind, nothing]
    rfl

/-- A name is replaced by its lenient name if it has one, and is left alone otherwise. -/
theorem run_substitute_cases (repository : Repository) (suffix name : String) :
    (∃ generated, LenientNameOf repository suffix name generated ∧
        ((direct repository suffix).substitute name).run = generated.qualified) ∨
      (∀ generated, ¬ LenientNameOf repository suffix name generated) ∧
        ((direct repository suffix).substitute name).run = name := by
  by_cases found : ∃ generated, LenientNameOf repository suffix name generated
  · obtain ⟨generated, lenient⟩ := found
    exact Or.inl ⟨generated, lenient, run_substitute_of_lenientName lenient⟩
  · have missing := not_exists.mp found
    exact Or.inr ⟨missing, run_substitute_of_no_lenientName missing⟩

/-- What holds of a name and of its lenient name holds of what takes the place of the name. -/
theorem property_run_substitute {property : String → Prop} (alone : property name)
    (replaced : ∀ generated, LenientNameOf repository suffix name generated →
      property generated.qualified) :
    property ((direct repository suffix).substitute name).run := by
  rcases run_substitute_cases repository suffix name with
    ⟨generated, lenient, equal⟩ | ⟨_, equal⟩
  · rw [equal]
    exact replaced generated lenient
  · rw [equal]
    exact alone

variable (repository suffix)

/-- What rewriting makes of the form at a position. -/
inductive FormAfter : TypeExpr.Form → TypeExpr.Form → Prop
  /-- A name with a lenient name becomes that name. -/
  | replaced {name : String} {generated : GeneratedName}
    (lenient : LenientNameOf repository suffix name generated) :
    FormAfter (.named name) (.named generated.qualified)
  /-- A name without one stays. -/
  | untouched {name : String}
    (missing : ∀ generated, ¬ LenientNameOf repository suffix name generated) :
    FormAfter (.named name) (.named name)
  /-- A form that is no name stays. -/
  | kept {form : TypeExpr.Form} (noName : ∀ name, form ≠ .named name) : FormAfter form form

theorem formAfter_mapName (form : TypeExpr.Form) :
    FormAfter repository suffix form
      (form.mapName fun name => ((direct repository suffix).substitute name).run) := by
  cases form with
  | named name =>
    rw [TypeExpr.Form.mapName]
    rcases run_substitute_cases repository suffix name with
      ⟨generated, lenient, replaced⟩ | ⟨missing, same⟩
    · rw [replaced]
      exact .replaced lenient
    · rw [same]
      exact .untouched missing
  | _ => exact .kept fun _ => nofun

/-- A name is replaced by itself exactly if its lenient name, where it has one, is the same. -/
theorem run_substitute_eq_self_iff (name : String) :
    ((direct repository suffix).substitute name).run = name ↔
      ∀ generated, LenientNameOf repository suffix name generated →
        generated.qualified = name := by
  constructor
  · intro same generated lenient
    rw [← run_substitute_of_lenientName lenient, same]
  · intro same
    rcases run_substitute_cases repository suffix name with
      ⟨generated, lenient, replaced⟩ | ⟨_, alone⟩
    · rw [replaced, same generated lenient]
    · exact alone

/-! ### Rewriting after other searches -/

/-- A type rewritten with the cache that is there after some names have been asked for. -/
def rewriteAfter (earlier : List (Strictness × Declaration)) (type : TypeExpr) : TypeExpr :=
  (((remembering repository suffix).rewrite type).run
    (NameCache.after repository suffix earlier)).1

/-- Several types rewritten with that cache, one after the other. -/
def rewriteAllAfter (earlier : List (Strictness × Declaration)) (types : List TypeExpr) :
    List TypeExpr :=
  (((remembering repository suffix).rewriteAll types).run
    (NameCache.after repository suffix earlier)).1

variable {repository} {earlier : List (Strictness × Declaration)}

theorem rewriteAfter_eq_mapNames
    (known : ∀ call ∈ earlier, call.2 ∈ repository.declarations) (type : TypeExpr) :
    rewriteAfter repository suffix earlier type =
      type.mapNames fun name => ((direct repository suffix).substitute name).run := by
  have sound := NameCache.sound_after suffix earlier known
  rw [rewriteAfter, (NameCache.yields_rewrite repository suffix type _ sound).1]
  exact run_rewrite_direct repository suffix type

theorem rewriteAllAfter_eq_map
    (known : ∀ call ∈ earlier, call.2 ∈ repository.declarations) (types : List TypeExpr) :
    rewriteAllAfter repository suffix earlier types =
      types.map
        (TypeExpr.mapNames fun name => ((direct repository suffix).substitute name).run) := by
  have sound := NameCache.sound_after suffix earlier known
  rw [rewriteAllAfter, (NameCache.yields_rewriteAll repository suffix types _ sound).1,
    run_rewriteAll_direct, TypeExpr.mapLeavesOfAll_eq_map]
  rfl

/-- Rewriting of types and of lists acts on the names in a type only; `again` is rewriting at any
other time. -/
structure ActsOnNames (repository : Repository) (suffix : String)
    (rewrite again : TypeExpr → TypeExpr) (rewriteAll : List TypeExpr → List TypeExpr) :
    Prop where
  /-- A rewritten type has the same positions, and each form becomes what it has to become. -/
  places : ∀ (type : TypeExpr) (place : List Nat),
    Option.Rel (FormAfter repository suffix) (type.formAt? place) ((rewrite type).formAt? place)
  /-- A type stays the same exactly if each name in it that has a lenient name has itself as its
  lenient name. -/
  same_iff : ∀ type : TypeExpr, rewrite type = type ↔
    ∀ place name generated, type.formAt? place = some (.named name) →
      LenientNameOf repository suffix name generated → generated.qualified = name
  /-- The parts of a rewritten type are the rewritten parts. -/
  part : ∀ (type : TypeExpr) (place : List Nat),
    (rewrite type).partAt? place = (type.partAt? place).map again
  list : ∀ types : List TypeExpr, rewriteAll types = types.map again

/-- Whatever has been asked for before, rewriting acts on the names in a type only. -/
theorem actsOnNames_rewriteAfter (repository : Repository) (suffix : String)
    (earlier other : List (Strictness × Declaration))
    (known : ∀ call ∈ earlier ++ other, call.2 ∈ repository.declarations) :
    ActsOnNames repository suffix (rewriteAfter repository suffix earlier)
      (rewriteAfter repository suffix other) (rewriteAllAfter repository suffix earlier) := by
  obtain ⟨knownEarlier, knownOther⟩ := List.forall_mem_append.mp known
  have again := funext (rewriteAfter_eq_mapNames suffix knownOther)
  refine ⟨fun type place => ?_, fun type => ?_, fun type place => ?_, fun types => ?_⟩
  · rw [rewriteAfter_eq_mapNames suffix knownEarlier, TypeExpr.formAt?_mapNames]
    cases type.formAt? place with
    | none => exact .none
    | some form => exact .some (formAfter_mapName repository suffix form)
  · rw [rewriteAfter_eq_mapNames suffix knownEarlier, TypeExpr.mapNames_eq_self_iff]
    simp only [run_substitute_eq_self_iff]
    exact ⟨fun same place name generated isName => same place name isName generated,
      fun same place name isName generated => same place name generated isName⟩
  · rw [rewriteAfter_eq_mapNames suffix knownEarlier, again, TypeExpr.partAt?_mapNames]
  · rw [rewriteAllAfter_eq_map suffix knownEarlier, again]

/-- A marked interface with another one nested in it, and an interface that is not marked. -/
def plainRepository : Repository :=
  let user := (Declaration.interface "pkg" "UserPOJO").withMarker .plain
  ⟨[user, (Declaration.interface "pkg" "Address").nestIn user,
    Declaration.interface "pkg" "Plain"], by decide⟩

/-- The names have been asked for strictly before, and one of the searches failed. -/
theorem actsOnNames_rewriteAfter_plain :
    (∀ call ∈ [(Strictness.strict, plainRepository.declarations[1])] ++
        [(Strictness.strict, plainRepository.declarations[2])],
      call.2 ∈ plainRepository.declarations) ∧
      ActsOnNames plainRepository "POJO"
        (rewriteAfter plainRepository "POJO" [(.strict, plainRepository.declarations[1])])
        (rewriteAfter plainRepository "POJO" [(.strict, plainRepository.declarations[2])])
        (rewriteAllAfter plainRepository "POJO" [(.strict, plainRepository.declarations[1])]) :=
  ⟨by decide,
    actsOnNames_rewriteAfter plainRepository "POJO" [(.strict, plainRepository.declarations[1])]
      [(.strict, plainRepository.declarations[2])] (by decide)⟩

example :
    (rewriteAfter plainRepository "POJO" []
      (.parameterized (.named "pkg.Plain")
        [.bounded .lower (.array (.named "pkg.UserPOJO.Address")), .unbounded .upper])) =
      .parameterized (.named "pkg.Plain")
        [.bounded .lower (.array (.named "pkg.User.Address")), .unbounded .upper] := by
  decide +kernel

end Resolver

end ValueGen
