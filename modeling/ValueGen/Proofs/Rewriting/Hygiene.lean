/-
This file says when the written form of a rewritten type is read back as that type. The parser
takes exactly the names in scope for type variables, but rewriting does not look at the scope. So
the name of a class that takes the place of another name is captured where the scope lists it; no
other name of a rewritten type is, and all the rest of the written form is read back as it was.
-/

import ValueGen.Proofs.Naming.ClosedForm
import ValueGen.Proofs.Rewriting.Shape
import ValueGen.Proofs.TypeExpr.Canonical

namespace ValueGen

open TypeToken (IsIdentifier continuesIdentifier)

/-! ### Dotted names -/

/-- Whether a text is identifiers with points between them. -/
def IsDottedName (text : String) : Prop := ∃ name : DottedName, name.Spelled ∧ name.text = text

theorem isDottedName_intercalate {words : List String} (nonempty : words ≠ [])
    (spelled : ∀ word ∈ words, IsIdentifier word) : IsDottedName (".".intercalate words) := by
  obtain ⟨first, others, rfl⟩ := List.exists_cons_of_ne_nil nonempty
  exact ⟨⟨first, others⟩, spelled, rfl⟩

theorem IsDottedName.append {first second : String} (isFirst : IsDottedName first)
    (isSecond : IsDottedName second) : IsDottedName (first ++ "." ++ second) := by
  obtain ⟨front, spelledFront, rfl⟩ := isFirst
  obtain ⟨back, spelledBack, rfl⟩ := isSecond
  rw [DottedName.text, DottedName.text, ← String.intercalate_append_of_ne_nil
    (List.cons_ne_nil _ _) (List.cons_ne_nil _ _)]
  refine isDottedName_intercalate (by simp) ?_
  rw [List.forall_mem_append]
  exact ⟨spelledFront, spelledBack⟩

/-! ### Identifiers with a suffix -/

section Suffix

variable {suffix name : String}

theorem isIdentifier_append (isIdentifier : IsIdentifier name)
    (goesOn : ∀ char ∈ suffix.toList, continuesIdentifier char) :
    IsIdentifier (name ++ suffix) := by
  obtain ⟨first, others, split, starts, rest⟩ := isIdentifier
  refine ⟨first, others ++ suffix.toList, ?_, starts, List.forall_mem_append.mpr ⟨rest, goesOn⟩⟩
  rw [String.toList_append, split, List.cons_append]

/-- What an identifier begins with is an identifier. -/
theorem isIdentifier_of_append (isIdentifier : IsIdentifier (name ++ suffix))
    (nonEmpty : name ≠ "") : IsIdentifier name := by
  obtain ⟨first, others, split, starts, rest⟩ := isIdentifier
  rw [String.toList_append] at split
  cases chars : name.toList with
  | nil => exact absurd (String.toList_eq_nil_iff.mp chars) nonEmpty
  | cons head tail =>
    rw [chars, List.cons_append] at split
    obtain ⟨rfl, rfl⟩ := List.cons.inj split
    exact ⟨head, tail, chars, starts, (List.forall_mem_append.mp rest).1⟩

theorem isIdentifier_toggleSuffix (isIdentifier : IsIdentifier name)
    (goesOn : ∀ char ∈ suffix.toList, continuesIdentifier char) :
    IsIdentifier (Naming.toggleSuffix suffix name) := by
  by_cases ends : ∃ base, base ≠ "" ∧ name = base ++ suffix
  · obtain ⟨base, nonEmpty, rfl⟩ := ends
    rw [Naming.toggleSuffix_append nonEmpty]
    exact isIdentifier_of_append isIdentifier nonEmpty
  · rw [Naming.toggleSuffix_of_ne fun base nonEmpty same => ends ⟨base, nonEmpty, same⟩]
    exact isIdentifier_append isIdentifier goesOn

end Suffix

/-! ### Names of generated classes -/

/-- The packages of a repository are empty or dotted names, and the simple names of declarations
and the names that markers give are identifiers. -/
structure Repository.WellSpelled (repository : Repository) : Prop where
  packages : ∀ declaration ∈ repository.declarations,
    declaration.package = "" ∨ IsDottedName declaration.package
  names : ∀ declaration ∈ repository.declarations, IsIdentifier declaration.name
  givenNames : ∀ declaration ∈ repository.declarations, ∀ name,
    Naming.givenName? declaration = some name → IsIdentifier name

namespace Resolver

variable {repository : Repository} {suffix name : String} {generated : GeneratedName}

/-- A lenient name is that of a class below the class of some declaration. -/
theorem LenientNameOf.exists_nameBelow
    (lenient : LenientNameOf repository suffix name generated) :
    ∃ root ∈ repository.declarations, ∃ below : List Declaration,
      (∀ inner ∈ below, inner ∈ repository.declarations) ∧
        generated = Naming.nameBelow suffix root below := by
  obtain ⟨declaration, member, _, found⟩ := lenient
  by_cases marked : ∃ around ∈ repository.ancestry declaration,
    (repository.markerOf? around).isSome
  · obtain ⟨below, root, around, split, rootMarked, outside⟩ := Naming.exists_root _ marked
    rw [Naming.resolve_lenient_of_root suffix split rootMarked outside] at found
    have known : ∀ other ∈ below ++ root :: around, other ∈ repository.declarations := by
      rw [← split]
      exact fun other => Repository.mem_declarations_of_mem_ancestry member
    rw [List.forall_mem_append, List.forall_mem_cons] at known
    exact ⟨root, known.2.1, below, known.1, (Option.some.inj (Except.ok.inj found)).symm⟩
  · have unmarked : ∀ around ∈ repository.ancestry declaration,
        repository.markerOf? around = none := by
      intro around above
      rw [← Option.not_isSome_iff_eq_none]
      exact fun isMarked => marked ⟨around, above, isMarked⟩
    cases (Naming.resolveChain_of_unmarked repository suffix _ unmarked).symm.trans found

/-- Where the suffix can go on an identifier, lenient names are dotted names. -/
theorem LenientNameOf.isDottedName (lenient : LenientNameOf repository suffix name generated)
    (spelled : repository.WellSpelled)
    (goesOn : ∀ char ∈ suffix.toList, continuesIdentifier char) :
    IsDottedName generated.qualified := by
  obtain ⟨root, member, below, known, rfl⟩ := lenient.exists_nameBelow
  have isOuter : IsIdentifier (Naming.outerName suffix root) := by
    unfold Naming.outerName
    cases given : Naming.givenName? root with
    | some name => exact spelled.givenNames root member name given
    | none => exact isIdentifier_toggleSuffix (spelled.names root member) goesOn
  have isInner : ∀ inner ∈ below, IsIdentifier (Naming.innerName inner) := by
    intro inner isBelow
    unfold Naming.innerName
    cases given : Naming.givenName? inner with
    | some name => exact spelled.givenNames inner (known inner isBelow) name given
    | none => exact spelled.names inner (known inner isBelow)
  have simple : IsDottedName
      (".".intercalate (Naming.nameBelow suffix root below).simpleNames) := by
    refine isDottedName_intercalate (List.cons_ne_nil _ _) (List.forall_mem_cons.mpr ⟨isOuter, ?_⟩)
    intro word isWord
    obtain ⟨inner, isBelow, rfl⟩ := List.mem_map.mp (List.mem_reverse.mp isWord)
    exact isInner inner isBelow
  unfold GeneratedName.qualified
  rcases spelled.packages root member with empty | isPackage
  · have unnamed : (Naming.nameBelow suffix root below).package.isEmpty :=
      String.isEmpty_iff.mpr empty
    rw [if_pos unnamed]
    exact simple
  · split
    · exact simple
    · exact isPackage.append simple

end Resolver

/-! ### Names in canonical types -/

namespace TypeExpr

variable {scope : List String}

theorem mem_leavesOfAll_iff (name : String) (types : List TypeExpr) :
    name ∈ leavesOfAll types ↔ ∃ type ∈ types, name ∈ type.leaves := by
  induction types with
  | nil => simp [leavesOfAll]
  | cons type rest inductionHypothesis => simp [leavesOfAll, inductionHypothesis]

mutual

/-- The names in a type that can be read are dotted names outside the scope. -/
theorem Canonical.of_mem_leaves : {type : TypeExpr} → Canonical scope type →
    ∀ name ∈ type.leaves, IsDottedName name ∧ name ∉ scope
  | _, .named spelled unlisted, _, member => by
    obtain rfl := List.mem_singleton.mp member
    exact ⟨⟨_, spelled, rfl⟩, unlisted⟩
  | _, .typeVariable _ _, _, member => by cases member
  | _, .parameterized _ canonical _ each, name, member => by
    rw [leaves, List.mem_append, mem_leavesOfAll_iff] at member
    rcases member with isRaw | ⟨argument, isArgument, inside⟩
    · exact canonical.of_mem_leaves name isRaw
    · exact (each argument isArgument).of_mem_leaves name inside
  | _, .array canonical, name, member => canonical.of_mem_leaves name member

theorem CanonicalArgument.of_mem_leaves : {type : TypeExpr} → CanonicalArgument scope type →
    ∀ name ∈ type.leaves, IsDottedName name ∧ name ∉ scope
  | _, .type canonical, name, member => canonical.of_mem_leaves name member
  | _, .unbounded, _, member => by cases member
  | _, .bounded canonical, name, member => canonical.of_mem_leaves name member

end

variable {leaf : String → TypeExpr}

theorem isLeaf_mapLeaves {type : TypeExpr} (isLeaf : type.IsLeaf)
    (each : ∀ name ∈ type.leaves, (leaf name).IsLeaf) : (type.mapLeaves leaf).IsLeaf := by
  cases type with
  | named name => exact each name (List.mem_singleton_self name)
  | typeVariable name bounds => trivial
  | _ => exact isLeaf.elim

mutual

/-- Where each name is replaced by a leaf that can be read, the whole type can still be read. -/
theorem Canonical.mapLeaves : {type : TypeExpr} → Canonical scope type →
    (∀ name ∈ type.leaves, (leaf name).IsLeaf ∧ Canonical scope (leaf name)) →
    Canonical scope (type.mapLeaves leaf)
  | _, .named _ _, each => (each _ (List.mem_singleton_self _)).2
  | _, .typeVariable spelled listed, _ => .typeVariable spelled listed
  | _, .parameterized isLeaf canonical nonempty arguments, each => by
    rw [leaves, List.forall_mem_append] at each
    rw [TypeExpr.mapLeaves, mapLeavesOfAll_eq_map]
    refine .parameterized (isLeaf_mapLeaves isLeaf fun name member => (each.1 name member).1)
      (canonical.mapLeaves each.1) (List.map_eq_nil_iff.not.mpr nonempty) ?_
    rw [List.forall_mem_map]
    exact fun argument member => (arguments argument member).mapLeaves fun name inside =>
      each.2 name ((mem_leavesOfAll_iff name _).mpr ⟨argument, member, inside⟩)
  | _, .array canonical, each => .array (canonical.mapLeaves each)

theorem CanonicalArgument.mapLeaves : {type : TypeExpr} → CanonicalArgument scope type →
    (∀ name ∈ type.leaves, (leaf name).IsLeaf ∧ Canonical scope (leaf name)) →
    CanonicalArgument scope (type.mapLeaves leaf)
  | _, .type canonical, each => .type (canonical.mapLeaves each)
  | _, .unbounded, _ => .unbounded
  | _, .bounded canonical, each => .bounded (canonical.mapLeaves each)

end

/-! ### Captured names -/

/-- The type with each name that the scope lists taken for a type variable. -/
def capture (scope : List String) : TypeExpr → TypeExpr := mapLeaves (TypeParser.leaf scope)

mutual

theorem mapLeaves_mapNames (leaf : String → TypeExpr) (replace : String → String) :
    (type : TypeExpr) →
    (type.mapNames replace).mapLeaves leaf = type.mapLeaves fun name => leaf (replace name)
  | named _ => rfl
  | parameterized raw arguments =>
    congrArg₂ parameterized (mapLeaves_mapNames leaf replace raw)
      (mapLeavesOfAll_mapNames leaf replace arguments)
  | unbounded _ => rfl
  | bounded variance bound => congrArg (bounded variance) (mapLeaves_mapNames leaf replace bound)
  | array element => congrArg array (mapLeaves_mapNames leaf replace element)
  | typeVariable name bounds =>
    congrArg (typeVariable name) (mapLeavesOfAll_mapNames leaf replace bounds)

theorem mapLeavesOfAll_mapNames (leaf : String → TypeExpr) (replace : String → String) :
    (types : List TypeExpr) →
    mapLeavesOfAll leaf (mapLeavesOfAll (fun name => named (replace name)) types) =
      mapLeavesOfAll (fun name => leaf (replace name)) types
  | [] => rfl
  | type :: rest =>
    congrArg₂ List.cons (mapLeaves_mapNames leaf replace type)
      (mapLeavesOfAll_mapNames leaf replace rest)

end

mutual

/-- A type is written as before where leaves that are written like the names replace them. -/
theorem useForm_mapLeaves {leaf : String → TypeExpr} (each : ∀ name, (leaf name).useForm = name) :
    (type : TypeExpr) → (type.mapLeaves leaf).useForm = type.useForm
  | named name => each name
  | parameterized raw arguments => by
    rw [mapLeaves, useForm, useForm, useForm_mapLeaves each raw,
      useForms_mapLeavesOfAll each arguments]
  | unbounded _ => rfl
  | bounded .upper bound => congrArg ("? extends " ++ ·) (useForm_mapLeaves each bound)
  | bounded .lower bound => congrArg ("? super " ++ ·) (useForm_mapLeaves each bound)
  | array element => congrArg (· ++ "[]") (useForm_mapLeaves each element)
  | typeVariable _ _ => rfl

theorem useForms_mapLeavesOfAll {leaf : String → TypeExpr}
    (each : ∀ name, (leaf name).useForm = name) :
    (types : List TypeExpr) → useForms (mapLeavesOfAll leaf types) = useForms types
  | [] => rfl
  | type :: rest =>
    congrArg₂ List.cons (useForm_mapLeaves each type) (useForms_mapLeavesOfAll each rest)

end

theorem useForm_leaf (scope : List String) (name : String) :
    (TypeParser.leaf scope name).useForm = name := by
  unfold TypeParser.leaf
  split <;> rfl

/-- Nobody sees in the written form which names are captured. -/
theorem useForm_capture (scope : List String) (type : TypeExpr) :
    (type.capture scope).useForm = type.useForm := useForm_mapLeaves (useForm_leaf scope) type

theorem isLeaf_leaf (scope : List String) (name : String) :
    (TypeParser.leaf scope name).IsLeaf := by
  unfold TypeParser.leaf
  split <;> trivial

theorem canonical_leaf (scope : List String) {name : String} (dotted : IsDottedName name) :
    Canonical scope (TypeParser.leaf scope name) := by
  obtain ⟨name, spelled, rfl⟩ := dotted
  rw [TypeParser.leaf_text]
  exact canonical_denote_name spelled

end TypeExpr

/-! ### Rewritten types read back -/

open TypeExpr Resolver

/-- When the written form of a rewritten type is read back as that type, and what it is read back
as otherwise. -/
structure ReadBack (repository : Repository) (suffix : String) (scope : List String)
    (type rewritten : TypeExpr) : Prop where
  /-- It is read back as that type exactly if every class name that replaces a name is a dotted
  name outside the scope. -/
  same_iff : parse scope rewritten.useForm = .ok rewritten ↔
    ∀ name ∈ type.leaves, ∀ generated, LenientNameOf repository suffix name generated →
      IsDottedName generated.qualified ∧ generated.qualified ∉ scope
  /-- Where the suffix can go on an identifier, every class name is a dotted name, so the scope
  alone decides. -/
  same_iff_unlisted : (∀ char ∈ suffix.toList, continuesIdentifier char) →
    (parse scope rewritten.useForm = .ok rewritten ↔
      ∀ name ∈ type.leaves, ∀ generated, LenientNameOf repository suffix name generated →
        generated.qualified ∉ scope)
  /-- Then reading back never fails, and what the scope lists is all that it changes. -/
  captured : (∀ char ∈ suffix.toList, continuesIdentifier char) →
    parse scope rewritten.useForm = .ok (rewritten.capture scope)

section ReadBack

variable {repository : Repository} {suffix : String} {scope : List String} {type : TypeExpr}

/-- A rewritten type can be read exactly if the names that replace others are dotted names outside
the scope. -/
theorem canonical_rewrite_iff (canonical : Canonical scope type) :
    Canonical scope ((direct repository suffix).rewrite type).run ↔
      ∀ name ∈ type.leaves, ∀ generated, LenientNameOf repository suffix name generated →
        IsDottedName generated.qualified ∧ generated.qualified ∉ scope := by
  constructor
  · intro rewritten name member generated lenient
    have readable := rewritten.of_mem_leaves
    rw [leaves_rewrite, List.forall_mem_map] at readable
    rw [← run_substitute_of_lenientName lenient]
    exact readable name member
  · intro readable
    rw [run_rewrite_direct]
    refine canonical.mapLeaves fun name member => ⟨trivial, ?_⟩
    obtain ⟨⟨dotted, spelled, same⟩, unlisted⟩ :=
      @property_run_substitute repository suffix name
        (fun name => IsDottedName name ∧ name ∉ scope) (canonical.of_mem_leaves name member)
        (readable name member)
    rw [← same] at unlisted
    show Canonical scope (.named ((direct repository suffix).substitute name).run)
    rw [← same]
    exact .named spelled unlisted

/-- Where the names that replace others are dotted names, a rewritten type can be read once the
names in scope are taken for type variables. -/
theorem canonical_capture_rewrite (canonical : Canonical scope type)
    (dotted : ∀ name ∈ type.leaves, ∀ generated, LenientNameOf repository suffix name generated →
      IsDottedName generated.qualified) :
    Canonical scope (((direct repository suffix).rewrite type).run.capture scope) := by
  rw [run_rewrite_direct, capture, mapLeaves_mapNames]
  refine canonical.mapLeaves fun name member => ⟨isLeaf_leaf scope _, canonical_leaf scope ?_⟩
  exact property_run_substitute (canonical.of_mem_leaves name member).1 (dotted name member)

/-- What a type that has been read and rewritten is read back as. -/
theorem readBack_rewriteAfter (repository : Repository) (suffix : String)
    (earlier : List (Strictness × Declaration))
    (known : ∀ call ∈ earlier, call.2 ∈ repository.declarations)
    (spelled : repository.WellSpelled) (scope : List String) (text : String) (type : TypeExpr)
    (read : parse scope text = .ok type) :
    ReadBack repository suffix scope type (rewriteAfter repository suffix earlier type) := by
  have canonical := (canonical_iff_parse scope type).1.mpr ⟨text, read⟩
  have dotted (goesOn : ∀ char ∈ suffix.toList, continuesIdentifier char) :
      ∀ name ∈ type.leaves, ∀ generated, LenientNameOf repository suffix name generated →
        IsDottedName generated.qualified :=
    fun _ _ _ lenient => lenient.isDottedName spelled goesOn
  rw [rewriteAfter_eq_mapNames suffix known, ← run_rewrite_direct]
  have same_iff := (canonical_iff_parse scope _).2.symm.trans
    (@canonical_rewrite_iff repository suffix scope type canonical)
  refine ⟨same_iff, fun goesOn => same_iff.trans ?_, fun goesOn => ?_⟩
  · exact forall₂_congr fun name member => forall₂_congr fun generated lenient =>
      and_iff_right (dotted goesOn name member generated lenient)
  · rw [← useForm_capture scope, ← (canonical_iff_parse scope _).2]
    exact canonical_capture_rewrite canonical (dotted goesOn)

end ReadBack

/-- A marked interface in the default package. -/
def variableRepository : Repository :=
  ⟨[(Declaration.interface "" "TPOJO").withMarker .plain], by decide⟩

theorem wellSpelled_variableRepository : variableRepository.WellSpelled where
  packages declaration member := by
    obtain rfl := List.mem_singleton.mp member
    exact Or.inl rfl
  names declaration member := by
    obtain rfl := List.mem_singleton.mp member
    exact ⟨'T', "POJO".toList, rfl, by decide +kernel, List.all_eq_true.mp (by decide +kernel)⟩
  givenNames declaration member name given := by
    obtain rfl := List.mem_singleton.mp member
    cases given

theorem readBack_rewriteAfter_variable :
    (∀ call ∈ [(Strictness.strict, variableRepository.declarations[0])],
        call.2 ∈ variableRepository.declarations) ∧
      variableRepository.WellSpelled ∧
      parse ["T"] "java.util.Map<TPOJO[], T>" = .ok (.parameterized (.named "java.util.Map")
        [.array (.named "TPOJO"), .typeVariable "T" []]) ∧
      ReadBack variableRepository "POJO" ["T"]
        (.parameterized (.named "java.util.Map") [.array (.named "TPOJO"), .typeVariable "T" []])
        (rewriteAfter variableRepository "POJO"
          [(.strict, variableRepository.declarations[0])]
          (.parameterized (.named "java.util.Map")
            [.array (.named "TPOJO"), .typeVariable "T" []])) :=
  ⟨by decide, wellSpelled_variableRepository, by decide +kernel,
    readBack_rewriteAfter variableRepository "POJO" [(.strict, variableRepository.declarations[0])]
      (by decide) wellSpelled_variableRepository ["T"] "java.util.Map<TPOJO[], T>" _
      (by decide +kernel)⟩

/-- The name of a class may be taken for a type variable. -/
theorem class_captured_variable :
    variableRepository.WellSpelled ∧
      parse ["T"] "TPOJO" = .ok (.named "TPOJO") ∧
      rewriteAfter variableRepository "POJO" [] (.named "TPOJO") = .named "T" ∧
      parse ["T"] (TypeExpr.named "T").useForm = .ok (.typeVariable "T" []) :=
  ⟨wellSpelled_variableRepository, by decide +kernel, by decide +kernel, by decide +kernel⟩

end ValueGen
