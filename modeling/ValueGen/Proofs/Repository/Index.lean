/-
This file says what a repository and the tables of an index answer. Declarations are refused exactly
where two of them have the same qualified name, and the error tells the first one that repeats an
earlier name. Otherwise a lookup gives exactly the declarations that it asks for, in the order of
discovery and as often as they are there. The tables agree with each other after each declaration
that is put in, so no lookup goes to a name that the main table does not hold.
-/

import Mathlib.Data.List.Nodup
import ValueGen.Repository.Index

namespace ValueGen

/-! ### What is asked -/

/-- The lookups that a set of declarations is asked by. -/
structure Lookups where
  all : List Declaration
  get? : String → Option Declaration
  enclosingOf? : Declaration → Option Declaration
  nestedIn : Declaration → List Declaration
  annotatedWith : String → List Declaration
  marked : List Declaration

/-- The lookups of a repository. -/
def Repository.lookups (repository : Repository) : Lookups where
  all := repository.declarations
  get? := repository.get?
  enclosingOf? := repository.enclosingOf?
  nestedIn := repository.nestedIn
  annotatedWith := repository.annotatedWith
  marked := repository.marked

/-- The lookups of an index. -/
def DeclarationIndex.lookups (index : DeclarationIndex) : Lookups where
  all := index.all
  get? := index.get?
  enclosingOf? := index.enclosingOf?
  nestedIn := index.nestedIn
  annotatedWith := index.annotatedWith
  marked := index.marked

/-- The declarations that carry an annotation, each as often as it carries it. -/
def carriersOf (declarations : List Declaration) (applied : String) : List Declaration :=
  declarations.flatMap fun declaration =>
    List.replicate (declaration.annotations.count applied) declaration

/-- Lookups give exactly what is asked for among some declarations, in order. -/
structure Lookups.AnswerFor (lookups : Lookups) (declarations : List Declaration) : Prop where
  all : lookups.all = declarations
  /-- A name stands for the only declaration with that name, or for none. -/
  get? : ∀ name, (lookups.get? name).toList = declarations.filter (·.qualifiedName = name)
  /-- So does the text that a declaration gives for what it is nested in. -/
  enclosingOf? : ∀ declaration, (lookups.enclosingOf? declaration).toList =
    declarations.filter fun other => declaration.enclosing = some other.qualifiedName
  nestedIn : ∀ declaration, lookups.nestedIn declaration =
    declarations.filter (·.enclosing = some declaration.qualifiedName)
  annotatedWith : ∀ applied, lookups.annotatedWith applied = carriersOf declarations applied
  marked : lookups.marked = declarations.filter (·.marker.isSome)

/-! ### Names that are repeated -/

/-- A declaration is the first one of a list that repeats the name of an earlier one. -/
def IsFirstRepeating (declarations : List Declaration) (repeating : Declaration) : Prop :=
  ∃ before after, declarations = before ++ repeating :: after ∧
    (before.map (·.qualifiedName)).Nodup ∧
      repeating.qualifiedName ∈ before.map (·.qualifiedName)

theorem IsFirstRepeating.not_nodup {declarations : List Declaration} {repeating : Declaration}
    (first : IsFirstRepeating declarations repeating) :
    ¬ (declarations.map (·.qualifiedName)).Nodup := by
  obtain ⟨before, after, rfl, _, repeats⟩ := first
  rw [List.map_append, List.map_cons, List.nodup_append]
  exact fun distinct => distinct.2.2 _ repeats _ List.mem_cons_self rfl

/-- There is one such declaration at most. -/
theorem IsFirstRepeating.unique {declarations : List Declaration} {first second : Declaration}
    (isFirst : IsFirstRepeating declarations first)
    (isSecond : IsFirstRepeating declarations second) : first = second := by
  obtain ⟨before, after, split, distinct, repeats⟩ := isFirst
  obtain ⟨others, rest, again, othersDistinct, othersRepeat⟩ := isSecond
  rcases List.append_eq_append_iff.mp (split.symm.trans again) with
    ⟨between, further, heads⟩ | ⟨between, further, heads⟩
  · cases between with
    | nil => exact (List.cons.inj heads).1
    | cons next between =>
      obtain ⟨rfl, _⟩ := List.cons.inj heads
      exact absurd othersDistinct
        (IsFirstRepeating.not_nodup ⟨before, between, further, distinct, repeats⟩)
  · cases between with
    | nil => exact (List.cons.inj heads).1.symm
    | cons next between =>
      obtain ⟨rfl, _⟩ := List.cons.inj heads
      exact absurd distinct
        (IsFirstRepeating.not_nodup ⟨others, between, further, othersDistinct, othersRepeat⟩)

/-- Where the outcome is an error exactly for a repeated name, the error is known. -/
theorem eq_error_iff_of_cases {declarations : List Declaration} {Value : Type}
    {outcome : Except RepositoryError Value}
    (either : (∃ value, outcome = .ok value ∧ (declarations.map (·.qualifiedName)).Nodup) ∨
      ∃ repeating, IsFirstRepeating declarations repeating ∧
        outcome = .error (.duplicate repeating.qualifiedName)) (error : RepositoryError) :
    outcome = .error error ↔ ∃ repeating, IsFirstRepeating declarations repeating ∧
      error = .duplicate repeating.qualifiedName := by
  rcases either with ⟨value, rfl, distinct⟩ | ⟨repeating, isFirst, rfl⟩
  · refine ⟨nofun, ?_⟩
    rintro ⟨repeating, isFirst, _⟩
    exact absurd distinct isFirst.not_nodup
  · constructor
    · intro same
      exact ⟨repeating, isFirst, (Except.error.inj same).symm⟩
    · rintro ⟨other, isOther, rfl⟩
      rw [isFirst.unique isOther]

/-- Two declarations of a list have the same name where the names are not distinct. -/
theorem not_nodup_iff (declarations : List Declaration) :
    ¬ (declarations.map (·.qualifiedName)).Nodup ↔
      ∃ first second : Fin declarations.length, first < second ∧
        declarations[first].qualifiedName = declarations[second].qualifiedName := by
  rw [List.Nodup, List.pairwise_map, List.pairwise_iff_getElem]
  constructor
  · intro repeated
    push Not at repeated
    obtain ⟨first, second, firstBound, secondBound, earlier, same⟩ := repeated
    exact ⟨⟨first, firstBound⟩, ⟨second, secondBound⟩, earlier, same⟩
  · rintro ⟨first, second, earlier, same⟩ distinct
    exact distinct first second first.isLt second.isLt earlier same

namespace DeclarationIndex

/-! ### What the tables hold -/

variable {index : DeclarationIndex} {declarations : List Declaration}

/-- An index holds some declarations, with distinct names, in all of its tables. -/
structure Holds (index : DeclarationIndex) (declarations : List Declaration) : Prop where
  distinct : (declarations.map (·.qualifiedName)).Nodup
  known : ∀ name, index.known.find? name = declarations.find? (·.qualifiedName = name)
  order : index.order = declarations.map (·.qualifiedName)
  nested : ∀ name, index.nested.listOf name =
    (declarations.filter (·.enclosing = some name)).map (·.qualifiedName)
  annotated : ∀ name, index.annotated.listOf name =
    (carriersOf declarations name).map (·.qualifiedName)

theorem holds_empty : empty.Holds [] where
  distinct := List.nodup_nil
  known _ := rfl
  order := rfl
  nested _ := rfl
  annotated _ := rfl

/-- A name that is put in under each annotation of a list is put in as often as the annotation is
in the list. -/
theorem listOf_foldl_push (annotations : List String) (table : NameTable (List String))
    (name annotation : String) :
    (annotations.foldl (fun table annotation => table.push annotation name) table).listOf
        annotation =
      table.listOf annotation ++ List.replicate (annotations.count annotation) name := by
  induction annotations generalizing table with
  | nil => rw [List.foldl_nil, List.count_nil, List.replicate_zero, List.append_nil]
  | cons first rest inductionHypothesis =>
    rw [List.foldl_cons, inductionHypothesis, NameTable.listOf_push, List.count_cons,
      List.append_assoc]
    by_cases same : annotation = first
    · rw [if_pos same, if_pos (beq_iff_eq.mpr same.symm), List.replicate_succ,
        List.singleton_append]
    · rw [if_neg same, if_neg (fun equal => same (beq_iff_eq.mp equal).symm), List.nil_append,
        Nat.add_zero]

/-- A declaration whose name is taken is refused. -/
theorem add_of_taken (holds : index.Holds declarations) {declaration : Declaration}
    (taken : declaration.qualifiedName ∈ declarations.map (·.qualifiedName)) :
    index.add declaration = .error (.duplicate declaration.qualifiedName) := by
  obtain ⟨other, member, same⟩ := List.mem_map.mp taken
  have found : (index.known.find? declaration.qualifiedName).isSome := by
    rw [holds.known, List.find?_isSome]
    exact ⟨other, member, by simpa using same⟩
  rw [add]
  exact if_pos found

/-- Any other declaration is put in, and the tables go on to agree. -/
theorem Holds.add (holds : index.Holds declarations) {declaration : Declaration}
    (free : declaration.qualifiedName ∉ declarations.map (·.qualifiedName)) :
    ∃ next, index.add declaration = .ok next ∧ next.Holds (declarations ++ [declaration]) := by
  have missing : (index.known.find? declaration.qualifiedName).isSome = false := by
    rw [holds.known, Option.isSome_eq_false_iff, Option.isNone_iff_eq_none, List.find?_eq_none]
    intro other member same
    exact free (List.mem_map.mpr ⟨other, member, by simpa using same⟩)
  refine ⟨_, if_neg (by rw [missing]; exact Bool.false_ne_true), ?_⟩
  constructor
  case distinct =>
    rw [List.map_append, List.map_singleton, List.nodup_append]
    refine ⟨holds.distinct, List.nodup_singleton _, fun name member other isNew => ?_⟩
    rw [List.mem_singleton.mp isNew]
    exact fun same => free (same ▸ member)
  case known =>
    intro name
    rw [NameTable.find?_insert, holds.known, List.find?_append, List.find?_singleton]
    by_cases same : declaration.qualifiedName = name
    · have notEarlier : declarations.find? (·.qualifiedName = name) = none := by
        rw [List.find?_eq_none]
        intro other member named
        exact free (List.mem_map.mpr ⟨other, member, (by simpa [same] using named)⟩)
      rw [if_pos same.symm, notEarlier, if_pos (decide_eq_true same)]
      rfl
    · rw [if_neg (Ne.symm same), if_neg (by simpa using same), Option.or_none]
  case order => rw [List.map_append, holds.order, List.map_singleton]
  case nested =>
    intro name
    rw [List.filter_append, List.map_append, ← holds.nested name, List.filter_singleton]
    cases around : declaration.enclosing with
    | none => simp
    | some enclosing =>
      simp only [NameTable.listOf_push, Option.some.injEq]
      by_cases same : enclosing = name
      · simp [same]
      · simp [same, Ne.symm same]
  case annotated =>
    intro name
    rw [listOf_foldl_push, holds.annotated, carriersOf, carriersOf, List.flatMap_append,
      List.map_append, List.flatMap_singleton, List.map_replicate]

/-- Declarations are put in one after the other, up to the first one that repeats a name. -/
theorem Holds.foldlM_add (holds : index.Holds declarations) (rest : List Declaration) :
    (∃ next, rest.foldlM DeclarationIndex.add index = .ok next ∧
      next.Holds (declarations ++ rest)) ∨
      ∃ repeating, IsFirstRepeating (declarations ++ rest) repeating ∧
        rest.foldlM DeclarationIndex.add index = .error (.duplicate repeating.qualifiedName) := by
  induction rest generalizing index declarations with
  | nil => exact Or.inl ⟨index, rfl, by rwa [List.append_nil]⟩
  | cons declaration rest inductionHypothesis =>
    rw [List.foldlM_cons]
    by_cases taken : declaration.qualifiedName ∈ declarations.map (·.qualifiedName)
    · refine Or.inr ⟨declaration, ⟨declarations, rest, rfl, holds.distinct, taken⟩, ?_⟩
      rw [add_of_taken holds taken]
      rfl
    · obtain ⟨next, added, nextHolds⟩ := holds.add taken
      have further := inductionHypothesis nextHolds
      rw [List.append_assoc, List.singleton_append] at further
      rw [added]
      exact further

/-- The outcome of putting in declarations from the start. -/
theorem ofList_cases (declarations : List Declaration) :
    (∃ index, ofList declarations = .ok index ∧ index.Holds declarations) ∨
      ∃ repeating, IsFirstRepeating declarations repeating ∧
        ofList declarations = .error (.duplicate repeating.qualifiedName) :=
  holds_empty.foldlM_add declarations

/-! ### What the lookups give -/

/-- Names that are taken to the main table give their declarations. -/
theorem Holds.lookupAll_map (holds : index.Holds declarations) {found : List Declaration}
    (within : ∀ declaration ∈ found, declaration ∈ declarations) :
    index.lookupAll (found.map (·.qualifiedName)) = found := by
  rw [lookupAll, List.filterMap_map]
  refine (List.filterMap_congr fun declaration member => ?_).trans List.filterMap_some
  rw [Function.comp_apply, holds.known]
  exact (Repository.find?_name_eq_some_iff holds.distinct _ _).mpr ⟨within _ member, rfl⟩

theorem Holds.all (holds : index.Holds declarations) : index.all = declarations := by
  rw [DeclarationIndex.all, holds.order]
  exact holds.lookupAll_map fun _ member => member

end DeclarationIndex

/-- Among declarations with distinct names, the search for a name finds all that have it. -/
theorem toList_find?_name {declarations : List Declaration}
    (distinct : (declarations.map (·.qualifiedName)).Nodup) (name : String) :
    (declarations.find? (·.qualifiedName = name)).toList =
      declarations.filter (·.qualifiedName = name) := by
  induction declarations with
  | nil => rfl
  | cons declaration rest inductionHypothesis =>
    rw [List.map_cons, List.nodup_cons] at distinct
    rw [List.find?_cons, List.filter_cons]
    by_cases named : declaration.qualifiedName = name
    · have noOther : rest.filter (·.qualifiedName = name) = [] := by
        rw [List.filter_eq_nil_iff]
        intro other member same
        exact distinct.1 (List.mem_map.mpr ⟨other, member, by simpa [named] using same⟩)
      rw [decide_eq_true named, if_pos rfl, noOther]
      rfl
    · rw [decide_eq_false named, if_neg Bool.false_ne_true]
      exact inductionHypothesis distinct.2

theorem toList_bind_find?_name {declarations : List Declaration}
    (distinct : (declarations.map (·.qualifiedName)).Nodup) (enclosing : Option String) :
    (enclosing.bind fun name => declarations.find? (·.qualifiedName = name)).toList =
      declarations.filter fun other => enclosing = some other.qualifiedName := by
  cases enclosing with
  | none => simp
  | some name =>
    rw [Option.bind_some, toList_find?_name distinct]
    exact List.filter_congr fun other _ => by simp only [Option.some.injEq, eq_comm]

theorem Repository.answerFor_lookups (repository : Repository) :
    repository.lookups.AnswerFor repository.declarations where
  all := rfl
  get? := toList_find?_name repository.distinct
  enclosingOf? declaration := toList_bind_find?_name repository.distinct declaration.enclosing
  nestedIn _ := rfl
  annotatedWith _ := rfl
  marked := rfl

theorem DeclarationIndex.Holds.answerFor_lookups {index : DeclarationIndex}
    {declarations : List Declaration} (holds : index.Holds declarations) :
    index.lookups.AnswerFor declarations where
  all := holds.all
  get? name := by
    show (index.known.find? name).toList = _
    rw [holds.known]
    exact toList_find?_name holds.distinct name
  enclosingOf? declaration := by
    show (declaration.enclosing.bind index.known.find?).toList = _
    rw [funext holds.known]
    exact toList_bind_find?_name holds.distinct declaration.enclosing
  nestedIn declaration := by
    show index.lookupAll (index.nested.listOf declaration.qualifiedName) = _
    rw [holds.nested]
    exact holds.lookupAll_map fun _ member => (List.mem_filter.mp member).1
  annotatedWith applied := by
    show index.lookupAll (index.annotated.listOf applied) = _
    rw [holds.annotated]
    refine holds.lookupAll_map fun other member => ?_
    obtain ⟨declaration, known, repeated⟩ := List.mem_flatMap.mp member
    rw [List.eq_of_mem_replicate repeated]
    exact known
  marked := by
    show index.all.filter (·.marker.isSome) = _
    rw [holds.all]

/-! ### Building -/

namespace Repository

/-- The first name that repeats an earlier one stands behind distinct names. -/
theorem exists_of_firstRepeated?_eq_some {seen names : List String} {name : String}
    (found : firstRepeated? seen names = some name) :
    ∃ before after, names = before ++ name :: after ∧ before.Nodup ∧
      (∀ other ∈ before, other ∉ seen) ∧ (name ∈ before ∨ name ∈ seen) := by
  induction names generalizing seen with
  | nil => cases found
  | cons first rest inductionHypothesis =>
    rw [firstRepeated?] at found
    split at found
    · rename_i taken
      obtain rfl := Option.some.inj found
      exact ⟨[], rest, rfl, List.nodup_nil, by simp, Or.inr taken⟩
    · rename_i free
      obtain ⟨before, after, rfl, distinct, fresh, repeats⟩ := inductionHypothesis found
      refine ⟨first :: before, after, rfl, ?_, ?_, ?_⟩
      · exact List.nodup_cons.mpr
          ⟨fun again => fresh first again List.mem_cons_self, distinct⟩
      · exact List.forall_mem_cons.mpr
          ⟨free, fun other member old => fresh other member (List.mem_cons_of_mem _ old)⟩
      · rcases repeats with earlier | old
        · exact Or.inl (List.mem_cons_of_mem _ earlier)
        · exact (List.mem_cons.mp old).imp (fun same => by rw [same]; exact List.mem_cons_self) id

/-- The outcome of building a repository. -/
theorem ofList_cases (declarations : List Declaration) :
    (∃ repository, ofList declarations = .ok repository ∧
        (declarations.map (·.qualifiedName)).Nodup) ∨
      ∃ repeating, IsFirstRepeating declarations repeating ∧
        ofList declarations = .error (.duplicate repeating.qualifiedName) := by
  rcases accepted : ofList declarations with error | repository
  · unfold ofList at accepted
    split at accepted
    · rename_i name found
      obtain ⟨before, after, split, distinct, _, repeats⟩ :=
        exists_of_firstRepeated?_eq_some found
      obtain ⟨earlier, later, rfl, rfl, same⟩ := List.map_eq_append_iff.mp split
      obtain ⟨repeating, after, rfl, rfl, rfl⟩ := List.map_eq_cons_iff.mp same
      refine Or.inr ⟨repeating, ⟨earlier, after, rfl, distinct, ?_⟩, accepted.symm⟩
      exact repeats.resolve_right (List.not_mem_nil)
    · cases accepted
  · refine Or.inl ⟨repository, rfl, ?_⟩
    rw [← declarations_of_ofList accepted]
    exact repository.distinct

end Repository

/-- What becomes of declarations that a repository or an index is built from. -/
structure BuildsLookups (declarations : List Declaration) : Prop where
  /-- The declarations are refused exactly where two of them have the same name. -/
  refused_iff : (∃ error, Repository.ofList declarations = .error error) ↔
    ∃ first second : Fin declarations.length, first < second ∧
      declarations[first].qualifiedName = declarations[second].qualifiedName
  /-- The error tells the name of the first declaration that repeats an earlier one. -/
  error_iff : ∀ error, Repository.ofList declarations = .error error ↔
    ∃ repeating, IsFirstRepeating declarations repeating ∧
      error = .duplicate repeating.qualifiedName
  /-- A repository gives what is asked for among the declarations. -/
  repository : ∀ repository, Repository.ofList declarations = .ok repository →
    repository.lookups.AnswerFor declarations
  /-- The index is refused with the same error. -/
  index_error_iff : ∀ error, DeclarationIndex.ofList declarations = .error error ↔
    Repository.ofList declarations = .error error
  /-- The index gives what is asked for among the declarations. -/
  index : ∀ index, DeclarationIndex.ofList declarations = .ok index →
    index.lookups.AnswerFor declarations

/-- Whatever declarations there are, their names decide whether they are refused, and the lookups
give all that is asked for and nothing else. -/
theorem buildsLookups_ofList (declarations : List Declaration) : BuildsLookups declarations := by
  have outcome := Repository.ofList_cases declarations
  have repositoryError := eq_error_iff_of_cases outcome
  have indexOutcome := DeclarationIndex.ofList_cases declarations
  have indexError := eq_error_iff_of_cases
    (indexOutcome.imp_left fun ⟨index, accepted, holds⟩ => ⟨index, accepted, holds.distinct⟩)
  constructor
  case refused_iff =>
    rw [← not_nodup_iff]
    constructor
    · rintro ⟨error, refused⟩
      obtain ⟨repeating, isFirst, _⟩ := (repositoryError error).mp refused
      exact isFirst.not_nodup
    · intro repeated
      obtain ⟨_, _, distinct⟩ | ⟨repeating, _, refused⟩ := outcome
      · exact absurd distinct repeated
      · exact ⟨_, refused⟩
  case error_iff => exact repositoryError
  case repository =>
    intro repository accepted
    rw [← Repository.declarations_of_ofList accepted]
    exact repository.answerFor_lookups
  case index_error_iff => exact fun error => (indexError error).trans (repositoryError error).symm
  case index =>
    intro index accepted
    obtain ⟨other, same, holds⟩ | ⟨repeating, _, refused⟩ := indexOutcome
    · rw [Except.ok.inj (accepted.symm.trans same)]
      exact holds.answerFor_lookups
    · cases accepted.symm.trans refused

end ValueGen
