/-
This file holds the repository of a generation round: declarations in the order in which they were
discovered, no two of them with the same qualified name. It answers which declaration a name
stands for, what is nested in a declaration, what carries an annotation and what is marked. All
lists that it gives are in the order of discovery.
-/

import ValueGen.Declaration.Basic

namespace ValueGen

/-- The reason why declarations make no repository. -/
inductive RepositoryError
  /-- A qualified name stands for two declarations. -/
  | duplicate (name : String)
  deriving DecidableEq, Repr

/-- The wording of an error. -/
def RepositoryError.message : RepositoryError → String
  | duplicate name => "duplicate declaration `" ++ name ++ "`"

/-- Declarations with distinct qualified names. -/
structure Repository where
  declarations : List Declaration
  distinct : (declarations.map (·.qualifiedName)).Nodup

namespace Repository

/-! ### Building a repository -/

/-- The first name of a list that repeats an earlier one or is among those already seen. -/
def firstRepeated? (seen : List String) : List String → Option String
  | [] => none
  | name :: rest => if name ∈ seen then some name else firstRepeated? (name :: seen) rest

theorem firstRepeated?_eq_none_iff (seen names : List String) :
    firstRepeated? seen names = none ↔ names.Nodup ∧ ∀ name ∈ names, name ∉ seen := by
  induction names generalizing seen with
  | nil => simp [firstRepeated?]
  | cons name rest inductionHypothesis =>
    rw [firstRepeated?]
    by_cases member : name ∈ seen
    · simp [member]
    · rw [if_neg member, inductionHypothesis, List.nodup_cons]
      constructor
      · rintro ⟨distinct, fresh⟩
        refine ⟨⟨fun again => fresh name again List.mem_cons_self, distinct⟩, ?_⟩
        intro other found
        rcases List.mem_cons.mp found with rfl | later
        · exact member
        · exact fun old => fresh other later (List.mem_cons_of_mem _ old)
      · rintro ⟨⟨alone, distinct⟩, fresh⟩
        refine ⟨distinct, fun other later => ?_⟩
        rw [List.mem_cons, not_or]
        exact ⟨fun equal => alone (equal ▸ later), fresh other (List.mem_cons_of_mem _ later)⟩

/-- Builds a repository; the first declaration that repeats the name of an earlier one is an
error. -/
def ofList (declarations : List Declaration) : Except RepositoryError Repository :=
  match found : firstRepeated? [] (declarations.map (·.qualifiedName)) with
  | some name => .error (.duplicate name)
  | none => .ok ⟨declarations, ((firstRepeated?_eq_none_iff [] _).mp found).1⟩

/-- A repository holds the declarations that it is built from. -/
theorem declarations_of_ofList {declarations : List Declaration} {repository : Repository}
    (accepted : ofList declarations = .ok repository) : repository.declarations = declarations := by
  unfold ofList at accepted
  split at accepted
  · cases accepted
  · rw [← Except.ok.inj accepted]

/-! ### Asking a repository -/

/-- The declaration with a qualified name. -/
def get? (repository : Repository) (name : String) : Option Declaration :=
  repository.declarations.find? fun declaration => declaration.qualifiedName = name

/-- The number of declarations. -/
def size (repository : Repository) : Nat := repository.declarations.length

/-- Whether there is no declaration. -/
def isEmpty (repository : Repository) : Bool := repository.declarations.isEmpty

/-- The declaration that another one is nested in, if the repository holds it. -/
def enclosingOf? (repository : Repository) (declaration : Declaration) : Option Declaration :=
  declaration.enclosing.bind repository.get?

/-- The declarations that are nested directly in another one. -/
def nestedIn (repository : Repository) (declaration : Declaration) : List Declaration :=
  let name := declaration.qualifiedName
  repository.declarations.filter fun nested => nested.enclosing = some name

/-- The declarations that carry an annotation, each as often as it carries it. -/
def annotatedWith (repository : Repository) (name : String) : List Declaration :=
  repository.declarations.flatMap fun declaration =>
    List.replicate (declaration.annotations.count name) declaration

/-- The declarations that carry the marker themselves. -/
def marked (repository : Repository) : List Declaration :=
  repository.declarations.filter (·.marker.isSome)

/-- A declaration of the repository. -/
abbrev Member (repository : Repository) : Type :=
  { declaration : Declaration // declaration ∈ repository.declarations }

/-- Members are declarations of the repository. -/
theorem unattach_subset (repository : Repository) (members : List repository.Member) :
    members.unattach ⊆ repository.declarations :=
  fun _ isMember => (List.mem_unattach.mp isMember).1

/-- The declarations that carry the marker themselves, as members of the repository. -/
def markedMembers (repository : Repository) : List repository.Member :=
  repository.declarations.attach.filter (·.val.marker.isSome)

theorem unattach_markedMembers (repository : Repository) :
    repository.markedMembers.unattach = repository.marked := by
  have filtered := @List.unattach_filter _ _ repository.declarations.attach
    (·.val.marker.isSome) (·.marker.isSome) fun _ _ => rfl
  rw [List.unattach_attach] at filtered
  exact filtered

/-! ### Names and membership -/

/-- Among items with distinct keys, the search for a key finds the one that has it. -/
theorem find?_key_eq_some_iff {Item Key : Type} [DecidableEq Key] {key : Item → Key}
    {items : List Item} (distinct : (items.map key).Nodup) (searched : Key) (item : Item) :
    items.find? (key · = searched) = some item ↔ item ∈ items ∧ key item = searched := by
  have unique := List.pairwise_map.mp distinct
  constructor
  · intro found
    exact ⟨List.mem_of_find?_eq_some found, by simpa using List.find?_some found⟩
  · rintro ⟨member, rfl⟩
    obtain ⟨before, after, split⟩ := List.append_of_mem member
    rw [List.find?_eq_some_iff_append]
    refine ⟨by simp, before, after, split, fun other earlier => ?_⟩
    rw [split, List.pairwise_append] at unique
    simpa using unique.2.2 other earlier item List.mem_cons_self

/-- Among declarations with distinct names, the search for a name finds the one that has it. -/
theorem find?_name_eq_some_iff {declarations : List Declaration}
    (distinct : (declarations.map (·.qualifiedName)).Nodup) (name : String)
    (declaration : Declaration) :
    declarations.find? (·.qualifiedName = name) = some declaration ↔
      declaration ∈ declarations ∧ declaration.qualifiedName = name :=
  find?_key_eq_some_iff distinct name declaration

theorem get?_eq_some_iff (repository : Repository) (name : String) (declaration : Declaration) :
    repository.get? name = some declaration ↔
      declaration ∈ repository.declarations ∧ declaration.qualifiedName = name :=
  find?_name_eq_some_iff repository.distinct name declaration

/-- A declaration of the repository is known by its name. -/
theorem eq_of_qualifiedName {repository : Repository} {first second : Declaration}
    (memberFirst : first ∈ repository.declarations)
    (memberSecond : second ∈ repository.declarations)
    (named : first.qualifiedName = second.qualifiedName) : first = second := by
  have foundFirst := (repository.get?_eq_some_iff _ first).mpr ⟨memberFirst, named⟩
  have foundSecond := (repository.get?_eq_some_iff _ second).mpr ⟨memberSecond, rfl⟩
  exact Option.some.inj (foundFirst.symm.trans foundSecond)

theorem mem_of_enclosingOf? {repository : Repository} {declaration enclosing : Declaration}
    (found : repository.enclosingOf? declaration = some enclosing) :
    enclosing ∈ repository.declarations ∧
      declaration.enclosing = some enclosing.qualifiedName := by
  rw [enclosingOf?, Option.bind_eq_some_iff] at found
  obtain ⟨name, named, found⟩ := found
  obtain ⟨member, rfl⟩ := (repository.get?_eq_some_iff name enclosing).mp found
  exact ⟨member, named⟩

theorem mem_nestedIn_iff (repository : Repository) (declaration nested : Declaration) :
    nested ∈ repository.nestedIn declaration ↔
      nested ∈ repository.declarations ∧
        nested.enclosing = some declaration.qualifiedName := by
  rw [nestedIn, List.mem_filter, decide_eq_true_eq]

end Repository

end ValueGen
