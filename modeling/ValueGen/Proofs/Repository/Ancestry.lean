/-
This file follows the nesting of declarations in both directions. Upwards it holds what is known
of an ancestry: it stays in the repository, it ends at an outermost declaration, and the ancestry
of each of its members is its own remainder. Downwards it says what the tree of the interfaces in a
declaration holds: the declarations whose ancestry leads to that declaration through interfaces.
-/

import Mathlib.Data.List.Nodup
import ValueGen.Repository.Nesting

namespace ValueGen

mutual

/-- The declarations of a tree, each before those nested in it. -/
def Nest.declarations : Nest → List Declaration
  | ⟨declaration, inner⟩ => declaration :: Nest.declarationsOfAll inner

/-- The declarations of several trees in order. -/
def Nest.declarationsOfAll : List Nest → List Declaration
  | [] => []
  | nest :: rest => nest.declarations ++ Nest.declarationsOfAll rest

end

theorem Nest.declarationsOfAll_eq_flatMap (nests : List Nest) :
    Nest.declarationsOfAll nests = nests.flatMap Nest.declarations := by
  induction nests with
  | nil => rfl
  | cons nest rest inductionHypothesis =>
    rw [Nest.declarationsOfAll, List.flatMap_cons, inductionHypothesis]

namespace Repository

variable {repository : Repository}

/-! ### Upwards -/

/-- What holds of outermost declarations and passes from a declaration to those nested in it holds
of every declaration. -/
@[elab_as_elim]
theorem nestingInduction (repository : Repository) {motive : Declaration → Prop}
    (outermost : ∀ declaration, repository.enclosingOf? declaration = none → motive declaration)
    (nested : ∀ declaration enclosing, repository.enclosingOf? declaration = some enclosing →
      motive enclosing → motive declaration) (declaration : Declaration) : motive declaration := by
  induction declaration using ancestry.induct repository with
  | case1 declaration inductionHypothesis =>
    cases around : repository.enclosingOf? declaration with
    | none => exact outermost declaration around
    | some enclosing =>
      exact nested declaration enclosing around (inductionHypothesis enclosing around)

theorem mem_ancestry_self (repository : Repository) (declaration : Declaration) :
    declaration ∈ repository.ancestry declaration := by
  rw [ancestry]
  exact List.mem_cons_self

theorem head?_ancestry (repository : Repository) (declaration : Declaration) :
    (repository.ancestry declaration).head? = some declaration := by
  rw [ancestry]
  rfl

theorem eq_of_ancestry_eq {first second : Declaration}
    (same : repository.ancestry first = repository.ancestry second) : first = second := by
  have heads := congrArg List.head? same
  rw [head?_ancestry, head?_ancestry] at heads
  exact Option.some.inj heads

theorem ancestry_ne_nil (repository : Repository) (declaration : Declaration) :
    repository.ancestry declaration ≠ [] :=
  List.ne_nil_of_mem (repository.mem_ancestry_self declaration)

/-- Each member of the ancestry is followed by the declaration it is nested in, and the last one is
nested in none that the repository holds. -/
theorem enclosingOf?_getElem_ancestry (repository : Repository) (declaration : Declaration)
    (index : Nat) (bound : index < (repository.ancestry declaration).length) :
    repository.enclosingOf? (repository.ancestry declaration)[index] =
      (repository.ancestry declaration)[index + 1]? := by
  induction declaration using nestingInduction repository generalizing index with
  | outermost declaration outermost =>
    simp only [ancestry_of_outermost outermost, List.length_singleton, Nat.lt_one_iff] at bound ⊢
    subst bound
    exact outermost
  | nested declaration enclosing nested inductionHypothesis =>
    simp only [ancestry_of_nested nested] at bound ⊢
    cases index with
    | zero =>
      rw [List.getElem_cons_zero, nested, List.getElem?_cons_succ, ← List.head?_eq_getElem?,
        head?_ancestry]
    | succ index =>
      rw [List.getElem_cons_succ, List.getElem?_cons_succ]
      exact inductionHypothesis index (Nat.lt_of_succ_lt_succ bound)

/-- The ancestry of a member of an ancestry is what is left of it from that member on. -/
theorem ancestry_of_split {declaration around : Declaration} {below above : List Declaration}
    (split : repository.ancestry declaration = below ++ around :: above) :
    repository.ancestry around = around :: above := by
  induction declaration using nestingInduction repository generalizing below with
  | outermost declaration outermost =>
    rw [ancestry_of_outermost outermost, eq_comm, List.append_eq_singleton_iff] at split
    rcases split with ⟨_, same⟩ | ⟨_, impossible⟩
    · obtain ⟨rfl, rfl⟩ := List.cons.inj same
      exact ancestry_of_outermost outermost
    · cases impossible
  | nested declaration enclosing nested inductionHypothesis =>
    cases below with
    | nil =>
      have first : declaration = around := by
        rw [ancestry_of_nested nested, List.nil_append] at split
        exact (List.cons.inj split).1
      rw [← first, split, first, List.nil_append]
    | cons lower below =>
      rw [ancestry_of_nested nested, List.cons_append] at split
      exact inductionHypothesis (List.cons.inj split).2

/-- The ancestry of a declaration of the repository lies in the repository. -/
theorem mem_declarations_of_mem_ancestry {declaration around : Declaration}
    (member : declaration ∈ repository.declarations)
    (above : around ∈ repository.ancestry declaration) : around ∈ repository.declarations := by
  induction declaration using nestingInduction repository with
  | outermost declaration outermost =>
    rw [ancestry_of_outermost outermost, List.mem_singleton] at above
    exact above ▸ member
  | nested declaration enclosing nested inductionHypothesis =>
    rw [ancestry_of_nested nested] at above
    rcases List.mem_cons.mp above with rfl | further
    · exact member
    · exact inductionHypothesis (mem_of_enclosingOf? nested).1 further

/-- The last declaration of the ancestry, which is nested in none that the repository holds. -/
def outermost (repository : Repository) (declaration : Declaration) : Declaration :=
  (repository.ancestry declaration).getLast (repository.ancestry_ne_nil declaration)

theorem ancestry_eq_dropLast_append (repository : Repository) (declaration : Declaration) :
    repository.ancestry declaration =
      (repository.ancestry declaration).dropLast ++ [repository.outermost declaration] :=
  (List.dropLast_concat_getLast (repository.ancestry_ne_nil declaration)).symm

theorem outermost_of_outermost {declaration : Declaration}
    (top : repository.enclosingOf? declaration = none) :
    repository.outermost declaration = declaration := by
  simp only [outermost, ancestry_of_outermost top, List.getLast_singleton]

theorem outermost_of_nested {declaration enclosing : Declaration}
    (nested : repository.enclosingOf? declaration = some enclosing) :
    repository.outermost declaration = repository.outermost enclosing := by
  simp only [outermost, ancestry_of_nested nested,
    List.getLast_cons (repository.ancestry_ne_nil enclosing)]

theorem outermost_mem_ancestry (repository : Repository) (declaration : Declaration) :
    repository.outermost declaration ∈ repository.ancestry declaration :=
  List.getLast_mem _

/-- The outermost declaration is nested in none, so it is its own ancestry. -/
theorem ancestry_outermost (repository : Repository) (declaration : Declaration) :
    repository.ancestry (repository.outermost declaration) =
      [repository.outermost declaration] := by
  induction declaration using nestingInduction repository with
  | outermost declaration top => rw [outermost_of_outermost top, ancestry_of_outermost top]
  | nested declaration enclosing nested inductionHypothesis =>
    rw [outermost_of_nested nested, inductionHypothesis]

/-- All members of an ancestry share the outermost declaration. -/
theorem outermost_of_mem_ancestry {declaration around : Declaration}
    (above : around ∈ repository.ancestry declaration) :
    repository.outermost around = repository.outermost declaration := by
  induction declaration using nestingInduction repository with
  | outermost declaration top =>
    rw [ancestry_of_outermost top, List.mem_singleton] at above
    rw [above]
  | nested declaration enclosing nested inductionHypothesis =>
    rw [ancestry_of_nested nested] at above
    rcases List.mem_cons.mp above with rfl | further
    · rfl
    · rw [outermost_of_nested nested, inductionHypothesis further]

/-- The outermost declarations are those that are nested in none that the repository holds. -/
theorem enclosingOf?_eq_none_iff (repository : Repository) (declaration : Declaration) :
    repository.enclosingOf? declaration = none ↔
      repository.outermost declaration = declaration := by
  constructor
  · exact outermost_of_outermost
  · intro same
    cases around : repository.enclosingOf? declaration with
    | none => rfl
    | some enclosing =>
      have alone := repository.ancestry_outermost declaration
      rw [same, ancestry_of_nested around] at alone
      exact absurd (List.cons.inj alone).2 (repository.ancestry_ne_nil enclosing)

/-- Nothing is below the last declaration of an ancestry exactly where it is the first one. -/
theorem dropLast_ancestry_eq_nil_iff (repository : Repository) (declaration : Declaration) :
    (repository.ancestry declaration).dropLast = [] ↔
      repository.outermost declaration = declaration := by
  constructor
  · intro nothing
    have split := repository.ancestry_eq_dropLast_append declaration
    rw [nothing, List.nil_append] at split
    have heads := congrArg List.head? split
    rw [head?_ancestry] at heads
    exact (Option.some.inj heads).symm
  · intro same
    have alone := repository.ancestry_outermost declaration
    rw [same] at alone
    rw [alone]
    rfl

/-- Whether a declaration and all that it is nested in are interfaces. -/
def SurroundedByInterfaces (repository : Repository) (declaration : Declaration) : Prop :=
  ∀ around ∈ repository.ancestry declaration, around.kind = .interface

instance (repository : Repository) (declaration : Declaration) :
    Decidable (repository.SurroundedByInterfaces declaration) :=
  inferInstanceAs (Decidable (∀ around ∈ repository.ancestry declaration, around.kind = .interface))

/-! ### Downwards -/

theorem mem_interfacesIn_iff (repository : Repository) (declaration inner : Declaration) :
    inner ∈ repository.interfacesIn declaration ↔
      inner ∈ repository.declarations ∧ inner.enclosing = some declaration.qualifiedName ∧
        inner.kind = .interface := by
  rw [interfacesIn, List.mem_filter, mem_nestedIn_iff, decide_eq_true_eq, and_assoc]

/-- The interfaces in a declaration come in the order of discovery. -/
theorem interfacesIn_eq_filter (repository : Repository) (declaration : Declaration) :
    repository.interfacesIn declaration = repository.declarations.filter fun inner =>
      inner.enclosing = some declaration.qualifiedName ∧ inner.kind = .interface := by
  rw [interfacesIn, nestedIn, List.filter_filter]
  exact List.filter_congr fun inner _ => by rw [Bool.decide_and, Bool.and_comm]

/-- What is nested in a declaration of the repository is enclosed by it. -/
theorem enclosingOf?_of_mem_interfacesIn {declaration inner : Declaration}
    (member : declaration ∈ repository.declarations)
    (found : inner ∈ repository.interfacesIn declaration) :
    repository.enclosingOf? inner = some declaration := by
  rw [enclosingOf?, ((mem_interfacesIn_iff _ _ _).mp found).2.1, Option.bind_some]
  exact (repository.get?_eq_some_iff _ _).mpr ⟨member, rfl⟩

theorem mem_declarations_nest_iff (repository : Repository) (declaration inside : Declaration) :
    inside ∈ (repository.nest declaration).declarations ↔
      inside = declaration ∨ ∃ inner ∈ repository.interfacesIn declaration,
        inside ∈ (repository.nest inner).declarations := by
  rw [nest_eq, Nest.declarations, Nest.declarationsOfAll_eq_flatMap, List.flatMap_map,
    List.mem_cons, List.mem_flatMap]

/-- The tree of the interfaces in a declaration of the repository lies in the repository. -/
theorem mem_declarations_of_mem_nest {declaration inside : Declaration}
    (member : declaration ∈ repository.declarations)
    (found : inside ∈ (repository.nest declaration).declarations) :
    inside ∈ repository.declarations := by
  induction declaration using nest.induct repository with
  | case1 declaration inductionHypothesis =>
    rcases (mem_declarations_nest_iff _ _ _).mp found with rfl | ⟨next, nextFound, further⟩
    · exact member
    · exact inductionHypothesis next nextFound ((mem_interfacesIn_iff _ _ _).mp nextFound).1 further

/-- The tree of the interfaces in a declaration goes on from each of its members. -/
theorem mem_nest_of_mem_interfacesIn {declaration inside inner : Declaration}
    (member : inside ∈ (repository.nest declaration).declarations)
    (found : inner ∈ repository.interfacesIn inside) :
    inner ∈ (repository.nest declaration).declarations := by
  induction declaration using nest.induct repository with
  | case1 declaration inductionHypothesis =>
    rcases (mem_declarations_nest_iff _ _ _).mp member with rfl | ⟨next, nextFound, further⟩
    · refine (mem_declarations_nest_iff _ _ _).mpr (Or.inr ⟨inner, found, ?_⟩)
      exact (mem_declarations_nest_iff _ _ _).mpr (Or.inl rfl)
    · exact (mem_declarations_nest_iff _ _ _).mpr
        (Or.inr ⟨next, nextFound, inductionHypothesis next nextFound further⟩)

/-- The tree of the interfaces in a declaration holds the declarations whose ancestry leads to it
through interfaces. -/
theorem mem_nest_iff {declaration inside : Declaration}
    (member : declaration ∈ repository.declarations)
    (insideMember : inside ∈ repository.declarations) :
    inside ∈ (repository.nest declaration).declarations ↔
      ∃ below, repository.ancestry inside = below ++ repository.ancestry declaration ∧
        ∀ between ∈ below, between.kind = .interface := by
  constructor
  · intro found
    clear insideMember
    induction declaration using nest.induct repository with
    | case1 declaration inductionHypothesis =>
      rcases (mem_declarations_nest_iff _ _ _).mp found with rfl | ⟨next, nextFound, further⟩
      · exact ⟨[], rfl, by simp⟩
      · obtain ⟨nextMember, _, isInterface⟩ := (mem_interfacesIn_iff _ _ _).mp nextFound
        obtain ⟨below, split, interfaces⟩ := inductionHypothesis next nextFound nextMember further
        refine ⟨below ++ [next], ?_, ?_⟩
        · rw [split, ancestry_of_nested (enclosingOf?_of_mem_interfacesIn member nextFound),
            List.append_assoc]
          rfl
        · intro between isBetween
          rcases List.mem_append.mp isBetween with lower | last
          · exact interfaces between lower
          · rw [List.mem_singleton.mp last]
            exact isInterface
  · rintro ⟨below, split, interfaces⟩
    have itself := (mem_declarations_nest_iff repository declaration declaration).mpr (Or.inl rfl)
    induction inside using nestingInduction repository generalizing below with
    | outermost inside outermost =>
      have nothing : below = [] := by
        have lengths := congrArg List.length split
        have positive := List.length_pos_iff.mpr (repository.ancestry_ne_nil declaration)
        rw [ancestry_of_outermost outermost, List.length_append, List.length_singleton] at lengths
        exact List.eq_nil_of_length_eq_zero (by omega)
      rw [nothing, List.nil_append] at split
      exact eq_of_ancestry_eq split ▸ itself
    | nested inside enclosing nested inductionHypothesis =>
      cases below with
      | nil => exact eq_of_ancestry_eq split ▸ itself
      | cons first below =>
        rw [ancestry_of_nested nested, List.cons_append, List.cons.injEq] at split
        obtain ⟨rfl, split⟩ := split
        obtain ⟨enclosingMember, named⟩ := mem_of_enclosingOf? nested
        have found := inductionHypothesis enclosingMember below split
          fun between lower => interfaces between (List.mem_cons_of_mem _ lower)
        refine mem_nest_of_mem_interfacesIn found ((mem_interfacesIn_iff _ _ _).mpr ?_)
        exact ⟨insideMember, named, interfaces inside List.mem_cons_self⟩

/-- A declaration is embedded in another one if it is that one, or if it is an interface of the
repository that is nested directly in a declaration embedded in that one. -/
inductive EmbeddedIn (repository : Repository) (root : Declaration) : Declaration → Prop
  | itself : EmbeddedIn repository root root
  | nested {enclosing inner : Declaration} (around : EmbeddedIn repository root enclosing)
    (member : inner ∈ repository.declarations)
    (nested : repository.enclosingOf? inner = some enclosing)
    (isInterface : inner.kind = .interface) : EmbeddedIn repository root inner

theorem EmbeddedIn.trans {root middle inside : Declaration}
    (outer : EmbeddedIn repository root middle) (inner : EmbeddedIn repository middle inside) :
    EmbeddedIn repository root inside := by
  induction inner with
  | itself => exact outer
  | nested _ member nested isInterface inductionHypothesis =>
    exact .nested inductionHypothesis member nested isInterface

/-- The tree of the interfaces in a declaration holds what is embedded in it. -/
theorem mem_nest_iff_embeddedIn {root : Declaration} (member : root ∈ repository.declarations)
    (inside : Declaration) :
    inside ∈ (repository.nest root).declarations ↔ EmbeddedIn repository root inside := by
  constructor
  · intro found
    induction root using nest.induct repository with
    | case1 root inductionHypothesis =>
      rcases (mem_declarations_nest_iff _ _ _).mp found with rfl | ⟨inner, innerFound, further⟩
      · exact .itself
      · obtain ⟨innerMember, _, isInterface⟩ := (mem_interfacesIn_iff _ _ _).mp innerFound
        have around := enclosingOf?_of_mem_interfacesIn member innerFound
        exact (EmbeddedIn.nested .itself innerMember around isInterface).trans
          (inductionHypothesis inner innerFound innerMember further)
  · intro embedded
    induction embedded with
    | itself => exact (mem_declarations_nest_iff _ _ _).mpr (Or.inl rfl)
    | nested _ innerMember nested isInterface inductionHypothesis =>
      exact mem_nest_of_mem_interfacesIn inductionHypothesis ((mem_interfacesIn_iff _ _ _).mpr
        ⟨innerMember, (mem_of_enclosingOf? nested).2, isInterface⟩)

/-- What is in the tree of an outermost declaration has it for its outermost declaration. -/
theorem outermost_of_mem_nest {root declaration : Declaration}
    (member : root ∈ repository.declarations) (top : repository.outermost root = root)
    (found : declaration ∈ (repository.nest root).declarations) :
    repository.outermost declaration = root := by
  have known := mem_declarations_of_mem_nest member found
  obtain ⟨below, split, _⟩ := (mem_nest_iff member known).mp found
  have above : root ∈ repository.ancestry declaration := by
    rw [split]
    exact List.mem_append_right _ (repository.mem_ancestry_self root)
  exact (outermost_of_mem_ancestry above).symm.trans top

/-- What is in the tree of the interfaces in a declaration, apart from the declaration itself, is
nested in something that is in it. -/
theorem enclosing_mem_nest {root declaration enclosing : Declaration}
    (member : root ∈ repository.declarations)
    (found : declaration ∈ (repository.nest root).declarations) (differ : declaration ≠ root)
    (nested : repository.enclosingOf? declaration = some enclosing) :
    enclosing ∈ (repository.nest root).declarations ∧
      declaration ∈ repository.interfacesIn enclosing := by
  have known := mem_declarations_of_mem_nest member found
  obtain ⟨enclosingMember, named⟩ := mem_of_enclosingOf? nested
  obtain ⟨below, split, interfaces⟩ := (mem_nest_iff member known).mp found
  cases below with
  | nil => exact absurd (eq_of_ancestry_eq split) differ
  | cons first below =>
    rw [ancestry_of_nested nested, List.cons_append, List.cons.injEq] at split
    obtain ⟨rfl, split⟩ := split
    refine ⟨(mem_nest_iff member enclosingMember).mpr ⟨below, split, ?_⟩, ?_⟩
    · exact fun between lower => interfaces between (List.mem_cons_of_mem _ lower)
    · exact (mem_interfacesIn_iff _ _ _).mpr ⟨known, named, interfaces _ List.mem_cons_self⟩

/-! ### Nothing twice -/

theorem nodup_declarations (repository : Repository) : repository.declarations.Nodup :=
  repository.distinct.of_map _

theorem nodup_interfacesIn (repository : Repository) (declaration : Declaration) :
    (repository.interfacesIn declaration).Nodup :=
  (repository.nodup_declarations.filter _).filter _

/-- The ancestry of what is in the tree of an interface leads through that interface. -/
theorem ancestry_of_mem_nest_inner {declaration inner inside : Declaration}
    (member : declaration ∈ repository.declarations)
    (found : inner ∈ repository.interfacesIn declaration)
    (nested : inside ∈ (repository.nest inner).declarations) :
    ∃ below, repository.ancestry inside = below ++ inner :: repository.ancestry declaration := by
  have innerMember := ((mem_interfacesIn_iff _ _ _).mp found).1
  have insideMember := mem_declarations_of_mem_nest innerMember nested
  obtain ⟨below, split, _⟩ := (mem_nest_iff innerMember insideMember).mp nested
  rw [ancestry_of_nested (enclosingOf?_of_mem_interfacesIn member found)] at split
  exact ⟨below, split⟩

/-- The trees of two interfaces in one declaration have nothing in common. -/
theorem eq_of_mem_nest_inner {declaration first second inside : Declaration}
    (member : declaration ∈ repository.declarations)
    (firstFound : first ∈ repository.interfacesIn declaration)
    (secondFound : second ∈ repository.interfacesIn declaration)
    (inFirst : inside ∈ (repository.nest first).declarations)
    (inSecond : inside ∈ (repository.nest second).declarations) : first = second := by
  obtain ⟨belowFirst, split⟩ := ancestry_of_mem_nest_inner member firstFound inFirst
  obtain ⟨belowSecond, again⟩ := ancestry_of_mem_nest_inner member secondFound inSecond
  exact (List.cons.inj (List.append_inj' (split.symm.trans again) rfl).2).1

/-- No declaration stands twice in the tree of the interfaces in a declaration. -/
theorem nodup_nest {declaration : Declaration} (member : declaration ∈ repository.declarations) :
    (repository.nest declaration).declarations.Nodup := by
  induction declaration using nest.induct repository with
  | case1 declaration inductionHypothesis =>
    rw [nest_eq, Nest.declarations, Nest.declarationsOfAll_eq_flatMap, List.flatMap_map,
      List.nodup_cons, List.nodup_flatMap]
    refine ⟨fun again => ?_, fun inner found => ?_, ?_⟩
    · obtain ⟨inner, found, nested⟩ := List.mem_flatMap.mp again
      obtain ⟨below, split⟩ := ancestry_of_mem_nest_inner member found nested
      have lengths := congrArg List.length split
      rw [List.length_append, List.length_cons] at lengths
      omega
    · exact inductionHypothesis inner found ((mem_interfacesIn_iff _ _ _).mp found).1
    · refine (repository.nodup_interfacesIn declaration).imp_of_mem ?_
      intro first second firstFound secondFound differ inside inFirst inSecond
      exact differ (eq_of_mem_nest_inner member firstFound secondFound inFirst inSecond)

end Repository

end ValueGen
