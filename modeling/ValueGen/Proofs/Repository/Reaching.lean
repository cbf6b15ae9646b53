/-
This file says what a walk over a repository comes to that enters each declaration once at most.
Such a walk knows the names it has to look at next and the declarations it has not entered. What it
comes to is what can be reached within those declarations from those names. Entering a declaration
keeps that: the rest of the walk reaches everything else within the declarations that remain. After
some names have been entered, those that remain are the ones with other names. The walk for a marked
group and the walk of a round both rest on this.
-/

import ValueGen.Repository.Visiting

namespace ValueGen.Repository

variable {next : Declaration → List String} {domain : List Declaration} {seeds : List String}

/-- A declaration of the domain is reached from some names if it has one of them, or if it has a
name that comes next after a declaration that is reached. -/
inductive ReachedIn (next : Declaration → List String) (domain : List Declaration)
    (seeds : List String) : Declaration → Prop
  | seed {declaration : Declaration} (member : declaration ∈ domain)
    (named : declaration.qualifiedName ∈ seeds) : ReachedIn next domain seeds declaration
  | step {declaration before : Declaration} (reached : ReachedIn next domain seeds before)
    (member : declaration ∈ domain) (named : declaration.qualifiedName ∈ next before) :
    ReachedIn next domain seeds declaration

namespace ReachedIn

theorem mem {declaration : Declaration} (reached : ReachedIn next domain seeds declaration) :
    declaration ∈ domain := by
  cases reached with
  | seed member _ => exact member
  | step _ member _ => exact member

theorem not_nil (declaration : Declaration) : ¬ ReachedIn next domain [] declaration := by
  intro reached
  induction reached with
  | seed _ named => cases named
  | step _ _ _ inductionHypothesis => exact inductionHypothesis

/-- What is reached stays reached when the domain and the names become more, as long as each new
name belongs to a declaration that is reached. -/
theorem of_seeds {domain' : List Declaration} {seeds' : List String} {declaration : Declaration}
    (reached : ReachedIn next domain seeds declaration)
    (within : ∀ member ∈ domain, member ∈ domain')
    (start : ∀ member ∈ domain', member.qualifiedName ∈ seeds →
      ReachedIn next domain' seeds' member) :
    ReachedIn next domain' seeds' declaration := by
  induction reached with
  | seed member named => exact start _ (within _ member) named
  | step _ member named inductionHypothesis =>
    exact .step inductionHypothesis (within _ member) named

/-- Reaching goes on from what is reached. -/
theorem trans {before declaration : Declaration} (reached : ReachedIn next domain seeds before)
    (further : ReachedIn next domain (next before) declaration) :
    ReachedIn next domain seeds declaration :=
  further.of_seeds (fun _ member => member) fun _ member named => .step reached member named

/-- A name that no declaration of the domain has adds nothing to what is reached. -/
theorem cons_iff_of_missing {name : String}
    (missing : domain.find? (·.qualifiedName = name) = none) (declaration : Declaration) :
    ReachedIn next domain (name :: seeds) declaration ↔
      ReachedIn next domain seeds declaration := by
  constructor
  · intro reached
    refine reached.of_seeds (fun _ member => member) fun other member named => .seed member ?_
    rcases List.mem_cons.mp named with same | later
    · exact absurd same (by simpa using List.find?_eq_none.mp missing other member)
    · exact later
  · intro reached
    exact reached.of_seeds (fun _ member => member) fun other member named =>
      .seed member (List.mem_cons_of_mem _ named)

/-- What is reached is the declaration with the first name, and what is reached within the others
from what comes next after it and from the other names. -/
theorem cons_iff_of_found (distinct : (domain.map (·.qualifiedName)).Nodup) {name : String}
    {first : Declaration} (found : domain.find? (·.qualifiedName = name) = some first)
    (declaration : Declaration) :
    ReachedIn next domain (name :: seeds) declaration ↔
      declaration = first ∨
        ReachedIn next (without domain name) (next first ++ seeds) declaration := by
  obtain ⟨firstMember, rfl⟩ := (find?_name_eq_some_iff distinct name first).mp found
  have here : ReachedIn next domain (first.qualifiedName :: seeds) first :=
    .seed firstMember List.mem_cons_self
  constructor
  · intro reached
    -- the way to a declaration other than the first one is cut off behind the first one
    have other : ∀ member ∈ domain, member ≠ first →
        member ∈ without domain first.qualifiedName := by
      intro member inDomain different
      refine (mem_without_iff _ _ _).mpr ⟨inDomain, fun same => different ?_⟩
      have again := (find?_name_eq_some_iff distinct _ member).mpr ⟨inDomain, same⟩
      exact Option.some.inj (again.symm.trans found)
    induction reached with
    | @seed declaration member named =>
      by_cases same : declaration = first
      · exact Or.inl same
      · refine Or.inr (.seed (other _ member same) (List.mem_append_right _ ?_))
        refine (List.mem_cons.mp named).resolve_left fun equal => ?_
        exact ((mem_without_iff _ _ _).mp (other _ member same)).2 equal
    | @step declaration before _ member named inductionHypothesis =>
      by_cases same : declaration = first
      · exact Or.inl same
      · rcases inductionHypothesis with rfl | reached
        · exact Or.inr (.seed (other _ member same) (List.mem_append_left _ named))
        · exact Or.inr (.step reached (other _ member same) named)
  · rintro (rfl | reached)
    · exact here
    · refine reached.of_seeds (fun _ member => ((mem_without_iff _ _ _).mp member).1) ?_
      intro member inDomain named
      rcases List.mem_append.mp named with after | later
      · exact .step here inDomain after
      · exact .seed inDomain (List.mem_cons_of_mem _ later)

end ReachedIn

/-! ### Names that have been entered -/

/-- The declarations that a walk has not entered, which knows the names that it has entered. -/
def unentered (declarations : List Declaration) (entered : List String) : List Declaration :=
  declarations.filter (·.qualifiedName ∉ entered)

theorem unentered_nil (declarations : List Declaration) :
    unentered declarations [] = declarations :=
  List.filter_eq_self.mpr fun _ _ => by simp

/-- Entering a name leaves the declarations with another name. -/
theorem without_unentered (declarations : List Declaration) (entered : List String)
    (name : String) :
    without (unentered declarations entered) name =
      unentered declarations (name :: entered) := by
  rw [without, unentered, unentered, List.filter_filter]
  refine List.filter_congr fun declaration _ => ?_
  rw [← Bool.decide_and]
  exact decide_eq_decide.mpr (by rw [List.mem_cons, not_or])

theorem unentered_without (declarations : List Declaration) (entered : List String)
    (name : String) :
    unentered (without declarations name) entered = unentered declarations (name :: entered) := by
  rw [← without_unentered, without, without, unentered, unentered, List.filter_filter,
    List.filter_filter]
  exact List.filter_congr fun _ _ => Bool.and_comm _ _

theorem find?_unentered_eq_some_iff {declarations : List Declaration}
    (distinct : (declarations.map (·.qualifiedName)).Nodup) (entered : List String)
    (name : String) (declaration : Declaration) :
    (unentered declarations entered).find? (·.qualifiedName = name) = some declaration ↔
      declaration ∈ declarations ∧ declaration.qualifiedName = name ∧ name ∉ entered := by
  have remaining : ((unentered declarations entered).map (·.qualifiedName)).Nodup :=
    distinct.sublist (List.filter_sublist.map _)
  rw [find?_name_eq_some_iff remaining, unentered, List.mem_filter, decide_eq_true_eq, and_assoc]
  refine and_congr_right fun _ => ?_
  rw [and_comm]
  exact and_congr_right fun named => by rw [named]

end ValueGen.Repository
