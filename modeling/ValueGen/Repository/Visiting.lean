/-
This file holds what walks over a repository share that enter each declaration once at most. Such
a walk carries along the declarations it has not entered. Entering one takes it away, and with it
more than the entered declaration adds to what the walk still has to do.
-/

import ValueGen.Repository.Basic

namespace ValueGen.Repository

/-- The declarations with another name. -/
def without (declarations : List Declaration) (name : String) : List Declaration :=
  declarations.filter (·.qualifiedName ≠ name)

theorem mem_without_iff (declarations : List Declaration) (name : String)
    (declaration : Declaration) :
    declaration ∈ without declarations name ↔
      declaration ∈ declarations ∧ declaration.qualifiedName ≠ name := by
  rw [without, List.mem_filter, decide_eq_true_eq]

theorem distinct_without {declarations : List Declaration}
    (distinct : (declarations.map (·.qualifiedName)).Nodup) (name : String) :
    ((without declarations name).map (·.qualifiedName)).Nodup :=
  distinct.sublist (List.filter_sublist.map _)

/-- The sum of what some declarations add, and one more for each of them. -/
def load (added : Declaration → Nat) : List Declaration → Nat
  | [] => 0
  | declaration :: rest => added declaration + 1 + load added rest

theorem load_without_le (added : Declaration → Nat) (declarations : List Declaration)
    (name : String) : load added (without declarations name) ≤ load added declarations := by
  induction declarations with
  | nil => exact Nat.le_refl _
  | cons other rest inductionHypothesis =>
    simp only [load, without, List.filter_cons] at *
    split
    · simp only [load]
      omega
    · omega

theorem load_without (added : Declaration → Nat) {declarations : List Declaration}
    {found : Declaration} {name : String}
    (equal : declarations.find? (·.qualifiedName = name) = some found) :
    added found + load added (without declarations name) < load added declarations := by
  induction declarations with
  | nil => simp at equal
  | cons other rest inductionHypothesis =>
    have bound := load_without_le added rest name
    simp only [load, without, List.filter_cons, List.find?_cons] at *
    by_cases named : other.qualifiedName = name
    · simp only [named, decide_true, Option.some.injEq] at equal
      subst equal
      simp only [named, ne_eq, not_true_eq_false, decide_false, Bool.false_eq_true, if_false] at *
      omega
    · simp only [named, decide_false] at equal
      have bound := inductionHypothesis equal
      simp only [named, ne_eq, not_false_eq_true, decide_true, if_true, load] at *
      omega

end ValueGen.Repository
