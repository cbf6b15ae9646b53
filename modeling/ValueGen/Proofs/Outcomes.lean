/-
This file says what comes of programs that can fail. A program that is made of steps gives a value
exactly if all its steps do, and the values of steps that are taken for the items of a list stand
beside the items; otherwise the error is that of the first step that fails.
-/

import Mathlib.Data.List.Forall2

namespace ValueGen

/-! ### Programs that can fail -/

section Outcomes

variable {Error Value Result Item : Type}

theorem exists_of_map_eq_ok {outcome : Except Error Value} {next : Value → Result}
    {result : Result} (mapped : outcome.map next = .ok result) :
    ∃ value, outcome = .ok value ∧ next value = result := by
  cases outcome with
  | error error => cases mapped
  | ok value => exact ⟨value, rfl, Except.ok.inj mapped⟩

theorem run_bind_eq_ok_iff {program : ExceptT Error Id Value}
    {next : Value → ExceptT Error Id Result} {result : Result} :
    (program >>= next).run.run = .ok result ↔
      ∃ value, program.run.run = .ok value ∧ (next value).run.run = .ok result := by
  rw [ExceptT.run_bind, Id.run_bind]
  cases program.run.run with
  | ok value => simp
  | error error => simp

theorem run_mapM_eq_ok_iff {program : Item → ExceptT Error Id Value} {items : List Item}
    {values : List Value} :
    (items.mapM program).run.run = .ok values ↔
      List.Forall₂ (fun item value => (program item).run.run = .ok value) items values := by
  induction items generalizing values with
  | nil =>
    rw [List.mapM_nil, List.forall₂_nil_left_iff]
    exact ⟨fun found => (Except.ok.inj found).symm, fun found => congrArg Except.ok found.symm⟩
  | cons item rest inductionHypothesis =>
    rw [List.mapM_cons, run_bind_eq_ok_iff, List.forall₂_cons_left_iff]
    constructor
    · rintro ⟨value, found, others⟩
      obtain ⟨otherValues, foundOthers, same⟩ := run_bind_eq_ok_iff.mp others
      exact ⟨value, otherValues, found, inductionHypothesis.mp foundOthers,
        (Except.ok.inj same).symm⟩
    · rintro ⟨value, otherValues, found, foundOthers, rfl⟩
      exact ⟨value, found, run_bind_eq_ok_iff.mpr
        ⟨otherValues, inductionHypothesis.mpr foundOthers, rfl⟩⟩

/-- A program fails only for reasons of a kind. -/
def FailsOnly (reason : Error → Prop) (program : ExceptT Error Id Value) : Prop :=
  ∀ error, program.run.run = .error error → reason error

variable {reason : Error → Prop}

theorem FailsOnly.pure (value : Value) :
    FailsOnly reason (Pure.pure value : ExceptT Error Id Value) :=
  fun _ impossible => (by cases impossible)

theorem FailsOnly.throw {error : Error} (isReason : reason error) :
    FailsOnly reason (throw error : ExceptT Error Id Value) := by
  intro other same
  cases same
  exact isReason

theorem FailsOnly.bind {program : ExceptT Error Id Value}
    {next : Value → ExceptT Error Id Result} (first : FailsOnly reason program)
    (second : ∀ value, FailsOnly reason (next value)) : FailsOnly reason (program >>= next) := by
  intro error fails
  rw [ExceptT.run_bind, Id.run_bind] at fails
  cases outcome : program.run.run with
  | ok value =>
    rw [outcome] at fails
    exact second value error fails
  | error other =>
    rw [outcome] at fails
    cases fails
    exact first error outcome

theorem FailsOnly.mapM {program : Item → ExceptT Error Id Value} (items : List Item)
    (each : ∀ item, FailsOnly reason (program item)) : FailsOnly reason (items.mapM program) := by
  induction items with
  | nil => exact .pure _
  | cons item rest inductionHypothesis =>
    rw [List.mapM_cons]
    exact .bind (each item) fun _ => .bind inductionHypothesis fun _ => .pure _

end Outcomes

/-! ### The error of an outcome -/

section Errors

variable {Error Value Result Item Check : Type}

/-- The error of an outcome, if it is one. -/
def errorOf? : Except Error Value → Option Error
  | .error error => some error
  | .ok _ => none

theorem errorOf?_eq_some_iff {outcome : Except Error Value} {error : Error} :
    errorOf? outcome = some error ↔ outcome = .error error := by
  cases outcome with
  | error other => rw [errorOf?, Option.some.injEq, Except.error.injEq]
  | ok value => simp [errorOf?]

theorem errorOf?_eq_none_iff {outcome : Except Error Value} :
    errorOf? outcome = none ↔ ∃ value, outcome = .ok value := by
  cases outcome with
  | error other => simp [errorOf?]
  | ok value => exact ⟨fun _ => ⟨value, rfl⟩, fun _ => rfl⟩

/-- Of two steps that depend on each other the first one that fails has the error. -/
theorem errorOf?_bind {outcome : Except Error Value} {next : Value → Except Error Result}
    {later : Option Error}
    (further : ∀ value, outcome = .ok value → errorOf? (next value) = later) :
    errorOf? (outcome >>= next) = (errorOf? outcome).or later := by
  cases outcome with
  | error error => rfl
  | ok value => exact (further value rfl).trans Option.none_or.symm

theorem errorOf?_bind_of_total (outcome : Except Error Value) {next : Value → Except Error Result}
    (total : ∀ value, errorOf? (next value) = none) :
    errorOf? (outcome >>= next) = errorOf? outcome :=
  (errorOf?_bind fun value _ => total value).trans Option.or_none

theorem findSome?_cons_eq_or (check : Item → Option Error) (item : Item) (rest : List Item) :
    (item :: rest).findSome? check = (check item).or (rest.findSome? check) := by
  rw [← List.singleton_append, List.findSome?_append, List.findSome?_singleton]

theorem findSome?_flatMap (check : Check → Option Error) (checks : Item → List Check)
    (items : List Item) :
    (items.flatMap checks).findSome? check =
      items.findSome? fun item => (checks item).findSome? check := by
  induction items with
  | nil => rfl
  | cons item rest inductionHypothesis =>
    rw [List.flatMap_cons, List.findSome?_append, inductionHypothesis, findSome?_cons_eq_or]

/-- Of several items the first one that fails has the error. -/
theorem errorOf?_mapM (act : Item → Except Error Value) (items : List Item) :
    errorOf? (items.mapM act) = items.findSome? fun item => errorOf? (act item) := by
  induction items with
  | nil => rfl
  | cons item rest inductionHypothesis =>
    rw [List.mapM_cons, findSome?_cons_eq_or]
    refine errorOf?_bind fun value _ => ?_
    rw [errorOf?_bind_of_total _ fun _ => rfl, inductionHypothesis]

theorem run_bind_eq (program : ExceptT Error Id Value) (next : Value → ExceptT Error Id Result) :
    (program >>= next).run.run = program.run.run >>= fun value => (next value).run.run := by
  rw [ExceptT.run_bind, Id.run_bind]
  cases program.run.run with
  | error error => rfl
  | ok value => rfl

theorem run_mapM_eq (program : Item → ExceptT Error Id Value) (items : List Item) :
    (items.mapM program).run.run = items.mapM fun item => (program item).run.run := by
  induction items with
  | nil => rfl
  | cons item rest inductionHypothesis =>
    rw [List.mapM_cons, List.mapM_cons, run_bind_eq]
    refine congrArg _ (funext fun value => ?_)
    rw [run_bind_eq, inductionHypothesis]
    rfl

end Errors

/-! ### Lists side by side -/

section SideBySide

variable {First Second : Type} {related : First → Second → Prop} {firsts : List First}
  {seconds : List Second}

theorem exists_mem_of_mem_left (sideBySide : List.Forall₂ related firsts seconds) {first : First}
    (member : first ∈ firsts) : ∃ second ∈ seconds, related first second := by
  induction sideBySide with
  | nil => cases member
  | @cons _ second _ _ here _ inductionHypothesis =>
    rcases List.mem_cons.mp member with rfl | later
    · exact ⟨second, List.mem_cons_self, here⟩
    · obtain ⟨other, otherMember, there⟩ := inductionHypothesis later
      exact ⟨other, List.mem_cons_of_mem _ otherMember, there⟩

theorem exists_mem_of_mem_right (sideBySide : List.Forall₂ related firsts seconds)
    {second : Second} (member : second ∈ seconds) : ∃ first ∈ firsts, related first second :=
  exists_mem_of_mem_left sideBySide.flip member

/-- What agrees for the items side by side agrees for the lists. -/
theorem map_eq_map_of_forall₂ {Value : Type} {valueOfFirst : First → Value}
    {valueOfSecond : Second → Value} (sideBySide : List.Forall₂ related firsts seconds)
    (each : ∀ first second, related first second → valueOfSecond second = valueOfFirst first) :
    seconds.map valueOfSecond = firsts.map valueOfFirst := by
  induction sideBySide with
  | nil => rfl
  | cons here _ inductionHypothesis =>
    rw [List.map_cons, List.map_cons, inductionHypothesis, each _ _ here]

end SideBySide

end ValueGen
