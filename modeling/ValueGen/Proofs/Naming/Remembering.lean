/-
This file proves that a cache of names changes nothing but the work. A cache is sound if every
answer in it is the one that is found anew. From a sound cache every stage of generation gives the
outcome that it gives without a cache, and it leaves a sound cache for the next stage; so all tasks
of a round can share one.
-/

import Mathlib.Control.Monad.Basic
import ValueGen.GeneratedClass
import ValueGen.Proofs.Repository.Ancestry
import ValueGen.Round.Plan

namespace ValueGen

namespace NameCache

variable {repository : Repository} {suffix : String}

/-- Every answer in the cache to a question about a declaration of the repository is the one that
is found anew. -/
def Sound (repository : Repository) (suffix : String) (cache : NameCache) : Prop :=
  ∀ declaration ∈ repository.declarations, ∀ strictness answer,
    cache.find? (declaration.qualifiedName, strictness) = some answer →
      Naming.resolve repository suffix strictness declaration = .ok answer

theorem sound_empty (repository : Repository) (suffix : String) :
    empty.Sound repository suffix := by
  intro declaration _ strictness answer found
  cases found

theorem find?_insert (cache : NameCache) (question other : NameQuestion)
    (answer : Option GeneratedName) :
    (cache.insert question answer).find? other =
      if other = question then some answer else cache.find? other := by
  unfold find? insert
  rw [List.lookup_cons]
  by_cases same : other = question
  · rw [if_pos same, same, beq_self_eq_true]
  · rw [if_neg same, beq_false_of_ne same]

/-- A sound cache stays sound when an answer that is found anew is remembered. -/
theorem Sound.insert {cache : NameCache} (sound : cache.Sound repository suffix)
    {declaration : Declaration} (member : declaration ∈ repository.declarations)
    {strictness : Strictness} {answer : Option GeneratedName}
    (anew : Naming.resolve repository suffix strictness declaration = .ok answer) :
    (cache.insert (declaration.qualifiedName, strictness) answer).Sound repository suffix := by
  intro other otherMember otherStrictness otherAnswer found
  rw [find?_insert] at found
  split at found
  · rename_i same
    obtain ⟨named, rfl⟩ := Prod.mk.inj same
    cases found
    rw [Repository.eq_of_qualifiedName otherMember member named]
    exact anew
  · exact sound other otherMember otherStrictness otherAnswer found

/-- A program with a cache yields a value if it gives that value and leaves a sound cache,
whatever sound cache it starts from. -/
def Yields (repository : Repository) (suffix : String) {Value : Type}
    (program : StateM NameCache Value) (value : Value) : Prop :=
  ∀ cache : NameCache, cache.Sound repository suffix →
    (program.run cache).1 = value ∧ (program.run cache).2.Sound repository suffix

namespace Yields

variable {Value Result : Type}

theorem pure (value : Value) :
    Yields repository suffix (Pure.pure value : StateM NameCache Value) value :=
  fun _ sound => ⟨rfl, sound⟩

theorem bind {program : StateM NameCache Value} {value : Value}
    {next : Value → StateM NameCache Result} {result : Result}
    (first : Yields repository suffix program value)
    (second : Yields repository suffix (next value) result) :
    Yields repository suffix (program >>= next) result := by
  intro cache sound
  obtain ⟨same, still⟩ := first cache sound
  obtain ⟨sameResult, stillResult⟩ := second _ still
  rw [← same] at sameResult stillResult
  exact ⟨sameResult, stillResult⟩

/-- A program that cannot fail yields its value also where programs can. -/
theorem lift {Error : Type} {program : StateM NameCache Value} {value : Id Value}
    (yields : Yields repository suffix program value.run) :
    Yields repository suffix (liftM program : ExceptT Error (StateM NameCache) Value).run
      (liftM value : ExceptT Error Id Value).run.run := by
  show Yields repository suffix (Except.ok <$> program) (Except.ok value.run)
  rw [map_eq_pure_bind]
  exact bind yields (pure _)

/-- What follows a program that can fail only has to yield its outcome for a value. -/
theorem bindExcept {Error : Type} {program : ExceptT Error (StateM NameCache) Value}
    {outcome : ExceptT Error Id Value} {next : Value → ExceptT Error (StateM NameCache) Result}
    {after : Value → ExceptT Error Id Result}
    (first : Yields repository suffix program.run outcome.run.run)
    (second : ∀ value, Yields repository suffix (next value).run (after value).run.run) :
    Yields repository suffix (program >>= next).run (outcome >>= after).run.run := by
  rw [ExceptT.run_bind, ExceptT.run_bind, Id.run_bind]
  refine bind first ?_
  cases outcome.run.run with
  | ok value => exact second value
  | error error => exact pure _

/-- A program that can fail yields the outcomes of a list one by one. -/
theorem mapMExcept {Error Item : Type} {program : Item → ExceptT Error (StateM NameCache) Value}
    {outcome : Item → ExceptT Error Id Value} (items : List Item)
    (each : ∀ item, Yields repository suffix (program item).run (outcome item).run.run) :
    Yields repository suffix (items.mapM program).run (items.mapM outcome).run.run := by
  induction items with
  | nil => exact pure _
  | cons item rest inductionHypothesis =>
    rw [List.mapM_cons, List.mapM_cons]
    exact bindExcept (each item) fun value => bindExcept inductionHypothesis fun values => pure _

end Yields

/-! ### Searches -/

theorem run_get_bind {Value : Type} (next : NameCache → StateM NameCache Value)
    (cache : NameCache) : (get >>= next).run cache = (next cache).run cache := rfl

theorem Yields.remember {declaration : Declaration} {strictness : Strictness}
    {answer : Option GeneratedName} (member : declaration ∈ repository.declarations)
    (anew : Naming.resolve repository suffix strictness declaration = .ok answer) :
    Yields repository suffix
      (modify (·.insert (declaration.qualifiedName, strictness) answer)) PUnit.unit :=
  fun _ sound => ⟨rfl, sound.insert member anew⟩

/-- One level of a search: the answer is remembered, or it is found from the one around and then
remembered unless it is an error. -/
theorem yields_resolveChain_cons {declaration : Declaration} {around : List Declaration}
    {strictness : Strictness} (member : declaration ∈ repository.declarations)
    (ancestry : repository.ancestry declaration = declaration :: around)
    (outer : Yields repository suffix (resolveChain repository suffix strictness around)
      (Naming.resolveChain repository suffix strictness around)) :
    Yields repository suffix (resolveChain repository suffix strictness (declaration :: around))
      (Naming.resolve repository suffix strictness declaration) := by
  have anew : Naming.resolve repository suffix strictness declaration =
      Naming.resolveChain repository suffix strictness around >>= fun parent =>
        Naming.nameWithin repository suffix strictness parent declaration := by
    rw [Naming.resolve, ancestry, Naming.resolveChain]
  intro cache sound
  rw [resolveChain, run_get_bind]
  cases remembered : cache.find? (declaration.qualifiedName, strictness) with
  | some answer => exact ⟨(sound declaration member strictness answer remembered).symm, sound⟩
  | none =>
    refine Yields.bind outer ?_ cache sound
    cases around : Naming.resolveChain repository suffix strictness around with
    | error error =>
      rw [around] at anew
      rw [anew]
      exact .pure _
    | ok parent =>
      rw [around] at anew
      change _ = Naming.nameWithin repository suffix strictness parent declaration at anew
      cases within : Naming.nameWithin repository suffix strictness parent declaration with
      | error error =>
        simp only [anew, within]
        exact .pure _
      | ok answer =>
        rw [within] at anew
        simp only [anew, within]
        exact .bind (.remember member anew) (.pure _)

/-- A search with a cache gives the name that is found anew. -/
theorem yields_resolve {declaration : Declaration} (strictness : Strictness)
    (member : declaration ∈ repository.declarations) :
    Yields repository suffix (resolve repository suffix strictness declaration)
      (Naming.resolve repository suffix strictness declaration) := by
  have chain : Yields repository suffix
      (resolveChain repository suffix strictness (repository.ancestry declaration))
      (Naming.resolve repository suffix strictness declaration) := by
    induction declaration using Repository.nestingInduction repository with
    | outermost declaration outermost =>
      rw [Repository.ancestry_of_outermost outermost]
      exact yields_resolveChain_cons member (Repository.ancestry_of_outermost outermost) (.pure _)
    | nested declaration enclosing nested inductionHypothesis =>
      rw [Repository.ancestry_of_nested nested]
      exact yields_resolveChain_cons member (Repository.ancestry_of_nested nested)
        (inductionHypothesis (Repository.mem_of_enclosingOf? nested).1)
  intro cache sound
  rw [resolve, run_get_bind]
  cases remembered : cache.find? (declaration.qualifiedName, strictness) with
  | some answer => exact ⟨(sound declaration member strictness answer remembered).symm, sound⟩
  | none => exact chain cache sound

/-- The cache after some names have been asked for, each as strictly as it was meant. -/
def after (repository : Repository) (suffix : String) (calls : List (Strictness × Declaration)) :
    NameCache :=
  calls.foldl (fun cache call => ((resolve repository suffix call.1 call.2).run cache).2) empty

theorem sound_after (suffix : String) (calls : List (Strictness × Declaration))
    (known : ∀ call ∈ calls, call.2 ∈ repository.declarations) :
    (after repository suffix calls).Sound repository suffix := by
  have later : ∀ cache : NameCache, cache.Sound repository suffix →
      (calls.foldl (fun cache call => ((resolve repository suffix call.1 call.2).run cache).2)
        cache).Sound repository suffix := by
    induction calls with
    | nil => exact fun _ sound => sound
    | cons call rest inductionHypothesis =>
      rw [List.forall_mem_cons] at known
      exact fun cache sound =>
        inductionHypothesis known.2 _ (yields_resolve call.1 known.1 cache sound).2
  exact later empty (sound_empty repository suffix)

/-! ### Stages of generation -/

theorem run_strictName_direct (repository : Repository) (suffix : String)
    (declaration : Declaration) :
    ((Resolver.direct repository suffix).strictName declaration).run =
      match Naming.resolve repository suffix .strict declaration with
      | .ok (some name) => Except.ok name
      | .ok none => Except.error (.missingMarker declaration.qualifiedName)
      | .error error => Except.error error := by
  unfold Resolver.strictName
  show Id.run (match Naming.resolve repository suffix .strict declaration with
    | .ok (some name) => _
    | .ok none => _
    | .error error => _) = _
  split <;> rfl

theorem yields_strictName {declaration : Declaration}
    (member : declaration ∈ repository.declarations) :
    Yields repository suffix ((Resolver.remembering repository suffix).strictName declaration)
      ((Resolver.direct repository suffix).strictName declaration).run := by
  refine Yields.bind (yields_resolve .strict member) ?_
  rw [run_strictName_direct]
  rcases Naming.resolve repository suffix .strict declaration with error | (none | name)
  · exact .pure _
  · exact .pure _
  · exact .pure _

theorem run_lenientName?_direct (repository : Repository) (suffix : String)
    (declaration : Declaration) :
    ((Resolver.direct repository suffix).lenientName? declaration).run =
      match Naming.resolve repository suffix .lenient declaration with
      | .ok name => name
      | .error _ => none := by
  unfold Resolver.lenientName?
  show Id.run (match Naming.resolve repository suffix .lenient declaration with
    | .ok name => _
    | .error _ => _) = _
  split <;> rfl

theorem yields_lenientName? {declaration : Declaration}
    (member : declaration ∈ repository.declarations) :
    Yields repository suffix ((Resolver.remembering repository suffix).lenientName? declaration)
      ((Resolver.direct repository suffix).lenientName? declaration).run := by
  refine Yields.bind (yields_resolve .lenient member) ?_
  rw [run_lenientName?_direct]
  cases Naming.resolve repository suffix .lenient declaration with
  | ok name => exact .pure _
  | error error => exact .pure _

theorem yields_substitute (repository : Repository) (suffix name : String) :
    Yields repository suffix ((Resolver.remembering repository suffix).substitute name)
      ((Resolver.direct repository suffix).substitute name).run := by
  cases found : repository.get? name with
  | none =>
    have missing : (Resolver.remembering repository suffix).repository.get? name = none := found
    have missingAnew : (Resolver.direct repository suffix).repository.get? name = none := found
    rw [Resolver.substitute, Resolver.substitute, missing, missingAnew]
    exact .pure _
  | some declaration =>
    have member := ((repository.get?_eq_some_iff name declaration).mp found).1
    have foundAgain :
        (Resolver.remembering repository suffix).repository.get? name = some declaration := found
    have foundAnew :
        (Resolver.direct repository suffix).repository.get? name = some declaration := found
    rw [Resolver.substitute, Resolver.substitute, foundAgain, foundAnew]
    refine Yields.bind (yields_lenientName? member) ?_
    rw [Id.run_bind]
    cases ((Resolver.direct repository suffix).lenientName? declaration).run with
    | none => exact .pure _
    | some generated => exact .pure _

mutual

theorem yields_rewrite (repository : Repository) (suffix : String) : (type : TypeExpr) →
    Yields repository suffix ((Resolver.remembering repository suffix).rewrite type)
      ((Resolver.direct repository suffix).rewrite type).run
  | .named name => by
    rw [Resolver.rewrite, Resolver.rewrite]
    exact .bind (yields_substitute repository suffix name) (.pure _)
  | .parameterized raw arguments => by
    rw [Resolver.rewrite, Resolver.rewrite]
    exact .bind (yields_rewrite repository suffix raw)
      (.bind (yields_rewriteAll repository suffix arguments) (.pure _))
  | .unbounded variance => by
    rw [Resolver.rewrite, Resolver.rewrite]
    exact .pure _
  | .bounded variance bound => by
    rw [Resolver.rewrite, Resolver.rewrite]
    exact .bind (yields_rewrite repository suffix bound) (.pure _)
  | .array element => by
    rw [Resolver.rewrite, Resolver.rewrite]
    exact .bind (yields_rewrite repository suffix element) (.pure _)
  | .typeVariable name bounds => by
    rw [Resolver.rewrite, Resolver.rewrite]
    exact .bind (yields_rewriteAll repository suffix bounds) (.pure _)

theorem yields_rewriteAll (repository : Repository) (suffix : String) : (types : List TypeExpr) →
    Yields repository suffix ((Resolver.remembering repository suffix).rewriteAll types)
      ((Resolver.direct repository suffix).rewriteAll types).run
  | [] => by
    rw [Resolver.rewriteAll, Resolver.rewriteAll]
    exact .pure _
  | type :: rest => by
    rw [Resolver.rewriteAll, Resolver.rewriteAll]
    exact .bind (yields_rewrite repository suffix type)
      (.bind (yields_rewriteAll repository suffix rest) (.pure _))

end

theorem yields_synthesizeTypeParameters (repository : Repository) (suffix : String)
    (declaration : Declaration) :
    Yields repository suffix
      ((Resolver.remembering repository suffix).synthesizeTypeParameters declaration).run
      ((Resolver.direct repository suffix).synthesizeTypeParameters declaration).run.run := by
  unfold Resolver.synthesizeTypeParameters
  cases declaration.parseTypeParameters with
  | error cause => exact .pure _
  | ok parameters => exact .lift (yields_rewriteAll repository suffix parameters)

theorem yields_synthesizeField (repository : Repository) (suffix : String)
    (declaration : Declaration) (accessor : Accessor) :
    Yields repository suffix
      ((Resolver.remembering repository suffix).synthesizeField declaration accessor).run
      ((Resolver.direct repository suffix).synthesizeField declaration accessor).run.run := by
  unfold Resolver.synthesizeField
  cases TypeExpr.parse declaration.scope accessor.returnType with
  | error cause => exact .pure _
  | ok type =>
    exact .bindExcept (.lift (yields_rewrite repository suffix type)) fun _ => .pure _

theorem yields_synthesizeAlone {declaration : Declaration}
    (member : declaration ∈ repository.declarations) :
    Yields repository suffix
      ((Resolver.remembering repository suffix).synthesizeAlone declaration).run
      ((Resolver.direct repository suffix).synthesizeAlone declaration).run.run := by
  unfold Resolver.synthesizeAlone
  refine .bindExcept (yields_strictName member) fun name => ?_
  refine .bindExcept (yields_synthesizeTypeParameters repository suffix declaration) fun _ => ?_
  refine .bindExcept (.mapMExcept _ (yields_synthesizeField repository suffix declaration)) ?_
  intro fields
  cases GeneratedClass.clashingField? [] fields with
  | some clash => exact .pure _
  | none => exact .pure _

mutual

theorem yields_synthesizeNest : (nest : Nest) →
    (∀ declaration ∈ nest.declarations, declaration ∈ repository.declarations) →
    Yields repository suffix ((Resolver.remembering repository suffix).synthesizeNest nest).run
      ((Resolver.direct repository suffix).synthesizeNest nest).run.run
  | ⟨declaration, inner⟩, known => by
    rw [Resolver.synthesizeNest, Resolver.synthesizeNest]
    rw [Nest.declarations, List.forall_mem_cons] at known
    exact .bindExcept (yields_synthesizeAlone known.1) fun _ =>
      .bindExcept (yields_synthesizeNests inner known.2) fun _ => .pure _

theorem yields_synthesizeNests : (nests : List Nest) →
    (∀ declaration ∈ Nest.declarationsOfAll nests, declaration ∈ repository.declarations) →
    Yields repository suffix ((Resolver.remembering repository suffix).synthesizeNests nests).run
      ((Resolver.direct repository suffix).synthesizeNests nests).run.run
  | [], _ => by
    rw [Resolver.synthesizeNests, Resolver.synthesizeNests]
    exact .pure _
  | nest :: rest, known => by
    rw [Resolver.synthesizeNests, Resolver.synthesizeNests]
    rw [Nest.declarationsOfAll, List.forall_mem_append] at known
    exact .bindExcept (yields_synthesizeNest nest known.1) fun _ =>
      .bindExcept (yields_synthesizeNests rest known.2) fun _ => .pure _

end

/-- Putting a class together with a cache has the outcome that it has without one. -/
theorem yields_synthesize {declaration : Declaration}
    (member : declaration ∈ repository.declarations) :
    Yields repository suffix ((Resolver.remembering repository suffix).synthesize declaration)
      ((Resolver.direct repository suffix).synthesize declaration).run :=
  yields_synthesizeNest _ fun _ found => Repository.mem_declarations_of_mem_nest member found

end NameCache

/-- The tasks of a round have the outcomes that each of them has on its own. -/
theorem RoundPlan.synthesizeTasks_eq {repository : Repository} (suffix : String)
    (tasks : List Declaration) (known : ∀ task ∈ tasks, task ∈ repository.declarations) :
    synthesizeTasks repository suffix tasks =
      tasks.map fun task => (task, ((Resolver.direct repository suffix).synthesize task).run) := by
  have yields : NameCache.Yields repository suffix
      (tasks.mapM fun task => do
        let outcome ← (Resolver.remembering repository suffix).synthesize task
        pure (task, outcome))
      (tasks.map fun task =>
        (task, ((Resolver.direct repository suffix).synthesize task).run)) := by
    induction tasks with
    | nil => exact .pure _
    | cons task rest inductionHypothesis =>
      rw [List.forall_mem_cons] at known
      rw [List.mapM_cons, List.map_cons]
      exact .bind (.bind (NameCache.yields_synthesize known.1) (.pure _))
        (.bind (inductionHypothesis known.2) (.pure _))
  exact (yields NameCache.empty (NameCache.sound_empty repository suffix)).1

end ValueGen
