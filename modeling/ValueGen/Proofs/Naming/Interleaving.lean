/-
This file says that searches for generated names can share a cache in whatever order they take
their turns. Each search stays on its way: what it has found so far is what is found anew, and the
declarations that wait for it are the beginning of the ancestry that it looks at. So only answers
that are found anew are remembered, every answer that comes out of the cache is one of these, and
every search that gets enough turns is over with the outcome that it has without a cache.
-/

import Mathlib.Data.List.Induction
import ValueGen.Proofs.Naming.ClosedForm
import ValueGen.Proofs.Naming.Search

namespace ValueGen

/-! ### Searches that share a cache -/

/-- Searches that share a cache. -/
structure SharedSearches where
  searches : List NameSearch
  cache : NameCache

namespace SharedSearches

/-- The searches for some names, each as strict as it is meant, with an empty cache. -/
def start (calls : List (Strictness × Declaration)) : SharedSearches :=
  ⟨calls.map fun call => NameSearch.start call.1 call.2, .empty⟩

/-- A turn of the search at a position; where there is no search, nothing happens. -/
def turn (repository : Repository) (suffix : String) (shared : SharedSearches) (index : Nat) :
    SharedSearches :=
  match shared.searches[index]? with
  | none => shared
  | some search =>
    let (search, cache) := search.turn repository suffix shared.cache
    ⟨shared.searches.set index search, cache⟩

/-- The searches for some names after they have taken turns in some order. -/
def after (repository : Repository) (suffix : String) (calls : List (Strictness × Declaration))
    (turns : List Nat) : SharedSearches :=
  turns.foldl (turn repository suffix) (start calls)

end SharedSearches

namespace NameCache

variable {repository : Repository} {suffix : String} {cache : NameCache}

/-- Everything in the cache is about a declaration of the repository and is what is found anew. -/
def FoundAnew (repository : Repository) (suffix : String) (cache : NameCache) : Prop :=
  ∀ entry ∈ cache.entries, ∃ declaration ∈ repository.declarations,
    declaration.qualifiedName = entry.1.1 ∧
      Naming.resolve repository suffix entry.1.2 declaration = .ok entry.2

theorem FoundAnew.sound (anew : cache.FoundAnew repository suffix) :
    cache.Sound repository suffix := by
  intro declaration member strictness answer found
  obtain ⟨before, after, split, _⟩ := List.lookup_eq_some_iff.mp found
  have entry : ((declaration.qualifiedName, strictness), answer) ∈ cache.entries := by
    rw [split]
    exact List.mem_append_right _ List.mem_cons_self
  obtain ⟨other, otherMember, named, resolved⟩ := anew _ entry
  rwa [Repository.eq_of_qualifiedName otherMember member named] at resolved

theorem FoundAnew.insert (anew : cache.FoundAnew repository suffix) {declaration : Declaration}
    (member : declaration ∈ repository.declarations) {strictness : Strictness}
    {answer : Option GeneratedName}
    (resolved : Naming.resolve repository suffix strictness declaration = .ok answer) :
    (cache.insert (declaration.qualifiedName, strictness) answer).FoundAnew repository suffix :=
  List.forall_mem_cons.mpr ⟨⟨declaration, member, rfl, resolved⟩, anew⟩

end NameCache

/-! ### One search on its way -/

namespace NameSearch

variable {repository : Repository} {suffix : String} {target : Declaration} {search : NameSearch}
  {cache : NameCache}

/-- A search for the name of a declaration is on its way: the ancestry of the declaration begins
with what waits, and what has been found about the rest is what is found anew. -/
inductive OnWay (repository : Repository) (suffix : String) (target : Declaration) :
    NameSearch → Prop
  | ask {strictness : Strictness} {declaration : Declaration} {waiting : List Declaration}
    (split : repository.ancestry target = waiting.reverse ++ repository.ancestry declaration) :
    OnWay repository suffix target ⟨strictness, .ask declaration, waiting⟩
  | answer {strictness : Strictness} {waiting : List Declaration} (around : List Declaration)
    {outcome : Except GenerationError (Option GeneratedName)}
    (split : repository.ancestry target = waiting.reverse ++ around)
    (anew : Naming.resolveChain repository suffix strictness around = outcome) :
    OnWay repository suffix target ⟨strictness, .answer outcome, waiting⟩
  | remember {strictness : Strictness} {declaration : Declaration} {found : Option GeneratedName}
    {waiting : List Declaration}
    (split : repository.ancestry target = waiting.reverse ++ repository.ancestry declaration)
    (anew : Naming.resolve repository suffix strictness declaration = .ok found) :
    OnWay repository suffix target ⟨strictness, .remember declaration found, waiting⟩

/-- A search that is over has found what is found anew. -/
theorem OnWay.outcome_eq (onWay : OnWay repository suffix target search)
    {outcome : Except GenerationError (Option GeneratedName)}
    (ended : search.outcome? = some outcome) :
    outcome = Naming.resolve repository suffix search.strictness target := by
  cases onWay with
  | ask _ => cases ended
  | remember _ _ => cases ended
  | @answer strictness waiting around _ split anew =>
    cases waiting with
    | cons _ _ => cases ended
    | nil =>
      rw [← Option.some.inj ended, ← anew, Naming.resolve, split]
      rfl

/-- A turn keeps a search on its way, and only what is found anew is remembered in it. -/
theorem OnWay.turn (onWay : OnWay repository suffix target search)
    (member : target ∈ repository.declarations) (anew : cache.FoundAnew repository suffix) :
    OnWay repository suffix target (search.turn repository suffix cache).1 ∧
      (search.turn repository suffix cache).2.FoundAnew repository suffix := by
  have known : ∀ {declaration : Declaration} {waiting : List Declaration},
      repository.ancestry target = waiting.reverse ++ repository.ancestry declaration →
        declaration ∈ repository.declarations := by
    intro declaration waiting split
    refine Repository.mem_declarations_of_mem_ancestry member ?_
    rw [split]
    exact List.mem_append_right _ (repository.mem_ancestry_self declaration)
  cases onWay with
  | @ask strictness declaration waiting split =>
    rw [NameSearch.turn]
    cases remembered : cache.find? (declaration.qualifiedName, strictness) with
    | some found =>
      exact ⟨.answer _ split (anew.sound declaration (known split) strictness found remembered),
        anew⟩
    | none =>
      cases around : repository.enclosingOf? declaration with
      | some enclosing =>
        refine ⟨.ask ?_, anew⟩
        rw [split, Repository.ancestry_of_nested around, List.reverse_cons, List.append_assoc]
        rfl
      | none =>
        refine ⟨.answer [] ?_ rfl, anew⟩
        rw [split, Repository.ancestry_of_outermost around, List.reverse_cons, List.append_nil]
  | @answer strictness waiting around outcome split resolved =>
    cases waiting with
    | nil =>
      cases outcome <;> exact ⟨.answer around split resolved, anew⟩
    | cons declaration waiting =>
      rw [List.reverse_cons, List.append_assoc, List.singleton_append] at split
      have level : Naming.resolveChain repository suffix strictness (declaration :: around) =
          outcome >>= fun parent =>
            Naming.nameWithin repository suffix strictness parent declaration := by
        rw [Naming.resolveChain, resolved]
      cases outcome with
      | error error => exact ⟨.answer _ split level, anew⟩
      | ok parent =>
        change _ = Naming.nameWithin repository suffix strictness parent declaration at level
        rw [NameSearch.turn]
        cases within : Naming.nameWithin repository suffix strictness parent declaration with
        | error error => exact ⟨.answer _ split (level.trans within), anew⟩
        | ok found =>
          have ancestry := Repository.ancestry_of_split split
          rw [← ancestry] at split level
          exact ⟨.remember split (level.trans within), anew⟩
  | remember split resolved =>
    exact ⟨.answer _ split resolved, anew.insert (known split) resolved⟩

end NameSearch

/-! ### All searches -/

namespace SharedSearches

variable {repository : Repository} {suffix : String} {calls : List (Strictness × Declaration)}

/-- The search at a position is one for the name that is looked for there; it is on its way, and
the turns that it has had bring it closer to its end. -/
structure Follows (repository : Repository) (suffix : String) (call : Strictness × Declaration)
    (turns : Nat) (search : NameSearch) : Prop where
  strictness : search.strictness = call.1
  onWay : search.OnWay repository suffix call.2
  closer : search.turnsLeft repository ≤ 3 * (repository.ancestry call.2).length - turns

/-- Every search is on its way, and only what is found anew has been remembered. -/
structure Underway (repository : Repository) (suffix : String)
    (calls : List (Strictness × Declaration)) (turns : List Nat) (shared : SharedSearches) :
    Prop where
  length : shared.searches.length = calls.length
  searches : ∀ (index : Nat) (call : Strictness × Declaration) (search : NameSearch),
    calls[index]? = some call → shared.searches[index]? = some search →
      Follows repository suffix call (turns.count index) search
  cache : shared.cache.FoundAnew repository suffix

theorem underway_start (repository : Repository) (suffix : String)
    (calls : List (Strictness × Declaration)) :
    Underway repository suffix calls [] (start calls) := by
  refine ⟨List.length_map _, fun index call search isCall found => ?_, List.forall_mem_nil _⟩
  rw [start, List.getElem?_map, isCall] at found
  rw [← Option.some.inj found]
  refine ⟨rfl, .ask rfl, ?_⟩
  simp [NameSearch.turnsLeft, NameSearch.start]

/-- For each name that is looked for there is a search. -/
theorem Underway.exists_search {turns : List Nat} {shared : SharedSearches}
    (underway : Underway repository suffix calls turns shared) {index : Nat}
    {call : Strictness × Declaration} (isCall : calls[index]? = some call) :
    ∃ search, shared.searches[index]? = some search ∧
      Follows repository suffix call (turns.count index) search := by
  obtain ⟨bound, _⟩ := List.getElem?_eq_some_iff.mp isCall
  have found := List.getElem?_eq_getElem (underway.length ▸ bound)
  exact ⟨_, found, underway.searches index call _ isCall found⟩

/-- A turn of one search changes no other one, and brings the search itself closer to its end. -/
theorem Underway.turn {turns : List Nat} {shared : SharedSearches}
    (underway : Underway repository suffix calls turns shared)
    (known : ∀ call ∈ calls, call.2 ∈ repository.declarations) (index : Nat) :
    Underway repository suffix calls (turns ++ [index]) (shared.turn repository suffix index) := by
  unfold SharedSearches.turn
  cases present : shared.searches[index]? with
  | none =>
    refine ⟨underway.length, fun other call search isCall found => ?_, underway.cache⟩
    have different : index ≠ other := by
      rintro rfl
      cases present.symm.trans found
    rw [List.count_append, List.count_singleton, beq_false_of_ne different]
    exact underway.searches other call search isCall found
  | some search =>
    obtain ⟨bound, _⟩ := List.getElem?_eq_some_iff.mp present
    have isCall := List.getElem?_eq_getElem (underway.length ▸ bound)
    have follows := underway.searches index _ search isCall present
    obtain ⟨onWay, cache⟩ := follows.onWay.turn (known _ (List.getElem_mem _)) underway.cache
    refine ⟨by rw [List.length_set, underway.length], ?_, cache⟩
    intro other otherCall otherSearch isOther found
    rw [List.getElem?_set] at found
    rw [List.count_append, List.count_singleton]
    by_cases same : index = other
    · subst same
      rw [if_pos rfl, if_pos bound] at found
      obtain rfl := Option.some.inj (isCall.symm.trans isOther)
      rw [← Option.some.inj found, beq_self_eq_true, if_pos rfl]
      have step := NameSearch.turnsLeft_turn_le repository suffix search shared.cache
      have closer := follows.closer
      refine ⟨?_, onWay, by omega⟩
      rw [NameSearch.strictness_turn, follows.strictness]
    · rw [if_neg same] at found
      rw [beq_false_of_ne same]
      exact underway.searches other otherCall otherSearch isOther found

/-- Every search stays on its way, in whatever order the searches take their turns. -/
theorem underway_after (repository : Repository) (suffix : String)
    (calls : List (Strictness × Declaration))
    (known : ∀ call ∈ calls, call.2 ∈ repository.declarations) (turns : List Nat) :
    Underway repository suffix calls turns (after repository suffix calls turns) := by
  induction turns using List.reverseRecOn with
  | nil => exact underway_start repository suffix calls
  | append_singleton turns index inductionHypothesis =>
    rw [after, List.foldl_append]
    exact inductionHypothesis.turn known index

/-- What searches that share a cache do, after they have taken turns in some order. -/
structure Transparent (repository : Repository) (suffix : String)
    (calls : List (Strictness × Declaration)) (turns : List Nat) (shared : SharedSearches) :
    Prop where
  /-- Every entry of the cache is what is found anew for the declaration with that name. -/
  entries : ∀ entry ∈ shared.cache.entries, ∃ declaration,
    repository.get? entry.1.1 = some declaration ∧
      Naming.resolve repository suffix entry.1.2 declaration = .ok entry.2
  /-- No failure is remembered. -/
  failures : ∀ declaration ∈ repository.declarations, ∀ strictness error,
    Naming.resolve repository suffix strictness declaration = .error error →
      shared.cache.find? (declaration.qualifiedName, strictness) = none
  /-- A search that is over has the outcome that it has without a cache. -/
  outcomes : ∀ (index : Nat) (call : Strictness × Declaration), calls[index]? = some call →
    ∃ search, shared.searches[index]? = some search ∧
      ∀ outcome, search.outcome? = some outcome →
        outcome = Naming.resolve repository suffix call.1 call.2
  /-- A search is over after three turns for each declaration of the ancestry. -/
  ended : ∀ (index : Nat) (call : Strictness × Declaration), calls[index]? = some call →
    3 * (repository.ancestry call.2).length ≤ turns.count index →
      ∃ search, shared.searches[index]? = some search ∧
        search.outcome? = some (Naming.resolve repository suffix call.1 call.2)
  /-- A search that has all further turns to itself does what the search in one go does. -/
  alone : ∀ call ∈ calls,
    NameSearch.LeadsTo repository suffix (NameSearch.start call.1 call.2, shared.cache)
      (⟨call.1, .answer ((NameCache.resolve repository suffix call.1 call.2).run shared.cache).1,
          []⟩,
        ((NameCache.resolve repository suffix call.1 call.2).run shared.cache).2)

/-- Sharing a cache changes no outcome, in whatever order searches take their turns. -/
theorem transparent_after (repository : Repository) (suffix : String)
    (calls : List (Strictness × Declaration))
    (known : ∀ call ∈ calls, call.2 ∈ repository.declarations) (turns : List Nat) :
    Transparent repository suffix calls turns (after repository suffix calls turns) := by
  have underway := underway_after repository suffix calls known turns
  refine ⟨fun entry member => ?_, fun declaration member strictness error fails => ?_,
    fun index call isCall => ?_, fun index call isCall enough => ?_, fun call _ => ?_⟩
  · obtain ⟨declaration, known, named, anew⟩ := underway.cache entry member
    exact ⟨declaration, (repository.get?_eq_some_iff _ _).mpr ⟨known, named⟩, anew⟩
  · cases remembered : (after repository suffix calls turns).cache.find?
        (declaration.qualifiedName, strictness) with
    | none => rfl
    | some answer =>
      have anew := underway.cache.sound declaration member strictness answer remembered
      cases fails.symm.trans anew
  · obtain ⟨search, found, follows⟩ := underway.exists_search isCall
    refine ⟨search, found, fun outcome ended => ?_⟩
    rw [follows.onWay.outcome_eq ended, follows.strictness]
  · obtain ⟨search, found, follows⟩ := underway.exists_search isCall
    have closer := follows.closer
    have done : search.turnsLeft repository = 0 := by omega
    obtain ⟨outcome, ended⟩ := NameSearch.exists_outcome_of_turnsLeft repository done
    refine ⟨search, found, ?_⟩
    rw [ended, follows.onWay.outcome_eq ended, follows.strictness]
  · exact NameSearch.leadsTo_resolve repository suffix call.1 call.2 [] _

/-- A lenient and a strict search for the innermost declaration, and a lenient one for the
declaration around it. -/
def gapCalls : List (Strictness × Declaration) :=
  [(.lenient, Naming.gapRepository.declarations[0]),
    (.strict, Naming.gapRepository.declarations[0]),
    (.lenient, Naming.gapRepository.declarations[1])]

/-- The first search has two turns before the last one has all of its own, so that both remember a
name for the same declaration; the strict one takes its turns in between. -/
def gapTurns : List Nat :=
  [0, 0, 2, 1, 2, 2, 1, 2, 2, 1, 2, 2, 1, 2, 2, 1, 0, 0, 1, 0, 0, 1, 0, 1, 1]

theorem transparent_after_gap :
    (∀ call ∈ gapCalls, call.2 ∈ Naming.gapRepository.declarations) ∧
      Transparent Naming.gapRepository "POJO" gapCalls gapTurns
        (after Naming.gapRepository "POJO" gapCalls gapTurns) :=
  ⟨by decide, transparent_after Naming.gapRepository "POJO" gapCalls (by decide) gapTurns⟩

/-- All three are over, the first one with the help of what the last one remembered. -/
example : (after Naming.gapRepository "POJO" gapCalls gapTurns).searches.map (·.outcome?) =
    [some (.ok (some ⟨"pkg", "Middle", ["Inner", "Depth"]⟩)),
      some (.error (.missingMarker "pkg.Outer")),
      some (.ok (some ⟨"pkg", "Middle", ["Inner"]⟩))] := by
  decide +kernel

end SharedSearches

end ValueGen
