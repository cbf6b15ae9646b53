/-
This file holds declarations in tables by name: each declaration under its own name, the names of
what is nested in a declaration under the name of that one, and the names of what carries an
annotation under the name of the annotation. The tables are filled in one walk over the
declarations. A lookup asks one table for names and takes these to the table of the declarations.
-/

import ValueGen.Repository.Basic

namespace ValueGen

/-! ### Tables -/

/-- Values by name. What was put in last for a name counts. -/
structure NameTable (Value : Type) where
  entries : List (String × Value)

namespace NameTable

variable {Value : Type}

/-- The table that holds nothing. -/
def empty : NameTable Value := ⟨[]⟩

/-- The value for a name. -/
def find? (table : NameTable Value) (name : String) : Option Value := table.entries.lookup name

/-- Puts in a value for a name. -/
def insert (table : NameTable Value) (name : String) (value : Value) : NameTable Value :=
  ⟨(name, value) :: table.entries⟩

/-- The list for a name; a name that is not in the table has the empty one. -/
def listOf (table : NameTable (List Value)) (name : String) : List Value :=
  (table.find? name).getD []

/-- Puts a value at the end of the list for a name. -/
def push (table : NameTable (List Value)) (name : String) (value : Value) :
    NameTable (List Value) :=
  table.insert name (table.listOf name ++ [value])

theorem find?_insert (table : NameTable Value) (name other : String) (value : Value) :
    (table.insert name value).find? other =
      if other = name then some value else table.find? other := by
  rw [find?, insert, List.lookup_cons]
  by_cases same : other = name
  · rw [if_pos same, beq_iff_eq.mpr same]
  · rw [if_neg same, beq_eq_false_iff_ne.mpr same]
    rfl

theorem listOf_push (table : NameTable (List Value)) (name other : String) (value : Value) :
    (table.push name value).listOf other =
      table.listOf other ++ if other = name then [value] else [] := by
  rw [listOf, push, find?_insert]
  split
  · rename_i same
    rw [same]
    rfl
  · rw [List.append_nil]
    rfl

end NameTable

/-! ### The index of a repository -/

/-- The tables of some declarations. -/
structure DeclarationIndex where
  /-- The declarations by their own names. -/
  known : NameTable Declaration
  /-- All names in the order of discovery. -/
  order : List String
  /-- The names of nested declarations by that of the declaration around them. -/
  nested : NameTable (List String)
  /-- The names of annotated declarations by that of the annotation, each as often as it carries
  the annotation. -/
  annotated : NameTable (List String)

namespace DeclarationIndex

/-- The index of no declarations. -/
def empty : DeclarationIndex := ⟨.empty, [], .empty, .empty⟩

/-- Puts a declaration into all tables, unless its name is taken. -/
def add (index : DeclarationIndex) (declaration : Declaration) :
    Except RepositoryError DeclarationIndex :=
  let name := declaration.qualifiedName
  if (index.known.find? name).isSome then .error (.duplicate name)
  else .ok {
    known := index.known.insert name declaration
    order := index.order ++ [name]
    nested :=
      match declaration.enclosing with
      | some enclosing => index.nested.push enclosing name
      | none => index.nested
    annotated :=
      declaration.annotations.foldl (fun table annotation => table.push annotation name)
        index.annotated }

/-- The index of some declarations; the first one that repeats the name of an earlier one is an
error. -/
def ofList (declarations : List Declaration) : Except RepositoryError DeclarationIndex :=
  declarations.foldlM add empty

/-- The declarations with some names, as far as they are known. -/
def lookupAll (index : DeclarationIndex) (names : List String) : List Declaration :=
  names.filterMap index.known.find?

/-- The declaration with a qualified name. -/
def get? (index : DeclarationIndex) (name : String) : Option Declaration := index.known.find? name

/-- The number of declarations. -/
def size (index : DeclarationIndex) : Nat := index.order.length

/-- Whether there is no declaration. -/
def isEmpty (index : DeclarationIndex) : Bool := index.order.isEmpty

/-- All declarations. -/
def all (index : DeclarationIndex) : List Declaration := index.lookupAll index.order

/-- The declaration that another one is nested in, if it is known. -/
def enclosingOf? (index : DeclarationIndex) (declaration : Declaration) : Option Declaration :=
  declaration.enclosing.bind index.get?

/-- The declarations that are nested directly in another one. -/
def nestedIn (index : DeclarationIndex) (declaration : Declaration) : List Declaration :=
  index.lookupAll (index.nested.listOf declaration.qualifiedName)

/-- The declarations that carry an annotation, each as often as it carries it. -/
def annotatedWith (index : DeclarationIndex) (name : String) : List Declaration :=
  index.lookupAll (index.annotated.listOf name)

/-- The declarations that carry the marker themselves. -/
def marked (index : DeclarationIndex) : List Declaration := index.all.filter (·.marker.isSome)

end DeclarationIndex

end ValueGen
