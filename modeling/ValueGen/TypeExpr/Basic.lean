/-
This file holds type expressions as they appear in the signature of an accessor or in the bound of
a type parameter: names, generic types with arguments, wildcards, arrays and type variables. It
gives their two written forms. In use a type variable is its bare name; where it is declared, its
bounds follow it.
-/

namespace ValueGen

/-- The direction in which a wildcard is bounded: `upper` is written `extends`, `lower` is
written `super`. -/
inductive Variance
  | upper
  | lower
  deriving DecidableEq, Repr

/-- A type expression. -/
inductive TypeExpr
  /-- A class, an interface or a primitive type. -/
  | named (name : String)
  /-- A generic type with its arguments. -/
  | parameterized (raw : TypeExpr) (arguments : List TypeExpr)
  /-- A wildcard without a bound; it still has a direction. -/
  | unbounded (variance : Variance)
  /-- A wildcard with a bound. -/
  | bounded (variance : Variance) (bound : TypeExpr)
  /-- An array type. An array of several dimensions is an array of arrays. -/
  | array (element : TypeExpr)
  /-- A type variable; its bounds are given where it is declared. -/
  | typeVariable (name : String) (bounds : List TypeExpr)
  deriving Repr, Inhabited

namespace TypeExpr

/-! ### Equality -/

mutual

/-- Decides whether two type expressions are equal. -/
def decEq : (first second : TypeExpr) → Decidable (first = second)
  | named name, named name' => decidable_of_iff (name = name') (by simp)
  | parameterized raw arguments, parameterized raw' arguments' =>
    have := decEq raw raw'
    have := decEqList arguments arguments'
    decidable_of_iff (raw = raw' ∧ arguments = arguments') (by simp)
  | unbounded variance, unbounded variance' => decidable_of_iff (variance = variance') (by simp)
  | bounded variance bound, bounded variance' bound' =>
    have := decEq bound bound'
    decidable_of_iff (variance = variance' ∧ bound = bound') (by simp)
  | array element, array element' =>
    have := decEq element element'
    decidable_of_iff (element = element') (by simp)
  | typeVariable name bounds, typeVariable name' bounds' =>
    have := decEqList bounds bounds'
    decidable_of_iff (name = name' ∧ bounds = bounds') (by simp)
  | named _, parameterized _ _ | named _, unbounded _ | named _, bounded _ _
  | named _, array _ | named _, typeVariable _ _
  | parameterized _ _, named _ | parameterized _ _, unbounded _
  | parameterized _ _, bounded _ _ | parameterized _ _, array _
  | parameterized _ _, typeVariable _ _
  | unbounded _, named _ | unbounded _, parameterized _ _ | unbounded _, bounded _ _
  | unbounded _, array _ | unbounded _, typeVariable _ _
  | bounded _ _, named _ | bounded _ _, parameterized _ _ | bounded _ _, unbounded _
  | bounded _ _, array _ | bounded _ _, typeVariable _ _
  | array _, named _ | array _, parameterized _ _ | array _, unbounded _
  | array _, bounded _ _ | array _, typeVariable _ _
  | typeVariable _ _, named _ | typeVariable _ _, parameterized _ _
  | typeVariable _ _, unbounded _ | typeVariable _ _, bounded _ _
  | typeVariable _ _, array _ => isFalse (by simp)

/-- Decides whether two lists of type expressions are equal. -/
def decEqList : (first second : List TypeExpr) → Decidable (first = second)
  | [], [] => isTrue rfl
  | head :: tail, head' :: tail' =>
    have := decEq head head'
    have := decEqList tail tail'
    decidable_of_iff (head = head' ∧ tail = tail') (by simp)
  | [], _ :: _ | _ :: _, [] => isFalse (by simp)

end

instance : DecidableEq TypeExpr := decEq

/-! ### Written forms -/

mutual

/-- The form in use, in which a type variable is its name. -/
def useForm : TypeExpr → String
  | named name => name
  | parameterized raw arguments =>
    raw.useForm ++ "<" ++ ", ".intercalate (useForms arguments) ++ ">"
  | unbounded _ => "?"
  | bounded .upper bound => "? extends " ++ bound.useForm
  | bounded .lower bound => "? super " ++ bound.useForm
  | array element => element.useForm ++ "[]"
  | typeVariable name _ => name

/-- The forms in use of several types. -/
def useForms : List TypeExpr → List String
  | [] => []
  | type :: rest => type.useForm :: useForms rest

end

theorem useForms_eq_map (types : List TypeExpr) : useForms types = types.map useForm := by
  induction types with
  | nil => rfl
  | cons type rest inductionHypothesis => simp [useForms, inductionHypothesis]

/-- The form in which a type parameter is declared: the name, and the bounds if there are any.
Every other type has only its form in use. -/
def declarationForm : TypeExpr → String
  | typeVariable name (bound :: bounds) =>
    name ++ " extends " ++ " & ".intercalate ((bound :: bounds).map useForm)
  | type => type.useForm

/-! ### Primitive types -/

/-- The names of the primitive types. -/
def primitiveNames : List String :=
  ["boolean", "byte", "char", "short", "int", "long", "float", "double"]

/-- Whether the type is primitive. -/
def isPrimitive : TypeExpr → Bool
  | named name => primitiveNames.contains name
  | _ => false

end TypeExpr

end ValueGen
