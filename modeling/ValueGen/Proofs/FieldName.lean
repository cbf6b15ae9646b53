/-
This file says which accessors give a field its name. A name that is not that of the accessor is
what follows `get` or `is` in it, and it is never empty or reserved unless the accessor is. A name
that starts with a small letter and does not go on with a capital comes from at most three
accessors: from the one that is spelled like it, and from those with its first letter as a capital
behind `get` and behind `is`.
-/

import Mathlib.Data.List.Infix
import ValueGen.FieldName

namespace ValueGen

/-! ### Capitals and small letters -/

namespace Text

/-- A capital and a small letter that belong to each other and to no other letter. -/
structure LetterPair (capital small : Char) : Prop where
  isUppercase : isUppercase capital
  isLowercase : Text.isUppercase small = false
  lowercase : lowercase capital = [small]
  /-- No other capital has a form in lower case that starts with the small letter. -/
  only : ∀ char, Text.isUppercase char → (Text.lowercase char).head? = some small → char = capital

/-- A character other than U+0000 has the code point that it is made from. -/
theorem code_of_ofNat_eq {code : Nat} {char : Char} (made : Char.ofNat code = char)
    (other : char.toNat ≠ 0) : code = char.toNat := by
  by_cases valid : code.isValidChar
  · rw [Char.ofNat, dif_pos valid] at made
    rw [← made]
    rfl
  · rw [Char.ofNat, dif_neg valid] at made
    exact absurd (congrArg Char.toNat made).symm other

/-- Beyond ASCII no character has a form in lower case that starts with `o`. -/
theorem head?_lowercase_ne {char : Char} (beyond : 0x80 ≤ char.toNat) :
    (lowercase char).head? ≠ some 'o' := by
  have table : ∀ entry ∈ lowercaseStretches,
      0x6F < entry.2 ∨ entry.1.first = entry.1.last ∧ entry.2 ≠ 0x6F := by
    decide +kernel
  intro starts
  rw [lowercase, if_neg (by omega)] at starts
  split at starts
  · exact absurd (Option.some.inj starts) (by decide)
  · split at starts
    · rename_i stretch target found
      have code : target + (char.toNat - stretch.first) = 0x6F :=
        code_of_ofNat_eq (Option.some.inj starts) (by decide)
      have inside := List.find?_some found
      have listed := table _ (List.mem_of_find?_eq_some found)
      simp only [Stretch.contains, Bool.and_eq_true, decide_eq_true_eq] at inside listed
      omega
    · rw [Option.some.inj starts] at beyond
      exact absurd beyond (by decide)

theorem letterPair_o : LetterPair 'O' 'o' where
  isUppercase := by decide
  isLowercase := by decide
  lowercase := by decide
  only char isUpper starts := by
    have table : ∀ code < 0x80, isUppercase (Char.ofNat code) →
        (lowercase (Char.ofNat code)).head? = some 'o' → Char.ofNat code = 'O' := by
      decide +kernel
    by_cases ascii : char.toNat < 0x80
    · have listed := table char.toNat ascii
      rw [Char.ofNat_toNat] at listed
      exact listed isUpper starts
    · exact absurd starts (head?_lowercase_ne (Nat.not_lt.mp ascii))

end Text

namespace FieldName

open Text

/-! ### Words that are dropped -/

/-- A leading word is dropped exactly where a capital follows and the outcome is not reserved. -/
theorem dropLead?_eq_some_iff {lead accessor name : String} :
    dropLead? lead accessor = some name ↔
      ∃ first rest, accessor.toList = lead.toList ++ first :: rest ∧ isUppercase first ∧
        isReserved name = false ∧ String.ofList (decapitalize (first :: rest)) = name := by
  unfold dropLead?
  simp only [Option.bind_eq_bind, Option.bind_eq_some_iff, List.isPrefixOf?_eq_some_iff_append_eq]
  constructor
  · rintro ⟨rest, split, first, isFirst, taken⟩
    obtain ⟨others, rfl⟩ := List.head?_eq_some_iff.mp isFirst
    split at taken
    · rename_i allowed
      obtain rfl := Option.some.inj taken
      rw [Bool.and_eq_true, Bool.not_eq_true'] at allowed
      exact ⟨first, others, split.symm, allowed.1, allowed.2, rfl⟩
    · cases taken
  · rintro ⟨first, rest, split, isUpper, free, rfl⟩
    refine ⟨first :: rest, split.symm, first, rfl, if_pos ?_⟩
    rw [isUpper, free]
    rfl

/-- A field is named by what is left of its accessor after a leading word, or by its accessor. -/
theorem ofAccessor_cases (accessor : String) :
    (∃ lead ∈ ["get", "is"], dropLead? lead accessor = some (ofAccessor accessor)) ∨
      ofAccessor accessor = accessor := by
  unfold ofAccessor
  cases getter : dropLead? "get" accessor with
  | some name => exact Or.inl ⟨"get", by decide, getter⟩
  | none =>
    cases test : dropLead? "is" accessor with
    | some name => exact Or.inl ⟨"is", by decide, test⟩
    | none => exact Or.inr rfl

/-- Lower case is never nothing. -/
theorem lowercase_ne_nil (char : Char) : lowercase char ≠ [] := by
  unfold lowercase
  split
  · exact List.cons_ne_nil _ _
  · split
    · exact List.cons_ne_nil _ _
    · split <;> exact List.cons_ne_nil _ _

/-! ### Names that are left -/

/-- The first character is put into lower case where no capital follows, and all else is kept. -/
theorem decapitalize_cons (first : Char) (rest : List Char) :
    decapitalize (first :: rest) =
      if rest.head?.any isUppercase then first :: rest else lowercase first ++ rest := by
  cases rest with
  | nil => exact (List.append_nil _).symm
  | cons second others => rfl

/-- A name is what follows a leading word in an accessor, from a capital on, which is put into lower
case unless another one follows. -/
def IsLeft (accessor name : String) : Prop :=
  ∃ lead ∈ ["get", "is"], ∃ first rest,
    accessor.toList = lead.toList ++ first :: rest ∧ isUppercase first = true ∧
      name.toList =
        if rest.head?.any isUppercase then first :: rest else lowercase first ++ rest

/-- A field is named by what is left of its accessor, which is not reserved, or by its accessor. -/
theorem isLeft_or_eq (accessor : String) :
    IsLeft accessor (ofAccessor accessor) ∧ isReserved (ofAccessor accessor) = false ∨
      ofAccessor accessor = accessor := by
  rcases ofAccessor_cases accessor with ⟨lead, isLead, dropped⟩ | alone
  · obtain ⟨first, rest, split, isUpper, free, taken⟩ := dropLead?_eq_some_iff.mp dropped
    refine Or.inl ⟨⟨lead, isLead, first, rest, split, isUpper, ?_⟩, free⟩
    rw [← taken, String.toList_ofList, decapitalize_cons]
  · exact Or.inr alone

theorem IsLeft.ne_empty {accessor name : String} (left : IsLeft accessor name) : name ≠ "" := by
  rintro rfl
  obtain ⟨_, _, first, rest, _, _, letters⟩ := left
  split at letters
  · cases letters
  · exact lowercase_ne_nil first (List.append_eq_nil_iff.mp letters.symm).1

theorem ofAccessor_ne_empty {accessor : String} (full : accessor ≠ "") :
    ofAccessor accessor ≠ "" := by
  rcases isLeft_or_eq accessor with ⟨left, _⟩ | alone
  · exact left.ne_empty
  · rwa [alone]

theorem isReserved_ofAccessor {accessor : String} (free : isReserved accessor = false) :
    isReserved (ofAccessor accessor) = false := by
  rcases isLeft_or_eq accessor with ⟨_, stillFree⟩ | alone
  · exact stillFree
  · rwa [alone]

/-! ### Accessors that give a name -/

section Spelling

variable {capital small : Char} {tail : List Char}

theorem decapitalize_of_pair (pair : LetterPair capital small)
    (noCapital : ∀ char ∈ tail.head?, isUppercase char = false) :
    decapitalize (capital :: tail) = small :: tail := by
  cases tail with
  | nil => exact pair.lowercase
  | cons second others =>
    have isLower : isUppercase second = false := noCapital second rfl
    rw [decapitalize, isLower, pair.lowercase]
    rfl

/-- What starts with a capital gives a small letter only where the two belong to each other. -/
theorem eq_of_decapitalize_eq (pair : LetterPair capital small) {first : Char}
    (isUpper : isUppercase first) {rest : List Char}
    (same : decapitalize (first :: rest) = small :: tail) :
    first = capital ∧ rest = tail := by
  have lowered : ∀ others, lowercase first ++ others = small :: tail →
      first = capital ∧ others = tail := by
    intro others same
    obtain ⟨letter, more, form⟩ := List.exists_cons_of_ne_nil (lowercase_ne_nil first)
    rw [form, List.cons_append] at same
    have isCapital : first = capital := by
      refine pair.only first isUpper ?_
      rw [form, (List.cons.inj same).1]
      rfl
    rw [isCapital, pair.lowercase] at form
    rw [← (List.cons.inj form).2] at same
    exact ⟨isCapital, (List.cons.inj same).2⟩
  cases rest with
  | nil =>
    refine lowered [] ?_
    rw [List.append_nil]
    exact same
  | cons second others =>
    rw [decapitalize] at same
    split at same
    -- two capitals are kept
    · rw [(List.cons.inj same).1, pair.isLowercase] at isUpper
      cases isUpper
    · exact lowered _ same

variable {name : String}

/-- The accessors that give a name which no leading word is dropped from. -/
theorem ofAccessor_eq_iff (pair : LetterPair capital small) (spelled : name.toList = small :: tail)
    (noCapital : ∀ char ∈ tail.head?, isUppercase char = false) (free : isReserved name = false)
    (whole : ofAccessor name = name) (accessor : String) :
    ofAccessor accessor = name ↔ accessor = name ∨
      accessor = "get" ++ String.ofList (capital :: tail) ∨
        accessor = "is" ++ String.ofList (capital :: tail) := by
  constructor
  · intro same
    rcases ofAccessor_cases accessor with ⟨lead, isLead, dropped⟩ | alone
    · right
      obtain ⟨first, rest, split, isUpper, _, taken⟩ := dropLead?_eq_some_iff.mp dropped
      rw [same] at taken
      have letters := congrArg String.toList taken
      rw [String.toList_ofList, spelled] at letters
      obtain ⟨rfl, rfl⟩ := eq_of_decapitalize_eq pair isUpper letters
      have accessorIs : accessor = lead ++ String.ofList (first :: rest) := by
        rw [← String.toList_inj, String.toList_append, String.toList_ofList, split]
      rw [List.mem_cons, List.mem_singleton] at isLead
      rcases isLead with rfl | rfl
      · exact Or.inl accessorIs
      · exact Or.inr accessorIs
    · exact Or.inl (alone.symm.trans same)
  · have taken : ∀ lead : String,
        dropLead? lead (lead ++ String.ofList (capital :: tail)) = some name := by
      intro lead
      refine dropLead?_eq_some_iff.mpr ⟨capital, tail, ?_, pair.isUppercase, free, ?_⟩
      · rw [String.toList_append, String.toList_ofList]
      · rw [decapitalize_of_pair pair noCapital, ← spelled, String.ofList_toList]
    rintro (rfl | rfl | rfl)
    · exact whole
    · rw [ofAccessor, taken "get"]
      rfl
    · have noGetter : dropLead? "get" ("is" ++ String.ofList (capital :: tail)) = none := by
        rw [Option.eq_none_iff_forall_ne_some]
        intro other dropped
        obtain ⟨first, rest, split, -⟩ := dropLead?_eq_some_iff.mp dropped
        rw [String.toList_append] at split
        cases split
      rw [ofAccessor, noGetter, taken "is"]
      rfl

end Spelling

end FieldName

end ValueGen
