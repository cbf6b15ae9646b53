/-
This file says where the characters and the tokens of a text stand. A character is stray if it is
neither white space nor a mark and no identifier of the text reaches it. The scanner fails exactly
where a text has stray characters, with the first of them, and it counts the bytes in front of what
it finds: of the stray character or, where there is none, of each token.
-/

import Mathlib.Data.List.Infix
import ValueGen.Proofs.TypeExpr.Splitting

namespace ValueGen.TypeToken

/-! ### Classes of characters -/

theorem continuesIdentifier_of_startsIdentifier {char : Char} (starts : startsIdentifier char) :
    continuesIdentifier char := by
  simp only [startsIdentifier, Bool.or_eq_true] at starts
  simp only [continuesIdentifier, Bool.or_eq_true]
  rcases starts with (alphabetic | underscore) | dollar
  · exact Or.inl (Or.inl (Or.inl alphabetic))
  · exact Or.inl (Or.inr underscore)
  · exact Or.inr dollar

/-- No identifier goes on with white space. -/
theorem continuesIdentifier_of_isWhiteSpace {char : Char} (white : Text.isWhiteSpace char) :
    continuesIdentifier char = false := by
  have table : ∀ code ∈ Text.whiteSpaceCodes, continuesIdentifier (Char.ofNat code) = false := by
    decide +kernel
  have listed := table char.toNat (Text.toNat_mem_whiteSpaceCodes white)
  rwa [Char.ofNat_toNat] at listed

theorem IsIdentifier.continues {word : String} (isIdentifier : IsIdentifier word) :
    ∀ char ∈ word.toList, continuesIdentifier char := by
  obtain ⟨first, others, spelled, starts, continues⟩ := isIdentifier
  rw [spelled, List.forall_mem_cons]
  exact ⟨continuesIdentifier_of_startsIdentifier starts, continues⟩

/-! ### Stray characters -/

/-- Whether a character behind some others belongs to no token: it is neither white space nor a
mark, and no identifier reaches it. -/
structure Stray (before : List Char) (char : Char) : Prop where
  notWhite : Text.isWhiteSpace char = false
  notMark : ∀ token ∈ marks, token.text.toList ≠ [char]
  outside : ∀ word, IsIdentifier word → ¬ word.toList <:+ before ++ [char]

/-- Whether a character is the first stray one of a text, with what stands before it. -/
structure FirstStray (text before : List Char) (char : Char) : Prop where
  stands : before ++ [char] <+: text
  stray : Stray before char
  first : ∀ earlier other, earlier ++ [other] <+: before → ¬ Stray earlier other

section Strays

variable {consumed before rest : List Char} {char : Char}

/-- Whether no identifier reaches from one text into the next. -/
def Apart (first second : List Char) : Prop :=
  ∀ last ∈ first.getLast?, ∀ next ∈ second.head?,
    continuesIdentifier last = false ∨ continuesIdentifier next = false

/-- What stands before a place that no identifier crosses has no part in what is stray behind it. -/
theorem stray_append_iff (apart : Apart consumed (before ++ [char])) :
    Stray (consumed ++ before) char ↔ Stray before char := by
  refine ⟨fun stray => ⟨stray.notWhite, stray.notMark, fun word isIdentifier reaches => ?_⟩,
    fun stray => ⟨stray.notWhite, stray.notMark, fun word isIdentifier reaches => ?_⟩⟩
  · refine stray.outside word isIdentifier ?_
    rw [List.append_assoc]
    exact List.suffix_append_of_suffix reaches
  · rw [List.append_assoc] at reaches
    rcases List.suffix_or_suffix_of_suffix reaches (List.suffix_append _ _) with inside | across
    · exact stray.outside word isIdentifier inside
    · obtain ⟨part, spelled⟩ := across
      rw [← spelled] at reaches
      have partReaches : part <:+ consumed := (List.suffix_append_self_iff).mp reaches
      cases part using List.reverseRecOn with
      | nil => exact stray.outside word isIdentifier (spelled ▸ List.suffix_refl _)
      | append_singleton others last =>
        obtain ⟨first, rfl⟩ := partReaches
        obtain ⟨next, isNext⟩ : ∃ next, next ∈ (before ++ [char]).head? :=
          Option.isSome_iff_exists.mp (by simp)
        have lastContinues : continuesIdentifier last :=
          isIdentifier.continues last (by rw [← spelled]; simp)
        have nextContinues : continuesIdentifier next :=
          isIdentifier.continues next
            (by rw [← spelled]; exact List.mem_append_right _ (List.mem_of_mem_head? isNext))
        rcases apart last (by simp) next isNext with stops | stops
        · rw [lastContinues] at stops
          cases stops
        · rw [nextContinues] at stops
          cases stops

/-- A character of two texts stands in the first one or, behind all of it, in the second one. -/
theorem prefix_concat_cases {first second earlier : List Char} {other : Char}
    (stands : earlier ++ [other] <+: first ++ second) :
    earlier ++ [other] <+: first ∨
      ∃ inner, earlier = first ++ inner ∧ inner ++ [other] <+: second := by
  rcases List.prefix_or_prefix_of_prefix stands (List.prefix_append first second) with
    inside | around
  · exact Or.inl inside
  · rcases List.prefix_concat_iff.mp around with same | ⟨inner, rfl⟩
    · exact Or.inl (same ▸ List.prefix_refl _)
    · rw [List.append_assoc, List.prefix_append_right_inj] at stands
      exact Or.inr ⟨inner, rfl, stands⟩

/-- Whether a text has no stray characters. -/
def Clean (text : List Char) : Prop :=
  ∀ before char, before ++ [char] <+: text → ¬ Stray before char

/-- Behind a text without stray characters that no identifier leaves, the first stray character is
that of the rest. -/
theorem firstStray_append_iff (apart : Apart consumed rest) (clean : Clean consumed) :
    FirstStray (consumed ++ rest) before char ↔
      ∃ inner, before = consumed ++ inner ∧ FirstStray rest inner char := by
  have behind : ∀ {inner other}, inner ++ [other] <+: rest →
      (Stray (consumed ++ inner) other ↔ Stray inner other) := by
    rintro inner other ⟨later, rfl⟩
    refine stray_append_iff fun last isLast next isNext => apart last isLast next ?_
    rw [Option.mem_def] at isNext ⊢
    rw [List.head?_append, isNext, Option.some_or]
  constructor
  · rintro ⟨stands, stray, first⟩
    rcases prefix_concat_cases stands with inside | ⟨inner, rfl, inRest⟩
    · exact absurd stray (clean before char inside)
    · refine ⟨inner, rfl, inRest, (behind inRest).mp stray, fun earlier other earlierStands => ?_⟩
      have inRest := earlierStands.trans ((List.prefix_append inner [char]).trans inRest)
      rw [← behind inRest]
      refine first (consumed ++ earlier) other ?_
      rw [List.append_assoc, List.prefix_append_right_inj]
      exact earlierStands
  · rintro ⟨inner, rfl, stands, stray, first⟩
    refine ⟨?_, (behind stands).mpr stray, fun earlier other earlierStands => ?_⟩
    · rw [List.append_assoc, List.prefix_append_right_inj]
      exact stands
    · rcases prefix_concat_cases earlierStands with inside | ⟨within, rfl, withinStands⟩
      · exact clean earlier other inside
      · have inRest := withinStands.trans ((List.prefix_append inner [char]).trans stands)
        rw [behind inRest]
        exact first within other withinStands

end Strays

/-! ### What is never stray -/

section Clean

variable {char : Char} {rest : List Char}

theorem clean_singleton (notStray : ¬ Stray [] char) : Clean [char] := by
  intro before other stands
  rcases List.prefix_concat_iff.mp (show before ++ [other] <+: [] ++ [char] from stands) with
    same | impossible
  · obtain ⟨rfl, same⟩ := List.append_inj' same rfl
    obtain rfl := List.singleton_inj.mp same
    exact notStray
  · exact absurd (List.prefix_nil.mp impossible) (by simp)

theorem not_stray_of_isWhiteSpace (white : Text.isWhiteSpace char) : ¬ Stray [] char := by
  intro stray
  rw [stray.notWhite] at white
  cases white

theorem not_stray_of_mark {token : TypeToken} (isMark : token ∈ marks)
    (spelled : token.text.toList = [char]) : ¬ Stray [] char :=
  fun stray => stray.notMark token isMark spelled

/-- An identifier reaches all characters of its own. -/
theorem clean_of_isIdentifier {word : String} (isIdentifier : IsIdentifier word) :
    Clean word.toList := by
  intro before char stands stray
  refine stray.outside (String.ofList (before ++ [char])) ?_ (by rw [String.toList_ofList])
  obtain ⟨first, others, spelled, starts, continues⟩ := isIdentifier
  rw [spelled] at stands
  rcases before with _ | ⟨head, before⟩
  · obtain ⟨same, -⟩ := List.cons_prefix_cons.mp stands
    exact ⟨char, [], by rw [String.toList_ofList]; rfl, same ▸ starts, by simp⟩
  · obtain ⟨same, inOthers⟩ := List.cons_prefix_cons.mp stands
    refine ⟨head, before ++ [char], by rw [String.toList_ofList]; rfl, same ▸ starts, ?_⟩
    exact fun other member => continues other (inOthers.subset member)

theorem apart_singleton (stops : continuesIdentifier char = false) : Apart [char] rest := by
  intro last isLast _ _
  obtain rfl := Option.some.inj isLast
  exact Or.inl stops

theorem apart_of_endsIdentifier {consumed : List Char} (ends : EndsIdentifier rest) :
    Apart consumed rest :=
  fun _ _ next isNext => Or.inr (ends next isNext)

end Clean

/-! ### The scanner stops at the first stray character -/

theorem byteLength_append (first second : List Char) :
    byteLength (first ++ second) = byteLength first + byteLength second := by
  induction first with
  | nil => exact (Nat.zero_add _).symm
  | cons char rest inductionHypothesis =>
    rw [List.cons_append, byteLength, byteLength, inductionHypothesis, Nat.add_assoc]

/-- The scanner fails with the first stray character and the number of bytes in front of it. -/
def StopsAtStray (offset : Nat) (chars : List Char) : Prop :=
  ∀ position char, scan offset chars = .error (position, char) ↔
    ∃ before, FirstStray chars before char ∧ position = offset + byteLength before

theorem map_eq_error_iff {Error Value Result : Type} {outcome : Except Error Value}
    {next : Value → Result} {error : Error} :
    outcome.map next = .error error ↔ outcome = .error error := by
  cases outcome <;> simp [Except.map]

/-- Behind a text without stray characters that no identifier leaves, the scanner goes on. -/
theorem StopsAtStray.of_append (offset : Nat) (consumed : List Char) {rest : List Char}
    (apart : Apart consumed rest) (clean : Clean consumed)
    (goesOn : ∀ failure, scan offset (consumed ++ rest) = .error failure ↔
      scan (offset + byteLength consumed) rest = .error failure)
    (later : StopsAtStray (offset + byteLength consumed) rest) :
    StopsAtStray offset (consumed ++ rest) := by
  intro position char
  rw [goesOn, later]
  simp only [firstStray_append_iff apart clean]
  constructor
  · rintro ⟨inner, stray, rfl⟩
    exact ⟨consumed ++ inner, ⟨inner, rfl, stray⟩, by rw [byteLength_append, Nat.add_assoc]⟩
  · rintro ⟨_, ⟨inner, rfl, stray⟩, rfl⟩
    exact ⟨inner, stray, by rw [byteLength_append, Nat.add_assoc]⟩

/-- A character at the start of a text that starts no token is stray. -/
theorem stray_of_mark?_eq_none {char : Char} (notWhite : ¬ Text.isWhiteSpace char)
    (notStart : ¬ startsIdentifier char) (missing : mark? char = none) : Stray [] char := by
  refine ⟨eq_false_of_ne_true notWhite, fun token isMark spelled => ?_,
    fun word isIdentifier reaches => ?_⟩
  · obtain ⟨other, otherSpelled, found, -⟩ := exists_char_of_mem_marks isMark
    obtain rfl := List.singleton_inj.mp (otherSpelled.symm.trans spelled)
    cases missing.symm.trans found
  · obtain ⟨first, others, spelled, starts, -⟩ := isIdentifier
    rw [spelled, List.nil_append] at reaches
    obtain rfl : first = char := by
      have := reaches.mem List.mem_cons_self
      exact List.mem_singleton.mp this
    exact notStart starts

theorem stopsAtStray_scan (offset : Nat) (chars : List Char) : StopsAtStray offset chars := by
  induction offset, chars using scan.induct with
  | case1 offset =>
    intro position char
    rw [scan_nil]
    refine iff_of_false (fun impossible => by cases impossible) ?_
    rintro ⟨before, stray, -⟩
    exact absurd (List.prefix_nil.mp stray.stands) (by simp)
  | case2 offset char rest white inductionHypothesis =>
    refine .of_append offset [char]
      (apart_singleton (continuesIdentifier_of_isWhiteSpace white))
      (clean_singleton (not_stray_of_isWhiteSpace white)) (fun failure => ?_) inductionHypothesis
    rw [List.singleton_append, scan_of_isWhiteSpace white]
    rfl
  | case3 offset char rest notWhite starts word _ =>
    rename_i inductionHypothesis
    have isIdentifier := isIdentifier_takeWhile starts rest
    have ends := endsIdentifier_dropWhile rest
    have stops := StopsAtStray.of_append offset _ (apart_of_endsIdentifier ends)
      (clean_of_isIdentifier isIdentifier)
      (fun failure => by rw [scan_of_identifier isIdentifier ends, map_eq_error_iff])
      (by rw [String.toList_ofList]; exact inductionHypothesis)
    rwa [String.toList_ofList, List.cons_append, List.takeWhile_append_dropWhile] at stops
  | case4 offset char rest notWhite notStart token found inductionHypothesis =>
    obtain ⟨isMark, spelled⟩ := of_mark?_eq_some found
    obtain ⟨other, otherSpelled, -, -, -, stops⟩ := exists_char_of_mem_marks isMark
    obtain rfl := List.singleton_inj.mp (otherSpelled.symm.trans spelled)
    refine .of_append offset [other] (apart_singleton stops)
      (clean_singleton (not_stray_of_mark isMark spelled)) (fun failure => ?_) inductionHypothesis
    rw [← spelled, scan_of_mark isMark, map_eq_error_iff]
  | case5 offset char rest notWhite notStart missing =>
    have stray := stray_of_mark?_eq_none notWhite notStart missing
    intro position other
    rw [scan_of_other notWhite notStart, missing]
    constructor
    · rintro ⟨⟩
      exact ⟨[], ⟨⟨rest, rfl⟩, stray, fun earlier other stands =>
        absurd (List.prefix_nil.mp stands) (by simp)⟩, rfl⟩
    · rintro ⟨before, ⟨stands, -, first⟩, rfl⟩
      -- what comes first in the text is stray already, so nothing stands before the first stray one
      cases before with
      | nil =>
        obtain ⟨rfl, -⟩ := List.cons_prefix_cons.mp stands
        rfl
      | cons head before =>
        obtain ⟨rfl, -⟩ := List.cons_prefix_cons.mp stands
        exact absurd stray (first [] head ⟨before, rfl⟩)

/-! ### The scanner counts the bytes in front of each token -/

/-- Where a token of a text stands: what is in front of it splits into the tokens before it, and
the text goes on with the token. -/
structure StandsAt (text left : List Char) (before : List TypeToken) (token : TypeToken)
    (after : List TypeToken) : Prop where
  splits : Splits text (before ++ token :: after)
  inFront : Splits left before
  goesOn : left ++ token.text.toList <+: text

section Places

variable {text left rest : List Char} {before after : List TypeToken} {token : TypeToken}

theorem EndsIdentifier.of_prefix (ends : EndsIdentifier rest) (start : left <+: rest) :
    EndsIdentifier left := by
  obtain ⟨later, rfl⟩ := start
  intro next isNext
  refine ends next ?_
  rw [Option.mem_def] at isNext ⊢
  rw [List.head?_append, isNext, Option.some_or]

/-- Each token of a text stands somewhere. -/
theorem exists_standsAt (splits : Splits text (before ++ token :: after)) :
    ∃ left, StandsAt text left before token after := by
  generalize whole : before ++ token :: after = tokens at splits
  have again := splits
  induction splits generalizing before with
  | done => simp at whole
  | @blank char rest tokens white later inductionHypothesis =>
    obtain ⟨left, place⟩ := inductionHypothesis whole later
    exact ⟨char :: left, whole ▸ again, .blank white place.inFront,
      List.cons_prefix_cons.mpr ⟨rfl, place.goesOn⟩⟩
  | @mark first rest tokens isMark later inductionHypothesis =>
    cases before with
    | nil =>
      obtain ⟨rfl, -⟩ := List.cons.inj whole
      exact ⟨[], whole ▸ again, .done, List.prefix_append _ _⟩
    | cons head others =>
      obtain ⟨rfl, same⟩ := List.cons.inj whole
      obtain ⟨left, place⟩ := inductionHypothesis same later
      refine ⟨head.text.toList ++ left, whole ▸ again, .mark isMark place.inFront, ?_⟩
      rw [List.append_assoc, List.prefix_append_right_inj]
      exact place.goesOn
  | @word word rest tokens isIdentifier ends later inductionHypothesis =>
    cases before with
    | nil =>
      obtain ⟨rfl, -⟩ := List.cons.inj whole
      exact ⟨[], whole ▸ again, .done, List.prefix_append _ _⟩
    | cons head others =>
      obtain ⟨rfl, same⟩ := List.cons.inj whole
      obtain ⟨left, place⟩ := inductionHypothesis same later
      have start := (List.prefix_append _ _).trans place.goesOn
      refine ⟨word.toList ++ left, whole ▸ again,
        .word isIdentifier (ends.of_prefix start) place.inFront, ?_⟩
      rw [List.append_assoc, List.prefix_append_right_inj]
      exact place.goesOn

/-- Where the scanner finds just an identifier, the text behind it does not go on with it. -/
theorem endsIdentifier_of_scan {word : String} {offset : Nat} {lexemes : List TypeLexeme}
    (isIdentifier : IsIdentifier word)
    (scanned : scan offset (word.toList ++ rest) = .ok lexemes)
    (found : (lexemes.map (·.token)).head? = some (identifier word)) : EndsIdentifier rest := by
  obtain ⟨first, others, spelled, starts, continues⟩ := isIdentifier
  rw [spelled, List.cons_append, scan_of_startsIdentifier starts] at scanned
  obtain ⟨later, -, rfl⟩ := exists_of_map_eq_ok scanned
  have same := congrArg String.toList (identifier.inj (Option.some.inj found))
  rw [String.toList_ofList, spelled, List.takeWhile_append_of_pos continues] at same
  have none : rest.takeWhile continuesIdentifier = [] :=
    List.append_right_eq_self.mp (List.cons.inj same).2
  have ends := endsIdentifier_dropWhile rest
  have whole := List.takeWhile_append_dropWhile (p := continuesIdentifier) (l := rest)
  rw [none, List.nil_append] at whole
  rwa [whole] at ends

/-- Every token of a text has characters, the first of which is no white space. -/
theorem exists_first_of_splits (splits : Splits text before) :
    ∀ token ∈ before, ∃ first others, token.text.toList = first :: others ∧
      Text.isWhiteSpace first = false := by
  induction splits with
  | done => simp
  | blank _ _ inductionHypothesis => exact inductionHypothesis
  | mark isMark _ inductionHypothesis =>
    obtain ⟨char, spelled, -, notWhite, -⟩ := exists_char_of_mem_marks isMark
    exact List.forall_mem_cons.mpr ⟨⟨char, [], spelled, notWhite⟩, inductionHypothesis⟩
  | word isIdentifier _ _ inductionHypothesis =>
    obtain ⟨first, others, spelled, starts, -⟩ := isIdentifier
    exact List.forall_mem_cons.mpr
      ⟨⟨first, others, spelled, isWhiteSpace_of_startsIdentifier starts⟩, inductionHypothesis⟩

/-- A token with which a text starts is found where the text starts. -/
theorem offset_of_scan {offset : Nat} {lexeme : TypeLexeme} {lexemes : List TypeLexeme}
    (scanned : scan offset (lexeme.token.text.toList ++ rest) = .ok (lexeme :: lexemes)) :
    lexeme.offset = offset := by
  obtain ⟨first, others, spelled, notWhite⟩ :=
    exists_first_of_splits (splits_of_scan scanned) lexeme.token List.mem_cons_self
  rw [spelled, List.cons_append] at scanned
  by_cases starts : startsIdentifier first
  · rw [scan_of_startsIdentifier starts] at scanned
    obtain ⟨_, -, same⟩ := exists_of_map_eq_ok scanned
    rw [← (List.cons.inj same).1]
  · rw [scan_of_other (ne_true_of_eq_false notWhite) starts] at scanned
    cases found : mark? first with
    | none =>
      rw [found] at scanned
      cases scanned
    | some mark =>
      rw [found] at scanned
      obtain ⟨_, -, same⟩ := exists_of_map_eq_ok scanned
      rw [← (List.cons.inj same).1]

/-- Where a token stands, the scanner finds it with the number of bytes in front of it. -/
theorem exists_scan_of_inFront (inFront : Splits left before) (offset : Nat)
    {lexemes : List TypeLexeme}
    (scanned : scan offset (left ++ (token.text.toList ++ rest)) = .ok lexemes)
    (same : lexemes.map (·.token) = before ++ token :: after) :
    ∃ firsts lasts, lexemes = firsts ++ ⟨offset + byteLength left, token⟩ :: lasts ∧
      firsts.map (·.token) = before ∧ lasts.map (·.token) = after := by
  induction inFront generalizing offset lexemes with
  | done =>
    obtain ⟨lexeme, lasts, rfl, rfl, sameLasts⟩ := List.map_eq_cons_iff.mp same
    obtain rfl := offset_of_scan scanned
    exact ⟨[], lasts, rfl, rfl, sameLasts⟩
  | @blank char left before white _ inductionHypothesis =>
    rw [List.cons_append, scan_of_isWhiteSpace white] at scanned
    obtain ⟨firsts, lasts, rfl, parts⟩ := inductionHypothesis _ scanned same
    exact ⟨firsts, lasts, by rw [byteLength, Nat.add_assoc], parts⟩
  | @mark mark left before isMark _ inductionHypothesis =>
    rw [List.append_assoc, scan_of_mark isMark] at scanned
    obtain ⟨others, found, rfl⟩ := exists_of_map_eq_ok scanned
    obtain ⟨firsts, lasts, rfl, sameFirsts, sameLasts⟩ :=
      inductionHypothesis _ found (List.cons.inj same).2
    refine ⟨⟨offset, mark⟩ :: firsts, lasts, ?_, congrArg _ sameFirsts, sameLasts⟩
    rw [byteLength_append, Nat.add_assoc]
    rfl
  | @word word left before isIdentifier _ _ inductionHypothesis =>
    rw [List.append_assoc] at scanned
    have ends := endsIdentifier_of_scan isIdentifier scanned (by rw [same]; rfl)
    rw [scan_of_identifier isIdentifier ends] at scanned
    obtain ⟨others, found, rfl⟩ := exists_of_map_eq_ok scanned
    obtain ⟨firsts, lasts, rfl, sameFirsts, sameLasts⟩ :=
      inductionHypothesis _ found (List.cons.inj same).2
    refine ⟨⟨offset, identifier word⟩ :: firsts, lasts, ?_, congrArg _ sameFirsts, sameLasts⟩
    rw [byteLength_append, Nat.add_assoc]
    rfl

theorem StandsAt.scan (place : StandsAt text left before token after) (offset : Nat) :
    ∃ firsts lasts,
      TypeToken.scan offset text = .ok (firsts ++ ⟨offset + byteLength left, token⟩ :: lasts) ∧
        firsts.map (·.token) = before ∧ lasts.map (·.token) = after := by
  obtain ⟨lexemes, scanned, same⟩ := place.splits.scan offset
  obtain ⟨rest, whole⟩ := place.goesOn
  have scannedWhole := scanned
  rw [← whole, List.append_assoc] at scannedWhole
  obtain ⟨firsts, lasts, rfl, parts⟩ :=
    exists_scan_of_inFront place.inFront offset scannedWhole same
  exact ⟨firsts, lasts, scanned, parts⟩

/-- What the scanner finds stands where it is found. -/
theorem exists_standsAt_of_scan {offset : Nat} {firsts lasts : List TypeLexeme}
    {lexeme : TypeLexeme} (scanned : TypeToken.scan offset text = .ok (firsts ++ lexeme :: lasts)) :
    ∃ left, lexeme.offset = offset + byteLength left ∧
      StandsAt text left (firsts.map (·.token)) lexeme.token (lasts.map (·.token)) := by
  have splits := splits_of_scan scanned
  rw [List.map_append, List.map_cons] at splits
  obtain ⟨left, place⟩ := exists_standsAt splits
  obtain ⟨others, rest, again, sameFirsts, -⟩ := place.scan offset
  have sameLength : firsts.length = others.length := by
    rw [← List.length_map (·.token), ← sameFirsts, List.length_map]
  obtain ⟨-, behind⟩ := List.append_inj (Except.ok.inj (scanned.symm.trans again)) sameLength
  exact ⟨left, congrArg TypeLexeme.offset (List.cons.inj behind).1, place⟩

end Places

end ValueGen.TypeToken
