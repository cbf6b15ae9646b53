/-
This file says that the pretty layout is read back. A value is written as its tokens with white
space in between, which the scanner finds again, and the reader puts the value together from them:
with any arrays and objects open around it, taking the tokens of a value is taking the value.
Numbers are left out here, and so are literals that denote no text.
-/

import ValueGen.Json.Reader
import ValueGen.Proofs.Json.Literals

namespace ValueGen

/-! ### The tokens of a value -/

namespace Json

mutual

/-- The tokens that a value is written as. -/
def tokens : Json → List JsonToken
  | null => [.null]
  | bool value => [.bool value]
  | number value => [.number value]
  | string text => [.string (some text)]
  | unpaired => [.string none]
  | array [] => [.openBracket, .closeBracket]
  | array (item :: rest) => .openBracket :: (item.tokens ++ tokensOfItems rest ++ [.closeBracket])
  | object [] => [.openBrace, .closeBrace]
  | object ((key, value) :: rest) =>
    .openBrace :: .string key :: .colon :: (value.tokens ++ tokensOfFields rest ++ [.closeBrace])

/-- The tokens of the items after the first one. -/
def tokensOfItems : List Json → List JsonToken
  | [] => []
  | item :: rest => .comma :: (item.tokens ++ tokensOfItems rest)

/-- The tokens of the fields after the first one. -/
def tokensOfFields : List (Option String × Json) → List JsonToken
  | [] => []
  | (key, value) :: rest =>
    .comma :: .string key :: .colon :: (value.tokens ++ tokensOfFields rest)

end

end Json

/-! ### Reading tokens -/

namespace JsonReader

open Json

/-- Where an item or the end of an array may stand, a token that starts a value starts the first
item. -/
theorem step_firstItem (frames : List Frame) {token : JsonToken}
    (starts : token ≠ .closeBracket) :
    step (.firstItem, frames) token = step (.value, .array [] :: frames) token := by
  cases token <;> first | rfl | exact absurd rfl starts

/-- The tokens of a value start the first item of an array. -/
theorem foldlM_firstItem (value : Json) (frames : List Frame) (rest : List JsonToken) :
    (value.tokens ++ rest).foldlM step (.firstItem, frames) =
      (value.tokens ++ rest).foldlM step (.value, .array [] :: frames) := by
  have starts : ∃ token more, value.tokens = token :: more ∧ token ≠ .closeBracket := by
    unfold tokens
    split <;> exact ⟨_, _, rfl, nofun⟩
  obtain ⟨token, more, split, starts⟩ := starts
  rw [split, List.cons_append, List.foldlM_cons, List.foldlM_cons, step_firstItem frames starts]

mutual

/-- Taking the tokens of a value is taking the value. -/
theorem foldlM_tokens : (value : Json) → (frames : List Frame) → (rest : List JsonToken) →
    (value.tokens ++ rest).foldlM step (.value, frames) =
      rest.foldlM step (.after value, frames)
  | .null, frames, rest => rfl
  | .bool value, frames, rest => rfl
  | .number value, frames, rest => rfl
  | .string text, frames, rest => rfl
  | .unpaired, frames, rest => rfl
  | .array [], frames, rest => rfl
  | .array (item :: items), frames, rest => by
    have opened : (Json.tokens (.array (item :: items)) ++ rest).foldlM step (.value, frames) =
        ((item.tokens ++ tokensOfItems items ++ [JsonToken.closeBracket]) ++ rest).foldlM step
          (.firstItem, frames) := rfl
    rw [opened, List.append_assoc, List.append_assoc, foldlM_firstItem, foldlM_tokens item]
    exact foldlM_tokensOfItems items [] item frames rest
  | .object [], frames, rest => rfl
  | .object ((key, value) :: fields), frames, rest => by
    have opened : (Json.tokens (.object ((key, value) :: fields)) ++ rest).foldlM step
          (.value, frames) =
        ((value.tokens ++ tokensOfFields fields ++ [JsonToken.closeBrace]) ++ rest).foldlM step
          (.value, .object [] key :: frames) := rfl
    rw [opened, List.append_assoc, List.append_assoc, foldlM_tokens value]
    exact foldlM_tokensOfFields fields [] key value frames rest

/-- Behind an item the further ones and the end of the array make up the array. -/
theorem foldlM_tokensOfItems : (items : List Json) → (done : List Json) → (value : Json) →
    (frames : List Frame) → (rest : List JsonToken) →
    (tokensOfItems items ++ ([JsonToken.closeBracket] ++ rest)).foldlM step
        (.after value, .array done :: frames) =
      rest.foldlM step (.after (.array (done.reverse ++ value :: items)), frames)
  | [], done, value, frames, rest => by
    rw [← List.reverse_cons]
    rfl
  | item :: items, done, value, frames, rest => by
    have comma : (tokensOfItems (item :: items) ++ ([JsonToken.closeBracket] ++ rest)).foldlM step
          (.after value, .array done :: frames) =
        ((item.tokens ++ tokensOfItems items) ++ ([JsonToken.closeBracket] ++ rest)).foldlM step
          (.value, .array (value :: done) :: frames) := rfl
    rw [comma, List.append_assoc, foldlM_tokens item, foldlM_tokensOfItems items,
      List.reverse_cons, List.append_assoc]
    rfl

/-- Behind a field the further ones and the end of the object make up the object. -/
theorem foldlM_tokensOfFields : (fields : List (Option String × Json)) →
    (done : List (Option String × Json)) → (key : Option String) → (value : Json) →
    (frames : List Frame) → (rest : List JsonToken) →
    (tokensOfFields fields ++ ([JsonToken.closeBrace] ++ rest)).foldlM step
        (.after value, .object done key :: frames) =
      rest.foldlM step (.after (.object (done.reverse ++ (key, value) :: fields)), frames)
  | [], done, key, value, frames, rest => by
    rw [← List.reverse_cons]
    rfl
  | (next, nextValue) :: fields, done, key, value, frames, rest => by
    have comma : (tokensOfFields ((next, nextValue) :: fields) ++
          ([JsonToken.closeBrace] ++ rest)).foldlM step (.after value, .object done key :: frames) =
        ((nextValue.tokens ++ tokensOfFields fields) ++
          ([JsonToken.closeBrace] ++ rest)).foldlM step
            (.value, .object ((key, value) :: done) next :: frames) := rfl
    rw [comma, List.append_assoc, foldlM_tokens nextValue, foldlM_tokensOfFields fields,
      List.reverse_cons, List.append_assoc]
    rfl

end

/-- The tokens of a value make up the value. -/
theorem ofTokens_tokens (value : Json) : ofTokens value.tokens = some value := by
  have taken := foldlM_tokens value [] []
  rw [List.append_nil] at taken
  rw [ofTokens, taken]
  rfl

end JsonReader

/-! ### Splitting the pretty layout -/

namespace Json

mutual

/-- A value is textual if it is made of texts, truth values and null, with texts for keys. -/
def IsTextual : Json → Prop
  | null | bool _ | string _ => True
  | number _ | unpaired => False
  | array items => AreTextual items
  | object fields => FieldsAreTextual fields

/-- Some items are textual. -/
def AreTextual : List Json → Prop
  | [] => True
  | item :: rest => item.IsTextual ∧ AreTextual rest

/-- Some fields are textual. -/
def FieldsAreTextual : List (Option String × Json) → Prop
  | [] => True
  | (key, value) :: rest => key.isSome ∧ value.IsTextual ∧ FieldsAreTextual rest

end

end Json

namespace JsonToken

open Json

/-- No word goes on in a text. -/
def Ends (chars : List Char) : Prop := ∀ char ∈ chars.head?, char.isLower = false

theorem scan_mark {char : Char} {token : JsonToken} (isMark : mark? char = some token)
    (noSpace : isSpace char = false) (noQuote : char ≠ '"') (rest : List Char) :
    scan (char :: rest) = (scan rest).map (token :: ·) := by
  rw [scan, if_neg (by rw [noSpace]; exact Bool.false_ne_true), if_neg noQuote, isMark]

theorem scan_blank (rest : List Char) : scan (' ' :: rest) = scan rest := by
  rw [scan, if_pos (by decide)]

theorem scan_newLine (level : Nat) (rest : List Char) :
    scan ((newLine level).toList ++ rest) = scan rest := by
  have spaces : ∀ count, scan (List.replicate count ' ' ++ rest) = scan rest := by
    intro count
    induction count with
    | zero => rfl
    | succ count inductionHypothesis =>
      rw [List.replicate_succ, List.cons_append, scan_blank, inductionHypothesis]
  have chars : (newLine level).toList = '\n' :: List.replicate (2 * level) ' ' := by
    rw [newLine, String.toList_append, String.toList_ofList, String.toList_ofList]
    rfl
  rw [chars, List.cons_append, scan, if_pos (by decide), spaces]

theorem scan_quote (text : String) (rest : List Char) :
    scan ((quote text).toList ++ rest) = (scan rest).map (.string (some text) :: ·) := by
  have taken := takeString_quote text.toList rest
  rw [toList_quote, List.cons_append, List.append_assoc, List.singleton_append, scan,
    if_neg (by decide), if_pos rfl]
  split
  · rename_i codes after found
    rw [found] at taken
    cases taken
    rw [pairSurrogates_map_toNat, Option.map_some, String.ofList_toList]
    cases scan rest <;> rfl
  · rename_i missing
    cases missing.symm.trans taken

theorem scan_word {first : Char} {letters : List Char} {token : JsonToken}
    (isWord : word? (first :: letters) = some token)
    (lower : (first :: letters).all Char.isLower) (noSpace : isSpace first = false)
    (noQuote : first ≠ '"') (noMark : mark? first = none) {rest : List Char}
    (ends : Ends rest) :
    scan (first :: letters ++ rest) = (scan rest).map (token :: ·) := by
  obtain ⟨firstLower, othersLower⟩ := List.forall_mem_cons.mp (List.all_eq_true.mp lower)
  have stops : rest.takeWhile Char.isLower = [] ∧ rest.dropWhile Char.isLower = rest := by
    cases rest with
    | nil => exact ⟨rfl, rfl⟩
    | cons char rest =>
      have stops := Bool.eq_false_iff.mp (ends char rfl)
      exact ⟨List.takeWhile_cons_of_neg stops, List.dropWhile_cons_of_neg stops⟩
  rw [List.cons_append, scan, if_neg (by rw [noSpace]; exact Bool.false_ne_true), if_neg noQuote,
    noMark]
  dsimp only
  rw [if_pos firstLower, List.takeWhile_append_of_pos othersLower,
    List.dropWhile_append_of_pos othersLower, stops.1, stops.2, List.append_nil, isWord]
  cases scan rest <;> rfl

theorem ends_newLine (level : Nat) (rest : List Char) : Ends ((newLine level).toList ++ rest) := by
  rw [newLine, String.toList_append]
  intro char isFirst
  obtain rfl : '\n' = char := Option.some.inj isFirst
  rfl

theorem ends_prettyItems (level : Nat) (items : List Json) {rest : List Char} (ends : Ends rest) :
    Ends ((prettyItems level items).toList ++ rest) := by
  cases items with
  | nil => exact ends
  | cons item items =>
    rw [prettyItems, String.toList_append, String.toList_append, String.toList_append]
    intro char isFirst
    obtain rfl : ',' = char := Option.some.inj isFirst
    rfl

theorem ends_prettyFields (level : Nat) (fields : List (Option String × Json)) {rest : List Char}
    (ends : Ends rest) : Ends ((prettyFields level fields).toList ++ rest) := by
  cases fields with
  | nil => exact ends
  | cons field fields =>
    obtain ⟨key, value⟩ := field
    rw [prettyFields, String.toList_append, String.toList_append, String.toList_append,
      String.toList_append, String.toList_append]
    intro char isFirst
    obtain rfl : ',' = char := Option.some.inj isFirst
    rfl

mutual

/-- What a value is written as consists of its tokens, if no letter follows, with which a word would
go on. -/
theorem scan_prettyAt : (value : Json) → value.IsTextual → (level : Nat) → (rest : List Char) →
    Ends rest → scan ((prettyAt level value).toList ++ rest) = (scan rest).map (value.tokens ++ ·)
  | .null, _, level, rest, ends => by
    rw [prettyAt]
    exact @scan_word 'n' ['u', 'l', 'l'] .null rfl rfl rfl (by decide) rfl rest ends
  | .bool true, _, level, rest, ends => by
    rw [prettyAt]
    exact @scan_word 't' ['r', 'u', 'e'] (.bool true) rfl rfl rfl (by decide) rfl rest ends
  | .bool false, _, level, rest, ends => by
    rw [prettyAt]
    exact @scan_word 'f' ['a', 'l', 's', 'e'] (.bool false) rfl rfl rfl (by decide) rfl rest ends
  | .string text, _, level, rest, ends => by
    rw [prettyAt]
    exact scan_quote text rest
  | .array [], _, level, rest, ends => by
    have chars : (prettyAt level (.array [])).toList ++ rest = '[' :: ']' :: rest := by
      rw [prettyAt]
      rfl
    rw [chars, scan_mark rfl rfl (by decide), scan_mark rfl rfl (by decide), Option.map_map]
    rfl
  | .array (item :: items), textual, level, rest, ends => by
    have chars : (prettyAt level (.array (item :: items))).toList ++ rest =
        '[' :: ((newLine (level + 1)).toList ++ ((prettyAt (level + 1) item).toList ++
          ((prettyItems (level + 1) items).toList ++
            ((newLine level).toList ++ (']' :: rest))))) := by
      simp only [prettyAt, String.toList_append, List.append_assoc]
      rfl
    have endsItems : Ends ((newLine level).toList ++ (']' :: rest)) := ends_newLine level _
    rw [chars, scan_mark rfl rfl (by decide), scan_newLine,
      scan_prettyAt item textual.1 (level + 1) _ (ends_prettyItems (level + 1) items endsItems),
      scan_prettyItems items textual.2 (level + 1) _ endsItems, scan_newLine,
      scan_mark rfl rfl (by decide)]
    simp only [Option.map_map, tokens, Function.comp_def, List.cons_append, List.append_assoc,
      List.nil_append]
  | .object [], _, level, rest, ends => by
    have chars : (prettyAt level (.object [])).toList ++ rest = '\x7b' :: '\x7d' :: rest := by
      rw [prettyAt]
      rfl
    rw [chars, scan_mark rfl rfl (by decide), scan_mark rfl rfl (by decide), Option.map_map]
    rfl
  | .object ((some key, value) :: fields), textual, level, rest, ends => by
    have chars : (prettyAt level (.object ((some key, value) :: fields))).toList ++ rest =
        '\x7b' :: ((newLine (level + 1)).toList ++ ((quote key).toList ++ (':' :: ' ' ::
          ((prettyAt (level + 1) value).toList ++ ((prettyFields (level + 1) fields).toList ++
            ((newLine level).toList ++ ('\x7d' :: rest))))))) := by
      simp only [prettyAt, String.toList_append, List.append_assoc]
      rfl
    have endsFields : Ends ((newLine level).toList ++ ('\x7d' :: rest)) := ends_newLine level _
    rw [chars, scan_mark rfl rfl (by decide), scan_newLine, scan_quote,
      scan_mark rfl rfl (by decide), scan_blank,
      scan_prettyAt value textual.2.1 (level + 1) _
        (ends_prettyFields (level + 1) fields endsFields),
      scan_prettyFields fields textual.2.2 (level + 1) _ endsFields, scan_newLine,
      scan_mark rfl rfl (by decide)]
    simp only [Option.map_map, tokens, Function.comp_def, List.cons_append, List.append_assoc,
      List.nil_append]

/-- What further items are written as consists of their tokens. -/
theorem scan_prettyItems : (items : List Json) → AreTextual items → (level : Nat) →
    (rest : List Char) → Ends rest →
    scan ((prettyItems level items).toList ++ rest) = (scan rest).map (tokensOfItems items ++ ·)
  | [], _, level, rest, ends => Option.map_id'.symm
  | item :: items, textual, level, rest, ends => by
    have chars : (prettyItems level (item :: items)).toList ++ rest =
        ',' :: ((newLine level).toList ++ ((prettyAt level item).toList ++
          ((prettyItems level items).toList ++ rest))) := by
      simp only [prettyItems, String.toList_append, List.append_assoc]
      rfl
    rw [chars, scan_mark rfl rfl (by decide), scan_newLine,
      scan_prettyAt item textual.1 level _ (ends_prettyItems level items ends),
      scan_prettyItems items textual.2 level rest ends]
    simp only [Option.map_map, tokensOfItems, Function.comp_def, List.cons_append,
      List.append_assoc]

/-- What further fields are written as consists of their tokens. -/
theorem scan_prettyFields : (fields : List (Option String × Json)) → FieldsAreTextual fields →
    (level : Nat) → (rest : List Char) → Ends rest →
    scan ((prettyFields level fields).toList ++ rest) =
      (scan rest).map (tokensOfFields fields ++ ·)
  | [], _, level, rest, ends => Option.map_id'.symm
  | (some key, value) :: fields, textual, level, rest, ends => by
    have chars : (prettyFields level ((some key, value) :: fields)).toList ++ rest =
        ',' :: ((newLine level).toList ++ ((quote key).toList ++ (':' :: ' ' ::
          ((prettyAt level value).toList ++ ((prettyFields level fields).toList ++ rest))))) := by
      simp only [prettyFields, String.toList_append, List.append_assoc]
      rfl
    rw [chars, scan_mark rfl rfl (by decide), scan_newLine, scan_quote,
      scan_mark rfl rfl (by decide), scan_blank,
      scan_prettyAt value textual.2.1 level _ (ends_prettyFields level fields ends),
      scan_prettyFields fields textual.2.2 level rest ends]
    simp only [Option.map_map, tokensOfFields, Function.comp_def, List.cons_append,
      List.append_assoc]

end

end JsonToken

/-- The pretty layout of a textual value is read as the value. -/
theorem Json.read_pretty (value : Json) (textual : value.IsTextual) :
    Json.read value.pretty = some value := by
  have scanned := JsonToken.scan_prettyAt value textual 0 [] (fun char isFirst => nomatch isFirst)
  rw [List.append_nil] at scanned
  have nothing : JsonToken.scan [] = some [] := by rw [JsonToken.scan]
  rw [nothing, Option.map_some, List.append_nil] at scanned
  rw [Json.read, Json.pretty, scanned, Option.bind_some, JsonReader.ofTokens_tokens]

end ValueGen
