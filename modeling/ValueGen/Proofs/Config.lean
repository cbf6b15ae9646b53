/-
This file says where the configuration of a project comes from. Each setting is taken by itself from
the environment, if a variable gives it, else from the file, if that gives it, and else from the
defaults; only what has been taken is checked. So a blank text in the file does no harm where a
variable takes its place, while a blank variable is refused whatever the file gives. The number of
workers is given by a variable that holds digits only, behind a plus sign or not.
-/

import Mathlib.Data.Nat.Digits.Defs
import ValueGen.Config.Toml

namespace ValueGen.Config

/-! ### Counts -/

/-- A text writes a number: with the digits of ASCII, the first one for the highest power of ten,
and a plus sign in front of them or not. -/
def Writes (text : String) (count : Nat) : Prop :=
  ∃ (sign : List Char) (digits : List (Fin 10)), (sign = [] ∨ sign = ['+']) ∧ digits ≠ [] ∧
    text.toList = sign ++ digits.map (fun digit => Nat.digitChar digit.val) ∧
      count = Nat.ofDigits 10 (digits.reverse.map (·.val))

theorem isDigit_digitChar : ∀ digit : Fin 10, (Nat.digitChar digit.val).isDigit = true := by
  decide

theorem toNat_digitChar : ∀ digit : Fin 10, (Nat.digitChar digit.val).toNat - 48 = digit.val := by
  decide

theorem digitChar_ne_plus : ∀ digit : Fin 10, Nat.digitChar digit.val ≠ '+' := by
  decide

/-- A digit is written for a number below ten. -/
theorem exists_digitChar_eq {char : Char} (isDigit : char.isDigit = true) :
    ∃ digit : Fin 10, Nat.digitChar digit.val = char := by
  have table : ∀ code < 58, 48 ≤ code →
      ∃ digit : Fin 10, Nat.digitChar digit.val = Char.ofNat code := by
    decide
  rw [Char.isDigit_iff_toNat] at isDigit
  obtain ⟨digit, same⟩ := table char.toNat (Nat.lt_succ_of_le isDigit.2) isDigit.1
  exact ⟨digit, same.trans (Char.ofNat_toNat char)⟩

/-- Digits are written for numbers below ten. -/
theorem exists_map_digitChar_eq {chars : List Char} (areDigits : chars.all Char.isDigit = true) :
    ∃ digits : List (Fin 10), digits.map (fun digit => Nat.digitChar digit.val) = chars := by
  induction chars with
  | nil => exact ⟨[], rfl⟩
  | cons char rest inductionHypothesis =>
    rw [List.all_cons, Bool.and_eq_true] at areDigits
    obtain ⟨digit, rfl⟩ := exists_digitChar_eq areDigits.1
    obtain ⟨digits, rfl⟩ := inductionHypothesis areDigits.2
    exact ⟨digit :: digits, rfl⟩

/-- Taking one digit after the other gives the number that the digits stand for. -/
theorem foldl_digitChar (digits : List (Fin 10)) :
    (digits.map fun digit => Nat.digitChar digit.val).foldl
        (fun total digit => 10 * total + (digit.toNat - 48)) 0 =
      Nat.ofDigits 10 (digits.reverse.map (·.val)) := by
  rw [List.foldl_map, Nat.ofDigits_eq_foldr, List.foldr_map, List.foldr_reverse]
  simp only [toNat_digitChar, Nat.cast_id, Nat.add_comm]

/-- The digits of a text, without a plus sign in front of them. -/
def digitsOf : List Char → List Char
  | '+' :: rest => rest
  | chars => chars

theorem digitsOf_append {sign : List Char} (isSign : sign = [] ∨ sign = ['+'])
    {digits : List (Fin 10)} (some : digits ≠ []) :
    digitsOf (sign ++ digits.map fun digit => Nat.digitChar digit.val) =
      digits.map fun digit => Nat.digitChar digit.val := by
  rcases isSign with rfl | rfl
  · cases digits with
    | nil => exact absurd rfl some
    | cons first rest =>
      rw [List.nil_append, List.map_cons]
      unfold digitsOf
      split
      · rename_i same
        exact absurd (List.cons.inj same).1 (digitChar_ne_plus first)
      · rfl
  · rfl

theorem exists_sign_append (chars : List Char) :
    ∃ sign : List Char, (sign = [] ∨ sign = ['+']) ∧ chars = sign ++ digitsOf chars := by
  unfold digitsOf
  split
  · exact ⟨['+'], Or.inr rfl, rfl⟩
  · exact ⟨[], Or.inl rfl, rfl⟩

/-- A count is read exactly from the texts that write it, as long as it is below the bound. -/
theorem readCount?_eq_some_iff (text : String) (count : Nat) :
    readCount? text = some count ↔ Writes text count ∧ count < 2 ^ 64 := by
  have form : readCount? text =
      if (digitsOf text.toList).isEmpty || !(digitsOf text.toList).all Char.isDigit then none
      else
        let count := (digitsOf text.toList).foldl
          (fun total digit => 10 * total + (digit.toNat - 48)) 0
        if count < countBound then some count else none := rfl
  rw [form]
  constructor
  · intro accepted
    split at accepted
    · cases accepted
    · rename_i wellFormed
      rw [Bool.or_eq_true, not_or, Bool.not_eq_true, Bool.not_eq_true', Bool.not_eq_false]
        at wellFormed
      obtain ⟨nonEmpty, areDigits⟩ := wellFormed
      obtain ⟨digits, same⟩ := exists_map_digitChar_eq areDigits
      obtain ⟨sign, isSign, split⟩ := exists_sign_append text.toList
      rw [← same] at accepted nonEmpty split
      rw [foldl_digitChar] at accepted
      dsimp only at accepted
      split at accepted
      · rename_i below
        obtain rfl := Option.some.inj accepted
        refine ⟨⟨sign, digits, isSign, ?_, split, rfl⟩, below⟩
        rintro rfl
        cases nonEmpty
      · cases accepted
  · rintro ⟨⟨sign, digits, isSign, nonEmpty, split, rfl⟩, below⟩
    have areDigits : (digits.map fun digit => Nat.digitChar digit.val).all Char.isDigit = true := by
      rw [List.all_map, List.all_eq_true]
      exact fun digit _ => isDigit_digitChar digit
    have notEmpty : (digits.map fun digit => Nat.digitChar digit.val).isEmpty = false := by
      rw [List.isEmpty_map, List.isEmpty_eq_false_iff]
      exact nonEmpty
    rw [split, digitsOf_append isSign nonEmpty, notEmpty, areDigits, foldl_digitChar]
    exact if_pos below

/-! ### Layers -/

/-- Where a setting comes from, if `given` says which values the environment gives. -/
inductive Takes {Value : Type} (given : Value → Prop) (file : Option Value) (default : Value) :
    Value → Prop
  | environment {value : Value} (gives : given value) : Takes given file default value
  | file {value : Value} (silent : ∀ value, ¬given value) (gives : file = some value) :
    Takes given file default value
  | default (silent : ∀ value, ¬given value) (missing : file = none) :
    Takes given file default default

/-- The first layer that gives a value decides. -/
theorem takes_iff {Value : Type} {given : Value → Prop} {environment : Option Value}
    (gives_iff : ∀ value, environment = some value ↔ given value) (file : Option Value)
    (default value : Value) :
    Takes given file default value ↔ value = environment.getD (file.getD default) := by
  cases environment with
  | some first =>
    have gives : given first := (gives_iff first).mp rfl
    constructor
    · intro takes
      cases takes with
      | environment gives => exact (Option.some.inj ((gives_iff value).mpr gives)).symm
      | file silent => exact absurd gives (silent first)
      | default silent => exact absurd gives (silent first)
    · rintro rfl
      exact .environment gives
  | none =>
    have silent : ∀ value, ¬given value := by
      intro value gives
      cases (gives_iff value).mpr gives
    constructor
    · intro takes
      cases takes with
      | environment gives => exact absurd gives (silent value)
      | file _ gives => rw [gives]; rfl
      | default _ missing => rw [missing]; rfl
    · rintro rfl
      cases file with
      | some value => exact .file silent rfl
      | none => exact .default silent rfl

/-- Each setting of a configuration comes from the layers for it alone. -/
structure MergedFrom (environment : Environment) (settings : Settings) (config : Config) :
    Prop where
  suffix : Takes (environment.suffix = some ·) settings.suffix "POJO" config.suffix
  outputDirectory : Takes (environment.outputDirectory = some ·) settings.outputDirectory
    "generated" config.outputDirectory
  generatorId : Takes (environment.generatorId = some ·) settings.generatorId "autopojo"
    config.generatorId
  /-- No variable decides on the date. -/
  emitDate : Takes (fun _ => False) settings.emitDate false config.emitDate
  /-- A variable that writes no number, or too large a one, gives nothing. -/
  threads : Takes (fun count => ∃ text, environment.threads = some text ∧ Writes text count ∧
      count < 2 ^ 64) settings.threads 0 config.threads

theorem mergedFrom_iff (environment : Environment) (settings : Settings) (config : Config) :
    MergedFrom environment settings config ↔
      config = (ofSettings settings).override environment := by
  have threads_iff (count : Nat) : environment.threads.bind readCount? = some count ↔
      ∃ text, environment.threads = some text ∧ Writes text count ∧ count < 2 ^ 64 := by
    rw [Option.bind_eq_some_iff]
    exact exists_congr fun text => and_congr_right fun _ => readCount?_eq_some_iff text count
  have emitDate_iff (value : Bool) : (none : Option Bool) = some value ↔ False :=
    iff_of_false nofun id
  constructor
  · rintro ⟨suffix, outputDirectory, generatorId, emitDate, threads⟩
    obtain ⟨_, _, _, _, _⟩ := config
    rw [takes_iff fun _ => Iff.rfl] at suffix outputDirectory generatorId
    rw [takes_iff emitDate_iff] at emitDate
    rw [takes_iff threads_iff] at threads
    dsimp only at suffix outputDirectory generatorId emitDate threads
    rw [suffix, outputDirectory, generatorId, emitDate, threads]
    rfl
  · rintro rfl
    exact {
      suffix := (takes_iff (fun _ => Iff.rfl) _ _ _).mpr rfl
      outputDirectory := (takes_iff (fun _ => Iff.rfl) _ _ _).mpr rfl
      generatorId := (takes_iff (fun _ => Iff.rfl) _ _ _).mpr rfl
      emitDate := (takes_iff emitDate_iff _ _ _).mpr rfl
      threads := (takes_iff threads_iff _ _ _).mpr rfl }

/-! ### Merging and checking -/

/-- What comes of the settings of a file, or of a file that gives none. -/
def mergeAndCheck (environment : Environment) (given : Except ConfigError Settings) :
    Except ConfigError Config :=
  given.bind fun settings => ((ofSettings settings).override environment).validate

/-- Which configuration is made of what the file gives. -/
structure Precedence (environment : Environment) (given : Except ConfigError Settings)
    (outcome : Except ConfigError Config) : Prop where
  /-- Each setting comes from the first layer that gives it, and what has been taken is checked. -/
  ok_iff : ∀ config, outcome = .ok config ↔
    ∃ settings, given = .ok settings ∧ MergedFrom environment settings config ∧
      Text.isBlank config.suffix = false ∧ Text.isBlank config.generatorId = false
  /-- There is no configuration exactly if the file cannot be read or parsed, or if a suffix or a
  name of the generator has been taken that is blank. -/
  error_iff : (∃ error, outcome = .error error) ↔
    (∃ error, given = .error error) ∨
      ∃ settings config, given = .ok settings ∧ MergedFrom environment settings config ∧
        (Text.isBlank config.suffix = true ∨ Text.isBlank config.generatorId = true)
  /-- A suffix in the file is not looked at where a variable takes its place. -/
  suffix_overridden : ∀ settings config suffix, given = .ok settings →
    MergedFrom environment settings config → environment.suffix = some suffix →
    Text.isBlank suffix = false → Text.isBlank config.generatorId = false →
    outcome = .ok config ∧ config.suffix = suffix
  /-- Nor is a name of the generator. -/
  generatorId_overridden : ∀ settings config generatorId, given = .ok settings →
    MergedFrom environment settings config → environment.generatorId = some generatorId →
    Text.isBlank generatorId = false → Text.isBlank config.suffix = false →
    outcome = .ok config ∧ config.generatorId = generatorId
  /-- A blank variable is refused whatever the file gives. -/
  refused : ∀ text, environment.suffix = some text ∨ environment.generatorId = some text →
    Text.isBlank text = true → ∃ error, outcome = .error error

/-- A configuration is accepted if neither its suffix nor the name of its generator is blank. -/
theorem validate_eq_ok_iff (config accepted : Config) :
    config.validate = .ok accepted ↔
      accepted = config ∧ Text.isBlank config.suffix = false ∧
        Text.isBlank config.generatorId = false := by
  unfold validate
  cases Text.isBlank config.suffix <;> cases Text.isBlank config.generatorId <;>
    simp [eq_comm]

theorem exists_validate_eq_error_iff (config : Config) :
    (∃ error, config.validate = .error error) ↔
      Text.isBlank config.suffix = true ∨ Text.isBlank config.generatorId = true := by
  unfold validate
  cases Text.isBlank config.suffix <;> cases Text.isBlank config.generatorId <;> simp

section Merging

variable {environment : Environment}

theorem Takes.eq_of_given {Value : Type} {given : Value → Prop} {file : Option Value}
    {default value other : Value} (takes : Takes given file default value) (gives : given other)
    (only : ∀ value, given value → value = other) : value = other := by
  cases takes with
  | environment gives => exact only value gives
  | file silent => exact absurd gives (silent other)
  | default silent => exact absurd gives (silent other)

theorem mergeAndCheck_eq_ok_iff (given : Except ConfigError Settings) (config : Config) :
    mergeAndCheck environment given = .ok config ↔
      ∃ settings, given = .ok settings ∧ MergedFrom environment settings config ∧
        Text.isBlank config.suffix = false ∧ Text.isBlank config.generatorId = false := by
  cases given with
  | error error => exact iff_of_false nofun fun ⟨_, impossible, _⟩ => nomatch impossible
  | ok settings =>
    show ((ofSettings settings).override environment).validate = _ ↔ _
    rw [validate_eq_ok_iff]
    constructor
    · rintro ⟨rfl, checked⟩
      exact ⟨settings, rfl, (mergedFrom_iff _ _ _).mpr rfl, checked⟩
    · rintro ⟨_, ⟨⟩, merged, checked⟩
      obtain rfl := (mergedFrom_iff _ _ _).mp merged
      exact ⟨rfl, checked⟩

theorem exists_mergeAndCheck_eq_error_iff (given : Except ConfigError Settings) :
    (∃ error, mergeAndCheck environment given = .error error) ↔
      (∃ error, given = .error error) ∨
        ∃ settings config, given = .ok settings ∧ MergedFrom environment settings config ∧
          (Text.isBlank config.suffix = true ∨ Text.isBlank config.generatorId = true) := by
  cases given with
  | error error => exact iff_of_true ⟨error, rfl⟩ (Or.inl ⟨error, rfl⟩)
  | ok settings =>
    show (∃ error, ((ofSettings settings).override environment).validate = .error error) ↔ _
    rw [exists_validate_eq_error_iff]
    constructor
    · intro blank
      exact Or.inr ⟨settings, _, rfl, (mergedFrom_iff _ _ _).mpr rfl, blank⟩
    · rintro (⟨_, ⟨⟩⟩ | ⟨_, config, ⟨⟩, merged, blank⟩)
      obtain rfl := (mergedFrom_iff _ _ _).mp merged
      exact blank

theorem precedence_mergeAndCheck (environment : Environment)
    (given : Except ConfigError Settings) :
    Precedence environment given (mergeAndCheck environment given) where
  ok_iff := mergeAndCheck_eq_ok_iff given
  error_iff := exists_mergeAndCheck_eq_error_iff given
  suffix_overridden settings config suffix gives merged overrides filled generatorFilled := by
    have taken : config.suffix = suffix := merged.suffix.eq_of_given overrides fun value gives =>
      Option.some.inj (gives.symm.trans overrides)
    refine ⟨(mergeAndCheck_eq_ok_iff given config).mpr ⟨settings, gives, merged, ?_⟩, taken⟩
    exact ⟨taken ▸ filled, generatorFilled⟩
  generatorId_overridden settings config generatorId gives merged overrides filled
      suffixFilled := by
    have taken : config.generatorId = generatorId :=
      merged.generatorId.eq_of_given overrides fun value gives =>
        Option.some.inj (gives.symm.trans overrides)
    refine ⟨(mergeAndCheck_eq_ok_iff given config).mpr ⟨settings, gives, merged, ?_⟩, taken⟩
    exact ⟨suffixFilled, taken ▸ filled⟩
  refused text overrides blank := by
    rw [exists_mergeAndCheck_eq_error_iff]
    cases given with
    | error error => exact Or.inl ⟨error, rfl⟩
    | ok settings =>
      have merged := (mergedFrom_iff environment settings _).mpr rfl
      refine Or.inr ⟨settings, _, rfl, merged, ?_⟩
      rcases overrides with overrides | overrides
      · rw [merged.suffix.eq_of_given overrides fun value gives =>
          Option.some.inj (gives.symm.trans overrides)]
        exact Or.inl blank
      · rw [merged.generatorId.eq_of_given overrides fun value gives =>
          Option.some.inj (gives.symm.trans overrides)]
        exact Or.inr blank

end Merging

/-! ### The keys of a file -/

/-- What a file has for a key of a section that has some keys in order. -/
inductive HasEntry (file : Toml.Fields) (name : String) (keys : List String) (key : String) :
    Option Toml → Prop
  /-- There is nothing without the section … -/
  | missing (absent : file.lookup name = none) : HasEntry file name keys key none
  /-- … nor if a date stands for it. -/
  | date (there : file.lookup name = some .datetime) : HasEntry file name keys key none
  /-- A table has it under the key … -/
  | table {origin : TomlOrigin} {fields : Toml.Fields}
    (there : file.lookup name = some (.table origin fields)) :
    HasEntry file name keys key (fields.lookup key)
  /-- … and an array at the position of the key. -/
  | array {value : Toml} {items : List Toml} (there : file.lookup name = some value)
    (isArray : value.arrayItems? = some items) : HasEntry file name keys key items[keys.idxOf key]?

/-- A file gives a setting as it is read, and gives none where it has nothing for the key. -/
def GivesSetting {Value : Type} (file : Toml.Fields) (name : String) (keys : List String)
    (key : String) (read : Toml → Option Value) (setting : Option Value) : Prop :=
  ∃ entry, HasEntry file name keys key entry ∧ entry.map read = setting.map some

/-- The settings that a file gives, each under a key of its own. -/
structure GivesSettings (file : Toml.Fields) (settings : Settings) : Prop where
  suffix : GivesSetting file "naming" Settings.namingKeys "suffix" Toml.text? settings.suffix
  outputDirectory : GivesSetting file "output" Settings.outputKeys "dir" Toml.text?
    settings.outputDirectory
  generatorId : GivesSetting file "output" Settings.outputKeys "generator_id" Toml.text?
    settings.generatorId
  emitDate : GivesSetting file "output" Settings.outputKeys "emit_date" Toml.bool?
    settings.emitDate
  threads : GivesSetting file "execution" Settings.executionKeys "threads" Toml.count?
    settings.threads

section Keys

variable {Value : Type} {file : Toml.Fields} {name key : String} {keys : List String}

/-- Under a key in order there is the item at the position of the key. -/
theorem lookup_zip (isKey : key ∈ keys) (items : List Value) :
    (keys.zip items).lookup key = items[keys.idxOf key]? := by
  induction keys generalizing items with
  | nil => cases isKey
  | cons first rest inductionHypothesis =>
    cases items with
    | nil => rfl
    | cons item items =>
      rw [List.zip_cons_cons, List.lookup_cons, List.idxOf_cons]
      by_cases same : key = first
      · rw [same]
        simp
      · have later := inductionHypothesis ((List.mem_cons.mp isKey).resolve_left same) items
        rw [beq_false_of_ne same, beq_false_of_ne (Ne.symm same)]
        exact later

/-- The fields of a section tell what the file has for its keys. -/
theorem hasEntry_iff (isKey : key ∈ keys) (entry : Option Toml) :
    HasEntry file name keys key entry ↔
      ∃ fields, Toml.field file name (Toml.section? keys) [] = some fields ∧
        fields.lookup key = entry := by
  unfold Toml.field
  constructor
  · intro has
    cases has with
    | missing absent => exact ⟨[], by rw [absent], rfl⟩
    | date there => exact ⟨[], by rw [there]; rfl, rfl⟩
    | table there => exact ⟨_, by rw [there]; rfl, rfl⟩
    | @array value items there isArray =>
      refine ⟨keys.zip items, ?_, lookup_zip isKey items⟩
      rw [there]
      cases value with
      | array _ | tables _ => cases isArray; rfl
      | _ => cases isArray
  · rintro ⟨fields, isSection, rfl⟩
    split at isSection
    · rename_i absent
      cases isSection
      exact .missing absent
    · rename_i value there
      cases value with
      | table origin fields => cases isSection; exact .table there
      | datetime => cases isSection; exact .date there
      | array _ | tables _ =>
        cases isSection
        rw [lookup_zip isKey]
        exact .array there rfl
      | _ => cases isSection

theorem setting?_eq_some_iff (fields : Toml.Fields) (key : String) (read : Toml → Option Value)
    (setting : Option Value) :
    Toml.setting? fields key read = some setting ↔
      (fields.lookup key).map read = setting.map some := by
  unfold Toml.setting? Toml.field
  cases fields.lookup key with
  | none => cases setting <;> simp
  | some value => cases setting <;> simp

theorem givesSetting_iff (isKey : key ∈ keys) (read : Toml → Option Value)
    (setting : Option Value) :
    GivesSetting file name keys key read setting ↔
      ∃ fields, Toml.field file name (Toml.section? keys) [] = some fields ∧
        Toml.setting? fields key read = some setting := by
  constructor
  · rintro ⟨entry, has, gives⟩
    obtain ⟨fields, isSection, rfl⟩ := (hasEntry_iff isKey entry).mp has
    exact ⟨fields, isSection, (setting?_eq_some_iff fields key read setting).mpr gives⟩
  · rintro ⟨fields, isSection, gives⟩
    exact ⟨_, (hasEntry_iff isKey _).mpr ⟨fields, isSection, rfl⟩,
      (setting?_eq_some_iff fields key read setting).mp gives⟩

end Keys

/-- Settings are read from a file exactly if it gives them. -/
theorem ofToml?_eq_some_iff (file : Toml.Fields) (settings : Settings) :
    Settings.ofToml? file = some settings ↔ GivesSettings file settings := by
  constructor
  · intro read
    obtain ⟨naming, isNaming, read⟩ := Option.bind_eq_some_iff.mp read
    obtain ⟨output, isOutput, read⟩ := Option.bind_eq_some_iff.mp read
    obtain ⟨execution, isExecution, read⟩ := Option.bind_eq_some_iff.mp read
    obtain ⟨suffix, suffixRead, read⟩ := Option.bind_eq_some_iff.mp read
    obtain ⟨outputDirectory, outputDirectoryRead, read⟩ := Option.bind_eq_some_iff.mp read
    obtain ⟨generatorId, generatorIdRead, read⟩ := Option.bind_eq_some_iff.mp read
    obtain ⟨emitDate, emitDateRead, read⟩ := Option.bind_eq_some_iff.mp read
    obtain ⟨threads, threadsRead, ⟨⟩⟩ := Option.bind_eq_some_iff.mp read
    exact {
      suffix := (givesSetting_iff (by decide) _ _).mpr ⟨naming, isNaming, suffixRead⟩
      outputDirectory :=
        (givesSetting_iff (by decide) _ _).mpr ⟨output, isOutput, outputDirectoryRead⟩
      generatorId := (givesSetting_iff (by decide) _ _).mpr ⟨output, isOutput, generatorIdRead⟩
      emitDate := (givesSetting_iff (by decide) _ _).mpr ⟨output, isOutput, emitDateRead⟩
      threads := (givesSetting_iff (by decide) _ _).mpr ⟨execution, isExecution, threadsRead⟩ }
  · intro gives
    obtain ⟨naming, isNaming, suffixRead⟩ := (givesSetting_iff (by decide) _ _).mp gives.suffix
    obtain ⟨output, isOutput, outputDirectoryRead⟩ :=
      (givesSetting_iff (by decide) _ _).mp gives.outputDirectory
    obtain ⟨_, again, generatorIdRead⟩ := (givesSetting_iff (by decide) _ _).mp gives.generatorId
    obtain rfl := Option.some.inj (isOutput.symm.trans again)
    obtain ⟨_, again, emitDateRead⟩ := (givesSetting_iff (by decide) _ _).mp gives.emitDate
    obtain rfl := Option.some.inj (isOutput.symm.trans again)
    obtain ⟨execution, isExecution, threadsRead⟩ :=
      (givesSetting_iff (by decide) _ _).mp gives.threads
    rw [Settings.ofToml?, isNaming, isOutput, isExecution]
    dsimp only [Option.bind_eq_bind, Option.bind_some]
    rw [suffixRead, outputDirectoryRead, generatorIdRead, emitDateRead, threadsRead]
    rfl

/-! ### The file -/

/-- What the file of a project gives on a disk; where there is none, it gives no setting. -/
inductive FileGives (disk : Disk) (root : String) : Except ConfigError Settings → Prop
  | absent (missing : disk.holds (settingsPath root) = false) :
    FileGives disk root (.ok Settings.none)
  | unreadable {error : FileError} (there : disk.holds (settingsPath root) = true)
    (fails : disk.read (settingsPath root) = .error error) :
    FileGives disk root (.error .unreadable)
  | malformed {text : String} (there : disk.holds (settingsPath root) = true)
    (holds : disk.read (settingsPath root) = .ok text)
    (refused : ∀ file, Toml.read text = some file → ∀ settings, ¬GivesSettings file settings) :
    FileGives disk root (.error .malformed)
  | settings {text : String} {file : Toml.Fields} {settings : Settings}
    (there : disk.holds (settingsPath root) = true)
    (holds : disk.read (settingsPath root) = .ok text) (parsed : Toml.read text = some file)
    (gives : GivesSettings file settings) : FileGives disk root (.ok settings)

section Loading

variable {disk : Disk} {root : String}

theorem exists_fileGives (disk : Disk) (root : String) : ∃ given, FileGives disk root given := by
  cases there : disk.holds (settingsPath root) with
  | false => exact ⟨_, .absent there⟩
  | true =>
    cases holds : disk.read (settingsPath root) with
    | error error => exact ⟨_, .unreadable there holds⟩
    | ok text =>
      cases parsed : (Toml.read text).bind Settings.ofToml? with
      | none =>
        refine ⟨_, .malformed there holds fun file isFile settings gives => ?_⟩
        rw [isFile, Option.bind_some, (ofToml?_eq_some_iff file settings).mpr gives] at parsed
        cases parsed
      | some settings =>
        obtain ⟨file, isFile, read⟩ := Option.bind_eq_some_iff.mp parsed
        exact ⟨_, .settings there holds isFile ((ofToml?_eq_some_iff file settings).mp read)⟩

variable {given : Except ConfigError Settings}

/-- The file is read, and the disk stays as it is. -/
theorem FileGives.run_readSettings (gives : FileGives disk root given) :
    (readSettings Disk.access root).run disk = (given, disk) := by
  unfold readSettings
  rw [StateT.run_bind]
  have asked : (Disk.access.holds (settingsPath root)).run disk =
      pure (disk.holds (settingsPath root), disk) := rfl
  have opened : (Disk.access.read (settingsPath root)).run disk =
      pure (disk.read (settingsPath root), disk) := rfl
  rw [asked, pure_bind]
  cases gives with
  | absent missing => rw [missing]; rfl
  | unreadable there fails =>
    rw [there, if_pos rfl, StateT.run_bind, opened, pure_bind, fails]
    rfl
  | @malformed text there holds refused =>
    have read : (Toml.read text).bind Settings.ofToml? = none := by
      rw [Option.bind_eq_none_iff]
      intro file isFile
      rw [Option.eq_none_iff_forall_ne_some]
      exact fun settings read =>
        refused file isFile settings ((ofToml?_eq_some_iff file settings).mp read)
    rw [there, if_pos rfl, StateT.run_bind, opened, pure_bind, holds]
    dsimp only
    rw [read]
    rfl
  | settings there holds parsed gives =>
    rw [there, if_pos rfl, StateT.run_bind, opened, pure_bind, holds]
    dsimp only
    rw [parsed, Option.bind_some, (ofToml?_eq_some_iff _ _).mpr gives]
    rfl

/-- What the file gives is merged with the environment and checked. -/
theorem FileGives.run_load (gives : FileGives disk root given) (environment : Environment) :
    (load Disk.access environment root).run disk = (mergeAndCheck environment given, disk) := by
  rw [load, StateT.run_bind, gives.run_readSettings]
  cases given <;> rfl

end Loading

/-- On every disk the configuration of a project is made of what its file gives, which changes
nothing there; and whatever a file gives, each setting comes from the first layer that gives it. -/
theorem precedence_load (environment : Environment) :
    (∀ (disk : Disk) (root : String), ∃ given, FileGives disk root given ∧
      (load Disk.access environment root).run disk = (mergeAndCheck environment given, disk)) ∧
    ∀ given, Precedence environment given (mergeAndCheck environment given) := by
  refine ⟨fun disk root => ?_, precedence_mergeAndCheck environment⟩
  obtain ⟨given, gives⟩ := exists_fileGives disk root
  exact ⟨given, gives, gives.run_load environment⟩

/-- A blank suffix in a file is taken no notice of where a variable gives another one, and so is a
variable that counts too far. -/
example :
    ((load Disk.access ⟨some "Dto", none, none, some "18446744073709551616"⟩ "").run
      ⟨[(".autopojo", .directory [("config.toml",
        .file "[naming]\nsuffix = ' '\n[execution]\nthreads = 4\n")])], []⟩).1 =
      .ok ⟨"Dto", "generated", "autopojo", false, 4⟩ := by
  decide +kernel

end ValueGen.Config
