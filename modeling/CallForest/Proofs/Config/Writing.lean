import CallForest.Proofs.Config.Layering

/-! # Writing configurations

Every string and every number that counts something can be written, and so can any settings, in any
order. A valid configuration is therefore read from some document.

* `Toml.exists_isNumber`, `Toml.exists_isString`: numbers of so many digits, and strings, can be
  written.
* `Setting.exists_isDocument`: settings can be written.
* `Config.exists_parse_eq_ok`: every valid configuration can be written. -/

namespace CallForest

namespace Toml

variable {radix number value : Nat} {digits : List Char} {digit : Char}

/-! ### Digits -/

/-- There is a digit of each value. -/
theorem exists_isHexDigit (hvalue : value < 16) : ∃ digit, IsHexDigit value digit := by
  have hchar : ∀ code < 0x80, (Char.ofNat code).toNat = code := fun code hcode => by
    rw [Char.toNat_ofNat, if_pos (.inl (by omega))]
  have hzero : '0'.toNat = 48 ∧ 'a'.toNat = 97 := ⟨rfl, rfl⟩
  rcases Nat.lt_or_ge value 10 with hless | hleast
  · exact ⟨.ofNat (48 + value), .inl ⟨hless, by rw [hchar _ (by omega), hzero.1]⟩⟩
  · refine ⟨.ofNat (87 + value), .inr ⟨hleast, hvalue, .inr ?_⟩⟩
    rw [hchar _ (by omega)]
    omega

/-- One more digit multiplies a number by the radix. -/
theorem IsNumber.concat (hdigits : IsNumber radix number digits) (hvalue : value < radix)
    (hdigit : IsHexDigit value digit) :
    IsNumber radix (number * radix + value) (digits ++ [digit]) := by
  obtain ⟨values, hvalues, hradix, rfl⟩ := hdigits
  refine ⟨values ++ [value], List.rel_append hvalues (.cons hdigit .nil), ?_, ?_⟩
  · exact List.forall_mem_append.2 ⟨hradix, List.forall_mem_singleton.2 hvalue⟩
  · rw [List.reverse_append, List.reverse_singleton, List.singleton_append, Nat.ofDigits_cons,
      Nat.add_comm, Nat.mul_comm]

/-- A number **can be written** in so many digits if it is small enough. -/
theorem exists_isNumber (hpositive : 0 < radix) (hradix : radix ≤ 16) (count : Nat)
    (hnumber : number < radix ^ count) :
    ∃ digits, digits.length = count ∧ IsNumber radix number digits := by
  induction count generalizing number with
  | zero =>
      obtain rfl := Nat.lt_one_iff.1 hnumber
      exact ⟨[], rfl, [], .nil, List.forall_mem_nil _, rfl⟩
  | succ count ih =>
      -- The last digit is what is left over when the number is divided by the radix.
      have hlast := Nat.mod_lt number hpositive
      obtain ⟨digits, hlength, hdigits⟩ := ih ((Nat.div_lt_iff_lt_mul hpositive).2 hnumber)
      obtain ⟨digit, hdigit⟩ := exists_isHexDigit (hlast.trans_le hradix)
      refine ⟨digits ++ [digit], by rw [List.length_append, hlength]; rfl, ?_⟩
      have hconcat := hdigits.concat hlast hdigit
      rwa [Nat.div_add_mod'] at hconcat

/-- Digits may stand side by side. -/
theorem isGrouped_self (digit : Char) (digits : List Char) :
    IsGrouped (digit :: digits) (digit :: digits) := by
  induction digits generalizing digit with
  | nil => exact .last digit
  | cons next digits ih => exact .next digit (ih next)

/-- A number of 63 bits **can be written**. -/
theorem exists_isInteger (hnumber : number < 2 ^ 63) : ∃ text, IsInteger number text := by
  obtain ⟨digits, hlength, hdigits⟩ :=
    exists_isNumber (by decide) (le_refl 16) 16 (hnumber.trans (by decide))
  obtain ⟨digit, digits, rfl⟩ :=
    List.exists_cons_of_ne_nil (List.ne_nil_of_length_eq_add_one hlength)
  exact ⟨_, .inRadix List.mem_cons_self hdigits (isGrouped_self digit digits)⟩

/-! ### Strings -/

/-- Every **string can be written**. -/
theorem exists_isString (value : String) : ∃ text, IsString value text := by
  have hbody : ∀ chars : List Char, ∃ text, IsBody ⟨false, false⟩ chars text := by
    intro chars
    induction chars with
    | nil => exact ⟨_, .close rfl⟩
    | cons character chars ih =>
        obtain ⟨text, htext⟩ := ih
        have hvalid : character.toNat.isValidChar := character.valid
        have hcode : character.toNat < 16 ^ 8 := by
          rcases hvalid with hsmall | ⟨-, hlarge⟩
          · exact hsmall.trans (by decide)
          · exact hlarge.trans (by decide)
        obtain ⟨digits, hlength, hdigits⟩ := exists_isNumber (by decide) (le_refl 16) 8 hcode
        exact ⟨_, .escape rfl (.long hlength hdigits) htext⟩
  obtain ⟨text, htext⟩ := hbody value.toList
  have hstring := IsString.short htext
  rw [String.ofList_toList] at hstring
  exact ⟨_, hstring⟩

end Toml

namespace Setting

open Toml

/-- Every value of a setting **can be written**, up to numbers of 63 bits. -/
theorem exists_isValue (setting : Setting) (hjobs : ∀ count ∈ setting.jobs?, count < 2 ^ 63) :
    ∃ text, setting.IsValue text := by
  cases setting with
  | outputDir path =>
      obtain ⟨text, htext⟩ := exists_isString path
      exact ⟨text, .outputDir htext⟩
  | format format =>
      obtain ⟨text, htext⟩ := exists_isString format.name
      exact ⟨text, .format htext⟩
  | includePassing shown => exact ⟨_, .includePassing shown⟩
  | includeFailing shown => exact ⟨_, .includeFailing shown⟩
  | jobs count =>
      have hcount : count < 2 ^ 63 := hjobs count rfl
      obtain ⟨text, htext⟩ := exists_isInteger hcount
      exact ⟨text, .jobs hcount htext⟩
  | dotProgram name =>
      obtain ⟨text, htext⟩ := exists_isString name
      exact ⟨text, .dotProgram htext⟩

/-- **Settings can be written**, in any order. -/
theorem exists_isDocument (settings : List Setting)
    (hjobs : ∀ setting ∈ settings, ∀ count ∈ setting.jobs?, count < 2 ^ 63) :
    ∃ document : String, IsDocument settings document.toList := by
  have hnone : IsBlanks [] := List.forall_mem_nil _
  have hending : IsLineEnd [] := ⟨[], [], hnone, .none, rfl⟩
  have hlines : ∃ text, AreLines settings text := by
    induction settings with
    | nil => exact ⟨[], .nil⟩
    | cons setting settings ih =>
        obtain ⟨hfirst, hjobs⟩ := List.forall_mem_cons.1 hjobs
        obtain ⟨lines, hlines⟩ := ih hjobs
        obtain ⟨value, hvalue⟩ := setting.exists_isValue hfirst
        have hkey : IsKey setting.key setting.key.toList := by
          cases setting <;> (rw [key]; exact isKey_toList (by decide) (by decide))
        exact ⟨_, .next hnone (.assignment hkey hnone hnone hvalue) hending .plain hlines⟩
  obtain ⟨text, hlines⟩ := hlines
  have hdocument : IsDocument (settings ++ []) ([] ++ (text ++ ([] ++ ([] ++ [])))) :=
    .intro (.inl rfl) hlines hnone .blank hending
  simp only [List.append_nil, List.nil_append] at hdocument
  exact ⟨String.ofList text, by rwa [String.toList_ofList]⟩

end Setting

namespace Config

variable (config : Config)

/-- The settings of a configuration, one for each key. -/
def toSettings : List Setting :=
  [.outputDir config.outputDir, .format config.format, .includePassing config.includePassing,
    .includeFailing config.includeFailing, .jobs config.jobs, .dotProgram config.dotProgram]

/-- They make it up, whatever holds by standard. -/
theorem layered_toSettings : layered [] config.toSettings = config := rfl

/-- Their keys are distinct. -/
theorem nodup_keys_toSettings : (config.toSettings.map Setting.key).Nodup := by
  have hkeys : config.toSettings.map Setting.key = Setting.keys := rfl
  rw [hkeys]
  decide

/-- **Every valid configuration can be written** in a document from which it is read. -/
theorem exists_parse_eq_ok (origin : String) (hvalid : config.IsValid)
    (hjobs : config.jobs < 2 ^ 63) :
    ∃ document, Config.parse origin document = .ok config := by
  have hbound : ∀ setting ∈ config.toSettings, ∀ count ∈ setting.jobs?, count < 2 ^ 63 := by
    simpa [toSettings, Setting.jobs?] using hjobs
  obtain ⟨document, hdocument⟩ := Setting.exists_isDocument config.toSettings hbound
  have hparse := (parse_of_isDocument origin hdocument config.nodup_keys_toSettings).1
  rw [layered_toSettings] at hparse
  exact ⟨document, hparse hvalid⟩

end Config

end CallForest
