import InterfaceLint.Proofs.Outcome
import InterfaceLint.Proofs.Settings.Options

/-!
# Which settings are valid

Settings are valid when every pattern among the ignored paths compiles and
every id of the table names a rule.  Settings that are not valid are refused
with their first fault, ignored paths before ids.
-/

set_option autoImplicit false

namespace InterfaceLint.Settings

def FitIgnore (entry : String) : Prop :=
  Glob.isPattern entry = true → ∃ pattern, Glob.compile entry = .ok pattern

def KnownId (id : String) : Prop :=
  ∃ rule ∈ Rule.analyzed, Rule.sameUpToCase rule.id id = true

structure Valid (settings : Settings) : Prop where
  ignores : ∀ entry ∈ settings.ignores, FitIgnore entry
  ids : ∀ entry ∈ settings.levels.entries, KnownId entry.1

inductive FirstFault (settings : Settings) : SettingsError → Prop
  | ignore {before after : List String} {entry : String} {error : Glob.Error}
      (listed : settings.ignores = before ++ entry :: after)
      (fine : ∀ earlier ∈ before, FitIgnore earlier) (isPattern : Glob.isPattern entry = true)
      (fails : Glob.compile entry = .error error) : FirstFault settings (.invalidIgnore entry error)
  | id {before after : List (String × Level)} {id : String} {level : Level}
      (ignores : ∀ entry ∈ settings.ignores, FitIgnore entry)
      (listed : settings.levels.entries = before ++ (id, level) :: after)
      (fine : ∀ earlier ∈ before, KnownId earlier.1) (unknown : ¬ KnownId id) :
      FirstFault settings (.unknownRule id)

/-! ## Single entries -/

theorem validateIgnore_eq_ok_iff {entry : String} :
    validateIgnore entry = .ok () ↔ FitIgnore entry := by
  unfold validateIgnore FitIgnore
  by_cases isPattern : Glob.isPattern entry = true
  · rw [if_pos isPattern]
    cases Glob.compile entry <;> simp [isPattern]
  · simp [isPattern]

theorem validateIgnore_eq_error_iff {entry : String} {fault : SettingsError} :
    validateIgnore entry = .error fault ↔
      Glob.isPattern entry = true ∧
        ∃ error, Glob.compile entry = .error error ∧ fault = .invalidIgnore entry error := by
  unfold validateIgnore
  by_cases isPattern : Glob.isPattern entry = true
  · rw [if_pos isPattern]
    cases Glob.compile entry <;> simp [isPattern, eq_comm]
  · simp [isPattern]

theorem knownId_iff {id : String} : KnownId id ↔ ∃ rule, Rule.ofId? id = some rule := by
  simp only [Rule.ofId?_eq_some_iff]
  rfl

theorem validateId_eq_ok_iff {id : String} : validateId id = .ok () ↔ KnownId id := by
  rw [knownId_iff, validateId]
  cases Rule.ofId? id <;> simp

theorem validateId_eq_error_iff {id : String} {fault : SettingsError} :
    validateId id = .error fault ↔ ¬ KnownId id ∧ fault = .unknownRule id := by
  rw [knownId_iff, validateId]
  cases Rule.ofId? id <;> simp [eq_comm]

/-! ## Whole settings -/

theorem validate_eq (settings : Settings) :
    settings.validate = settings.ignores.forM validateIgnore >>= fun _ =>
      settings.levels.entries.forM fun entry => validateId entry.1 := rfl

theorem validate_eq_ok_iff {settings : Settings} :
    settings.validate = .ok () ↔ settings.Valid := by
  rw [validate_eq, bind_eq_ok_iff]
  constructor
  · rintro ⟨_, ignores, ids⟩
    refine ⟨fun entry listed => ?_, fun entry listed => ?_⟩
    · exact validateIgnore_eq_ok_iff.mp (forM_eq_ok_iff.mp ignores entry listed)
    · exact validateId_eq_ok_iff.mp (forM_eq_ok_iff.mp ids entry listed)
  · intro valid
    refine ⟨(), forM_eq_ok_iff.mpr fun entry listed => ?_,
      forM_eq_ok_iff.mpr fun entry listed => ?_⟩
    · exact validateIgnore_eq_ok_iff.mpr (valid.ignores entry listed)
    · exact validateId_eq_ok_iff.mpr (valid.ids entry listed)

theorem validate_eq_error_iff {settings : Settings} {fault : SettingsError} :
    settings.validate = .error fault ↔ settings.FirstFault fault := by
  rw [validate_eq, bind_eq_error_iff, forM_eq_error_iff, forM_eq_error_iff]
  simp only [forM_eq_ok_iff, validateIgnore_eq_ok_iff, validateIgnore_eq_error_iff,
    validateId_eq_ok_iff, validateId_eq_error_iff]
  constructor
  · rintro (⟨before, entry, after, listed, fine, isPattern, error, fails, rfl⟩ |
      ⟨_, ignores, before, ⟨id, level⟩, after, listed, fine, unknown, rfl⟩)
    · exact .ignore listed fine isPattern fails
    · exact .id ignores listed fine unknown
  · intro fault
    cases fault with
    | ignore listed fine isPattern fails =>
        exact .inl ⟨_, _, _, listed, fine, isPattern, _, fails, rfl⟩
    | id ignores listed fine unknown =>
        exact .inr ⟨(), ignores, _, _, _, listed, fine, unknown, rfl⟩

end InterfaceLint.Settings
