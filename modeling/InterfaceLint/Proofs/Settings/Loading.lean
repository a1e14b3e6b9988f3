import InterfaceLint.Proofs.Path.Parents
import InterfaceLint.Proofs.Settings.Validation
import InterfaceLint.Settings.Lookup

/-!
# Which settings are loaded

The search goes up from a path through the parents of its text.  It ends at
the first that has settings or holds a repository, or where there is no parent;
parents get shorter, so it does end.  The settings loaded are those of the file
it comes to, or the defaults when it comes to none: a file that cannot be used
is an error, whatever lies further up.
-/

set_option autoImplicit false

namespace InterfaceLint

namespace Settings

/-! ## The search -/

/-- The settings file of the first path on the way up that has one, with no
repository before it.  A repository beside the file does no harm. -/
inductive Nearest (disk : Disk) (start : String) : String → Prop
  | file {passed others : List String} {directory : String}
      (climb : Path.Climb start (passed ++ directory :: others))
      (present : disk.contains (Path.join directory settingsFileName) = true)
      (none : ∀ nearer ∈ passed, disk.contains (Path.join nearer settingsFileName) = false ∧
        disk.contains (Path.join nearer ".git") = false) :
      Nearest disk start (Path.join directory settingsFileName)

/-- One round of the search. -/
theorem find?_eq (disk : Disk) (path : String) :
    find? disk path =
      if disk.contains (Path.join path settingsFileName) then
        some (Path.join path settingsFileName)
      else if disk.contains (Path.join path ".git") then none
      else (Path.parent? path).bind (find? disk) := by
  rw [find?, Path.ancestors_eq, findAmong]
  cases Path.parent? path <;> rfl

theorem findAmong_eq_some_iff {disk : Disk} {directories : List String} {path : String} :
    findAmong disk directories = some path ↔
      ∃ passed directory others, directories = passed ++ directory :: others ∧
        disk.contains (Path.join directory settingsFileName) = true ∧
        (∀ nearer ∈ passed, disk.contains (Path.join nearer settingsFileName) = false ∧
          disk.contains (Path.join nearer ".git") = false) ∧
        path = Path.join directory settingsFileName := by
  induction directories with
  | nil => simp [findAmong]
  | cons head directories induction =>
      rw [findAmong]
      by_cases settings : disk.contains (Path.join head settingsFileName) = true
      · rw [if_pos settings, Option.some.injEq]
        constructor
        · rintro rfl
          exact ⟨[], head, directories, rfl, settings, by simp, rfl⟩
        · rintro ⟨passed, directory, others, split, present, none, rfl⟩
          cases passed with
          | nil =>
              cases split
              rfl
          | cons first passed =>
              cases split
              rw [(none head List.mem_cons_self).1] at settings
              cases settings
      · rw [if_neg settings]
        rw [Bool.not_eq_true] at settings
        constructor
        · intro found
          rw [Option.ite_none_left_eq_some, Bool.not_eq_true] at found
          obtain ⟨noRepository, found⟩ := found
          obtain ⟨passed, directory, others, rfl, present, none, rfl⟩ := induction.mp found
          exact ⟨head :: passed, directory, others, rfl, present,
            List.forall_mem_cons.mpr ⟨⟨settings, noRepository⟩, none⟩, rfl⟩
        · rintro ⟨passed, directory, others, split, present, none, rfl⟩
          cases passed with
          | nil =>
              cases split
              rw [settings] at present
              cases present
          | cons first passed =>
              cases split
              obtain ⟨⟨_, noRepository⟩, none⟩ := List.forall_mem_cons.mp none
              rw [noRepository]
              exact induction.mpr ⟨passed, directory, others, rfl, present, none, rfl⟩

theorem find?_eq_some_iff {disk : Disk} {start path : String} :
    find? disk start = some path ↔ Nearest disk start path := by
  rw [find?, findAmong_eq_some_iff]
  constructor
  · rintro ⟨passed, directory, others, chain, present, none, rfl⟩
    exact .file (chain ▸ Path.climb_ancestors start) present none
  · rintro ⟨climb, present, none⟩
    exact ⟨_, _, _, climb.eq_ancestors.symm, present, none, rfl⟩

theorem find?_eq_none_iff {disk : Disk} {start : String} :
    find? disk start = none ↔ ∀ path, ¬ Nearest disk start path := by
  simp only [Option.eq_none_iff_forall_ne_some, ne_eq, find?_eq_some_iff]

/-! ## The file found -/

/-- What a settings file comes to. -/
inductive Reads (disk : Disk) (path : String) : Except LookupError Settings → Prop
  | usable {text : String} {settings : Settings} (content : disk.readText path = .ok text)
      (parsed : Settings.parse text = .ok settings) (valid : settings.Valid) :
      Reads disk path (.ok settings)
  | unreadable {fault : DiskFault} (failed : disk.readText path = .error fault) :
      Reads disk path (.error (.unreadable path fault))
  | malformed {text : String} {error : Json.ReadError} (content : disk.readText path = .ok text)
      (failed : Settings.parse text = .error error) :
      Reads disk path (.error (.malformed path error))
  | invalid {text : String} {settings : Settings} {error : SettingsError}
      (content : disk.readText path = .ok text) (parsed : Settings.parse text = .ok settings)
      (fault : settings.FirstFault error) : Reads disk path (.error (.invalid error))

theorem read_eq_iff {disk : Disk} {path : String} {outcome : Except LookupError Settings} :
    read disk path = outcome ↔ Reads disk path outcome := by
  cases outcome with
  | ok settings =>
      simp only [read, bind_eq_ok_iff, mapError_eq_ok_iff, pure, Except.pure, Except.ok.injEq]
      constructor
      · rintro ⟨text, content, _, parsed, _, accepted, rfl⟩
        exact .usable content parsed (validate_eq_ok_iff.mp accepted)
      · intro reads
        cases reads with
        | usable content parsed valid =>
            exact ⟨_, content, _, parsed, (), validate_eq_ok_iff.mpr valid, rfl⟩
  | error reason =>
      simp only [read, bind_eq_error_iff, mapError_eq_error_iff, mapError_eq_ok_iff, pure,
        Except.pure, reduceCtorEq, and_false, exists_false, or_false]
      constructor
      · rintro (⟨fault, failed, rfl⟩ | ⟨text, content, ⟨error, failed, rfl⟩ |
          ⟨settings, parsed, error, refused, rfl⟩⟩)
        · exact .unreadable failed
        · exact .malformed content failed
        · exact .invalid content parsed (validate_eq_error_iff.mp refused)
      · intro reads
        cases reads with
        | unreadable failed => exact .inl ⟨_, failed, rfl⟩
        | malformed content failed => exact .inr ⟨_, content, .inl ⟨_, failed, rfl⟩⟩
        | invalid content parsed fault =>
            exact .inr ⟨_, content, .inr ⟨_, parsed, _, validate_eq_error_iff.mpr fault, rfl⟩⟩

/-- The settings of the file found, and the defaults when there is none. -/
inductive Loads (disk : Disk) (start : String) : Except LookupError (Settings × Bool) → Prop
  | fromFile {path : String} {outcome : Except LookupError Settings}
      (nearest : Nearest disk start path) (reads : Reads disk path outcome) :
      Loads disk start (outcome.map fun settings => (settings, true))
  | defaults (absent : ∀ path, ¬ Nearest disk start path) : Loads disk start (.ok ({}, false))

theorem load_eq_of_find?_eq_some {disk : Disk} {start path : String}
    (found : find? disk start = some path) :
    load disk start = (read disk path).map fun settings => (settings, true) := by
  simp only [load, found]
  cases read disk path <;> rfl

theorem load_eq_iff {disk : Disk} {start : String}
    {outcome : Except LookupError (Settings × Bool)} :
    load disk start = outcome ↔ Loads disk start outcome := by
  cases found : find? disk start with
  | none =>
      have absent := find?_eq_none_iff.mp found
      simp only [load, found]
      constructor
      · rintro rfl
        exact .defaults absent
      · intro loads
        cases loads with
        | fromFile nearest _ => exact absurd nearest (absent _)
        | defaults _ => rfl
  | some path =>
      have nearest := find?_eq_some_iff.mp found
      rw [load_eq_of_find?_eq_some found]
      constructor
      · rintro rfl
        exact .fromFile nearest (read_eq_iff.mp rfl)
      · intro loads
        cases loads with
        | fromFile other reads =>
            obtain rfl : path = _ :=
              Option.some.inj (found.symm.trans (find?_eq_some_iff.mpr other))
            rw [read_eq_iff.mpr reads]
        | defaults absent => exact absurd nearest (absent path)

theorem load_eq_defaults_iff {disk : Disk} {start : String} {settings : Settings} :
    load disk start = .ok (settings, false) ↔ find? disk start = none ∧ settings = {} := by
  cases found : find? disk start with
  | none => simp [load, found, eq_comm]
  | some path =>
      rw [load_eq_of_find?_eq_some found]
      cases read disk path <;> simp [Except.map]

/-- How settings are searched for from a path, and what is loaded. -/
structure LookupContract (disk : Disk) (start : String) : Prop where
  /-- The way up is finite and ends at the root or at the empty path. -/
  wayUp : ∃ chain, Path.Climb start chain ∧ chain.length ≤ start.length + 1 ∧
    ∀ last ∈ chain.getLast?,
      if Path.isAbsolute start then Path.components last = [.root] else last = ""
  round : find? disk start =
    if disk.contains (Path.join start settingsFileName) then
      some (Path.join start settingsFileName)
    else if disk.contains (Path.join start ".git") then none
    else (Path.parent? start).bind (find? disk)
  found : ∀ path, find? disk start = some path ↔ Nearest disk start path
  notFound : find? disk start = none ↔ ∀ path, ¬ Nearest disk start path
  defaults : ∀ settings,
    load disk start = .ok (settings, false) ↔ find? disk start = none ∧ settings = {}
  loaded : ∀ outcome, load disk start = outcome ↔ Loads disk start outcome

end Settings

/-- From every path the search ends and gives the nearest settings file before a
repository, and what is loaded is that file or an error about it; the defaults
are loaded exactly when there is none. -/
theorem settings_loaded_from_nearest (disk : Disk) (start : String) :
    Settings.LookupContract disk start where
  wayUp := by
    have climb := Path.climb_ancestors start
    exact ⟨Path.ancestors start, climb, climb.length_le, climb.ends⟩
  round := Settings.find?_eq disk start
  found := fun _ => Settings.find?_eq_some_iff
  notFound := Settings.find?_eq_none_iff
  defaults := fun _ => Settings.load_eq_defaults_iff
  loaded := fun _ => Settings.load_eq_iff

def shadowedDisk : Disk where
  entries := [(["p"], .directory), (["p", ".icgrc.json"], .file "\x7b\x7d".toUTF8),
    (["p", "q"], .directory), (["p", "q", ".git"], .directory),
    (["p", "q", ".icgrc.json"], .file "\x7b".toUTF8), (["p", "q", "r"], .directory)]
  cwd := ⟨["p"], 0⟩

example : Settings.find? shadowedDisk "/p/q/r" = some "/p/q/.icgrc.json" ∧
    (Settings.load shadowedDisk "/p/q/r").isOk = false ∧
    (Settings.load shadowedDisk "/p/x").isOk = true := by decide +kernel

end InterfaceLint
