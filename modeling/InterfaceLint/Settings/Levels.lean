import InterfaceLint.Severity

/-!
# Levels of rules

A configuration gives levels to rules by id.  The ids are kept in ascending
order and each occurs once, so two tables with the same entries are equal.
-/

set_option autoImplicit false

namespace InterfaceLint

inductive Level where
  | off
  | info
  | warning
  | error
  deriving DecidableEq

namespace Level

def severity? : Level → Option Severity
  | .off => none
  | .info => some .info
  | .warning => some .warning
  | .error => some .error

def name : Level → String
  | .off => "off"
  | .info => "info"
  | .warning => "warning"
  | .error => "error"

def all : List Level := [.off, .info, .warning, .error]

end Level

/-- Levels by rule id, in ascending order of ids. -/
structure Levels where
  entries : List (String × Level)
  ascending : entries.Pairwise fun left right => left.1 < right.1
  deriving DecidableEq

namespace Levels

def empty : Levels := ⟨[], .nil⟩

/-- Put an entry in its place, over one with the same id. -/
def insertEntry (id : String) (level : Level) : List (String × Level) → List (String × Level)
  | [] => [(id, level)]
  | (known, old) :: entries =>
    if id < known then (id, level) :: (known, old) :: entries
    else if id = known then (id, level) :: entries
    else (known, old) :: insertEntry id level entries

theorem mem_insertEntry {id : String} {level : Level} {entry : String × Level} :
    ∀ {entries : List (String × Level)}, entry ∈ insertEntry id level entries →
      entry.1 = id ∨ entry ∈ entries := by
  intro entries
  induction entries with
  | nil => simp +contextual [insertEntry]
  | cons head entries induction =>
      obtain ⟨known, old⟩ := head
      intro member
      unfold insertEntry at member
      split at member
      · rcases List.mem_cons.1 member with rfl | member
        · exact .inl rfl
        · exact .inr member
      · split at member
        · rcases List.mem_cons.1 member with rfl | member
          · exact .inl rfl
          · exact .inr (List.mem_cons_of_mem _ member)
        · rcases List.mem_cons.1 member with rfl | member
          · exact .inr List.mem_cons_self
          · rcases induction member with same | member
            · exact .inl same
            · exact .inr (List.mem_cons_of_mem _ member)

theorem insertEntry_ascending (id : String) (level : Level) :
    ∀ {entries : List (String × Level)},
      entries.Pairwise (fun left right => left.1 < right.1) →
        (insertEntry id level entries).Pairwise fun left right => left.1 < right.1 := by
  intro entries
  induction entries with
  | nil => intro _; simp [insertEntry]
  | cons head entries induction =>
      obtain ⟨known, old⟩ := head
      intro ascending
      have ⟨above, rest⟩ := List.pairwise_cons.1 ascending
      unfold insertEntry
      split
      · rename_i below
        refine List.pairwise_cons.2 ⟨?_, ascending⟩
        intro entry member
        rcases List.mem_cons.1 member with rfl | member
        · exact below
        · exact String.lt_trans below (above entry member)
      · rename_i notBelow
        split
        · rename_i same
          exact List.pairwise_cons.2 ⟨fun entry member => same ▸ above entry member, rest⟩
        · rename_i different
          refine List.pairwise_cons.2 ⟨?_, induction rest⟩
          intro entry member
          rcases mem_insertEntry member with same | member
          · rw [same]
            exact (String.not_le.1 fun le =>
              different (String.le_antisymm le (String.not_lt.1 notBelow)))
          · exact above entry member

def insert (levels : Levels) (id : String) (level : Level) : Levels :=
  ⟨insertEntry id level levels.entries, insertEntry_ascending id level levels.ascending⟩

/-- The table of the given entries; of several with one id the last counts. -/
def ofList (entries : List (String × Level)) : Levels :=
  entries.foldl (fun levels (id, level) => levels.insert id level) empty

end Levels

end InterfaceLint
