import InterfaceLint.Model
import Mathlib.Data.List.Nodup

/-!
# The index of a model

Building the index succeeds exactly when no key occurs twice, and the index
then finds a symbol under a key exactly when the document lists a symbol with
that key.  The rules are judged through these facts alone, so nothing after
this module opens the index.
-/

set_option autoImplicit false

namespace InterfaceLint

namespace SymbolIndex

/-! ## What an index holds -/

/-- The index holds the positions of the symbols, each under the key of the
symbol that stands there, and nothing else. -/
def Indexes (index : SymbolIndex) (symbols : List Symbol) : Prop :=
  ∀ (key : String) (position : Nat),
    index[key]? = some position ↔ ∃ symbol, symbols[position]? = some symbol ∧ symbol.key = key

theorem indexes_nil : Indexes ∅ [] := by
  intro key position
  simp

section

variable {index final : SymbolIndex} {earlier later : List Symbol}

theorem Indexes.contains_iff (indexes : Indexes index earlier) {key : String} :
    index.contains key = true ↔ ∃ symbol ∈ earlier, symbol.key = key := by
  rw [Std.HashMap.contains_eq_isSome_getElem?, Option.isSome_iff_exists]
  constructor
  · intro held
    obtain ⟨position, held⟩ := held
    obtain ⟨symbol, here, named⟩ := (indexes key position).mp held
    exact ⟨symbol, List.mem_of_getElem? here, named⟩
  · intro listed
    obtain ⟨symbol, member, named⟩ := listed
    obtain ⟨position, here⟩ := List.mem_iff_getElem?.mp member
    exact ⟨position, (indexes key position).mpr ⟨symbol, here, named⟩⟩

/-- Symbols with the same key stand at the same position. -/
theorem Indexes.position_unique (indexes : Indexes index earlier) {left right : Nat}
    {first second : Symbol} (atLeft : earlier[left]? = some first)
    (atRight : earlier[right]? = some second) (sameKey : first.key = second.key) :
    left = right := by
  have heldLeft := (indexes first.key left).mpr ⟨first, atLeft, rfl⟩
  have heldRight := (indexes first.key right).mpr ⟨second, atRight, sameKey.symm⟩
  exact Option.some.inj (heldLeft.symm.trans heldRight)

/-- One symbol more, under a key that is new. -/
theorem Indexes.insert (indexes : Indexes index earlier) {symbol : Symbol}
    (fresh : ¬ index.contains symbol.key = true) :
    Indexes (index.insert symbol.key earlier.length) (earlier ++ [symbol]) := by
  intro key position
  rw [Std.HashMap.getElem?_insert]
  by_cases here : symbol.key = key
  · subst here
    rw [if_pos (by simp), Option.some.injEq]
    constructor
    · rintro rfl
      exact ⟨symbol, by simp, rfl⟩
    · intro held
      obtain ⟨other, atPosition, sameKey⟩ := held
      by_contra elsewhere
      rw [List.getElem?_append] at atPosition
      split at atPosition
      · exact fresh (indexes.contains_iff.mpr ⟨other, List.mem_of_getElem? atPosition, sameKey⟩)
      · rename_i beyond
        obtain ⟨inside, _⟩ := List.getElem?_eq_some_iff.mp atPosition
        simp only [List.length_cons, List.length_nil] at inside
        omega
  · rw [if_neg (by simpa using here), indexes key position]
    constructor
    · intro held
      obtain ⟨other, atPosition, named⟩ := held
      obtain ⟨inside, _⟩ := List.getElem?_eq_some_iff.mp atPosition
      exact ⟨other, by rwa [List.getElem?_append_left inside], named⟩
    · intro held
      obtain ⟨other, atPosition, named⟩ := held
      rw [List.getElem?_append] at atPosition
      split at atPosition
      · exact ⟨other, atPosition, named⟩
      · cases List.mem_singleton.mp (List.mem_of_getElem? atPosition)
        exact absurd named here

/-- The symbols entered so far are what the index holds at each step, so at the
end it holds them all. -/
theorem Indexes.insertAll (indexes : Indexes index earlier)
    (built : SymbolIndex.insertAll index earlier.length later = .ok final) :
    Indexes final (earlier ++ later) := by
  induction later generalizing index earlier with
  | nil =>
      cases built
      rwa [List.append_nil]
  | cons symbol later induction =>
      simp only [SymbolIndex.insertAll] at built
      split at built
      · cases built
      · rename_i fresh
        have entered := induction (indexes.insert fresh)
          (by rwa [List.length_append, List.length_singleton])
        rwa [List.append_assoc, List.singleton_append] at entered

end

/-- Entering symbols succeeds when their keys are new and pairwise different. -/
theorem insertAll_isOk_iff {symbols : List Symbol} {index : SymbolIndex} {position : Nat} :
    (∃ final, insertAll index position symbols = .ok final) ↔
      (symbols.map Symbol.key).Nodup ∧ ∀ symbol ∈ symbols, index.contains symbol.key = false := by
  induction symbols generalizing index position with
  | nil => simp [insertAll]
  | cons head symbols induction =>
      simp only [insertAll]
      split
      · rename_i known
        constructor
        · intro succeeds
          obtain ⟨final, built⟩ := succeeds
          cases built
        · intro distinct
          obtain ⟨_, fresh⟩ := distinct
          rw [fresh head List.mem_cons_self] at known
          cases known
      · rename_i fresh
        rw [induction]
        simp only [Std.HashMap.contains_insert, List.map_cons, List.nodup_cons, List.mem_map,
          List.mem_cons]
        grind

end SymbolIndex

theorem Symbol.method?_eq_some_iff {symbol : Symbol} {method : Method} :
    symbol.method? = some method ↔ symbol = .method method := by
  cases symbol <;> simp [Symbol.method?]

theorem Symbol.type?_eq_some_iff {symbol : Symbol} {type : TypeSymbol} :
    symbol.type? = some type ↔ symbol = .type type := by
  cases symbol <;> simp [Symbol.type?]

namespace Model

def Faithful (model : Model) : Prop :=
  ∀ (key : String) (symbol : Symbol),
    model.symbol? key = some symbol ↔ symbol ∈ model.document.symbols ∧ symbol.key = key

theorem ofDocument_eq_ok_iff {document : Document} {model : Model} :
    ofDocument document = .ok model ↔
      ∃ index, SymbolIndex.insertAll ∅ 0 document.symbols = .ok index ∧
        model = { document, index } := by
  cases built : SymbolIndex.insertAll ∅ 0 document.symbols with
  | error error => simp [ofDocument, built, bind, Except.bind]
  | ok index => simp [ofDocument, built, bind, Except.bind, pure, Except.pure, eq_comm]

theorem ofDocument_document {document : Document} {model : Model}
    (built : ofDocument document = .ok model) : model.document = document := by
  obtain ⟨index, _, rfl⟩ := ofDocument_eq_ok_iff.mp built
  rfl

theorem ofDocument_indexes {document : Document} {model : Model}
    (built : ofDocument document = .ok model) :
    SymbolIndex.Indexes model.index document.symbols := by
  obtain ⟨index, indexed, rfl⟩ := ofDocument_eq_ok_iff.mp built
  exact SymbolIndex.indexes_nil.insertAll indexed

theorem ofDocument_faithful {document : Document} {model : Model}
    (built : ofDocument document = .ok model) : model.Faithful := by
  have indexes := ofDocument_indexes built
  have sameDocument := ofDocument_document built
  intro key symbol
  rw [symbol?, sameDocument, Option.bind_eq_some_iff]
  constructor
  · intro found
    obtain ⟨position, held, here⟩ := found
    obtain ⟨other, atPosition, named⟩ := (indexes key position).mp held
    cases here.symm.trans atPosition
    exact ⟨List.mem_of_getElem? here, named⟩
  · intro listed
    obtain ⟨member, named⟩ := listed
    obtain ⟨position, here⟩ := List.mem_iff_getElem?.mp member
    exact ⟨position, (indexes key position).mpr ⟨symbol, here, named⟩, here⟩

/-- A document has a model exactly when its keys are pairwise different. -/
theorem ofDocument_isOk_iff_nodup {document : Document} :
    (∃ model, ofDocument document = .ok model) ↔ (document.symbols.map Symbol.key).Nodup := by
  have keys := @SymbolIndex.insertAll_isOk_iff document.symbols ∅ 0
  simp only [Std.HashMap.contains_empty, implies_true, and_true] at keys
  rw [← keys]
  constructor
  · intro succeeds
    obtain ⟨model, built⟩ := succeeds
    obtain ⟨index, indexed, _⟩ := ofDocument_eq_ok_iff.mp built
    exact ⟨index, indexed⟩
  · intro succeeds
    obtain ⟨index, indexed⟩ := succeeds
    exact ⟨_, ofDocument_eq_ok_iff.mpr ⟨index, indexed, rfl⟩⟩

namespace Faithful

variable {model : Model} (faithful : model.Faithful)
include faithful

theorem method?_eq_some_iff {id : String} {method : Method} :
    model.method? id = some method ↔
      Symbol.method method ∈ model.document.symbols ∧ method.id = id := by
  rw [Model.method?, Option.bind_eq_some_iff]
  simp only [Symbol.method?_eq_some_iff, exists_eq_right]
  exact faithful id (.method method)

theorem type?_eq_some_iff {name : String} {type : TypeSymbol} :
    model.type? name = some type ↔
      Symbol.type type ∈ model.document.symbols ∧ type.name = name := by
  rw [Model.type?, Option.bind_eq_some_iff]
  simp only [Symbol.type?_eq_some_iff, exists_eq_right]
  exact faithful name (.type type)

theorem bind_method?_eq_some_iff {id? : Option String} {method : Method} :
    id?.bind model.method? = some method ↔
      Symbol.method method ∈ model.document.symbols ∧ id? = some method.id := by
  rw [Option.bind_eq_some_iff]
  constructor
  · intro resolved
    obtain ⟨id, given, found⟩ := resolved
    obtain ⟨listed, named⟩ := faithful.method?_eq_some_iff.mp found
    exact ⟨listed, by rw [given, named]⟩
  · intro named
    obtain ⟨listed, given⟩ := named
    exact ⟨method.id, given, faithful.method?_eq_some_iff.mpr ⟨listed, rfl⟩⟩

end Faithful

end Model

end InterfaceLint
