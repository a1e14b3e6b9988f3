import InterfaceLint.Proofs.Model.Index
import Mathlib.Data.List.Pairwise

/-!
# A model represents the symbols of its document

A document has no model exactly when two of its symbols share a key, be they
methods or types, and the failure names the key of the first symbol that comes
too late for it.  Otherwise every lookup by key answers for the list of
symbols: what is found is listed, and what is listed is found.
-/

set_option autoImplicit false

namespace InterfaceLint

/-! ## Repeated keys -/

/-- The symbol at a position has the key of a symbol before it. -/
def RepeatsKeyAt (symbols : List Symbol) (position : Nat) : Prop :=
  ∃ symbol ∈ symbols[position]?, ∃ earlier ∈ symbols.take position, earlier.key = symbol.key

instance (symbols : List Symbol) (position : Nat) : Decidable (RepeatsKeyAt symbols position) :=
  inferInstanceAs (Decidable
    (∃ symbol ∈ symbols[position]?, ∃ earlier ∈ symbols.take position, earlier.key = symbol.key))

def FirstRepeatAt (symbols : List Symbol) (position : Nat) : Prop :=
  RepeatsKeyAt symbols position ∧ ∀ earlier < position, ¬ RepeatsKeyAt symbols earlier

instance (symbols : List Symbol) (position : Nat) : Decidable (FirstRepeatAt symbols position) :=
  inferInstanceAs (Decidable
    (RepeatsKeyAt symbols position ∧ ∀ earlier < position, ¬ RepeatsKeyAt symbols earlier))

theorem FirstRepeatAt.unique {symbols : List Symbol} {left right : Nat}
    (first : FirstRepeatAt symbols left) (second : FirstRepeatAt symbols right) : left = right := by
  have notBelow : ¬ left < right := fun below => second.2 left below first.1
  have notAbove : ¬ right < left := fun above => first.2 right above second.1
  omega

theorem repeatsKeyAt_append {symbols later : List Symbol} {position : Nat}
    (inside : position < symbols.length) :
    RepeatsKeyAt (symbols ++ later) position ↔ RepeatsKeyAt symbols position := by
  unfold RepeatsKeyAt
  rw [List.getElem?_append_left inside, List.take_append_of_le_length (Nat.le_of_lt inside)]

namespace SymbolIndex

variable {index : SymbolIndex} {earlier later : List Symbol}

/-- An index has one position for a key, so what it holds repeats none. -/
theorem Indexes.not_repeatsKeyAt (indexes : Indexes index earlier) (position : Nat) :
    ¬ RepeatsKeyAt earlier position := by
  intro repeats
  obtain ⟨symbol, here, other, member, sameKey⟩ := repeats
  obtain ⟨before, atBefore⟩ := List.mem_iff_getElem?.mp member
  obtain ⟨inside, _⟩ := List.getElem?_eq_some_iff.mp atBefore
  have below : before < position := by
    rw [List.length_take] at inside
    omega
  rw [List.getElem?_take_of_lt below] at atBefore
  have samePosition := indexes.position_unique atBefore here sameKey
  omega

/-- Entering symbols stops at the first that repeats a key, and names its key. -/
theorem Indexes.firstRepeatAt_of_error (indexes : Indexes index earlier) {error : RepeatedKey}
    (failed : SymbolIndex.insertAll index earlier.length later = .error error) :
    ∃ position, FirstRepeatAt (earlier ++ later) position ∧
      (earlier ++ later)[position]?.map Symbol.key = some error.key := by
  induction later generalizing index earlier with
  | nil => cases failed
  | cons symbol later induction =>
      simp only [SymbolIndex.insertAll] at failed
      split at failed
      · rename_i known
        cases failed
        have here : (earlier ++ symbol :: later)[earlier.length]? = some symbol := by simp
        refine ⟨earlier.length, ⟨⟨symbol, here, ?_⟩, ?_⟩, by rw [here]; rfl⟩
        · rw [List.take_left]
          exact indexes.contains_iff.mp known
        · intro position inside
          rw [repeatsKeyAt_append inside]
          exact indexes.not_repeatsKeyAt position
      · rename_i fresh
        have later := induction (indexes.insert fresh)
          (by rwa [List.length_append, List.length_singleton])
        rwa [List.append_assoc, List.singleton_append] at later

end SymbolIndex

namespace Model

theorem ofDocument_eq_error_iff {document : Document} {error : RepeatedKey} :
    ofDocument document = .error error ↔
      SymbolIndex.insertAll ∅ 0 document.symbols = .error error := by
  cases built : SymbolIndex.insertAll ∅ 0 document.symbols with
  | error found => simp [ofDocument, built, bind, Except.bind]
  | ok index => simp [ofDocument, built, bind, Except.bind, pure, Except.pure]

theorem firstRepeatAt_of_ofDocument_eq_error {document : Document} {error : RepeatedKey}
    (failed : ofDocument document = .error error) :
    ∃ position, FirstRepeatAt document.symbols position ∧
      document.symbols[position]?.map Symbol.key = some error.key :=
  SymbolIndex.indexes_nil.firstRepeatAt_of_error (ofDocument_eq_error_iff.mp failed)

/-- The failure is told by the document: there is one first repeated key. -/
theorem ofDocument_eq_error_iff_firstRepeatAt {document : Document} {error : RepeatedKey} :
    ofDocument document = .error error ↔
      ∃ position, FirstRepeatAt document.symbols position ∧
        document.symbols[position]?.map Symbol.key = some error.key := by
  constructor
  · exact firstRepeatAt_of_ofDocument_eq_error
  · intro repeated
    obtain ⟨position, first, named⟩ := repeated
    cases built : ofDocument document with
    | ok model => exact absurd first.1 ((ofDocument_indexes built).not_repeatsKeyAt position)
    | error found =>
        obtain ⟨other, otherFirst, otherNamed⟩ := firstRepeatAt_of_ofDocument_eq_error built
        rw [first.unique otherFirst, otherNamed] at named
        cases error
        cases Option.some.inj named
        rfl

theorem ofDocument_isError_iff {document : Document} :
    (∃ error, ofDocument document = .error error) ↔
      ∃ first second : Fin document.symbols.length, first < second ∧
        (document.symbols.get first).key = (document.symbols.get second).key := by
  have failsUnlessOk : (∃ error, ofDocument document = .error error) ↔
      ¬ ∃ model, ofDocument document = .ok model := by
    cases ofDocument document <;> simp
  rw [failsUnlessOk, ofDocument_isOk_iff_nodup, List.Nodup, List.pairwise_map,
    List.pairwise_iff_get]
  simp only [ne_eq, not_forall, not_not, exists_prop]

/-! ## Lookups -/

/-- The lookups of a model answer for a list of symbols. -/
structure Represents (model : Model) (symbols : List Symbol) : Prop where
  /-- The index leads to the places in the list where symbols with the key stand. -/
  positions : ∀ (key : String) (position : Nat), model.index[key]? = some position ↔
    ∃ inside : position < symbols.length, (symbols.get ⟨position, inside⟩).key = key
  found : ∀ (key : String) (symbol : Symbol),
    model.symbol? key = some symbol ↔ symbol ∈ symbols ∧ symbol.key = key
  absent : ∀ key : String, model.symbol? key = none ↔ ∀ symbol ∈ symbols, symbol.key ≠ key
  oneKind : ∀ key : String, ¬ ((model.method? key).isSome ∧ (model.type? key).isSome)
  methodOrder : model.methods.map Symbol.method =
    symbols.filter fun symbol => symbol.method?.isSome
  methodFound : ∀ method ∈ model.methods, model.method? method.id = some method

namespace Faithful

variable {model : Model} (faithful : model.Faithful)
include faithful

theorem symbol?_eq_none_iff {key : String} :
    model.symbol? key = none ↔ ∀ symbol ∈ model.document.symbols, symbol.key ≠ key := by
  rw [Option.eq_none_iff_forall_ne_some]
  constructor
  · intro notFound symbol listed named
    exact notFound symbol ((faithful key symbol).mpr ⟨listed, named⟩)
  · intro notListed symbol found
    obtain ⟨listed, named⟩ := (faithful key symbol).mp found
    exact notListed symbol listed named

theorem method?_of_mem_methods {method : Method} (listed : method ∈ model.methods) :
    model.method? method.id = some method := by
  obtain ⟨symbol, member, isMethod⟩ := List.mem_filterMap.mp listed
  rw [Symbol.method?_eq_some_iff] at isMethod
  subst isMethod
  exact faithful.method?_eq_some_iff.mpr ⟨member, rfl⟩

end Faithful

theorem not_method?_and_type? (model : Model) (key : String) :
    ¬ ((model.method? key).isSome ∧ (model.type? key).isSome) := by
  unfold method? type?
  cases model.symbol? key with
  | none => simp
  | some symbol => cases symbol <;> simp [Symbol.method?, Symbol.type?]

theorem methods_map_method (model : Model) :
    model.methods.map Symbol.method =
      model.document.symbols.filter fun symbol => symbol.method?.isSome := by
  unfold methods
  induction model.document.symbols with
  | nil => rfl
  | cons symbol symbols induction =>
      cases symbol with
      | method method => simpa [Symbol.method?] using induction
      | type type => simpa [Symbol.method?, List.filterMap_cons] using induction

end Model

/-- Building a model fails exactly on two symbols with one key, and then names
the first key that is repeated; a model that is built represents the symbols. -/
theorem ofDocument_represents_symbols (document : Document) :
    ((∃ error, Model.ofDocument document = .error error) ↔
      ∃ first second : Fin document.symbols.length, first < second ∧
        (document.symbols.get first).key = (document.symbols.get second).key) ∧
    (∀ error, Model.ofDocument document = .error error ↔
      ∃ position, FirstRepeatAt document.symbols position ∧
        document.symbols[position]?.map Symbol.key = some error.key) ∧
    ∀ model, Model.ofDocument document = .ok model → model.Represents document.symbols := by
  refine ⟨Model.ofDocument_isError_iff,
    fun error => Model.ofDocument_eq_error_iff_firstRepeatAt, ?_⟩
  intro model built
  have faithful := Model.ofDocument_faithful built
  have indexes := Model.ofDocument_indexes built
  rw [← Model.ofDocument_document built] at indexes ⊢
  exact {
    positions := by
      intro key position
      rw [indexes key position]
      simp only [List.getElem?_eq_some_iff, List.get_eq_getElem]
      grind
    found := faithful
    absent := fun key => faithful.symbol?_eq_none_iff
    oneKind := model.not_method?_and_type?
    methodOrder := model.methods_map_method
    methodFound := fun method => faithful.method?_of_mem_methods }

def clashingDocument : Document :=
  { symbols := [.method { id := "Run", name := "Run" }, .type { name := "IService" },
      .type { name := "IService" }, .type { name := "Run" }] }

theorem clashingDocument_represents_symbols :
    Model.ofDocument clashingDocument = .error ⟨"IService"⟩ ∧
      ∃ model, Model.ofDocument { symbols := clashingDocument.symbols.take 2 } = .ok model ∧
        model.Represents (clashingDocument.symbols.take 2) := by
  have first : FirstRepeatAt clashingDocument.symbols 2 := by decide
  obtain ⟨model, built⟩ := (@Model.ofDocument_isOk_iff_nodup
    { symbols := clashingDocument.symbols.take 2 }).mpr (by decide)
  exact ⟨((ofDocument_represents_symbols clashingDocument).2.1 _).mpr ⟨2, first, rfl⟩, model, built,
    (ofDocument_represents_symbols _).2.2 model built⟩

end InterfaceLint
