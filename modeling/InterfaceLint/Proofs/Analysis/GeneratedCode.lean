import InterfaceLint.Proofs.Analysis.Lookups
import InterfaceLint.Proofs.Analysis.MissingSymbols

/-!
# Analysis without generated code

An analysis that passes over generated code reports what an analysis of all code
reports on a document without generated calls and without the locations of
generated methods.  The methods themselves stay in such a document, so calls
still go to them and are still made from within them.  Looking at generated code
adds the findings at generated calls and declarations, and moves no other.
-/

set_option autoImplicit false

namespace InterfaceLint

/-! ## Documents without generated code -/

def Method.withoutGenerated (method : Method) : Method :=
  if method.generated then { method with locations := [] } else method

def Symbol.withoutGenerated : Symbol → Symbol
  | .method declared => .method declared.withoutGenerated
  | .type resolved => .type resolved

/-- No generated calls, and generated methods as if they came from metadata. -/
def Document.withoutGenerated (document : Document) : Document :=
  { document with
    symbols := document.symbols.map Symbol.withoutGenerated
    calls := document.calls.filter fun call => !call.generated }

def Symbol.isGenerated : Symbol → Bool
  | .method declared => declared.generated
  | .type _ => false

theorem Symbol.withoutGenerated_key (symbol : Symbol) :
    symbol.withoutGenerated.key = symbol.key := by
  cases symbol with
  | method method =>
      simp only [withoutGenerated, Method.withoutGenerated, key]
      split <;> rfl
  | type type => rfl

theorem Method.withoutGenerated_facts (method : Method) :
    method.withoutGenerated.facts = method.facts := by
  unfold withoutGenerated
  split <;> rfl

theorem Document.withoutGenerated_nodup {document : Document}
    (distinct : (document.symbols.map Symbol.key).Nodup) :
    (document.withoutGenerated.symbols.map Symbol.key).Nodup := by
  rwa [withoutGenerated, Model.map_key_map Symbol.withoutGenerated_key]

section

variable {model stripped : Model} (faithful : model.Faithful) (strippedFaithful : stripped.Faithful)
  (strips : stripped.document = model.document.withoutGenerated)
include strips

theorem Model.mem_stripped_iff (symbol : Symbol) : symbol ∈ stripped.document.symbols ↔
    ∃ original ∈ model.document.symbols, original.withoutGenerated = symbol := by
  rw [strips]
  exact List.mem_map

include faithful strippedFaithful

theorem Model.stripped_method? (id : String) :
    stripped.method? id = (model.method? id).map Method.withoutGenerated := by
  have found := faithful.symbol?_eq_map strippedFaithful Symbol.withoutGenerated_key
    (mem_stripped_iff strips) id
  rw [method?, method?, found, Option.bind_map, Option.map_bind]
  congr 1
  funext symbol
  cases symbol <;> rfl

theorem Model.answersLike_stripped : model.AnswersLike stripped := by
  apply faithful.answersLike strippedFaithful Symbol.withoutGenerated_key
    (mem_stripped_iff strips)
  · intro symbol
    cases symbol with
    | method method => exact congrArg some method.withoutGenerated_facts
    | type type => rfl
  · intro symbol
    cases symbol <;> rfl

end

/-! ## Findings item by item -/

/-- What is picked from the items is what is picked from some and from the others. -/
theorem filterMap_perm_of_skipped {α β : Type} (pick : α → Option β) (skipped : α → Bool)
    (items : List α) :
    (items.filterMap pick).Perm
      (items.filterMap (fun item => if skipped item then none else pick item) ++
        items.filterMap fun item => if skipped item then pick item else none) := by
  have split := (List.filter_append_perm skipped items).filterMap pick
  rw [List.filterMap_append, List.filterMap_filter, List.filterMap_filter] at split
  refine split.symm.trans (List.perm_append_comm.trans (List.Perm.of_eq ?_))
  congr 2
  funext item
  cases skipped item <;> rfl

theorem picksEach_of_skipped {α β : Type} {related : α → β → Prop} {pick : α → Option β}
    (picked : ∀ item result, pick item = some result ↔ related item result) (skipped : α → Bool)
    (items : List α) :
    PicksEach (fun item result => skipped item = true ∧ related item result) items
      (items.filterMap fun item => if skipped item then pick item else none) := by
  refine (picksEach_iff_eq_filterMap ?_ _ _).mpr rfl
  intro item result
  rw [Option.ite_none_right_eq_some, picked]

theorem Declaration.check_of_nowhere (model : Model) {method : Method}
    (nowhere : method.locations = []) : check model method = none := by
  cases marked : method.isMarked <;> simp [check, Method.location?, nowhere]

def AnalysisOptions.withGenerated (options : AnalysisOptions) : AnalysisOptions :=
  { options with analyzeGenerated := true }

namespace Model

section

variable (model : Model) {options : AnalysisOptions} (skips : options.analyzeGenerated = false)
include skips

theorem callFinding?_skipping (call : Call) : model.callFinding? options call =
    if call.generated then none else model.callFinding? options.withGenerated call := by
  cases generated : call.generated <;>
    simp [callFinding?, skips, generated, AnalysisOptions.withGenerated, AnalysisOptions.adjust]

theorem declarationFinding?_skipping (symbol : Symbol) :
    model.declarationFinding? options symbol =
      if symbol.isGenerated then none
      else model.declarationFinding? options.withGenerated symbol := by
  cases symbol with
  | type type => rfl
  | method method =>
      cases generated : method.generated <;>
        simp [declarationFinding?, Symbol.method?, Symbol.isGenerated, skips, generated,
          AnalysisOptions.withGenerated, AnalysisOptions.adjust]

end

theorem declarationFinding?_withoutGenerated (model : Model) (options : AnalysisOptions)
    (symbol : Symbol) :
    model.declarationFinding? options symbol.withoutGenerated =
      if symbol.isGenerated then none else model.declarationFinding? options symbol := by
  cases symbol with
  | type type => rfl
  | method method =>
      cases generated : method.generated with
      | false =>
          have unchanged : method.withoutGenerated = method := by
            simp [Method.withoutGenerated, generated]
          simp [Symbol.withoutGenerated, Symbol.isGenerated, unchanged, generated]
      | true =>
          have nowhere : method.withoutGenerated.locations = [] := by
            simp [Method.withoutGenerated, generated]
          simp [Symbol.withoutGenerated, Symbol.isGenerated, generated, declarationFinding?,
            Symbol.method?, Declaration.check_of_nowhere model nowhere]

/-! ## Whole analyses -/

section

variable (model : Model) {options : AnalysisOptions} (skips : options.analyzeGenerated = false)
include skips

theorem analyze_sublist_withGenerated :
    (model.analyze options).Sublist (model.analyze options.withGenerated) := by
  rw [analyze_eq_sorted, analyze_eq_sorted]
  apply Finding.sorted_sublist_sorted
  apply List.Sublist.append
  · apply filterMap_sublist_filterMap
    intro call _ finding found
    rw [model.callFinding?_skipping skips, Option.ite_none_left_eq_some] at found
    exact found.2
  · apply filterMap_sublist_filterMap
    intro symbol _ finding found
    rw [model.declarationFinding?_skipping skips, Option.ite_none_left_eq_some] at found
    exact found.2

theorem analyze_withGenerated_perm (faithful : model.Faithful) :
    ∃ atCalls atDeclarations,
      PicksEach (fun call finding => call.generated = true ∧
        CallSite.Due model.document options.withGenerated call finding)
        model.document.calls atCalls ∧
      PicksEach (fun symbol finding => symbol.isGenerated = true ∧
        Declaration.Due model.document options.withGenerated symbol finding)
        model.document.symbols atDeclarations ∧
      (model.analyze options.withGenerated).Perm
        (model.analyze options ++ (atCalls ++ atDeclarations)) := by
  have calls := filterMap_perm_of_skipped (model.callFinding? options.withGenerated)
    Call.generated model.document.calls
  have declarations := filterMap_perm_of_skipped
    (model.declarationFinding? options.withGenerated) Symbol.isGenerated model.document.symbols
  simp only [← model.callFinding?_skipping skips] at calls
  simp only [← model.declarationFinding?_skipping skips] at declarations
  have together := calls.append declarations
  refine ⟨_, _, picksEach_of_skipped (callFinding?_eq_some_iff faithful options.withGenerated) _ _,
    picksEach_of_skipped (declarationFinding?_eq_some_iff faithful options.withGenerated) _ _, ?_⟩
  refine (model.analyze_perm options.withGenerated).trans (together.trans ?_)
  refine List.Perm.trans ?_ ((model.analyze_perm options).symm.append_right _)
  rw [List.append_assoc, List.append_assoc]
  exact (List.perm_append_comm_assoc _ _ _).append_left _

end

theorem analyze_stripped_eq {model stripped : Model} (faithful : model.Faithful)
    (strippedFaithful : stripped.Faithful)
    (strips : stripped.document = model.document.withoutGenerated) {options : AnalysisOptions}
    (skips : options.analyzeGenerated = false) :
    model.analyze options = stripped.analyze options.withGenerated := by
  have alike := answersLike_stripped faithful strippedFaithful strips
  rw [analyze_eq_sorted, analyze_eq_sorted, strips]
  congr 2
  · rw [Document.withoutGenerated, List.filterMap_filter]
    congr 1
    funext call
    rw [model.callFinding?_skipping skips, alike.callFinding?_eq]
    cases call.generated <;> rfl
  · rw [Document.withoutGenerated, List.filterMap_map]
    congr 1
    funext symbol
    rw [model.declarationFinding?_skipping skips, alike.declarationFinding?_eq]
    exact (stripped.declarationFinding?_withoutGenerated options.withGenerated symbol).symm

end Model

/-- Passing over generated code is leaving it out of the document, with the
methods kept to be resolved; looking at it adds what is due at generated calls
and declarations, and leaves the other findings in their order. -/
theorem analyze_skipping_generated (document : Document) (model : Model)
    (options : AnalysisOptions) (built : Model.ofDocument document = .ok model)
    (skips : options.analyzeGenerated = false) :
    ∃ stripped, Model.ofDocument document.withoutGenerated = .ok stripped ∧
      (∀ id, stripped.method? id = (model.method? id).map Method.withoutGenerated) ∧
      (∀ call, CallSite.check stripped call = CallSite.check model call) ∧
      model.analyze options = stripped.analyze options.withGenerated ∧
      (model.analyze options).Sublist (model.analyze options.withGenerated) ∧
      ∃ atCalls atDeclarations,
        PicksEach (fun call finding => call.generated = true ∧
          CallSite.Due document options.withGenerated call finding) document.calls atCalls ∧
        PicksEach (fun symbol finding => symbol.isGenerated = true ∧
          Declaration.Due document options.withGenerated symbol finding)
          document.symbols atDeclarations ∧
        (model.analyze options.withGenerated).Perm
          (model.analyze options ++ (atCalls ++ atDeclarations)) := by
  have distinct := Model.ofDocument_isOk_iff_nodup.mp ⟨model, built⟩
  obtain ⟨stripped, strippedBuilt⟩ :=
    Model.ofDocument_isOk_iff_nodup.mpr (Document.withoutGenerated_nodup distinct)
  have faithful := Model.ofDocument_faithful built
  have strippedFaithful := Model.ofDocument_faithful strippedBuilt
  have sameDocument := Model.ofDocument_document built
  subst sameDocument
  have strips := Model.ofDocument_document strippedBuilt
  have alike := Model.answersLike_stripped faithful strippedFaithful strips
  exact ⟨stripped, strippedBuilt, Model.stripped_method? faithful strippedFaithful strips,
    fun call => (alike.check_call_eq call).symm,
    Model.analyze_stripped_eq faithful strippedFaithful strips skips,
    model.analyze_sublist_withGenerated skips, model.analyze_withGenerated_perm skips faithful⟩

def generatedLibrary : Document :=
  { delegatingDocument with
    symbols := delegatingDocument.symbols.map fun symbol =>
      match symbol with
      | .method declared => .method { declared with generated := true }
      | .type resolved => .type resolved }

theorem generatedLibrary_skipping_generated :
    ∃ model stripped, Model.ofDocument generatedLibrary = .ok model ∧
      AnalysisOptions.default.analyzeGenerated = false ∧
      Model.ofDocument generatedLibrary.withoutGenerated = .ok stripped ∧
      (∀ call, CallSite.check stripped call = CallSite.check model call) ∧
      model.analyze .default = stripped.analyze AnalysisOptions.default.withGenerated ∧
      (model.analyze .default).Sublist (model.analyze AnalysisOptions.default.withGenerated) := by
  obtain ⟨model, built⟩ := (@Model.ofDocument_isOk_iff_nodup generatedLibrary).mpr (by decide)
  obtain ⟨stripped, strippedBuilt, _, sameChecks, same, sublist, _⟩ :=
    analyze_skipping_generated generatedLibrary model .default built rfl
  exact ⟨model, stripped, built, rfl, strippedBuilt, sameChecks, same, sublist⟩

end InterfaceLint
