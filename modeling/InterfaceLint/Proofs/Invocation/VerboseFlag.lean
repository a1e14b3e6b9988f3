import InterfaceLint.Invocation

/-!
# The flag for details

Nothing but the flag itself looks at whether details were asked for.  So with
the flag in front the words of a check are taken as without it, and only the
request for details is added.
-/

set_option autoImplicit false

namespace InterfaceLint.Invocation

open Text (Glyph Word)

def asksForDetails : List Word → Bool
  | [] => false
  | word :: words =>
    match shape word with
    | .separator => false
    | .long name _ => name.text? = some "verbose" || asksForDetails words
    | .short flags => flags.contains (.char 'v') || asksForDetails words
    | .plain => asksForDetails words

namespace CheckState

def withVerbose (verbose : Bool) (state : CheckState) : CheckState := { state with verbose }

/-! ## Steps that do not look at the flag -/

/-- The step is made alike whether or not details were asked for. -/
def Indifferent (step : CheckState → Except Refusal CheckState) : Prop :=
  ∀ verbose state, step (state.withVerbose verbose) = (step state).map (withVerbose verbose)

theorem Indifferent.bind {first second : CheckState → Except Refusal CheckState}
    (firstAlike : Indifferent first) (secondAlike : Indifferent second) :
    Indifferent fun state => first state >>= second := by
  intro verbose state
  simp only [firstAlike verbose state]
  cases first state with
  | error refusal => rfl
  | ok next => exact secondAlike verbose next

theorem indifferent_error (refusal : Refusal) : Indifferent fun _ => .error refusal :=
  fun _ _ => rfl

theorem setRoot_indifferent (value : Word) : Indifferent fun state => state.setRoot value := by
  rintro verbose ⟨paths, root, _, rules, format, pending⟩
  cases root with
  | some known => rfl
  | none => cases value <;> rfl

theorem addRule_indifferent (value : Word) : Indifferent fun state => state.addRule value := by
  intro verbose state
  simp only [addRule]
  cases ruleOf? value <;> rfl

theorem setFormat_indifferent (value : Word) : Indifferent fun state => state.setFormat value := by
  rintro verbose ⟨paths, root, _, rules, format, pending⟩
  cases format with
  | some known => rfl
  | none =>
      simp only [setFormat, withVerbose]
      cases formatOf? value <;> rfl

theorem addPaths_indifferent (values : List Word) :
    Indifferent fun state => state.addPaths values := by
  intro verbose state
  simp only [addPaths]
  cases values.any List.isEmpty <;> rfl

theorem flush_indifferent : Indifferent flush := by
  intro verbose state
  -- What is held back is not changed by the flag, and each kind is looked at alike.
  obtain ⟨paths, root, known, rules, format, pending⟩ := state
  let cleared : CheckState := ⟨paths, root, known, rules, format, .nothing⟩
  cases pending with
  | nothing => rfl
  | root value =>
      cases value with
      | none => rfl
      | some value => exact setRoot_indifferent value verbose cleared
  | rule value =>
      cases value with
      | none => rfl
      | some value => exact addRule_indifferent value verbose cleared
  | format value =>
      cases value with
      | none => rfl
      | some value => exact setFormat_indifferent value verbose cleared
  | paths values => exact addPaths_indifferent values verbose cleared

/-- Holding something back instead is alike too. -/
theorem holdBack_indifferent (pending : Pending) :
    Indifferent fun state => do return { ← state.flush with pending } := by
  have next : Indifferent fun state => .ok { state with pending } := fun _ _ => rfl
  exact flush_indifferent.bind next

theorem holdPath_indifferent (word : Word) : Indifferent fun state => state.holdPath word := by
  intro verbose state
  have held := holdBack_indifferent (.paths [word]) verbose state
  obtain ⟨paths, root, known, rules, format, pending⟩ := state
  cases pending with
  | paths values => rfl
  | nothing => exact held
  | root value => exact held
  | rule value => exact held
  | format value => exact held

theorem takePlain_indifferent (word : Word) : Indifferent fun state => state.takePlain word := by
  intro verbose state
  have held := holdPath_indifferent word verbose state
  obtain ⟨paths, root, known, rules, format, pending⟩ := state
  cases pending with
  | nothing => exact held
  | paths values => exact held
  | root value =>
      cases value with
      | none => rfl
      | some value => exact held
  | rule value =>
      cases value with
      | none => rfl
      | some value => exact held
  | format value =>
      cases value with
      | none => rfl
      | some value => exact held

theorem takeOption_indifferent (waiting : Pending)
    {apply : CheckState → Word → Except Refusal CheckState}
    (applies : ∀ value, Indifferent fun state => apply state value) (value : Option Word) :
    Indifferent fun state => state.takeOption waiting apply value := by
  cases value with
  | none => exact holdBack_indifferent waiting
  | some value => exact flush_indifferent.bind (applies value)

theorem takeShort_indifferent {flags : Word} (quiet : flags.contains (.char 'v') = false) :
    Indifferent fun state => state.takeShort flags := by
  cases flags with
  | nil => exact fun _ _ => rfl
  | cons glyph flags =>
      have other : glyph ≠ .char 'v' := by
        rintro rfl
        simp at quiet
      simp only [takeShort, if_neg other]
      split
      · exact flush_indifferent.bind (indifferent_error .displayHelp)
      · exact indifferent_error .unknownArgument

theorem takeLong_indifferent {name : Word} (quiet : name.text? ≠ some "verbose")
    (value : Option Word) : Indifferent fun state => state.takeLong name value := by
  unfold takeLong
  split
  · exact takeOption_indifferent _ setRoot_indifferent value
  · exact takeOption_indifferent _ addRule_indifferent value
  · exact takeOption_indifferent _ setFormat_indifferent value
  · rename_i isVerbose
    exact absurd isVerbose quiet
  · split
    · exact indifferent_error .tooManyValues
    · exact flush_indifferent.bind (indifferent_error .displayHelp)
  · exact indifferent_error .unknownArgument

theorem takeWords_separated_indifferent (words : List Word) :
    Indifferent fun state => state.takeWords true words := by
  induction words with
  | nil => exact flush_indifferent
  | cons word words induction => exact (holdPath_indifferent word).bind induction

/-- Words that do not ask for details are taken alike. -/
theorem takeWords_indifferent : ∀ {words : List Word}, asksForDetails words = false →
    Indifferent fun state => state.takeWords false words := by
  intro words
  induction words with
  | nil => intro _; exact flush_indifferent
  | cons word words induction =>
      intro quiet
      cases looks : shape word with
      | separator =>
          simp only [takeWords, looks]
          exact takeWords_separated_indifferent words
      | long name value =>
          simp only [asksForDetails, looks, Bool.or_eq_false_iff, decide_eq_false_iff_not] at quiet
          simp only [takeWords, looks]
          exact (takeLong_indifferent quiet.1 value).bind (induction quiet.2)
      | short flags =>
          simp only [asksForDetails, looks, Bool.or_eq_false_iff] at quiet
          simp only [takeWords, looks]
          exact (takeShort_indifferent quiet.1).bind (induction quiet.2)
      | plain =>
          simp only [asksForDetails, looks] at quiet
          simp only [takeWords, looks]
          exact (takePlain_indifferent word).bind (induction quiet)

theorem request_withVerbose (verbose : Bool) (state : CheckState) (environment : Option Word) :
    (state.withVerbose verbose).request environment =
      (state.request environment).map fun request => { request with verbose } := by
  obtain ⟨paths, root, known, rules, format, pending⟩ := state
  cases root with
  | some root => rfl
  | none =>
      cases environment with
      | none => rfl
      | some root => cases root <;> rfl

/-- Starting with the flag or without it makes no other difference to the request. -/
theorem request_of_takeWords {words : List Word} (quiet : asksForDetails words = false)
    (verbose : Bool) (environment : Option Word) :
    (do (← takeWords (withVerbose verbose {}) false words).request environment) =
      (do (← takeWords {} false words).request environment).map
        fun request : CheckRequest => { request with verbose } := by
  have alike : takeWords (withVerbose verbose {}) false words =
      (takeWords {} false words).map (withVerbose verbose) :=
    takeWords_indifferent quiet verbose {}
  rw [alike]
  cases takeWords {} false words with
  | error refusal => rfl
  | ok state => exact state.request_withVerbose verbose environment

end CheckState

/-! ## Checks with and without the flag -/

theorem parse_check (environment : Option Word) (words : List Word) :
    parse environment (Word.ofString "check" :: words) =
      (do (← CheckState.takeWords {} false words).request environment).map Command.check := by
  change (do
    let state ← CheckState.takeWords {} false words
    return Command.check (← state.request environment)) = _
  cases CheckState.takeWords {} false words with
  | error refusal => rfl
  | ok state =>
      change (do return Command.check (← state.request environment)) =
        (state.request environment).map Command.check
      cases state.request environment <;> rfl

/-- Two invocations of a check are refused alike, or the one is to give details that
the other is not to give. -/
inductive AddsDetails : Except Refusal Command → Except Refusal Command → Prop
  | refused (refusal : Refusal) : AddsDetails (.error refusal) (.error refusal)
  | check (request : CheckRequest) (quiet : request.verbose = false) :
      AddsDetails (.ok (.check request)) (.ok (.check { request with verbose := true }))

theorem parse_addsDetails (environment : Option Word) {words : List Word}
    (quiet : asksForDetails words = false) {flag : Word}
    (isFlag : flag = Word.ofString "-v" ∨ flag = Word.ofString "--verbose") :
    AddsDetails (parse environment (Word.ofString "check" :: words))
      (parse environment (Word.ofString "check" :: flag :: words)) := by
  have started : CheckState.takeWords {} false (flag :: words) =
      CheckState.takeWords (CheckState.withVerbose true {}) false words := by
    rcases isFlag with rfl | rfl <;> rfl
  have without := CheckState.request_of_takeWords quiet false environment
  rw [parse_check, parse_check, started, CheckState.request_of_takeWords quiet]
  cases requested : (do (← CheckState.takeWords {} false words).request environment) with
  | error refusal => exact .refused refusal
  | ok request =>
      have same : request = { request with verbose := false } :=
        Except.ok.inj (requested.symm.trans (without.trans (by rw [requested]; rfl)))
      exact .check request (by rw [same])

end InterfaceLint.Invocation
