import InterfaceLint.Json.Record
import InterfaceLint.Proofs.Json.Containers
import InterfaceLint.Proofs.Outcome

/-!
# Decoders on both sources

A decoder reads a type from a text and from a value that was read before.
Where it decodes a value it gives the same result from the value and from
every text that holds it.  Each way of building decoders keeps this; a record
is decoded when its members fill the fields one after the other.
-/

set_option autoImplicit false

namespace InterfaceLint.Json

open Reader

namespace Decoder

variable {α β : Type}

/-- The decoder gives the result for the value, which nests so deep, from the
value itself and from its layouts. -/
structure Decodes (decoder : Decoder α) (levels : Nat) (value : Value) (result : α) : Prop where
  exportable : Exportable levels value
  ofValue : decoder.ofValue value = .ok result
  read : ∀ {bounds : Bounds} {limit : Nat}, levels ≤ bounds.levels → limit < bounds.steps →
    (decoder.read bounds).Takes limit value result

theorem Decodes.mono {decoder : Decoder α} {levels more : Nat} {value : Value} {result : α}
    (decodes : decoder.Decodes levels value result) (enough : levels ≤ more) :
    decoder.Decodes more value result where
  exportable := decodes.exportable.mono enough
  ofValue := decodes.ofValue
  read deep := decodes.read (enough.trans deep)

theorem start_reads {next : Char → Reader α} {gap text rest : List Char} {c : Char} {value : α}
    (blank : Blank gap) (solid : isBlank c = false)
    (continues : (next c).Reads (c :: text) value rest) :
    (start >>= next).Reads (gap ++ c :: text) value rest := by
  have first : start.Reads (gap ++ c :: text) c (c :: text) :=
    Reads.token blank solid (pure_reads c _)
  exact first.bind continues

/-! ## Scalars -/

theorem textAs_decodes (expected content : String) (levels : Nat) :
    (textAs expected).Decodes levels (.text content) content where
  exportable := .text content
  ofValue := rfl
  read := by
    intro bounds limit _ _ gap text rest blank written _ _
    cases written
    rw [printString_toList]
    refine start_reads blank (by decide) ?_
    exact (advance_reads '"' _).bind (readString_reads content rest)

theorem text_decodes (content : String) (levels : Nat) :
    text.Decodes levels (.text content) content :=
  textAs_decodes _ content levels

theorem flag_decodes (value : Bool) (levels : Nat) : flag.Decodes levels (.bool value) value where
  exportable := .bool value
  ofValue := rfl
  read := by
    intro bounds limit _ _ gap text rest blank written _ _
    cases written with
    | yes =>
        refine start_reads blank (by decide) ?_
        exact (advance_reads 't' _).bind ((readLetters_reads _ rest).bind (pure_reads true rest))
    | no =>
        refine start_reads blank (by decide) ?_
        exact (advance_reads 'f' _).bind ((readLetters_reads _ rest).bind (pure_reads false rest))

theorem count_decodes (value : UInt64) (levels : Nat) :
    count.Decodes levels (.number (.natural value)) value where
  exportable := .natural value
  ofValue := rfl
  read := by
    intro bounds limit _ _ gap text rest blank written _ follows
    cases written
    have accepted : (located (ofExcept (countOf (.natural value)))).Reads rest value rest :=
      (pure_reads value rest).located
    have reads : (readNumber false >>= fun number => located (ofExcept (countOf number))).Reads
        (Nat.toDigits 10 value.toNat ++ rest) value rest :=
      (readNumber_reads value follows).bind accepted
    obtain ⟨c, others, digits, digit⟩ := exists_toDigits_cons value.toNat
    rw [digits] at reads ⊢
    refine start_reads blank (opens_of_isDigit digit).solid ?_
    have notMinus : c ≠ '-' := by
      rintro rfl
      simp [isDigit] at digit
    simpa [notMinus, digit] using reads

/-! ## Options, lists and maps -/

theorem optional_decodes_null (inner : Decoder α) (levels : Nat) :
    (optional inner).Decodes levels .null none where
  exportable := .null
  ofValue := rfl
  read := by
    intro bounds limit _ _ gap text rest blank written _ _
    cases written
    refine Reads.token blank (by decide) ?_
    exact (advance_reads 'n' _).bind ((readLetters_reads _ rest).bind (pure_reads none rest))

theorem Decodes.optional {inner : Decoder α} {levels : Nat} {value : Value} {result : α}
    (decodes : inner.Decodes levels value result) (present : value ≠ .null) :
    (optional inner).Decodes levels value (some result) where
  exportable := decodes.exportable
  ofValue := by
    have mapped : some <$> inner.ofValue value = .ok (some result) := by
      rw [decodes.ofValue]
      rfl
    cases value with
    | null => exact absurd rfl present
    | _ => exact mapped
  read := by
    intro bounds limit deep enough gap text rest blank written size follows
    have reads := (decodes.read deep enough Blank.nil written size follows).map some
    obtain ⟨c, others, rfl, opens⟩ := written.opens
    refine Reads.token blank opens.solid ?_
    split
    · rename_i same
      cases same
      exact absurd written.eq_null present
    · exact reads

/-- Where levels are left, a container is read with the bounds one level down. -/
theorem exists_deeper {levels : Nat} {bounds : Bounds} (deep : levels + 1 ≤ bounds.levels) :
    ∃ inner : Bounds, levels ≤ inner.levels ∧ inner.steps = bounds.steps ∧
      ∀ {γ : Type} (content : Bounds → Reader γ) (close : Reader Unit),
        nested bounds content close = enclosed (content inner) close := by
  obtain ⟨available, steps⟩ := bounds
  cases available with
  | zero => simp at deep
  | succ further => exact ⟨⟨further, steps⟩, Nat.le_of_succ_le_succ deep, rfl, fun _ _ => rfl⟩

theorem list_decodes {inner : Decoder α} {encode : α → Value} {levels : Nat}
    (each : ∀ value, inner.Decodes levels (encode value) value) (values : List α) :
    (list inner).Decodes (levels + 1) (.list (values.map encode)) values where
  exportable := .list (List.forall_mem_map.mpr fun value _ => (each value).exportable)
  ofValue := by
    change (values.map encode).mapM inner.ofValue = .ok values
    induction values with
    | nil => rfl
    | cons value values induction =>
        rw [List.map_cons, List.mapM_cons, (each value).ofValue, induction]
        rfl
  read := by
    intro bounds limit deep enough gap text rest blank written size _
    obtain ⟨deeper, left, steps, opened⟩ := exists_deeper deep
    rw [← steps] at enough
    have items : List.Forall₂ ((inner.read deeper).Takes limit) (values.map encode) values :=
      List.forall₂_map_left_iff.mpr (List.forall₂_same.mpr fun value _ =>
        (each value).read left enough)
    obtain ⟨body, rfl, reads⟩ := elements_content items written size enough
    refine start_reads blank (by decide) ?_
    rw [if_pos rfl, opened]
    exact enclosed_reads (reads rest) (endList_reads rest)

theorem map_decodes {inner : Decoder α} {encode : α → Value} {levels : Nat}
    (each : ∀ value, inner.Decodes levels (encode value) value) (values : List (String × α)) :
    (map inner).Decodes (levels + 1)
      (.object (values.map fun (key, value) => (key, encode value))) values where
  exportable := .object (List.forall_mem_map.mpr fun member _ => (each member.2).exportable)
  ofValue := by
    change List.mapM (fun member : String × Value => (member.1, ·) <$> inner.ofValue member.2) _ =
      .ok values
    induction values with
    | nil => rfl
    | cons member values induction =>
        rw [List.map_cons, List.mapM_cons, (each member.2).ofValue, induction]
        rfl
  read := by
    intro bounds limit deep enough gap text rest blank written size _
    obtain ⟨deeper, left, steps, opened⟩ := exists_deeper deep
    rw [← steps] at enough
    have members : List.Forall₂ ((inner.read deeper).TakesMember limit)
        (values.map fun (key, value) => (key, encode value)) values :=
      List.forall₂_map_left_iff.mpr (List.forall₂_same.mpr fun member _ =>
        ⟨rfl, (each member.2).read left enough⟩)
    obtain ⟨body, rfl, reads⟩ := (members_runsThrough members []).content written size enough
    refine start_reads blank (by decide) ?_
    rw [if_pos rfl, opened]
    exact enclosed_reads (reads rest) (endObject_reads rest)

theorem Decodes.mapResult {inner : Decoder α} {levels : Nat} {value : Value} {result : α}
    (decodes : inner.Decodes levels value result) (convert : α → β) :
    (mapResult convert inner).Decodes levels value (convert result) where
  exportable := decodes.exportable
  ofValue := by
    change convert <$> inner.ofValue value = _
    rw [decodes.ofValue]
    rfl
  read deep enough _ _ _ blank written size follows :=
    (decodes.read deep enough blank written size follows).map convert

theorem choice_decodes {ofName : String → Except Fault α} {name : String} {result : α}
    (known : ofName name = .ok result) (levels : Nat) :
    (choice ofName).Decodes levels (.text name) result where
  exportable := .text name
  ofValue := known
  read := by
    intro bounds limit _ _ gap text rest blank written _ _
    cases written
    rw [printString_toList]
    refine Reads.token blank (by decide) ?_
    refine (advance_reads '"' _).bind ((readString_reads name rest).bind ?_)
    rw [known]
    exact (ofExcept_reads result rest).located

end Decoder

/-! ## Records -/

section Records

variable {σ α : Type}

def Field.decoder (field : Field σ) : Decoder (σ → σ) := ⟨field.read, field.ofValue⟩

/-- The members give fields of the record, each once, and every required one. -/
inductive Record.Fills (record : Record σ) (levels : Nat) :
    List String → σ → List (String × Value) → σ → Prop
  | done {given : List String} {value : σ} (complete : record.missing? given = none) :
      Fills record levels given value [] value
  | set {given : List String} {value final : σ} {key : String} {content : Value}
      {members : List (String × Value)} {field : Field σ} {change : σ → σ}
      (found : record.find? key = some field) (fresh : given.contains key = false)
      (decodes : field.decoder.Decodes levels content change)
      (others : Fills record levels (key :: given) (change value) members final) :
      Fills record levels given value ((key, content) :: members) final

namespace Record

variable {record : Record σ} {levels : Nat} {given : List String} {value final : σ}
  {members : List (String × Value)}

theorem Fills.give {key name : String} {content : Value} {required : Bool} {decoder : Decoder α}
    {set : σ → α → σ} {result : α}
    (found : record.find? key = some (.make name required decoder set))
    (fresh : given.contains key = false) (decodes : decoder.Decodes levels content result)
    (others : record.Fills levels (key :: given) (set value result) members final) :
    record.Fills levels given value ((key, content) :: members) final :=
  .set found fresh (decodes.mapResult fun value record => set record value) others

theorem Fills.exportable (fills : record.Fills levels given value members final) :
    ∀ member ∈ members, Exportable levels member.2 := by
  induction fills with
  | done _ => simp
  | set _ _ decodes _ induction => exact List.forall_mem_cons.mpr ⟨decodes.exportable, induction⟩

theorem Fills.ofMembers (fills : record.Fills levels given value members final) :
    record.ofMembers members given value = .ok final := by
  induction fills with
  | done complete => simp [Record.ofMembers, finish, complete]
  | @set given value final key content members field change found fresh decodes _ induction =>
      have changed : field.ofValue content = .ok change := decodes.ofValue
      simp only [Record.ofMembers, found, fresh, changed]
      exact induction

theorem Fills.runsThrough (fills : record.Fills levels given value members final)
    {bounds : Bounds} {limit : Nat} (deep : levels ≤ bounds.levels)
    (enough : limit < bounds.steps) :
    RunsThrough (fun steps first (state : List String × σ) =>
      record.readMembers bounds steps first state.1 state.2) limit (given, value) members
      final := by
  induction fills with
  | done complete =>
      refine .done fun rest blank => (nextKey_end blank _ rest).bind ?_
      simp only [finish, complete]
      exact ofExcept_reads _ _
  | @set given value final key content members field change found fresh decodes _ induction =>
      refine .step ?_ induction
      intro steps first lead before front back body more rest result announces blankBefore
        blankFront blankBack written size follows continues
      refine (nextKey_reads announces blankBefore key _).bind ?_
      simp only [found, fresh]
      refine (colon_reads blankFront _).bind ?_
      exact (decodes.read deep enough blankBack written size follows).bind continues

/-- Members that fill the record are decoded to the record they fill. -/
theorem Fills.decodes (fills : record.Fills levels [] record.blank members final) :
    record.decoder.Decodes (levels + 1) (.object members) final where
  exportable := .object fills.exportable
  ofValue := fills.ofMembers
  read := by
    intro bounds limit deep enough gap text rest blank written size _
    obtain ⟨deeper, left, steps, opened⟩ := Decoder.exists_deeper deep
    rw [← steps] at enough
    obtain ⟨body, rfl, reads⟩ := (fills.runsThrough left enough).content written size enough
    refine Decoder.start_reads blank (by decide) ?_
    rw [if_neg (by decide), if_pos rfl, opened]
    exact enclosed_reads (reads rest) (endObject_reads rest)

end Record

/-! ## Tagged records -/

namespace Tagged

variable {tagged : Tagged α} {levels : Nat} {members : List (String × Value)}

def memberLoop (tagged : Tagged α) (bounds : Bounds) (steps : Nat) (first : Bool)
    (state : Option (Value → Except Fault α) × List (String × Value)) :
    Reader ((Value → Except Fault α) × Value) :=
  tagged.readMembers bounds steps first state.1 state.2

theorem memberLoop_tag {name : String} {ofValue : Value → Except Fault α}
    (known : tagged.variant name = .ok ofValue) {bounds : Bounds} {limit : Nat}
    (enough : limit < bounds.steps) (taken : List (String × Value)) :
    StepsTo (tagged.memberLoop bounds) limit (none, taken) tagged.tag (.text name)
      (some ofValue, taken) := by
  intro steps first lead before front back body more rest result announces blankBefore
    blankFront blankBack written size follows continues
  have read := (Decoder.textAs_decodes "variant identifier" name bounds.levels).read
    le_rfl enough blankBack written size follows
  refine (nextKey_reads announces blankBefore tagged.tag _).bind ?_
  simp only [↓reduceIte]
  refine (colon_reads blankFront _).bind ?_
  refine Reads.bind (Reads.located (read.bind ?_)) continues
  rw [known]
  exact ofExcept_reads ofValue more

/-- The members after the tag are collected as they stand. -/
theorem memberLoop_runsThrough {bounds : Bounds} {limit : Nat} (enough : limit < bounds.steps)
    (untagged : ∀ member ∈ members, member.1 ≠ tagged.tag)
    (exportable : ∀ member ∈ members, Exportable bounds.levels member.2)
    (ofValue : Value → Except Fault α) :
    ∀ taken : List (String × Value),
      RunsThrough (tagged.memberLoop bounds) limit (some ofValue, taken) members
        (ofValue, .object (taken.reverse ++ members)) := by
  induction members with
  | nil =>
      intro taken
      refine .done fun rest blank => (nextKey_end blank _ rest).bind ?_
      simpa using pure_reads (ofValue, Value.object taken.reverse) _
  | cons member members induction =>
      intro taken
      obtain ⟨key, content⟩ := member
      obtain ⟨other, untagged⟩ := List.forall_mem_cons.mp untagged
      obtain ⟨here, exportable⟩ := List.forall_mem_cons.mp exportable
      have continues := induction untagged exportable ((key, content) :: taken)
      rw [List.reverse_cons, List.append_assoc] at continues
      refine .step ?_ continues
      intro steps first lead before front back body more rest result announces blankBefore
        blankFront blankBack written size follows continues
      refine (nextKey_reads announces blankBefore key _).bind ?_
      simp only [show key ≠ tagged.tag from other]
      refine (colon_reads blankFront _).bind ?_
      exact (readValue_takes here enough blankBack written size follows).bind continues

theorem splitMembers_some (untagged : ∀ member ∈ members, member.1 ≠ tagged.tag)
    (ofValue : Value → Except Fault α) :
    ∀ taken, tagged.splitMembers members (some ofValue) taken =
      ofValue (.object (taken.reverse ++ members)) := by
  induction members with
  | nil => intro taken; simp [splitMembers]
  | cons member members induction =>
      intro taken
      obtain ⟨other, untagged⟩ := List.forall_mem_cons.mp untagged
      simp [splitMembers, other, induction untagged]

/-- An object that opens with the tag is decoded as the variant the tag names. -/
theorem decoder_decodes {name : String} {ofValue : Value → Except Fault α} {result : α}
    (known : tagged.variant name = .ok ofValue) (built : ofValue (.object members) = .ok result)
    (untagged : ∀ member ∈ members, member.1 ≠ tagged.tag)
    (exportable : ∀ member ∈ members, Exportable levels member.2) :
    tagged.decoder.Decodes (levels + 1) (.object ((tagged.tag, .text name) :: members)) result where
  exportable := .object (List.forall_mem_cons.mpr ⟨.text name, exportable⟩)
  ofValue := by
    change tagged.splitMembers _ none [] = _
    have found : tagged.variantOf (.text name) = .ok ofValue := known
    simp only [splitMembers, found]
    exact (splitMembers_some untagged ofValue []).trans built
  read := by
    intro bounds limit deep enough gap text rest blank written size _
    obtain ⟨deeper, left, steps, opened⟩ := Decoder.exists_deeper deep
    rw [← steps] at enough
    have collected := memberLoop_runsThrough enough untagged
      (fun member listed => (exportable member listed).mono left) ofValue []
    have runs : RunsThrough (tagged.memberLoop deeper) limit (none, [])
        ((tagged.tag, .text name) :: members) (ofValue, .object members) :=
      .step (memberLoop_tag known enough []) collected
    obtain ⟨body, rfl, reads⟩ := runs.content written size enough
    refine Decoder.start_reads blank (by decide) ?_
    rw [if_neg (by decide), if_pos rfl, opened]
    refine (enclosed_reads (reads rest) (endObject_reads rest)).bind ?_
    simp only [built]
    exact ofExcept_reads result rest

end Tagged

end Records

/-! ## Whole texts -/

namespace Decoder

variable {α : Type}

theorem parse_of_reads {decoder : Decoder α} {text : String} {after : List Char} {result : α}
    (blank : Blank after)
    (reads : (decoder.read (Bounds.ofText text)).Reads text.toList result after) :
    decoder.parse text = .ok result := by
  have finish : peekToken.Reads (after ++ []) none [] := peekToken_reads blank (by simp)
  rw [List.append_nil] at finish
  obtain ⟨between, taken⟩ := reads .start
  obtain ⟨last, ended⟩ := finish between
  simp only [parse, Cursor.ofText, bind, EStateM.bind, taken, ended, pure, EStateM.pure]

/-- The value stands for the result: the decoder gives it from the value, from
the printed text and from every other layout of the value. -/
structure RoundTrips (decoder : Decoder α) (value : Value) (result : α) : Prop where
  ofValue : decoder.ofValue value = .ok result
  printed : decoder.parse value.pretty = .ok result
  laidOut : ∀ text, HeldBy value text → decoder.parse text = .ok result

theorem Decodes.roundTrips {decoder : Decoder α} {levels : Nat} {value : Value} {result : α}
    (decodes : decoder.Decodes levels value result) (shallow : levels ≤ 127) :
    decoder.RoundTrips value result := by
  have laidOut : ∀ text, HeldBy value text → decoder.parse text = .ok result := by
    rintro text ⟨before, body, after, blankBefore, written, blankAfter, whole⟩
    have size : body.length ≤ text.length := by
      rw [← String.length_toList, whole]
      simp
      omega
    have follows : Follows (after ++ []) := follows_append blankAfter (by simp [Follows])
    rw [List.append_nil] at follows
    have takes : (decoder.read (Bounds.ofText text)).Takes text.length value result :=
      decodes.read shallow (Nat.lt_succ_self _)
    have reads := takes blankBefore written size follows
    rw [← whole] at reads
    exact parse_of_reads blankAfter reads
  exact ⟨decodes.ofValue, laidOut _ decodes.exportable.heldBy_pretty, laidOut⟩

end Decoder

end InterfaceLint.Json
