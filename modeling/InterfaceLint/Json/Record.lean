import InterfaceLint.Json.Decoder

/-!
# Records and tagged records

A record has named fields in a fixed order and starts from a blank value that
holds the defaults.  An object gives fields by name: unknown names are passed
over, a name given twice and a missing required field are faults.  A list
gives fields by position.

A tagged record says in one member which of several records the others make
up.
-/

set_option autoImplicit false

namespace InterfaceLint.Json

/-- One field of a record: how a value given for it changes the record. -/
structure Field (σ : Type) where
  name : String
  required : Bool
  read : Bounds → Reader (σ → σ)
  ofValue : Value → Except Fault (σ → σ)

namespace Field

variable {σ α : Type}

def make (name : String) (required : Bool) (decoder : Decoder α) (set : σ → α → σ) : Field σ where
  name
  required
  read bounds := (fun value record => set record value) <$> decoder.read bounds
  ofValue value := (fun value record => set record value) <$> decoder.ofValue value

def mandatory (name : String) (decoder : Decoder α) (set : σ → α → σ) : Field σ :=
  make name true decoder set

def defaulted (name : String) (decoder : Decoder α) (set : σ → α → σ) : Field σ :=
  make name false decoder set

end Field

/-- A record type: its name in messages, its defaults and its fields. -/
structure Record (σ : Type) where
  name : String
  blank : σ
  fields : List (Field σ)

def elementCount (count : Nat) : String :=
  toString count ++ (if count = 1 then " element" else " elements")

namespace Record

variable {σ : Type}

def find? (record : Record σ) (key : String) : Option (Field σ) :=
  record.fields.find? fun field => field.name = key

def expected (record : Record σ) : String := "struct " ++ record.name

def expectedLength (record : Record σ) : String :=
  record.expected ++ " with " ++ elementCount record.fields.length

def missing? (record : Record σ) (given : List String) : Option Fault :=
  (record.fields.find? fun field => field.required && !given.contains field.name).map
    fun field => .missingField field.name

def finish (record : Record σ) (given : List String) (value : σ) : Except Fault σ :=
  match record.missing? given with
  | some fault => .error fault
  | none => .ok value

/-! ## From text -/

/-- Read the remaining members of an object; `given` holds the fields set. -/
def readMembers (record : Record σ) (bounds : Bounds) :
    Nat → Bool → List String → σ → Reader σ
  | 0, _, _, _ => Reader.fail .endOfObject
  | steps + 1, first, given, value => do
    match ← Reader.nextKey first with
    | none => Reader.ofExcept (record.finish given value)
    | some key =>
      match record.find? key with
      | none =>
        Reader.colon
        skipValue bounds.steps
        readMembers record bounds steps false given value
      | some field =>
        if given.contains key then Reader.raise (.repeatedField key)
        else
          Reader.colon
          let set ← field.read bounds
          readMembers record bounds steps false (key :: given) (set value)

/-- Read the elements of a list into the given fields; `index` counts those
before them. -/
def readElements (record : Record σ) (bounds : Bounds) :
    List (Field σ) → Nat → Bool → σ → Reader σ
  | [], _, _, value => pure value
  | field :: fields, index, first, value => do
    if ← Reader.nextElement first then
      let set ← field.read bounds
      readElements record bounds fields (index + 1) false (set value)
    else if field.required then Reader.raise (.wrongLength index record.expectedLength)
    else readElements record bounds fields (index + 1) first value

def read (record : Record σ) (bounds : Bounds) : Reader σ := do
  let c ← Decoder.start
  if c = '[' then
    Reader.nested bounds
      (fun bounds => record.readElements bounds record.fields 0 true record.blank)
      Reader.endList
  else if c = '\x7b' then
    Reader.nested bounds
      (fun bounds => record.readMembers bounds bounds.steps true [] record.blank)
      Reader.endObject
  else mismatch record.expected

/-! ## From a value -/

def ofMembers (record : Record σ) : List (String × Value) → List String → σ → Except Fault σ
  | [], given, value => record.finish given value
  | (key, content) :: members, given, value =>
    match record.find? key with
    | none => ofMembers record members given value
    | some field =>
      if given.contains key then .error (.repeatedField key)
      else do
        let set ← field.ofValue content
        ofMembers record members (key :: given) (set value)

/-- Set the given fields from the elements of a list; the elements left over
are returned. -/
def ofElements (record : Record σ) :
    List (Field σ) → Nat → List Value → σ → Except Fault (σ × List Value)
  | [], _, items, value => .ok (value, items)
  | field :: fields, index, item :: items, value => do
    let set ← field.ofValue item
    ofElements record fields (index + 1) items (set value)
  | field :: fields, index, [], value =>
    if field.required then .error (.wrongLength index record.expectedLength)
    else ofElements record fields (index + 1) [] value

def ofValue (record : Record σ) : Value → Except Fault σ
  | .list items => do
    let (value, rest) ← record.ofElements record.fields 0 items record.blank
    if rest.isEmpty then pure value
    else
      .error (.wrongLength items.length
        (elementCount (items.length - rest.length) ++ " in sequence"))
  | .object members => record.ofMembers members [] record.blank
  | other => Decoder.wrongType other record.expected

def decoder (record : Record σ) : Decoder σ where
  read := record.read
  ofValue := record.ofValue

end Record

/-! ## Tagged records -/

/-- Several record types told apart by the text in one member. -/
structure Tagged (α : Type) where
  name : String
  tag : String
  variants : List (String × (Value → Except Fault α))

namespace Tagged

variable {α : Type}

def expected (tagged : Tagged α) : String := "internally tagged enum " ++ tagged.name

def variant (tagged : Tagged α) (name : String) : Except Fault (Value → Except Fault α) :=
  match tagged.variants.find? fun (known, _) => known = name with
  | some (_, ofValue) => .ok ofValue
  | none => .error (.unknownVariant name (tagged.variants.map Prod.fst))

def tagText : Decoder String := Decoder.textAs "variant identifier"

def readTag (tagged : Tagged α) (bounds : Bounds) : Reader (Value → Except Fault α) :=
  Reader.located do Reader.ofExcept (tagged.variant (← tagText.read bounds))

def readMembers (tagged : Tagged α) (bounds : Bounds) :
    Nat → Bool → Option (Value → Except Fault α) → List (String × Value) →
      Reader ((Value → Except Fault α) × Value)
  | 0, _, _, _ => Reader.fail .endOfObject
  | steps + 1, first, tag, taken => do
    match ← Reader.nextKey first with
    | none =>
      match tag with
      | some ofValue => pure (ofValue, .object taken.reverse)
      | none => Reader.raise (.missingField tagged.tag)
    | some key =>
      if key = tagged.tag then
        if tag.isSome then Reader.raise (.repeatedField tagged.tag)
        else
          Reader.colon
          let ofValue ← tagged.readTag bounds
          readMembers tagged bounds steps false (some ofValue) taken
      else
        Reader.colon
        let value ← readValue bounds.steps bounds.levels
        readMembers tagged bounds steps false tag ((key, value) :: taken)

def readElements (tagged : Tagged α) (bounds : Bounds) :
    Reader ((Value → Except Fault α) × Value) := do
  if ← Reader.nextElement true then
    let ofValue ← tagged.readTag bounds
    let items ← Reader.elements (readValue bounds.steps bounds.levels) bounds.steps false []
    pure (ofValue, .list items)
  else Reader.raise (.missingField tagged.tag)

/-- The record itself is built once the container has been read, so its
faults have no position of their own. -/
def read (tagged : Tagged α) (bounds : Bounds) : Reader α := do
  let c ← Decoder.start
  let (ofValue, content) ←
    if c = '[' then Reader.nested bounds tagged.readElements Reader.endList
    else if c = '\x7b' then
      Reader.nested bounds (fun bounds => tagged.readMembers bounds bounds.steps true none [])
        Reader.endObject
    else mismatch tagged.expected
  Reader.ofExcept (ofValue content)

def variantOf (tagged : Tagged α) (tag : Value) : Except Fault (Value → Except Fault α) := do
  tagged.variant (← tagText.ofValue tag)

def splitMembers (tagged : Tagged α) :
    List (String × Value) → Option (Value → Except Fault α) → List (String × Value) → Except Fault α
  | [], some ofValue, taken => ofValue (.object taken.reverse)
  | [], none, _ => .error (.missingField tagged.tag)
  | (key, value) :: members, tag, taken =>
    if key = tagged.tag then
      if tag.isSome then .error (.repeatedField tagged.tag)
      else do splitMembers tagged members (some (← tagged.variantOf value)) taken
    else splitMembers tagged members tag ((key, value) :: taken)

def ofValue (tagged : Tagged α) : Value → Except Fault α
  | .list [] => .error (.missingField tagged.tag)
  | .list (tag :: items) => do (← tagged.variantOf tag) (.list items)
  | .object members => tagged.splitMembers members none []
  | other => Decoder.wrongType other tagged.expected

def decoder (tagged : Tagged α) : Decoder α where
  read := tagged.read
  ofValue := tagged.ofValue

end Tagged

end InterfaceLint.Json
