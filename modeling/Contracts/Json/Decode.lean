import Contracts.Json.Basic
import Contracts.Text.Quoted

/-!
# Decoding documents

What a program wants of a document is described by its parts: scalars, lists, records with named
fields, and choices between named variants. Decoding goes through the document in text order and
ends at the first mismatch. A record may also be written as the list of its fields in their
declared order, and a variant without content as its name alone.

Documents come from several sources, which treat some badly formed places differently: from a
text that is decoded while it is read, from members set aside until the kind of their owner is
known, from a tree that was read before, from a table, and from layers of settings.
-/

namespace Contracts.Json

/-- What stands at a place where something else was wanted. -/
inductive Found where
  | null
  | bool (b : Bool)
  | integer (i : Int)
  | real (x : Binary64)
  | text (s : String)
  | sequence
  | map
  /-- The name of a variant without content. -/
  | unitVariant
  deriving DecidableEq

/-- Why a document is not what was wanted. -/
inductive Mismatch where
  /-- The text is not JSON. -/
  | unreadable
  /-- Something of another type was found. -/
  | wrongType (found : Found) (wanted : String)
  /-- Something of the right type but out of range was found. -/
  | wrongValue (found : Found) (wanted : String)
  /-- A list is too short or too long. -/
  | wrongLength (length : Nat) (wanted : String)
  | unknownField (name : String) (known : List String)
  | unknownVariant (name : String) (known : List String)
  | missingField (name : String)
  | duplicateField (name : String)
  deriving DecidableEq

/-- Describe what was found. -/
def Found.display : Found → String
  | .null => "null"
  | .bool b => "boolean \x60" ++ (if b then "true" else "false") ++ "\x60"
  | .integer i => "integer \x60" ++ toString i ++ "\x60"
  | .real x => "floating point \x60" ++ x.document ++ "\x60"
  | .text s => "string " ++ Text.quoted s
  | .sequence => "sequence"
  | .map => "map"
  | .unitVariant => "unit variant"

/-- List names for a choice: two of them with `or`, more of them after `one of`. -/
def displayChoice (names : List String) : String :=
  let tick (name : String) : String := "\x60" ++ name ++ "\x60"
  match names with
  | [] => "nothing"
  | [a] => tick a
  | [a, b] => tick a ++ " or " ++ tick b
  | names => "one of " ++ String.intercalate ", " (names.map tick)

/-- The wording of a mismatch. -/
def Mismatch.display : Mismatch → String
  | .unreadable => "expected value"
  | .wrongType found wanted => "invalid type: " ++ found.display ++ ", expected " ++ wanted
  | .wrongValue found wanted => "invalid value: " ++ found.display ++ ", expected " ++ wanted
  | .wrongLength length wanted =>
    "invalid length " ++ toString length ++ ", expected " ++ wanted
  | .unknownField name known =>
    "unknown field \x60" ++ name ++ "\x60, expected " ++ displayChoice known
  | .unknownVariant name known =>
    "unknown variant \x60" ++ name ++ "\x60, expected " ++ displayChoice known
  | .missingField name => "missing field \x60" ++ name ++ "\x60"
  | .duplicateField name => "duplicate field \x60" ++ name ++ "\x60"

/-- Where a document comes from. -/
inductive Source where
  /-- From a text that is decoded while it is read. -/
  | stream
  /-- From members that were set aside. -/
  | buffer
  /-- From a tree that was read before. -/
  | tree
  /-- From a table. -/
  | table
  /-- From layers of settings. -/
  | layers
  deriving DecidableEq

/-- The result of decoding. -/
abbrev Decoded := Except Mismatch

/-- A way to decode documents. -/
abbrev Decoder (α : Type) := Source → Json → Decoded α

/-- What a document is, for the description of a mismatch. -/
def found : Json → Found
  | .null => .null
  | .bool b => .bool b
  | .integer i => .integer i
  | .real x => .real x
  | .text s => .text s
  | .array _ => .sequence
  | .object _ => .map
  | .unreadable _ => .null
  | .torn container _ => container.found

/-- Refuse a document because it has another type. -/
def refuse {α : Type} (json : Json) (wanted : String) : Decoded α :=
  match json with
  | .unreadable _ => .error .unreadable
  | json => .error (.wrongType json.found wanted)

namespace Decoder

/-- A string. -/
def text : Decoder String
  | _, .text s => .ok s
  | _, json => json.refuse "a string"

/-- A truth value. -/
def bool : Decoder Bool
  | _, .bool b => .ok b
  | _, json => json.refuse "a boolean"

/-- An integer of a number of bits, with a sign. -/
def signed (bits : Nat) : Decoder Int
  | _, .integer i =>
    let limit := Int.ofNat (Nat.pow 2 (bits - 1))
    if -limit ≤ i ∧ i < limit then .ok i
    else .error (.wrongValue (.integer i) ("i" ++ toString bits))
  | _, json => json.refuse ("i" ++ toString bits)

/-- A number of any kind. -/
def number : Decoder Binary64
  | _, .integer i => .ok (Binary64.ofInt i)
  | _, .real x => .ok x
  | _, json => json.refuse "f64"

/-- Something that may be absent. -/
def optional {α : Type} (item : Decoder α) : Decoder (Option α)
  | _, .null => .ok none
  | source, json => (item source json).map some

/-- A list. -/
def list {α : Type} (item : Decoder α) : Decoder (List α)
  | source, .array items => items.mapM (item source)
  | source, .torn (.array items) _ => do
    let _ ← items.mapM (item source)
    .error .unreadable
  | _, json => json.refuse "a sequence"

end Decoder

/-- A field of a record that is being put together in a draft of type `δ`. -/
structure RecordField (δ : Type) where
  name : String
  /-- Whether the field must be there. -/
  required : Bool
  /-- Decode the field and put it into the draft. -/
  read : Source → Json → Decoded (δ → δ)

/-- A field with a decoder and the place it has in a draft. -/
def RecordField.of {δ α : Type} (name : String) (required : Bool) (decoder : Decoder α)
    (put : α → δ → δ) : RecordField δ :=
  ⟨name, required, fun source json => (decoder source json).map put⟩

/-- A record. -/
structure Record (δ : Type) where
  /-- What the record is called in mismatches. -/
  title : String
  /-- The draft with the defaults of all fields. -/
  blank : δ
  fields : List (RecordField δ)
  /-- Whether fields of other names are refused, and not passed over. -/
  strict : Bool := true

namespace Record

variable {δ : Type}

/-- The field of a name. -/
def field? (r : Record δ) (name : String) : Option (RecordField δ) :=
  r.fields.find? (·.name == name)

/-- Decode members in order, given the names that have been seen before and the draft so far. -/
def readMembers (r : Record δ) (source : Source) :
    List (String × Json) → List String → δ → Decoded (List String × δ)
  | [], seen, draft => .ok (seen, draft)
  | (name, json) :: rest, seen, draft =>
    match r.field? name with
    | none =>
      if r.strict then .error (.unknownField name (r.fields.map (·.name)))
      else if json.wellFormed then r.readMembers source rest seen draft
      else .error .unreadable
    | some field =>
      if seen.contains name then .error (.duplicateField name)
      else match field.read source json with
        | .error e => .error e
        | .ok put => r.readMembers source rest (name :: seen) (put draft)

/-- Decode a record from its members. -/
def ofMembers (r : Record δ) (source : Source) (members : List (String × Json)) : Decoded δ :=
  match r.readMembers source members [] r.blank with
  | .error e => .error e
  | .ok (seen, draft) =>
    match r.fields.find? fun field => field.required && !seen.contains field.name with
    | some field => .error (.missingField field.name)
    | none => .ok draft

/-- The title with the number of fields. -/
def titleWithLength (r : Record δ) : String :=
  r.title ++ " with " ++ toString r.fields.length ++
    (if r.fields.length = 1 then " element" else " elements")

/-- Decode items as the values of fields in their order, given the number of items before, and
return the items left over. When the items run out the rest of the fields take their defaults. -/
def readItems (r : Record δ) (source : Source) :
    List (RecordField δ) → List Json → Nat → δ → Decoded (List Json × δ)
  | [], items, _, draft => .ok (items, draft)
  | field :: fields, [], count, draft =>
    if field.required then .error (.wrongLength count r.titleWithLength)
    else r.readItems source fields [] (count + 1) draft
  | field :: fields, item :: items, count, draft =>
    match field.read source item with
    | .error e => .error e
    | .ok put => r.readItems source fields items (count + 1) (put draft)

/-- Decode a record from the list of its fields. -/
def ofItems (r : Record δ) (source : Source) (items : List Json) : Decoded δ :=
  match r.readItems source r.fields items 0 r.blank with
  | .error e => .error e
  | .ok ([], draft) => .ok draft
  | .ok (_ :: _, draft) =>
    match source with
    | .stream => .error .unreadable
    | .buffer =>
      .error (.wrongLength items.length
        (toString r.fields.length ++
          (if r.fields.length = 1 then " element" else " elements") ++ " in sequence"))
    | .tree => .error (.wrongLength items.length "fewer elements in array")
    | .table | .layers => .ok draft

/-- Decode a record. -/
def decoder (r : Record δ) : Decoder δ
  | source, .object members => r.ofMembers source members
  | source, .array items => r.ofItems source items
  | source, .torn (.object members) _ => do
    let _ ← r.readMembers source members [] r.blank
    .error .unreadable
  | source, .torn (.array items) _ => do
    -- fields that the text did not reach are no mismatch of their own
    let _ ← r.readItems source (r.fields.take items.length) items 0 r.blank
    .error .unreadable
  | _, json => json.refuse r.title

end Record

/-- A variant of a choice. -/
inductive Variant (α : Type) where
  /-- A variant that is its name alone. -/
  | unit (name : String) (value : α)
  /-- A variant with content. -/
  | content (name : String) (read : Source → Json → Decoded α)

namespace Variant

variable {α : Type}

/-- The name of a variant. -/
def name : Variant α → String
  | .unit name _ => name
  | .content name _ => name

/-- Whether a document counts as the content of a variant that has none. -/
def isUnit (source : Source) : Json → Bool
  | .null => true
  | .object [] => source == .buffer || source == .table
  | .array [] => source == .table
  | _ => false

/-- The variant of a name. -/
def find (variants : List (Variant α)) (name : String) : Decoded (Variant α) :=
  match variants.find? (·.name == name) with
  | some variant => .ok variant
  | none => .error (.unknownVariant name (variants.map (·.name)))

/-- Decode a variant from its name alone. -/
def ofName (variants : List (Variant α)) (name : String) : Decoded α := do
  match ← find variants name with
  | .unit _ value => .ok value
  | .content _ _ => .error (.wrongType .unitVariant "newtype variant")

/-- Decode a variant from its name and its content. -/
def ofMember (variants : List (Variant α)) (source : Source) (member : String × Json) :
    Decoded α := do
  match ← find variants member.1 with
  | .unit _ value => if isUnit source member.2 then .ok value else member.2.refuse "unit"
  | .content _ read => read source member.2

/-- Decode a choice: the name of a variant, or an object whose one member is named for it. -/
def decoder (variants : List (Variant α)) : Decoder α
  | _, .text name => ofName variants name
  | source, .object [member] => ofMember variants source member
  | .stream, .object (member :: _) => do
    let _ ← ofMember variants .stream member
    .error .unreadable
  | source, .torn (.object (member :: _)) _ => do
    let _ ← ofMember variants source member
    .error .unreadable
  | .stream, _ => .error .unreadable
  | _, .unreadable _ => .error .unreadable
  | _, .object _ => .error (.wrongValue .map "map with a single key")
  | _, json => .error (.wrongType json.found "string or map")

end Variant

end Contracts.Json
