import Contracts.Json.Decode
import Contracts.Value.Basic

/-!
# Values as JSON

Every JSON document denotes a value. An object is a typed collection when it has exactly the
members `element`, a string, and `items`, an array that may be left out; otherwise it is a map.

A document may also be turned into a tree without repeated names first, its members in the order
of their names, and the tree into a value; there `items` may not be left out.

The other way round, a value is written as the document one would expect, and a number that is
not finite, for which JSON has no spelling, as `null`.
-/

namespace Contracts.Value

/-- The value of an integer, which leaves the integers when it has more than 64 bits. -/
def ofInteger (i : Int) : Value :=
  if Int64.minValue.toInt ≤ i ∧ i ≤ Int64.maxValue.toInt then .int (Int64.ofInt i)
  else .float (Binary64.ofInt i)

/-- The value of an object's members. -/
def ofMembers : List (String × Value) → Value
  | [("element", .text element)] => .collection element []
  | [("element", .text element), ("items", .list items)] => .collection element items
  | [("items", .list items), ("element", .text element)] => .collection element items
  | members => .map (Entries.ofList members)

mutual

/-- The value of a document; a place that could not be read has none and gives `null`. -/
def ofJson : Json → Value
  | .null => .null
  | .bool b => .bool b
  | .integer i => ofInteger i
  | .real x => .float x
  | .text s => .text s
  | .array items => .list (ofItems items)
  | .object members => ofMembers (ofNamed members)
  | .unreadable _ => .null
  | .torn _ _ => .null

/-- The values of a list of documents. -/
def ofItems : List Json → List Value
  | [] => []
  | item :: rest => ofJson item :: ofItems rest

/-- The values of a list of members. -/
def ofNamed : List (String × Json) → List (String × Value)
  | [] => []
  | (name, value) :: rest => (name, ofJson value) :: ofNamed rest

end

/-- Put a member into members ordered by name; a known name takes the new value. -/
def insertByName (name : String) (value : Value) : List (String × Value) → List (String × Value)
  | [] => [(name, value)]
  | (n, v) :: rest =>
    if name < n then (name, value) :: (n, v) :: rest
    else if n = name then (name, value) :: rest
    else (n, v) :: insertByName name value rest

/-- Order members by name, the last value of a repeated name. -/
def sortByName (members : List (String × Value)) : List (String × Value) :=
  members.foldl (fun sorted member => insertByName member.1 member.2 sorted) []

/-- The value of an object's ordered members. -/
def ofSorted : List (String × Value) → Value
  | [("element", .text element), ("items", .list items)] => .collection element items
  | members => .map members

mutual

/-- The value of a document read as a tree without repeated names. -/
def ofTree : Json → Value
  | .null => .null
  | .bool b => .bool b
  | .integer i => ofInteger i
  | .real x => .float x
  | .text s => .text s
  | .array items => .list (ofTrees items)
  | .object members => ofSorted (sortByName (ofNamedTrees members))
  | .unreadable _ => .null
  | .torn _ _ => .null

/-- The values of a list of trees. -/
def ofTrees : List Json → List Value
  | [] => []
  | item :: rest => ofTree item :: ofTrees rest

/-- The values of a list of named trees. -/
def ofNamedTrees : List (String × Json) → List (String × Value)
  | [] => []
  | (name, value) :: rest => (name, ofTree value) :: ofNamedTrees rest

end

/-- Decode a value, which every document denotes. -/
def decoder : Json.Decoder Value
  | _, json => if json.readable then .ok (.ofJson json) else .error .unreadable

/-- The record of a typed collection. -/
def collectionRecord : Json.Record (String × List Value) where
  title := "struct TypedCollection"
  blank := ("", [])
  fields := [
    .of "element" true Json.Decoder.text fun element c => (element, c.2),
    .of "items" false (Json.Decoder.list decoder) fun items c => (c.1, items)]

/-- Decode a typed collection. -/
def collectionDecoder : Json.Decoder Value := fun source json =>
  (collectionRecord.decoder source json).map fun c => .collection c.1 c.2

mutual

/-- Write a value as a document. -/
def toJson : Value → Json
  | .null => .null
  | .bool b => .bool b
  | .int i => .integer i.toInt
  | .float x => if x.isFinite then .real x else .null
  | .text s => .text s
  | .list items => .array (toItems items)
  | .collection element items =>
    .object [("element", .text element), ("items", .array (toItems items))]
  | .map entries => .object (toMembers entries)

/-- Write a list of values. -/
def toItems : List Value → List Json
  | [] => []
  | item :: rest => toJson item :: toItems rest

/-- Write a list of entries. -/
def toMembers : List (String × Value) → List (String × Json)
  | [] => []
  | (name, value) :: rest => (name, toJson value) :: toMembers rest

end

end Contracts.Value
