import Contracts.Number.Shortest

/-!
# Runtime values

A checked argument carries no static type, so it travels as a `Value`. The shapes are the ones
the rules care about: absence, natural ordering, text, and collections with a number of
elements, either of a named element type or of none.
-/

namespace Contracts

/-- A dynamically typed value. -/
inductive Value where
  /-- The absent value. -/
  | null
  | bool (b : Bool)
  | int (i : Int64)
  | float (x : Binary64)
  | text (s : String)
  /-- A collection whose element type is unknown. -/
  | list (items : List Value)
  /-- A collection that knows its element type. -/
  | collection (element : String) (items : List Value)
  /-- A collection of named entries, in order of first appearance. -/
  | map (entries : List (String × Value))

namespace Value

instance : Inhabited Value := ⟨.null⟩

/-- The name of the shape, as configuration errors give it. -/
def kind : Value → String
  | .null => "null"
  | .bool _ => "bool"
  | .int _ => "int"
  | .float _ => "float"
  | .text _ => "text"
  | .list _ => "list"
  | .collection _ _ => "collection"
  | .map _ => "map"

/-- Whether the value is absent. -/
def isNull : Value → Bool
  | .null => true
  | _ => false

/-- The value unless it is absent. -/
def present : Value → Option Value
  | .null => none
  | v => some v

/-- The characters of a text. -/
def text? : Value → Option String
  | .text s => some s
  | _ => none

/-- The number of elements of a countable value; a text is counted in bytes. -/
def count? : Value → Option Nat
  | .text s => some s.utf8ByteSize
  | .list items => some items.length
  | .collection _ items => some items.length
  | .map entries => some entries.length
  | _ => none

/-- Write a value for a message: a scalar as it is, a collection by its size. -/
def display : Value → String
  | .null => "null"
  | .bool b => if b then "true" else "false"
  | .int i => toString i.toInt
  | .float x => x.display
  | .text s => s
  | .list items => "[" ++ toString items.length ++ " items]"
  | .collection element items => "[" ++ toString items.length ++ " " ++ element ++ " items]"
  | .map entries => "\x7b" ++ toString entries.length ++ " entries\x7d"

/-- Put an entry into a map: a new name goes to the end, a known one keeps its place. -/
def Entries.put (entries : List (String × Value)) (name : String) (value : Value) :
    List (String × Value) :=
  match entries with
  | [] => [(name, value)]
  | (n, v) :: rest => if n = name then (n, value) :: rest else (n, v) :: Entries.put rest name value

/-- The value of a name. -/
def Entries.get? (entries : List (String × Value)) (name : String) : Option Value :=
  (entries.find? (·.1 == name)).map (·.2)

/-- Put entries in order into an empty map. -/
def Entries.ofList (entries : List (String × Value)) : List (String × Value) :=
  entries.foldl (fun map entry => Entries.put map entry.1 entry.2) []

end Value

end Contracts
