import Contracts.Json.Basic

/-!
# TOML tables

A table comes into being by its header, by a dotted key, or because it lies on the way to
another one, and each table is defined once: a header may still define a table that only lay on
the way, a dotted key may still add to one that dotted keys made, and nothing adds to a table
written inline.
-/

namespace Contracts.Toml

/-- How a table came into being. -/
inductive Origin where
  /-- By its header. -/
  | header
  /-- On the way of a header. -/
  | passed
  /-- By a dotted key. -/
  | dotted
  deriving DecidableEq

/-- What a key of a table leads to. -/
inductive Item where
  /-- A value that is complete, be it a scalar, an array or an inline table. -/
  | value (v : Json)
  /-- A table that may grow. -/
  | table (origin : Origin) (entries : List (String × Item))
  /-- An array of tables, the last one first. -/
  | tables (items : List (List (String × Item)))

/-- The entries of a table. -/
abbrev Entries := List (String × Item)

namespace Entries

/-- What a key leads to. -/
def get? (entries : Entries) (key : String) : Option Item :=
  (entries.find? (·.1 == key)).map (·.2)

/-- Put an item where its key stands, or else at the end. -/
def put (entries : Entries) (key : String) (item : Item) : Entries :=
  match entries with
  | [] => [(key, item)]
  | (k, i) :: rest => if k = key then (key, item) :: rest else (k, i) :: put rest key item

/-- Change the table at the end of a path. Tables on the way that do not exist yet are made; of
an array of tables the last one counts. A dotted key may not pass through a table that has a
header of its own. -/
def change (byKey : Bool) (act : Origin → Entries → Option Entries) :
    List String → Origin → Entries → Option Entries
  | [], origin, entries => act origin entries
  | key :: path, _, entries =>
    let fresh := if byKey then Origin.dotted else .passed
    match get? entries key with
    | none => (change byKey act path fresh []).map fun inner =>
        put entries key (.table fresh inner)
    | some (.table origin inner) =>
      if byKey && origin == .header then none
      else (change byKey act path origin inner).map fun inner =>
        put entries key (.table origin inner)
    | some (.tables (last :: others)) =>
      (change byKey act path .header last).map fun last =>
        put entries key (.tables (last :: others))
    | some _ => none

/-- Give a key of a table its value. A table of dotted keys takes only those, and every other
table only plain ones. -/
def assign (path : List String) (key : String) (v : Json) (origin : Origin) (entries : Entries) :
    Option Entries :=
  change true (fun origin entries =>
    if (origin == .dotted) == path.isEmpty then none
    else match get? entries key with
      | some _ => none
      | none => some (put entries key (.value v))) path origin entries

/-- Define a table by its header. -/
def define (path : List String) (key : String) (root : Entries) : Option Entries :=
  change false (fun _ entries =>
    match get? entries key with
    | none => some (put entries key (.table .header []))
    | some (.table .passed inner) => some (put entries key (.table .header inner))
    | some _ => none) path .header root

/-- Add a table to an array of tables by its header. -/
def append (path : List String) (key : String) (root : Entries) : Option Entries :=
  change false (fun _ entries =>
    match get? entries key with
    | none => some (put entries key (.tables [[]]))
    | some (.tables items) => some (put entries key (.tables ([] :: items)))
    | some _ => none) path .header root

end Entries

/-- Insert a member into members ordered by name. -/
def insertMember (name : String) (json : Json) : List (String × Json) → List (String × Json)
  | [] => [(name, json)]
  | (n, j) :: rest =>
    if name < n then (name, json) :: (n, j) :: rest else (n, j) :: insertMember name json rest

mutual

/-- The document of an item. -/
def Item.toJson : Item → Json
  | .value v => v
  | .table _ entries => .object (Entries.toMembers entries)
  | .tables items => .array (Entries.toObjects items).reverse

/-- The members of a table in the order of their names. -/
def Entries.toMembers : Entries → List (String × Json)
  | [] => []
  | (name, item) :: rest => insertMember name item.toJson (Entries.toMembers rest)

/-- The objects of some tables. -/
def Entries.toObjects : List Entries → List Json
  | [] => []
  | entries :: rest => .object (Entries.toMembers entries) :: Entries.toObjects rest

end

end Contracts.Toml
