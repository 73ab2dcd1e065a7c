import Contracts.Json.Printer

/-!
# Writing TOML text

A document is written table by table, the plain members of a table before the tables in it. A
string takes the plainest form that needs no escapes: between double quotes, between single
quotes, or either over several lines. Only a string that no form can hold as it is gets escapes.
-/

namespace Contracts.Toml

/-- A way to write a string. -/
inductive Quotation where
  /-- Between double quotes, with escapes. -/
  | basic
  /-- Between single quotes, without escapes. -/
  | literal
  /-- Between three double quotes, with escapes. -/
  | longBasic
  /-- Between three single quotes, without escapes. -/
  | longLiteral
  deriving DecidableEq

namespace Quotation

/-- What stands around a string. -/
def delimiter : Quotation → List Char
  | .basic => ['"']
  | .literal => ['\'']
  | .longBasic => ['"', '"', '"']
  | .longLiteral => ['\'', '\'', '\'']

/-- Whether a string may go over several lines. -/
def isLong : Quotation → Bool
  | .longBasic | .longLiteral => true
  | _ => false

/-- Whether a string has escapes. -/
def hasEscapes : Quotation → Bool
  | .basic | .longBasic => true
  | _ => false

/-- The longest run of a character. -/
def longestRun (c : Char) (cs : List Char) : Nat :=
  (cs.foldl (fun (here, longest) d =>
    let here := if d = c then here + 1 else 0
    (here, max here longest)) (0, 0)).2

/-- Whether a character is only written as an escape, whatever the form. -/
def isHidden (c : Char) : Bool := (c.toNat < 0x20 && c != '\t' && c != '\n') || c.toNat == 0x7F

/-- Whether a form holds a string without an escape. -/
def holds (q : Quotation) (cs : List Char) : Bool :=
  let quote := if q.hasEscapes then '"' else '\''
  !cs.any isHidden && (q.isLong || !cs.contains '\n') && !(q.hasEscapes && cs.contains '\\') &&
    longestRun quote cs ≤ (if q.isLong then 2 else 0)

/-- The form that a string is written in. -/
def ofText (cs : List Char) : Quotation :=
  match [Quotation.basic, .literal, .longBasic, .longLiteral].find? (·.holds cs) with
  | some q => q
  | none => if cs.contains '\n' then .longBasic else .basic

/-- Escape a character that is no quote. -/
def escape (long : Bool) (c : Char) : List Char :=
  match c with
  | '\x08' => ['\\', 'b']
  | '\t' => ['\\', 't']
  | '\x0c' => ['\\', 'f']
  | '\r' => ['\\', 'r']
  | '\\' => ['\\', '\\']
  | '\n' => if long then [c] else ['\\', 'n']
  | c =>
    if isHidden c then
      ['\\', 'u', '0', '0', Json.hexDigit (c.toNat / 16),
        (Json.hexDigit (c.toNat % 16)).toUpper]
    else [c]

/-- Escape a string, given how many quotes stand right before it. Over several lines two quotes
may stand side by side. -/
def escapeAll (long : Bool) : Nat → List Char → List Char
  | _, [] => []
  | quotes, '"' :: rest =>
    if quotes < (if long then 2 else 0) then '"' :: escapeAll long (quotes + 1) rest
    else '\\' :: '"' :: escapeAll long 0 rest
  | _, c :: rest => escape long c ++ escapeAll long 0 rest

/-- Write a string. -/
def write (q : Quotation) (cs : List Char) : List Char :=
  q.delimiter ++ (if q.isLong && cs.contains '\n' then ['\n'] else []) ++
    (if q.hasEscapes then escapeAll q.isLong 0 cs else cs) ++ q.delimiter

end Quotation

/-- Write a string in the form that suits it. -/
def string (s : String) : List Char := (Quotation.ofText s.toList).write s.toList

/-- Write a value that is no table. -/
def plainValue : Json → List Char
  | .text s => string s
  | value => value.compact

/-- Write the plain members of a table, each on a line. -/
def plainMembers (members : List (String × Json)) : List Char :=
  members.flatMap fun
    | (_, .object _) => []
    | (name, value) => name.toList ++ [' ', '=', ' '] ++ plainValue value ++ ['\n']

/-- Write the tables among the members of the table at a path, each with its header. -/
def tables (path : List String) : List (String × Json) → List Char
  | [] => []
  | (name, .object members) :: rest =>
    let path' := path ++ [name]
    '\n' :: '[' :: (String.intercalate "." path').toList ++ [']', '\n'] ++
      plainMembers members ++ tables path' members ++ tables path rest
  | _ :: rest => tables path rest

/-- Write a document. The names of its members must be words. -/
def document (members : List (String × Json)) : String :=
  String.ofList (plainMembers members ++ tables [] members)

end Contracts.Toml
