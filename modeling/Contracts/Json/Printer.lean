import Contracts.Json.Basic

/-!
# Writing JSON text

A document is written either on one line without blanks or indented by two blanks a level. In a
string only the quote, the backslash and the control characters are escaped.
-/

namespace Contracts.Json

/-- Write a digit below sixteen. -/
def hexDigit (n : Nat) : Char := Nat.digitChar n

/-- Escape one character of a string. -/
def escape (c : Char) : List Char :=
  match c with
  | '"' => ['\\', '"']
  | '\\' => ['\\', '\\']
  | '\x08' => ['\\', 'b']
  | '\x0c' => ['\\', 'f']
  | '\n' => ['\\', 'n']
  | '\r' => ['\\', 'r']
  | '\t' => ['\\', 't']
  | c =>
    if c.toNat < 0x20 then
      ['\\', 'u', '0', '0', hexDigit (c.toNat / 16), hexDigit (c.toNat % 16)]
    else [c]

/-- Write a string between quotes. -/
def quote (s : String) : List Char := '"' :: s.toList.flatMap escape ++ ['"']

/-- Write a value that is no container. -/
def scalar : Json → List Char
  | .bool true => ['t', 'r', 'u', 'e']
  | .bool false => ['f', 'a', 'l', 's', 'e']
  | .integer i => (toString i).toList
  | .real x => x.document.toList
  | .text s => quote s
  | _ => ['n', 'u', 'l', 'l']

mutual

/-- Write a document on one line. -/
def compact : Json → List Char
  | .array items => '[' :: compactItems items ++ [']']
  | .object members => '\x7b' :: compactMembers members ++ ['\x7d']
  | value => scalar value

/-- Write the items of an array, commas between them. -/
def compactItems : List Json → List Char
  | [] => []
  | [item] => compact item
  | item :: rest => compact item ++ ',' :: compactItems rest

/-- Write the members of an object, commas between them. -/
def compactMembers : List (String × Json) → List Char
  | [] => []
  | [(name, value)] => quote name ++ ':' :: compact value
  | (name, value) :: rest => quote name ++ ':' :: compact value ++ ',' :: compactMembers rest

end

/-- Start a new line at a level of indentation. -/
def newline (level : Nat) : List Char := '\n' :: List.replicate (2 * level) ' '

mutual

/-- Write a document over several lines, starting at a level of indentation. -/
def indented (level : Nat) : Json → List Char
  | .array [] => ['[', ']']
  | .array items => '[' :: indentedItems (level + 1) items ++ newline level ++ [']']
  | .object [] => ['\x7b', '\x7d']
  | .object members =>
    '\x7b' :: indentedMembers (level + 1) members ++ newline level ++ ['\x7d']
  | value => scalar value

/-- Write each item of an array on lines of its own. -/
def indentedItems (level : Nat) : List Json → List Char
  | [] => []
  | [item] => newline level ++ indented level item
  | item :: rest => newline level ++ indented level item ++ ',' :: indentedItems level rest

/-- Write each member of an object on lines of its own. -/
def indentedMembers (level : Nat) : List (String × Json) → List Char
  | [] => []
  | [(name, value)] => newline level ++ quote name ++ [':', ' '] ++ indented level value
  | (name, value) :: rest =>
    newline level ++ quote name ++ [':', ' '] ++ indented level value ++
      ',' :: indentedMembers level rest

end

/-- The document on one line. -/
def toCompact (json : Json) : String := String.ofList json.compact

/-- The document indented by two blanks a level. -/
def toIndented (json : Json) : String := String.ofList (json.indented 0)

end Contracts.Json
