import Contracts.Json.Basic
import Contracts.Unicode.Character

/-!
# Settings in variables

A variable whose name begins with `WARDEN_` is a setting. The rest of the name, in lower case, is
the name of the setting, two underscores standing between the names of nested settings. The
value is a truth value, a number, a string or a character between quotes, a list between
brackets or a table between braces, and any other text stands for itself.
-/

namespace Contracts.Variable

/-- Whether a character is a blank of ASCII. -/
def isBlank (c : Char) : Bool := [' ', '\t', '\n', '\x0c', '\r'].contains c

/-- Drop the white space at both ends. -/
def trim (cs : List Char) : List Char :=
  (cs.dropWhile Unicode.isSpace).reverse.dropWhile Unicode.isSpace |>.reverse

/-- Drop blanks. -/
def dropBlank (cs : List Char) : List Char := cs.dropWhile isBlank

/-- Whether a character ends a word. -/
def isSeparator (c : Char) : Bool := [',', '\x7b', '\x7d', '[', ']'].contains c

/-- Whether a character belongs to a name without quotes. -/
def isNameChar (c : Char) : Bool := c.isAlphanum || c == '_' || c == '-'

/-- Whether a word is a number with a point in it, without its sign. -/
def isReal (cs : List Char) : Bool :=
  let whole := cs.takeWhile Char.isDigit
  let rest := cs.drop whole.length
  let places := (rest.drop 1).takeWhile Char.isDigit
  let power := rest.drop (1 + places.length)
  let size := if ['+', '-'].any (some · == (power.drop 1).head?) then power.drop 2 else power.drop 1
  rest.head? == some '.' && !(whole.isEmpty && places.isEmpty) &&
    (power.isEmpty || (['e', 'E'].any (some · == power.head?) && !size.isEmpty &&
      size.all Char.isDigit))

/-- The number of some digits. -/
def digits? (cs : List Char) : Option Nat :=
  if cs.isEmpty || !cs.all Char.isDigit then none
  else some (cs.foldl (fun n c => 10 * n + (c.toNat - '0'.toNat)) 0)

/-- The integer that a word is. -/
def integer? (cs : List Char) : Option Int :=
  match cs with
  | '-' :: rest => ((digits? rest).filter (· ≤ 9223372036854775808)).map fun n => -Int.ofNat n
  | '+' :: rest => ((digits? rest).filter (· < 18446744073709551616)).map Int.ofNat
  | cs => ((digits? cs).filter (· < 18446744073709551616)).map Int.ofNat

/-- The value of a word. A number with a point is known to be one, which is all that matters. -/
def word (cs : List Char) : Json :=
  let sign := cs.head? == some '-' || cs.head? == some '+'
  if isReal (if sign then cs.drop 1 else cs) then .real (.ofInt 0)
  else match integer? cs with
    | some i => .integer i
    | none => .text (String.ofList cs)

/-- The value of a digit in base sixteen. -/
def hexDigit? (c : Char) : Option Nat :=
  if c.isDigit then some (c.toNat - '0'.toNat)
  else if 'a' ≤ c ∧ c ≤ 'f' then some (c.toNat - 'a'.toNat + 10)
  else if 'A' ≤ c ∧ c ≤ 'F' then some (c.toNat - 'A'.toNat + 10)
  else none

/-- The character of a number in base sixteen. -/
def scalar? (cs : List Char) (places : Nat) : Option Char := do
  guard (cs.length = places)
  let n ← cs.foldlM (fun n c => (hexDigit? c).map (16 * n + ·)) 0
  guard (n < 0xD800 ∨ (0xE000 ≤ n ∧ n < 0x110000))
  return Char.ofNat n

/-- Whether a character may not stand in a string as it is. -/
def isControl (c : Char) : Bool := (c.toNat < 0x20 && c != '\t') || c.toNat == 0x7F

/-- Read a string behind its opening quote: its characters, last one first, and what follows the
closing quote. -/
def quoted? (cs read : List Char) : Option (List Char × List Char) :=
  match cs with
  | [] => none
  | '"' :: rest => some (read, rest)
  | '\\' :: 'b' :: rest => quoted? rest ('\x08' :: read)
  | '\\' :: 't' :: rest => quoted? rest ('\t' :: read)
  | '\\' :: 'n' :: rest => quoted? rest ('\n' :: read)
  | '\\' :: 'f' :: rest => quoted? rest ('\x0c' :: read)
  | '\\' :: 'r' :: rest => quoted? rest ('\r' :: read)
  | '\\' :: '"' :: rest => quoted? rest ('"' :: read)
  | '\\' :: '\\' :: rest => quoted? rest ('\\' :: read)
  | '\\' :: 'u' :: rest =>
    match scalar? (rest.take 4) 4 with
    | some c => quoted? (rest.drop 4) (c :: read)
    | none => none
  | '\\' :: 'U' :: rest =>
    match scalar? (rest.take 8) 8 with
    | some c => quoted? (rest.drop 8) (c :: read)
    | none => none
  | '\\' :: _ => none
  | c :: rest => if isControl c then none else quoted? rest (c :: read)
termination_by cs.length

/-- Read a string between double quotes. -/
def string? (cs : List Char) : Option (String × List Char) := do
  let (read, rest) ← quoted? (cs.drop 1) []
  return (String.ofList read.reverse, rest)

/-- Read the name of a member and the equals sign behind it. -/
def name? (cs : List Char) : Option (String × List Char) := do
  let cs := dropBlank cs
  let (name, cs) ←
    if cs.head? = some '"' then string? cs
    else
      let name := cs.takeWhile isNameChar
      if name.isEmpty then none else some (String.ofList name, cs.drop name.length)
  match dropBlank cs with
  | '=' :: rest => return (name, rest)
  | _ => none

mutual

/-- Read a value, with the blanks around it. -/
def value? (fuel : Nat) (cs : List Char) : Option (Json × List Char) :=
  match fuel with
  | 0 => none
  | fuel + 1 => do
    let (value, rest) ←
      match dropBlank cs with
      | 't' :: 'r' :: 'u' :: 'e' :: rest => some (.bool true, rest)
      | 'f' :: 'a' :: 'l' :: 's' :: 'e' :: rest => some (.bool false, rest)
      | '"' :: rest => (string? ('"' :: rest)).map fun (s, rest) => (Json.text s, rest)
      | '\'' :: c :: '\'' :: rest => some (.text (String.singleton c), rest)
      | '\'' :: _ => none
      | '[' :: rest => items? fuel rest []
      | '\x7b' :: rest => members? fuel rest []
      | cs =>
        let front := cs.takeWhile (!isSeparator ·)
        some (word (trim front), cs.drop front.length)
    return (value, dropBlank rest)

/-- Read the items of a list behind its bracket; the items so far, last one first. -/
def items? (fuel : Nat) (cs : List Char) (read : List Json) : Option (Json × List Char) :=
  match fuel with
  | 0 => none
  | fuel + 1 =>
    match cs with
    | ']' :: rest => some (.array read.reverse, rest)
    | cs => do
      let (item, rest) ← value? fuel cs
      match rest with
      | ',' :: rest => items? fuel rest (item :: read)
      | ']' :: rest => return (.array (item :: read).reverse, rest)
      | _ => none

/-- Read the members of a table behind its brace; the members so far, last one first. -/
def members? (fuel : Nat) (cs : List Char) (read : List (String × Json)) :
    Option (Json × List Char) :=
  match fuel with
  | 0 => none
  | fuel + 1 =>
    match cs with
    | '\x7d' :: rest => some (.object read.reverse, rest)
    | cs => do
      let (name, rest) ← name? cs
      let (value, rest) ← value? fuel rest
      let read := (name, value) :: read.filter (·.1 != name)
      match rest with
      | ',' :: rest => members? fuel rest read
      | '\x7d' :: rest => return (.object read.reverse, rest)
      | _ => none

end

/-- The value of a variable. A text that is no value as a whole stands for itself. -/
def value (text : String) : Json :=
  let cs := text.toList
  match value? (2 * cs.length + 2) cs with
  | some (v, []) => v
  | _ => .text text

/-- Split the name of a setting into the names of the settings that it is nested in. -/
def splitName : List Char → List (List Char)
  | [] => [[]]
  | '_' :: '_' :: rest => [] :: splitName rest
  | '.' :: rest => [] :: splitName rest
  | c :: rest =>
    match splitName rest with
    | [] => [[c]]
    | name :: names => (c :: name) :: names

/-- The path of the setting that a variable is for. White space around the whole name and around
what follows its beginning does not count, but the variables of the default log settings, which
are for no setting, are told without dropping it. -/
def path? (name : String) : Option (List String) :=
  let cs := (trim name.toList).map Char.toLower
  if ['w', 'a', 'r', 'd', 'e', 'n', '_'].isPrefixOf cs then
    let own := cs.drop 7
    let path := (splitName (trim own)).map String.ofList
    if ["log", "log_format"].contains (String.ofList own) || path.contains "" then none
    else some path
  else none

/-- The document that holds a value at a path. -/
def nest (value : Json) : List String → Json
  | [] => value
  | name :: path => .object [(name, nest value path)]

/-- The document of the setting that a variable holds. -/
def setting? (v : String × String) : Option Json :=
  (path? v.1).map (nest (value v.2))

end Contracts.Variable
