import Contracts.Json.Number

/-!
# Words of JSON text

The text is cut into punctuation, strings, numbers and the three literals. Blanks between them
are dropped. Where no word can be read the cutting ends with `unknown`: nothing behind that place
is looked at.
-/

namespace Contracts.Json

/-- A word of JSON text. -/
inductive Token where
  | openArray
  | closeArray
  | openObject
  | closeObject
  | comma
  | colon
  /-- A string, a number or a literal. -/
  | scalar (value : Json)
  /-- A string with half a pair of escapes, which stands for no text. -/
  | halfText
  /-- The place where the text stops being JSON. -/
  | unknown

namespace Token

/-- Whether a character only separates words. -/
def isBlank (c : Char) : Bool := c == ' ' || c == '\t' || c == '\n' || c == '\r'

/-- The value of a hexadecimal digit. -/
def hexDigit? (c : Char) : Option Nat :=
  if '0' ≤ c ∧ c ≤ '9' then some (c.toNat - '0'.toNat)
  else if 'a' ≤ c ∧ c ≤ 'f' then some (c.toNat - 'a'.toNat + 10)
  else if 'A' ≤ c ∧ c ≤ 'F' then some (c.toNat - 'A'.toNat + 10)
  else none

/-- The value of four hexadecimal digits. -/
def hexQuad? : List Char → Option Nat
  | [a, b, c, d] => do
    let a ← hexDigit? a
    let b ← hexDigit? b
    let c ← hexDigit? c
    let d ← hexDigit? d
    some (((a * 16 + b) * 16 + c) * 16 + d)
  | _ => none

/-- The character of a one-letter escape. -/
def escaped? : Char → Option Char
  | '"' => some '"'
  | '\\' => some '\\'
  | '/' => some '/'
  | 'b' => some '\x08'
  | 'f' => some '\x0c'
  | 'n' => some '\n'
  | 'r' => some '\r'
  | 't' => some '\t'
  | _ => none

/-- The second half of a pair of escapes. -/
def lowHalf? (text : List Char) : Option Nat := do
  guard (text.take 2 = ['\\', 'u'])
  let unit ← hexQuad? (text.drop 2 |>.take 4)
  guard (0xDC00 ≤ unit ∧ unit < 0xE000)
  some unit

/-- A numbered escape behind `\u`: the character and the characters it takes. A character beyond
the first plane is a pair of escapes, and half a pair is no character. -/
def numbered? (text : List Char) : Option (Option Char × Nat) := do
  let unit ← hexQuad? (text.take 4)
  if 0xD800 ≤ unit ∧ unit < 0xDC00 then
    match lowHalf? (text.drop 4) with
    | some low =>
      some (some (Char.ofNat (0x10000 + (unit - 0xD800) * 0x400 + (low - 0xDC00))), 10)
    | none => some (none, 4)
  else if 0xDC00 ≤ unit ∧ unit < 0xE000 then some (none, 4)
  else some (some (Char.ofNat unit), 4)

/-- Put a character on the characters read before, unless one of them is none. -/
def push (c : Char) (read : Option (List Char)) : Option (List Char) := read.map (c :: ·)

/-- Read a string behind its opening quote: its characters, last one first, none if there is half
a pair of escapes among them, and the characters it takes with the closing quote. -/
def string? (text : List Char) (read : Option (List Char)) (used : Nat) :
    Option (Option (List Char) × Nat) :=
  match text with
  | [] => none
  | '"' :: _ => some (read, used + 1)
  | '\\' :: 'u' :: rest =>
    match numbered? rest with
    | some (c, n) => string? (rest.drop n) (c.bind (push · read)) (used + 2 + n)
    | none => none
  | '\\' :: e :: rest =>
    match escaped? e with
    | some c => string? rest (push c read) (used + 2)
    | none => none
  | '\\' :: [] => none
  | c :: rest => if c.toNat < 0x20 then none else string? rest (push c read) (used + 1)
termination_by text.length

/-- Cut off the word that starts with `c`, and count the further characters it takes. -/
def first (c : Char) (rest : List Char) : Token × Nat :=
  let literal (tail : List Char) (value : Json) : Token × Nat :=
    if rest.take tail.length = tail then (.scalar value, tail.length) else (.unknown, 0)
  match c with
  | '[' => (.openArray, 0)
  | ']' => (.closeArray, 0)
  | '{' => (.openObject, 0)
  | '}' => (.closeObject, 0)
  | ',' => (.comma, 0)
  | ':' => (.colon, 0)
  | 'n' => literal ['u', 'l', 'l'] .null
  | 't' => literal ['r', 'u', 'e'] (.bool true)
  | 'f' => literal ['a', 'l', 's', 'e'] (.bool false)
  | '"' =>
    match string? rest (some []) 0 with
    | some (some read, used) => (.scalar (.text (String.ofList read.reverse)), used)
    | some (none, used) => (.halfText, used)
    | none => (.unknown, 0)
  | c =>
    match Number.read (c :: rest) with
    | some (value, used) => (.scalar value, used - 1)
    | none => (.unknown, 0)

/-- Cut a text into words. -/
def cut : List Char → List Token
  | [] => []
  | c :: rest =>
    if isBlank c then cut rest
    else match first c rest with
      | (.unknown, _) => [.unknown]
      | (token, used) => token :: cut (rest.drop used)
termination_by text => text.length

end Token

end Contracts.Json
