import Contracts.Toml.Scalar
import Contracts.Toml.Table

/-!
# Reading TOML text

The text is read line by line, although a value may go on over several lines. The lines build up
the tables; once the text is read they become a document.
-/

namespace Contracts.Toml

/-- Drop blanks. -/
def dropBlank (cs : List Char) : List Char := cs.dropWhile fun c => c == ' ' || c == '\t'

/-- Drop a comment, if one comes next; none if it holds what may not stand in a text. -/
def dropComment? (cs : List Char) : Option (List Char) :=
  match cs with
  | '#' :: rest =>
    let body := rest.takeWhile (· != '\n')
    let body := if body.getLast? == some '\r' ∧ body.length < rest.length then body.dropLast
      else body
    if body.any isControl then none else some (rest.drop body.length)
  | cs => some cs

/-- Drop a line break; none if there is none and the text goes on. -/
def dropLineEnd? (cs : List Char) : Option (List Char) :=
  match cs with
  | [] => some []
  | '\n' :: rest => some rest
  | '\r' :: '\n' :: rest => some rest
  | _ => none

/-- Drop what may stand behind the last word of a line, and the line break. -/
def finishLine? (cs : List Char) : Option (List Char) := do
  dropLineEnd? (← dropComment? (dropBlank cs))

/-- Drop blanks, comments and line breaks. -/
def dropTrivia? (fuel : Nat) (cs : List Char) : Option (List Char) :=
  match fuel with
  | 0 => some cs
  | fuel + 1 => do
    let cs ← dropComment? (dropBlank cs)
    match cs with
    | '\n' :: rest => dropTrivia? fuel rest
    | '\r' :: '\n' :: rest => dropTrivia? fuel rest
    | cs => return cs

/-- Whether a character belongs to a key without quotes. -/
def isKeyChar (c : Char) : Bool := c.isAlphanum || c == '_' || c == '-'

/-- Read one part of a key, with the blanks around it. -/
def keyPart? (edition : Edition) (cs : List Char) : Option (String × List Char) := do
  let cs := dropBlank cs
  let (part, rest) ←
    match cs.head? with
    | some '"' | some '\'' =>
      let quote := cs.head?
      if (cs.drop 1).head? = quote ∧ (cs.drop 2).head? = quote then none
      else Text.read? edition cs
    | _ =>
      let front := cs.takeWhile isKeyChar
      if front.isEmpty then none else some (String.ofList front, cs.drop front.length)
  return (part, dropBlank rest)

/-- The deepest nesting of arrays and inline tables, and the largest number of parts of a key. -/
def Edition.deepest : Edition → Nat
  | .v10 => 79
  | .v11 => 80

/-- Read a key of at most so many parts: its parts before the last one, the last one, and what
follows. -/
def keyWithin? (parts : Nat) (edition : Edition) (cs : List Char) :
    Option (List String × String × List Char) :=
  match parts with
  | 0 => none
  | parts + 1 => do
    let (part, rest) ← keyPart? edition cs
    match rest with
    | '.' :: rest => do
      let (path, last, rest) ← keyWithin? parts edition rest
      return (part :: path, last, rest)
    | rest => return ([], part, rest)

/-- Read a key. -/
def key? (edition : Edition) (cs : List Char) : Option (List String × String × List Char) :=
  keyWithin? edition.deepest edition cs

mutual

/-- Read a value: the value and what follows it. -/
def value? (fuel : Nat) (edition : Edition) (depth : Nat) (cs : List Char) :
    Option (Json × List Char) :=
  match fuel with
  | 0 => none
  | fuel + 1 =>
    match cs with
    | '[' :: rest =>
      if depth < edition.deepest then items? fuel edition (depth + 1) rest [] else none
    | '\x7b' :: rest =>
      if depth < edition.deepest then members? fuel edition (depth + 1) rest [] else none
    | '"' :: _ | '\'' :: _ =>
      (Text.read? edition cs).map fun (s, rest) => (.text s, rest)
    | cs =>
      let (front, rest) := word cs
      (plain? edition front).map fun v => (v, rest)

/-- Read the items of an array behind its bracket; the items so far, last one first. -/
def items? (fuel : Nat) (edition : Edition) (depth : Nat) (cs : List Char) (read : List Json) :
    Option (Json × List Char) :=
  match fuel with
  | 0 => none
  | fuel + 1 => do
    let cs ← dropTrivia? fuel cs
    if cs.head? = some ']' then return (.array read.reverse, cs.drop 1)
    let (item, cs) ← value? fuel edition depth cs
    let cs ← dropTrivia? fuel cs
    match cs with
    | ',' :: rest => items? fuel edition depth rest (item :: read)
    | ']' :: rest => return (.array (item :: read).reverse, rest)
    | _ => none

/-- Read the members of an inline table behind its brace. -/
def members? (fuel : Nat) (edition : Edition) (depth : Nat) (cs : List Char) (read : Entries) :
    Option (Json × List Char) :=
  match fuel with
  | 0 => none
  | fuel + 1 => do
    let skip := fun cs => if edition = .v11 then dropTrivia? fuel cs else some (dropBlank cs)
    let cs ← skip cs
    -- a comma may stand before the closing brace in version 1.1 only
    if cs.head? = some '\x7d' then
      guard (edition = .v11 ∨ read.isEmpty)
      return (.object read.toMembers, cs.drop 1)
    let (path, key, cs) ← key? edition cs
    let cs ← skip (← expect? '=' (← skip cs))
    let (v, cs) ← value? fuel edition depth cs
    let read ← Entries.assign path key v .header read
    let cs ← skip cs
    match cs with
    | ',' :: rest => members? fuel edition depth rest read
    | '\x7d' :: rest => return (.object read.toMembers, rest)
    | _ => none

end

/-- What has been read: all tables, and the path of the table that the next keys belong to. -/
structure Progress where
  root : Entries
  path : List String

/-- Read a header behind its first bracket. -/
def header? (edition : Edition) (p : Progress) (cs : List Char) :
    Option (Progress × List Char) := do
  let array := cs.head? == some '['
  let cs := if array then cs.drop 1 else cs
  let (path, key, cs) ← key? edition cs
  let cs ← expect? ']' cs
  let cs ← if array then expect? ']' cs else some cs
  let root ← if array then Entries.append path key p.root else Entries.define path key p.root
  return (⟨root, path ++ [key]⟩, cs)

/-- Read a key and its value. -/
def assignment? (edition : Edition) (p : Progress) (cs : List Char) :
    Option (Progress × List Char) := do
  let (path, key, cs) ← key? edition cs
  let cs ← expect? '=' cs
  let (v, cs) ← value? (2 * cs.length + 2) edition 0 (dropBlank cs)
  let root ← Entries.change false (Entries.assign path key v) p.path .header p.root
  return ({ p with root }, cs)

/-- Read lines to the end of the text. -/
def lines? (fuel : Nat) (edition : Edition) (p : Progress) (cs : List Char) : Option Progress :=
  match fuel with
  | 0 => some p
  | fuel + 1 =>
    match dropBlank cs with
    | [] => some p
    | c :: rest =>
      if c = '\n' ∨ c = '\r' ∨ c = '#' then do
        lines? fuel edition p (← finishLine? (c :: rest))
      else do
        let (p, cs) ←
          if c = '[' then header? edition p rest else assignment? edition p (c :: rest)
        lines? fuel edition p (← finishLine? cs)

/-- Read a text as a document, if it is TOML. -/
def read? (edition : Edition) (text : String) : Option Json := do
  let cs := text.toList
  let cs := if cs.head? = some '\ufeff' then cs.drop 1 else cs
  let p ← lines? (cs.length + 1) edition ⟨[], []⟩ cs
  return .object p.root.toMembers

end Contracts.Toml
