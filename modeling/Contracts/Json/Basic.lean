import Contracts.Number.Shortest

/-!
# JSON documents

A document is a tree that keeps the order of an object's members and every repeated name. A
number has been read already: an integer between `-2 ^ 63` and `2 ^ 64` stays one, any other
number is a binary64 number.

A reader meets the members of a container before it meets the end of the text, so a document
whose text breaks off, or stops being JSON half way, is a tree too: `unreadable` stands where no
value could be read, and `torn` marks a container that ends with the members it holds because
the text after them is not JSON. What is decoded from the tree in text order then fails at the
first fault in text order, whether that is a fault of the text or of its meaning.

Some text is well formed and still stands for no value: a number that is too large, a string with
half a pair of escapes, a container that is nested too deep. It leaves the same marks in the tree,
but the text is read on behind it, and a decoder that wants nothing of it passes it over.
-/

namespace Contracts

/-- A JSON document, as far as its text could be read. -/
inductive Json where
  /-- The absent value. -/
  | null
  /-- A truth value. -/
  | bool (b : Bool)
  /-- An integer between `-2 ^ 63` and `2 ^ 64`. -/
  | integer (i : Int)
  /-- Any other number. -/
  | real (x : Binary64)
  /-- A string. -/
  | text (s : String)
  /-- A sequence of values. -/
  | array (items : List Json)
  /-- Named values in text order, repeated names kept. -/
  | object (members : List (String × Json))
  /-- The place of a value that could not be read, although the text may be well formed. -/
  | unreadable (wellFormed : Bool)
  /-- A container of which nothing behind its members could be read, although the text may be
  well formed. -/
  | torn (container : Json) (wellFormed : Bool)

namespace Json

instance : Inhabited Json := ⟨.null⟩

mutual

/-- Whether the whole of the text was JSON that stands for a value. -/
def readable : Json → Bool
  | .array items => allReadable items
  | .object members => membersReadable members
  | .unreadable _ => false
  | .torn _ _ => false
  | _ => true

/-- Whether every item of a list is readable. -/
def allReadable : List Json → Bool
  | [] => true
  | item :: rest => item.readable && allReadable rest

/-- Whether every member of a list is readable. -/
def membersReadable : List (String × Json) → Bool
  | [] => true
  | (_, value) :: rest => value.readable && membersReadable rest

end

mutual

/-- Whether the whole of the text was JSON, if only well formed. -/
def wellFormed : Json → Bool
  | .array items => allWellFormed items
  | .object members => membersWellFormed members
  | .unreadable wellFormed => wellFormed
  | .torn _ wellFormed => wellFormed
  | _ => true

/-- Whether every item of a list is well formed. -/
def allWellFormed : List Json → Bool
  | [] => true
  | item :: rest => item.wellFormed && allWellFormed rest

/-- Whether every member of a list is well formed. -/
def membersWellFormed : List (String × Json) → Bool
  | [] => true
  | (_, value) :: rest => value.wellFormed && membersWellFormed rest

end

/-- The value of a member, the last one of a repeated name. -/
def member? (members : List (String × Json)) (name : String) : Option Json :=
  (members.reverse.find? (·.1 == name)).map (·.2)

end Json

end Contracts
