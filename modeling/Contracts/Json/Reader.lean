import Contracts.Json.Token

/-!
# Reading JSON text

The words of the text build the tree one after the other. What has been opened and not yet
closed is a stack of frames, innermost first; its height is the depth of nesting. When a word does
not fit, or the words end too early, the frames are closed from the inside, and the place of the
fault stays visible in the tree.

Of a container that is nested deeper than 127 nothing is kept, and of an object nothing behind a
name that stands for no text. The words in them are still read on, so that it is known whether the
text is well formed.
-/

namespace Contracts.Json

/-- An object that has been opened and not yet closed. -/
structure OpenObject where
  /-- The members that are kept, last one first. -/
  members : List (String × Json) := []
  /-- Whether all names so far stand for texts. -/
  legible : Bool := true

/-- A container that has been opened and not yet closed. -/
inductive Frame where
  /-- An array with the items read so far, last one first. -/
  | array (items : List Json)
  /-- An object, and the name of the next value. -/
  | object (o : OpenObject) (name : String)

/-- What has been read, and what may come next. -/
inductive Progress where
  /-- A value. -/
  | value (outer : List Frame)
  /-- The first item of an array, or its end. -/
  | item (outer : List Frame)
  /-- The first name of an object, or its end. -/
  | member (outer : List Frame)
  /-- The name of another member. -/
  | name (o : OpenObject) (outer : List Frame)
  /-- The colon behind a name. -/
  | colon (o : OpenObject) (name : String) (outer : List Frame)
  /-- What may follow a complete value. -/
  | next (value : Json) (outer : List Frame)
  /-- Nothing: the text has stopped being JSON. -/
  | stopped (root : Json)
  /-- Nothing: the text goes on behind its value. -/
  | surplus (root : Json)

/-- The deepest nesting of which something is kept. -/
def deepest : Nat := 127

/-- Whether a container is nested too deep, given the frames around it. -/
def tooDeep (outer : List Frame) : Bool := !(outer.drop (deepest - 1)).isEmpty

/-- The array of some items within frames. -/
def arrayWithin (outer : List Frame) (items : List Json) (wellFormed : Bool) : Json :=
  if tooDeep outer then .torn (.array []) wellFormed else .array items

/-- The array of some items that the text does not close. -/
def tornArray (outer : List Frame) (items : List Json) : Json :=
  .torn (if tooDeep outer then .array [] else .array items) false

namespace OpenObject

/-- Keep a member, if it may be kept. -/
def add (o : OpenObject) (name : String) (value : Json) : OpenObject :=
  if o.legible then { o with members := (name, value) :: o.members } else o

/-- The object of what is kept within frames. -/
def within (o : OpenObject) (outer : List Frame) (wellFormed : Bool) : Json :=
  if tooDeep outer then .torn (.object []) wellFormed
  else if o.legible then .object o.members.reverse
  else .torn (.object o.members.reverse) wellFormed

/-- The object of what is kept, if the text does not close it. -/
def torn (o : OpenObject) (outer : List Frame) : Json :=
  .torn (if tooDeep outer then .object [] else .object o.members.reverse) false

end OpenObject

/-- Close all frames around the place where the text stopped being JSON. -/
def abandon (broken : Json) : List Frame → Json
  | [] => broken
  | .array items :: outer => abandon (arrayWithin outer (items.reverse ++ [broken]) false) outer
  | .object o name :: outer => abandon ((o.add name broken).within outer false) outer

/-- Read one word where a value may start. -/
def Progress.start (outer : List Frame) (token : Token) : Progress :=
  match token with
  | .scalar v => .next v outer
  | .halfText => .next (.unreadable true) outer
  | .openArray => .item outer
  | .openObject => .member outer
  | _ => .stopped (abandon (.unreadable false) outer)

/-- Read one word where a name may stand, in an object. -/
def Progress.named (o : OpenObject) (outer : List Frame) (token : Token) : Progress :=
  match token with
  | .scalar (.text n) => .colon o n outer
  | .halfText => .colon { o with legible := false } "" outer
  | _ => .stopped (abandon (o.torn outer) outer)

/-- Read one word. -/
def Progress.step (progress : Progress) (token : Token) : Progress :=
  match progress, token with
  | .value outer, token => .start outer token
  | .item outer, .closeArray => .next (arrayWithin outer [] true) outer
  | .item outer, token => .start (.array [] :: outer) token
  | .member outer, .closeObject => .next (OpenObject.within {} outer true) outer
  | .member outer, token => .named {} outer token
  | .name o outer, token => .named o outer token
  | .colon o n outer, .colon => .value (.object o n :: outer)
  | .colon o n outer, _ => .stopped (abandon (.unreadable false) (.object o n :: outer))
  | .next v (.array items :: outer), .comma => .value (.array (v :: items) :: outer)
  | .next v (.array items :: outer), .closeArray =>
    .next (arrayWithin outer (v :: items).reverse true) outer
  | .next v (.array items :: outer), _ =>
    .stopped (abandon (tornArray outer (v :: items).reverse) outer)
  | .next v (.object o n :: outer), .comma => .name (o.add n v) outer
  | .next v (.object o n :: outer), .closeObject => .next ((o.add n v).within outer true) outer
  | .next v (.object o n :: outer), _ =>
    .stopped (abandon ((o.add n v).torn outer) outer)
  | .next v [], _ => .surplus v
  | .stopped root, _ => .stopped root
  | .surplus root, _ => .surplus root

/-- What a text holds: its value as far as it could be read, and whether text follows it. -/
structure Document where
  root : Json
  surplus : Bool

/-- Take the end of the text. -/
def Progress.finish : Progress → Document
  | .next v [] => ⟨v, false⟩
  | .next v (.array items :: outer) =>
    ⟨abandon (tornArray outer (v :: items).reverse) outer, false⟩
  | .next v (.object o n :: outer) => ⟨abandon ((o.add n v).torn outer) outer, false⟩
  | .value outer => ⟨abandon (.unreadable false) outer, false⟩
  | .item outer => ⟨abandon (tornArray outer []) outer, false⟩
  | .member outer => ⟨abandon (OpenObject.torn {} outer) outer, false⟩
  | .name o outer => ⟨abandon (o.torn outer) outer, false⟩
  | .colon o n outer => ⟨abandon (.unreadable false) (.object o n :: outer), false⟩
  | .stopped root => ⟨root, false⟩
  | .surplus root => ⟨root, true⟩

/-- Read a text. -/
def Document.ofText (text : String) : Document :=
  ((Token.cut text.toList).foldl Progress.step (.value [])).finish

/-- Read a text that must be JSON throughout. -/
def read? (text : String) : Option Json :=
  let document := Document.ofText text
  if document.surplus || !document.root.readable then none else some document.root

end Contracts.Json
