import Contracts.Pattern.Fault

/-!
# Pattern expressions

What a pattern says, as it is written: characters and sets of characters, conditions on a place
of the text, repetition, sequence, choice and groups. The modes that a pattern switches on and
off on its way are part of it; what they mean is decided when the expression is compiled.
-/

namespace Contracts.Pattern

/-- The modes that decide the meaning of an expression. -/
structure Modes where
  /-- Characters match whatever their case. -/
  ignoreCase : Bool := false
  /-- The line conditions hold at every line. -/
  multiLine : Bool := false
  /-- The dot is any character. -/
  dotAll : Bool := false
  /-- Lines end with a carriage return and a line feed, either or both. -/
  carriageReturns : Bool := false
  /-- Characters are looked at, not bytes. -/
  characters : Bool := true
  /-- Repetitions prefer to be short unless it is said otherwise. -/
  shortest : Bool := false

/-- A mode by its letter. -/
inductive Mode where
  | ignoreCase
  | multiLine
  | dotAll
  | shortest
  | characters
  | carriageReturns
  | verbose
  deriving DecidableEq

/-- The mode of a letter. -/
def Mode.ofLetter? : Char → Option Mode
  | 'i' => some .ignoreCase
  | 'm' => some .multiLine
  | 's' => some .dotAll
  | 'U' => some .shortest
  | 'u' => some .characters
  | 'R' => some .carriageReturns
  | 'x' => some .verbose
  | _ => none

/-- Modes to switch on and off. -/
abbrev Switches := List (Mode × Bool)

/-- Throw the switches that bear on meaning. -/
def Modes.switch (modes : Modes) (switches : Switches) : Modes :=
  switches.foldl (fun modes (mode, on) =>
    match mode with
    | .ignoreCase => { modes with ignoreCase := on }
    | .multiLine => { modes with multiLine := on }
    | .dotAll => { modes with dotAll := on }
    | .characters => { modes with characters := on }
    | .carriageReturns => { modes with carriageReturns := on }
    | .shortest => { modes with shortest := on }
    | .verbose => modes) modes

/-- A character of a pattern, and whether it was written as two hexadecimal digits. -/
structure Literal where
  char : Char
  byte : Bool

/-- The three classes that have letters of their own. -/
inductive Shorthand where
  | digit
  | space
  | word

/-- How two sets are combined. -/
inductive SetOperation where
  | intersection
  | difference
  | symmetricDifference

/-- A set of characters. -/
inductive CharSet where
  | empty
  | literal (l : Literal)
  | range (first last : Literal)
  | shorthand (negated : Bool) (class_ : Shorthand)
  /-- A class of ASCII characters by its name. -/
  | ascii (negated : Bool) (name : String)
  /-- A property, or a property and the value it has. -/
  | property (negated : Bool) (name : String) (value : Option String)
  | union (items : List CharSet)
  | combine (operation : SetOperation) (left right : CharSet)
  | bracket (negated : Bool) (content : CharSet)

/-- What is asked of the words around a place. -/
inductive WordTest where
  | boundary
  | noBoundary
  | wordStart
  | wordEnd
  | startHalf
  | endHalf
  deriving DecidableEq

/-- A condition on a place of the text. -/
inductive Condition where
  | lineStart
  | lineEnd
  | textStart
  | textEnd
  | word (test : WordTest)

/-- How often something is repeated. -/
structure Repeat where
  min : Nat
  max : Option Nat
  /-- Whether fewer rounds are tried before more. -/
  shortest : Bool
  deriving DecidableEq

/-- A pattern expression. -/
inductive Expression where
  | empty
  | switches (modes : Switches)
  | literal (l : Literal)
  | dot
  | condition (c : Condition)
  | set (s : CharSet)
  | repetition (body : Expression) (rounds : Repeat)
  | group (modes : Switches) (captures : Bool) (body : Expression)
  | sequence (parts : List Expression)
  | choice (branches : List Expression)

mutual

/-- How deeply a set is nested. -/
def CharSet.depth : CharSet → Nat
  | .union items => CharSet.depths items + 1
  | .combine _ left right => max left.depth right.depth + 1
  | .bracket _ content => content.depth + 1
  | _ => 0

/-- How deeply the deepest set of a list is nested. -/
def CharSet.depths : List CharSet → Nat
  | [] => 0
  | item :: rest => max item.depth (CharSet.depths rest)

end

mutual

/-- How deeply an expression is nested. -/
def Expression.depth : Expression → Nat
  | .set s => s.depth
  | .repetition body _ => body.depth + 1
  | .group _ _ body => body.depth + 1
  | .sequence parts => Expression.depths parts + 1
  | .choice branches => Expression.depths branches + 1
  | _ => 0

/-- How deeply the deepest expression of a list is nested. -/
def Expression.depths : List Expression → Nat
  | [] => 0
  | part :: rest => max part.depth (Expression.depths rest)

end

/-- The sequence of some parts, which are not nested when there are fewer than two. -/
def Expression.ofParts : List Expression → Expression
  | [] => .empty
  | [part] => part
  | parts => .sequence parts

/-- The union of some sets, which are not nested when there are fewer than two. -/
def CharSet.ofItems : List CharSet → CharSet
  | [] => .empty
  | [item] => item
  | items => .union items

end Contracts.Pattern
