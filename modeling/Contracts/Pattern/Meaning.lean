import Contracts.Pattern.Expression
import Contracts.Unicode.Lookup

/-!
# The meaning of sets and conditions

A set of characters denotes a set of code points, and a condition denotes a predicate of the two
characters around a place. The modes bear on both. When case is ignored a set takes in every
character that differs from one of its own only in case, before it is turned into its complement.
When bytes are looked at, only the ASCII characters can be told apart, and what would take in a
part of another character is a fault.
-/

namespace Contracts.Pattern

open Unicode (CodeSet)

/-- The ASCII characters. -/
def asciiSet : CodeSet := .range 0 0x7F

/-- The decimal digits of ASCII. -/
def asciiDigits : CodeSet := .range 0x30 0x39

/-- The letters of ASCII. -/
def asciiLetters : CodeSet := .ofRanges [(0x41, 0x5A), (0x61, 0x7A)]

/-- The white space of ASCII. -/
def asciiSpaces : CodeSet := .ofRanges [(0x9, 0xD), (0x20, 0x20)]

/-- The characters of ASCII words. -/
def asciiWord : CodeSet := .unions [asciiDigits, asciiLetters, .range 0x5F 0x5F]

/-- The visible characters of ASCII, without the blank. -/
def asciiVisible : CodeSet := .range 0x21 0x7E

/-- The characters of an ASCII class. -/
def asciiClass : String → CodeSet
  | "alnum" => asciiDigits.union asciiLetters
  | "alpha" => asciiLetters
  | "ascii" => asciiSet
  | "blank" => .ofRanges [(0x9, 0x9), (0x20, 0x20)]
  | "cntrl" => .ofRanges [(0, 0x1F), (0x7F, 0x7F)]
  | "digit" => asciiDigits
  | "graph" => asciiVisible
  | "lower" => .range 0x61 0x7A
  | "print" => .range 0x20 0x7E
  | "punct" => asciiVisible.diff (asciiDigits.union asciiLetters)
  | "space" => asciiSpaces
  | "upper" => .range 0x41 0x5A
  | "word" => asciiWord
  | "xdigit" => .ofRanges [(0x30, 0x39), (0x41, 0x46), (0x61, 0x66)]
  | _ => .empty

/-- The characters of words. -/
def wordSet : CodeSet :=
  .unions [Unicode.alphabeticSet, Unicode.markSet,
    Unicode.setOf [Unicode.decimalDigits, Unicode.connectors, Unicode.joinControl]]

/-- The characters of a class with a letter of its own. -/
def Shorthand.set (modes : Modes) : Shorthand → CodeSet
  | .digit => if modes.characters then .ofRuns Unicode.decimalDigits else asciiDigits
  | .space => if modes.characters then .ofRuns Unicode.whiteSpace else asciiSpaces
  | .word => if modes.characters then wordSet else asciiWord

/-- The characters that differ from a character at most in case, in ascending order. -/
def variants (modes : Modes) (c : Char) : CodeSet :=
  if modes.characters then .ofList (Unicode.caseVariants c.toNat)
  else .ofList [c.toNat, c.toUpper.toNat, c.toLower.toNat]

/-- Take in the ASCII characters that differ from a member only in case. -/
def closeAsciiCase (s : CodeSet) : CodeSet :=
  s.union <| .ofList <| (List.range 26).flatMap fun i =>
    if s.holds (0x41 + i) || s.holds (0x61 + i) then [0x41 + i, 0x61 + i] else []

/-- Take in the characters that differ from a member only in case, if case is ignored. -/
def Modes.close (modes : Modes) (s : CodeSet) : CodeSet :=
  if !modes.ignoreCase then s
  else if modes.characters then s.closeCase
  else closeAsciiCase s

/-- Take the complement if it is asked for; among bytes it would hold parts of characters. -/
def Modes.negate (modes : Modes) (negated : Bool) (s : CodeSet) : Except Fault CodeSet :=
  if !negated then .ok s
  else if modes.characters then .ok s.compl
  else .error .bytesOnly

/-- Combine two sets. -/
def SetOperation.apply : SetOperation → CodeSet → CodeSet → CodeSet
  | .intersection => CodeSet.inter
  | .difference => CodeSet.diff
  | .symmetricDifference => CodeSet.symmDiff

/-- The characters of a property. -/
def propertySet (modes : Modes) (name : String) (value : Option String) :
    Except Fault CodeSet :=
  if !modes.characters then .error .bytesOnly
  else match Unicode.lookup? name value with
    | some s => .ok (modes.close s)
    | none => .error .property

/-- The code point of a member of a set. -/
def Literal.member (modes : Modes) (l : Literal) : Except Fault Nat :=
  if modes.characters || l.char.toNat < 0x80 then .ok l.char.toNat else .error .bytesOnly

mutual

/-- The meaning of a set. -/
def CharSet.meaning (modes : Modes) : CharSet → Except Fault CodeSet
  | .empty => .ok .empty
  | .literal l => do
    let a ← l.member modes
    return .range a a
  | .range first last => do
    let a ← first.member modes
    let b ← last.member modes
    return (CodeSet.range a b).inter .characters
  | .shorthand negated s => modes.negate negated (s.set modes)
  | .ascii negated name => modes.negate negated (modes.close (asciiClass name))
  | .property negated name value => do modes.negate negated (← propertySet modes name value)
  | .union items => CharSet.unionMeaning modes items
  | .combine operation left right => do
    let s ← left.meaning modes
    let t ← right.meaning modes
    return operation.apply (modes.close s) (modes.close t)
  | .bracket negated content => do modes.negate negated (modes.close (← content.meaning modes))

/-- The meaning of the union of some sets. -/
def CharSet.unionMeaning (modes : Modes) : List CharSet → Except Fault CodeSet
  | [] => .ok .empty
  | item :: rest => do
    let s ← item.meaning modes
    let t ← CharSet.unionMeaning modes rest
    return s.union t

end

/-- The meaning of a character outside sets. -/
def Literal.meaning (modes : Modes) (l : Literal) : Except Fault CodeSet :=
  if !modes.characters && l.byte && 0x80 ≤ l.char.toNat then .error .bytesOnly
  else if modes.ignoreCase then .ok (variants modes l.char)
  else .ok (.range l.char.toNat l.char.toNat)

/-- The meaning of the dot. -/
def dotMeaning (modes : Modes) : Except Fault CodeSet :=
  if !modes.characters then .error .bytesOnly
  else if modes.dotAll then .ok .characters
  else if modes.carriageReturns then .ok (CodeSet.ofRanges [(0xA, 0xA), (0xD, 0xD)]).compl
  else .ok (CodeSet.range 0xA 0xA).compl

/-- A condition once the modes are known. -/
inductive PlaceTest where
  | textStart
  | textEnd
  | lineStart (carriageReturns : Bool)
  | lineEnd (carriageReturns : Bool)
  | word (test : WordTest) (characters : Bool)
  deriving DecidableEq

/-- The meaning of a condition under given modes. -/
def Condition.meaning (modes : Modes) : Condition → PlaceTest
  | .lineStart => if modes.multiLine then .lineStart modes.carriageReturns else .textStart
  | .lineEnd => if modes.multiLine then .lineEnd modes.carriageReturns else .textEnd
  | .textStart => .textStart
  | .textEnd => .textEnd
  | .word test => .word test modes.characters

/-- Whether a word reaches a place, given whether the characters before and after belong to
words. -/
def WordTest.holds (before after : Bool) : WordTest → Bool
  | .boundary => before != after
  | .noBoundary => before == after
  | .wordStart => !before && after
  | .wordEnd => before && !after
  | .startHalf => !before
  | .endHalf => !after

/-- Whether a test holds between the characters before and after a place. -/
def PlaceTest.holds (before after : Option Char) : PlaceTest → Bool
  | .textStart => before.isNone
  | .textEnd => after.isNone
  | .lineStart false => before.isNone || before == some '\n'
  | .lineStart true =>
    before.isNone || before == some '\n' || (before == some '\r' && after != some '\n')
  | .lineEnd false => after.isNone || after == some '\n'
  | .lineEnd true =>
    after.isNone || after == some '\r' || (after == some '\n' && before != some '\r')
  | .word test characters =>
    let word := if characters then wordSet else asciiWord
    test.holds (before.any (word.holds ·.toNat)) (after.any (word.holds ·.toNat))

end Contracts.Pattern
