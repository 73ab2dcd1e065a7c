import Contracts.Pattern.Normal

/-!
# Matchers

A matcher says which places of a text can be reached from which. A place is a gap between two
characters, before the first or behind the last one; a set of places is a number whose bits are
the places in ascending order. A step passes over one character, a condition holds a place back
or lets it through, a sequence is composition and a choice is union. As steps only go forward,
repeating a matcher reaches nothing new after as many rounds as there are places.
-/

namespace Contracts.Pattern

open Unicode (CodeSet)

/-- A matcher over steps of type `σ` and conditions of type `κ`. -/
inductive Matcher (σ κ : Type) where
  | empty
  | step (s : σ)
  | condition (k : κ)
  | sequence (first second : Matcher σ κ)
  | choice (first second : Matcher σ κ)
  | repetition (body : Matcher σ κ) (min : Nat) (max : Option Nat)

namespace Matcher

/-- Replace the steps and the conditions. -/
def map {σ κ σ' κ' : Type} (f : σ → σ') (g : κ → κ') : Matcher σ κ → Matcher σ' κ'
  | .empty => .empty
  | .step s => .step (f s)
  | .condition k => .condition (g k)
  | .sequence a b => .sequence (a.map f g) (b.map f g)
  | .choice a b => .choice (a.map f g) (b.map f g)
  | .repetition body min max => .repetition (body.map f g) min max

end Matcher

/-- A set of places of a text. -/
abbrev Places := Nat

namespace Places

/-- The places for which a list says yes, the first place first. -/
def ofBools (flags : List Bool) : Places :=
  flags.foldr (fun flag rest => 2 * rest + (if flag then 1 else 0)) 0

/-- The places before the characters of a set. -/
def before (set : CodeSet) (text : List Char) : Places := ofBools (text.map (set.holds ·.toNat))

/-- The places at which a test holds, given the character before the text. -/
def passing (test : PlaceTest) (previous : Option Char) : List Char → List Bool
  | [] => [test.holds previous none]
  | c :: rest => test.holds previous (some c) :: passing test (some c) rest

/-- All places of a text. -/
def all (text : List Char) : Places := ofBools (List.replicate (text.length + 1) true)

/-- Apply a map of places a number of times; once nothing changes any more, the rest of the
rounds would not change anything either. -/
def iterate (f : Places → Places) : Nat → Places → Places
  | 0, places => places
  | n + 1, places =>
    let next := f places
    if next == places then places else iterate f n next

end Places

namespace Matcher

/-- Find the places that can be reached from some places of a text with `size` places. -/
def reach (size : Nat) : Matcher Places Places → Places → Places
  | .empty, places => places
  | .step passable, places => (places &&& passable) <<< 1
  | .condition open_, places => places &&& open_
  | .sequence a b, places => b.reach size (a.reach size places)
  | .choice a b, places => a.reach size places ||| b.reach size places
  | .repetition body min max, places =>
    let start := Places.iterate (body.reach size) min places
    let more := match max with
      | some m => Nat.min (m - min) size
      | none => size
    Places.iterate (fun reached => reached ||| body.reach size reached) more start

/-- Prepare a matcher for a text. -/
def onText (m : Matcher CodeSet PlaceTest) (text : List Char) : Matcher Places Places :=
  m.map (Places.before · text) fun test => Places.ofBools (Places.passing test none text)

/-- Whether a matcher leads from some place of a text to another or the same. -/
def isMatch (m : Matcher CodeSet PlaceTest) (text : String) : Bool :=
  let cs := text.toList
  (m.onText cs).reach (cs.length + 1) (Places.all cs) != 0

/-- The matcher of a text. -/
def ofText (chars : List Char) : Matcher CodeSet PlaceTest :=
  chars.foldr (fun c rest => .sequence (.step (.range c.toNat c.toNat)) rest) .empty

end Matcher

mutual

/-- The matcher of an expression in normal form. -/
def Normal.matcher : Normal → Matcher CodeSet PlaceTest
  | .empty => .empty
  | .text chars => .ofText chars
  | .set s => .step s
  | .test t => .condition t
  | .repetition body rounds => .repetition body.matcher rounds.min rounds.max
  | .capture body => body.matcher
  | .sequence parts => Normal.matcherOfParts parts
  | .choice branches => Normal.matcherOfBranches branches

/-- The matcher of some expressions one after the other. -/
def Normal.matcherOfParts : List Normal → Matcher CodeSet PlaceTest
  | [] => .empty
  | part :: rest => .sequence part.matcher (Normal.matcherOfParts rest)

/-- The matcher of one of some expressions. -/
def Normal.matcherOfBranches : List Normal → Matcher CodeSet PlaceTest
  | [] => .step .empty
  | branch :: rest => .choice branch.matcher (Normal.matcherOfBranches rest)

end

end Contracts.Pattern
