import Contracts.Pattern.Meaning

/-!
# Normal forms of expressions

An expression under known modes is brought to a simpler form that matches the same texts. Texts
that follow one another are joined, a set of one character is a text, branches that are single
characters make up a set, parts that begin all branches are taken out of the choice, and nothing is
repeated in vain. How large a compiled pattern is depends on this form.
-/

namespace Contracts.Pattern

open Unicode (CodeSet)

/-- An expression in normal form. -/
inductive Normal where
  | empty
  /-- Characters one after the other, at least one. -/
  | text (chars : List Char)
  /-- A character of a set that does not have exactly one. -/
  | set (s : CodeSet)
  | test (t : PlaceTest)
  | repetition (body : Normal) (rounds : Repeat)
  | capture (body : Normal)
  | sequence (parts : List Normal)
  | choice (branches : List Normal)

/-- How many bytes encode a text. -/
def encodedLength (chars : List Char) : Nat := chars.foldr (fun c n => c.utf8Size + n) 0

/-- How many bytes encode a code point. -/
def encodedSize (c : Nat) : Nat :=
  if c < 0x80 then 1 else if c < 0x800 then 2 else if c < 0x10000 then 3 else 4

/-- The lesser of two lengths, if both are known. -/
def shorter : Option Nat → Option Nat → Option Nat
  | some m, some n => some (Nat.min m n)
  | _, _ => none

/-- The greater of two lengths, if both are known. -/
def longer : Option Nat → Option Nat → Option Nat
  | some m, some n => some (Nat.max m n)
  | _, _ => none

/-- The sum of two lengths, if both are known. -/
def joined : Option Nat → Option Nat → Option Nat
  | some m, some n => some (m + n)
  | _, _ => none

/-- The least value of a function on a list of which one value is `first`, if all are known. -/
def shortest (first : Option Nat) (rest : List (Option Nat)) : Option Nat :=
  rest.foldl shorter first

namespace Normal

mutual

/-- The least number of bytes that an expression passes over; unknown if it never matches. -/
def minLength : Normal → Option Nat
  | .empty | .test _ => some 0
  | .text chars => some (encodedLength chars)
  | .set s => s.edges.head?.map encodedSize
  | .repetition body rounds => body.minLength.map (· * rounds.min)
  | .capture body => body.minLength
  | .sequence parts => minLengthOfParts parts
  | .choice branches => minLengthOfBranches branches

/-- The least number of bytes that some parts pass over one after the other. -/
def minLengthOfParts : List Normal → Option Nat
  | [] => some 0
  | part :: rest => joined part.minLength (minLengthOfParts rest)

/-- The least number of bytes that one of some branches passes over. -/
def minLengthOfBranches : List Normal → Option Nat
  | [] => none
  | [branch] => branch.minLength
  | branch :: rest => shorter branch.minLength (minLengthOfBranches rest)

end

mutual

/-- The greatest number of bytes that an expression passes over; unknown if it never matches or
if there is none. -/
def maxLength : Normal → Option Nat
  | .empty | .test _ => some 0
  | .text chars => some (encodedLength chars)
  | .set s => s.edges.getLast?.map fun behind => encodedSize (behind - 1)
  | .repetition body rounds => rounds.max.bind fun m => body.maxLength.map (· * m)
  | .capture body => body.maxLength
  | .sequence parts => maxLengthOfParts parts
  | .choice branches => maxLengthOfBranches branches

/-- The greatest number of bytes that some parts pass over one after the other. -/
def maxLengthOfParts : List Normal → Option Nat
  | [] => some 0
  | part :: rest => joined part.maxLength (maxLengthOfParts rest)

/-- The greatest number of bytes that one of some branches passes over. -/
def maxLengthOfBranches : List Normal → Option Nat
  | [] => none
  | [branch] => branch.maxLength
  | branch :: rest => longer branch.maxLength (maxLengthOfBranches rest)

end

mutual

/-- Whether two expressions are the same. No two captures are. -/
def same : Normal → Normal → Bool
  | .empty, .empty => true
  | .text s, .text t => s == t
  | .set s, .set t => s == t
  | .test s, .test t => s == t
  | .repetition a m, .repetition b n => m == n && a.same b
  | .sequence s, .sequence t => sameAll s t
  | .choice s, .choice t => sameAll s t
  | _, _ => false

/-- Whether two lists of expressions are the same. -/
def sameAll : List Normal → List Normal → Bool
  | [], [] => true
  | a :: s, b :: t => a.same b && sameAll s t
  | _, _ => false

end

mutual

/-- How many expressions an expression is made of. -/
def nodes : Normal → Nat
  | .repetition body _ => body.nodes + 1
  | .capture body => body.nodes + 1
  | .sequence parts => nodesOfAll parts + 1
  | .choice branches => nodesOfAll branches + 1
  | _ => 1

/-- How many expressions some expressions are made of. -/
def nodesOfAll : List Normal → Nat
  | [] => 0
  | part :: rest => part.nodes + nodesOfAll rest

end

mutual

/-- Whether an expression asks where words of more than ASCII begin or end. -/
def asksForWords : Normal → Bool
  | .test (.word _ characters) => characters
  | .repetition body _ => body.asksForWords
  | .capture body => body.asksForWords
  | .sequence parts => someAsksForWords parts
  | .choice branches => someAsksForWords branches
  | _ => false

/-- Whether one of some expressions does. -/
def someAsksForWords : List Normal → Bool
  | [] => false
  | part :: rest => part.asksForWords || someAsksForWords rest

end

/-- A character of a set; if the set has only one, its text. -/
def ofSet (s : CodeSet) : Normal :=
  match s.edges with
  | [c, behind] => if behind = c + 1 then .text [Char.ofNat c] else .set s
  | _ => .set s

/-- Repeat an expression. What passes over nothing is repeated once at most. -/
def ofRepetition (body : Normal) (rounds : Repeat) : Normal :=
  let rounds :=
    if body.maxLength = some 0 then
      { rounds with min := Nat.min rounds.min 1, max := some (Nat.min (rounds.max.getD 1) 1) }
    else rounds
  if rounds.max = some 0 then .empty
  else if rounds.min = 1 ∧ rounds.max = some 1 then body
  else .repetition body rounds

/-- Put a part in front of a sequence, joined to a text in front of it. -/
def consPart (part : Normal) (rest : List Normal) : List Normal :=
  match part, rest with
  | .empty, _ => rest
  | .text s, .text t :: rest => .text (s ++ t) :: rest
  | _, _ => part :: rest

/-- The parts of an expression taken as a sequence. -/
def parts : Normal → List Normal
  | .sequence parts => parts
  | part => [part]

/-- Match some expressions one after the other. -/
def ofParts (parts : List Normal) : Normal :=
  match (parts.flatMap Normal.parts).foldr consPart [] with
  | [] => .empty
  | [part] => part
  | parts => .sequence parts

/-- The branches of an expression taken as a choice. -/
def branches : Normal → List Normal
  | .choice branches => branches
  | branch => [branch]

/-- The characters that an expression matches one of, if it matches single characters. -/
def characters? : Normal → Option CodeSet
  | .set s => some s
  | .text [c] => some (.range c.toNat c.toNat)
  | _ => none

/-- The number of parts that two sequences have in common from the start. -/
def commonParts : List Normal → List Normal → Nat
  | a :: s, b :: t => if a.same b then commonParts s t + 1 else 0
  | _, _ => 0

/-- The parts of an expression that is a sequence. -/
def sequence? : Normal → Option (List Normal)
  | .sequence parts => some parts
  | _ => none

/-- Match one of some expressions, simplified `fuel` times at most. -/
def ofBranchesWith : Nat → List Normal → Normal
  | 0, branches => .choice branches
  | fuel + 1, list =>
    match list.flatMap branches with
    | [] => .set .empty
    | [branch] => branch
    | first :: rest =>
      match (first :: rest).mapM characters? with
      | some sets => ofSet (.unions sets)
      | none =>
        match first.sequence?, rest.mapM sequence? with
        | some s, some others =>
          match others.foldl (fun n t => Nat.min n (commonParts s t)) s.length with
          | 0 => .choice (first :: rest)
          | n =>
            ofParts <| s.take n ++
              [ofBranchesWith fuel ((s :: others).map fun t => ofParts (t.drop n))]
        | _, _ => .choice (first :: rest)

/-- Match one of some expressions. -/
def ofBranches (list : List Normal) : Normal := ofBranchesWith (nodesOfAll list + 1) list

mutual

/-- Whether an expression only matches from the start of the text. -/
def startsText : Normal → Bool
  | .test t => t == .textStart
  | .repetition body rounds => rounds.min != 0 && body.startsText
  | .capture body => body.startsText
  | .sequence parts => somePartStartsText parts
  | .choice branches => allStartText branches
  | _ => false

/-- Whether one of some parts, before any that passes over something, does. -/
def somePartStartsText : List Normal → Bool
  | [] => false
  | part :: rest => part.startsText || (part.maxLength == some 0 && somePartStartsText rest)

/-- Whether all branches do. -/
def allStartText : List Normal → Bool
  | [] => true
  | branch :: rest => branch.startsText && allStartText rest

end

mutual

/-- Whether an expression only matches up to the end of the text. -/
def endsText : Normal → Bool
  | .test t => t == .textEnd
  | .repetition body rounds => rounds.min != 0 && body.endsText
  | .capture body => body.endsText
  | .sequence parts => somePartEndsText parts
  | .choice branches => allEndText branches
  | _ => false

/-- Whether one of some parts, behind any that passes over something, does. -/
def somePartEndsText : List Normal → Bool
  | [] => false
  | part :: rest =>
    somePartEndsText rest || (part.endsText && maxLengthOfParts rest == some 0)

/-- Whether all branches do. -/
def allEndText : List Normal → Bool
  | [] => true
  | branch :: rest => branch.endsText && allEndText rest

end

end Normal

/-- The normal form of an expression, and the modes behind it. -/
abbrev Normalised := Except Fault (Normal × Modes)

mutual

/-- Bring an expression to its normal form. A switch holds to the end of the group around it. -/
def Expression.normalise (modes : Modes) : Expression → Normalised
  | .empty => .ok (.empty, modes)
  | .switches s => .ok (.empty, modes.switch s)
  | .literal l => do return (.ofSet (← l.meaning modes), modes)
  | .dot => do return (.ofSet (← dotMeaning modes), modes)
  | .condition c => .ok (.test (c.meaning modes), modes)
  | .set s => do return (.ofSet (← s.meaning modes), modes)
  | .repetition body rounds => do
    let (n, modes) ← body.normalise modes
    return (.ofRepetition n { rounds with shortest := rounds.shortest != modes.shortest }, modes)
  | .group s captures body => do
    let (n, _) ← body.normalise (modes.switch s)
    return (if captures then .capture n else n, modes)
  | .sequence parts => do
    let (list, modes) ← Expression.normaliseParts modes parts
    return (.ofParts list, modes)
  | .choice branches => do
    let (list, modes) ← Expression.normaliseParts modes branches
    return (.ofBranches list, modes)

/-- Bring some expressions to normal form, one after the other as their switches are. -/
def Expression.normaliseParts (modes : Modes) :
    List Expression → Except Fault (List Normal × Modes)
  | [] => .ok ([], modes)
  | part :: rest => do
    let (n, modes) ← part.normalise modes
    let (list, modes) ← Expression.normaliseParts modes rest
    return (n :: list, modes)

end

end Contracts.Pattern
